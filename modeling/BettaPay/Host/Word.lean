import Mathlib.Algebra.Ring.Int.Defs
import Mathlib.Algebra.Ring.Nat

namespace BettaPay.Host

/-! Fixed-width arithmetic in the three flavours a checked build uses: checked,
saturating, and comparison through the represented value. -/

def checkedAdd64 (left right : UInt64) : Option UInt64 :=
  if left.toNat + right.toNat < 2 ^ 64 then some (left + right) else none

theorem checkedAdd64_eq_some {left right sum : UInt64} :
    checkedAdd64 left right = some sum ↔
      sum.toNat = left.toNat + right.toNat := by
  unfold checkedAdd64
  have bound := sum.toNat_lt
  constructor
  · intro added
    split at added
    · cases added
      rw [UInt64.toNat_add]
      omega
    · cases added
  · intro value
    rw [if_pos (by omega)]
    congr 1
    apply UInt64.toNat_inj.mp
    rw [UInt64.toNat_add]
    omega

def checkedAdd32 (left right : UInt32) : Option UInt32 :=
  if left.toNat + right.toNat < 2 ^ 32 then some (left + right) else none

theorem checkedAdd32_eq_some {left right sum : UInt32} :
    checkedAdd32 left right = some sum ↔
      sum.toNat = left.toNat + right.toNat := by
  unfold checkedAdd32
  have bound := sum.toNat_lt
  constructor
  · intro added
    split at added
    · cases added
      rw [UInt32.toNat_add]
      omega
    · cases added
  · intro value
    rw [if_pos (by omega)]
    congr 1
    apply UInt32.toNat_inj.mp
    rw [UInt32.toNat_add]
    omega

def saturatingAdd32 (left right : UInt32) : UInt32 :=
  (checkedAdd32 left right).getD (UInt32.ofNat (2 ^ 32 - 1))

theorem toNat_saturatingAdd32 {left right : UInt32}
    (fits : left.toNat + right.toNat < 2 ^ 32) :
    (saturatingAdd32 left right).toNat = left.toNat + right.toNat := by
  have added : checkedAdd32 left right = some (left + right) :=
    if_pos fits
  rw [saturatingAdd32, added, Option.getD_some]
  exact checkedAdd32_eq_some.mp added

def saturatingSub32 (left right : UInt32) : UInt32 :=
  if right ≤ left then left - right else 0

theorem toNat_saturatingSub32 (left right : UInt32) :
    (saturatingSub32 left right).toNat = left.toNat - right.toNat := by
  unfold saturatingSub32
  split
  · rename_i ordered
    exact UInt32.toNat_sub_of_le _ _ ordered
  · rename_i unordered
    rw [UInt32.le_iff_toNat_le] at unordered
    have none_left : left.toNat - right.toNat = 0 := by omega
    rw [none_left]
    rfl

/-- A signed integer of the given width, as the value it represents. -/
structure SInt (width : Nat) where
  val : Int
  lower : -(2 ^ (width - 1)) ≤ val
  upper : val < 2 ^ (width - 1)
  deriving DecidableEq, Repr

namespace SInt

variable {width : Nat}

@[ext] theorem ext {left right : SInt width} (same : left.val = right.val) :
    left = right := by
  cases left
  cases right
  cases same
  rfl

def InRange (width : Nat) (value : Int) : Prop :=
  -(2 ^ (width - 1)) ≤ value ∧ value < 2 ^ (width - 1)

instance (value : Int) : Decidable (InRange width value) :=
  inferInstanceAs (Decidable (_ ∧ _))

theorem inRange (number : SInt width) : InRange width number.val :=
  ⟨number.lower, number.upper⟩

def ofInt? (value : Int) : Option (SInt width) :=
  if fits : InRange width value then some ⟨value, fits.1, fits.2⟩ else none

theorem ofInt?_eq_some {value : Int} {number : SInt width} :
    ofInt? value = some number ↔ number.val = value := by
  unfold ofInt?
  constructor
  · intro found
    split at found
    · cases found
      rfl
    · cases found
  · intro same
    subst same
    rw [dif_pos number.inRange]

def checkedAdd (left right : SInt width) : Option (SInt width) :=
  ofInt? (left.val + right.val)

def checkedMul (left right : SInt width) : Option (SInt width) :=
  ofInt? (left.val * right.val)

/-- Division truncating toward zero, absent for a zero divisor. -/
def checkedDiv (left right : SInt width) : Option (SInt width) :=
  if right.val = 0 then none else ofInt? (left.val.tdiv right.val)

def largest : SInt width :=
  ⟨2 ^ (width - 1) - 1, by
    have := Int.pow_pos (n := 2) (m := width - 1) (by decide)
    omega, by omega⟩

def smallest : SInt width :=
  ⟨-(2 ^ (width - 1)), by omega, by
    have := Int.pow_pos (n := 2) (m := width - 1) (by decide)
    omega⟩

def saturatingSub (left right : SInt width) : SInt width :=
  match ofInt? (left.val - right.val) with
  | some difference => difference
  | none => if right.val < 0 then largest else smallest

theorem val_saturatingSub {left right : SInt width}
    (fits : InRange width (left.val - right.val)) :
    (saturatingSub left right).val = left.val - right.val := by
  have found : ofInt? (left.val - right.val) =
      some (⟨left.val - right.val, fits.1, fits.2⟩ : SInt width) :=
    ofInt?_eq_some.mpr rfl
  simp only [saturatingSub, found]

def max (left right : SInt width) : SInt width :=
  if left.val ≤ right.val then right else left

theorem val_max (left right : SInt width) :
    (max left right).val = if left.val ≤ right.val then right.val
      else left.val := by
  unfold max
  split <;> rfl

def clamp (value least most : SInt width) : SInt width :=
  if value.val < least.val then least
  else if most.val < value.val then most
  else value

theorem val_clamp (value least most : SInt width) :
    (clamp value least most).val =
      if value.val < least.val then least.val
      else if most.val < value.val then most.val
      else value.val := by
  unfold clamp
  split
  · rfl
  · split <;> rfl

def zero : SInt width :=
  ⟨0, by
    have := Int.pow_pos (n := 2) (m := width - 1) (by decide)
    omega, Int.pow_pos (by decide)⟩

end SInt

end BettaPay.Host
