import BettaPay.Host.Value

namespace BettaPay.Host

/-! The serialization of contract values. A value is a tag and its contents,
both made of whole four-byte words, most significant byte first. -/

namespace Xdr

/-- `value` in `length` bytes. -/
def fixed : Nat → Nat → Bytes
  | 0, _ => []
  | length + 1, value =>
      UInt8.ofNat (value / 256 ^ length) ::
        fixed length (value % 256 ^ length)

def word (value : UInt32) : Bytes := fixed 4 value.toNat

/-- A variable number of bytes: their count, the bytes, and zeros up to a
word boundary. -/
def padded (bytes : Bytes) : Bytes :=
  fixed 4 bytes.length ++ bytes ++
    List.replicate ((4 - bytes.length % 4) % 4) 0

def ascii (name : Symbol) : Bytes :=
  name.toList.map fun letter => UInt8.ofNat letter.toNat

def bool (value : Bool) : Bytes := fixed 4 0 ++ word value.toUInt32

def u32 (value : UInt32) : Bytes := fixed 4 3 ++ word value

def bytesN (value : BytesN 32) : Bytes :=
  fixed 4 13 ++ (fixed 4 32 ++ fixed 32 value.toNat)

def symbol (name : Symbol) : Bytes := fixed 4 15 ++ padded (ascii name)

/-- A vector up to its elements. -/
def vec (length : Nat) : Bytes := fixed 4 16 ++ (fixed 4 1 ++ fixed 4 length)

/-- A map up to its entries. -/
def map (length : Nat) : Bytes := fixed 4 17 ++ (fixed 4 1 ++ fixed 4 length)

def address : Address → Bytes
  | .account key =>
      fixed 4 18 ++ (fixed 4 0 ++ (fixed 4 0 ++ fixed 32 key.toNat))
  | .contract id => fixed 4 18 ++ (fixed 4 1 ++ fixed 32 id.toNat)

/-! Decoding is unambiguous. -/

/-- What follows an encoded value does not blur where it ends. -/
structure Delimited {α : Type} (encode : α → Bytes) : Prop where
  split : ∀ {left right : α} {rest rest' : Bytes},
    encode left ++ rest = encode right ++ rest' →
      left = right ∧ rest = rest'

@[simp] theorem length_fixed (length value : Nat) :
    (fixed length value).length = length := by
  induction length generalizing value with
  | zero => rfl
  | succ length induction => simp [fixed, induction]

/-- A number in two pieces. -/
theorem fixed_add {high low value : Nat}
    (bounded : value < 256 ^ (high + low)) :
    fixed (high + low) value =
      fixed high (value / 256 ^ low) ++ fixed low (value % 256 ^ low) := by
  induction high generalizing value with
  | zero =>
      rw [Nat.zero_add] at bounded ⊢
      rw [Nat.mod_eq_of_lt bounded]
      rfl
  | succ high induction =>
      have lead : value / 256 ^ (high + low) =
          value / 256 ^ low / 256 ^ high := by
        rw [Nat.div_div_eq_div_mul, ← Nat.pow_add, Nat.add_comm low]
      have rest : value % 256 ^ (high + low) / 256 ^ low =
          value / 256 ^ low % 256 ^ high := by
        rw [Nat.pow_add, Nat.mul_comm, Nat.mod_mul_right_div_self]
      have last : value % 256 ^ (high + low) % 256 ^ low =
          value % 256 ^ low := by
        rw [Nat.pow_add, Nat.mod_mul_left_mod]
      have positive : 0 < 256 ^ (high + low) := Nat.pow_pos (by decide)
      rw [Nat.add_right_comm, fixed, fixed,
        induction (Nat.mod_lt value positive), lead, rest, last,
        List.cons_append]

theorem fixed_injective {length left right : Nat}
    (bounded : left < 256 ^ length) (bounded' : right < 256 ^ length)
    (same : fixed length left = fixed length right) : left = right := by
  induction length generalizing left right with
  | zero =>
      simp only [Nat.pow_zero] at bounded bounded'
      omega
  | succ length induction =>
      rw [fixed, fixed, List.cons.injEq] at same
      obtain ⟨high, low⟩ := same
      have positive : 0 < 256 ^ length := Nat.pow_pos (by decide)
      have rests := induction (Nat.mod_lt _ positive) (Nat.mod_lt _ positive)
        low
      rw [Nat.pow_succ] at bounded bounded'
      have small : left / 256 ^ length < 256 :=
        Nat.div_lt_of_lt_mul bounded
      have small' : right / 256 ^ length < 256 :=
        Nat.div_lt_of_lt_mul bounded'
      have tops := congrArg UInt8.toNat high
      rw [UInt8.toNat_ofNat_of_lt' small, UInt8.toNat_ofNat_of_lt' small']
        at tops
      rw [← Nat.div_add_mod left (256 ^ length),
        ← Nat.div_add_mod right (256 ^ length), tops, rests]

theorem fixed_append_injective {length left right : Nat}
    {rest rest' : Bytes} (bounded : left < 256 ^ length)
    (bounded' : right < 256 ^ length)
    (same : fixed length left ++ rest = fixed length right ++ rest') :
    left = right ∧ rest = rest' := by
  obtain ⟨heads, tails⟩ := List.append_inj same (by simp)
  exact ⟨fixed_injective bounded bounded' heads, tails⟩

theorem word_delimited : Delimited word := by
  constructor
  intro left right rest rest' same
  obtain ⟨numbers, tails⟩ :=
    fixed_append_injective left.toNat_lt right.toNat_lt same
  exact ⟨UInt32.toNat_inj.mp numbers, tails⟩

theorem key_delimited : Delimited fun key : BytesN 32 =>
    fixed 32 key.toNat := by
  constructor
  intro left right rest rest' same
  obtain ⟨numbers, tails⟩ :=
    fixed_append_injective left.isLt right.isLt same
  exact ⟨BitVec.eq_of_toNat_eq numbers, tails⟩

theorem Delimited.tagged {α : Type} {encode : α → Bytes}
    (delimited : Delimited encode) (tag : Bytes) :
    Delimited fun value => tag ++ encode value := by
  constructor
  intro left right rest rest' same
  rw [List.append_assoc, List.append_assoc] at same
  exact delimited.split (List.append_cancel_left same)

theorem Delimited.injective {α : Type} {encode : α → Bytes}
    (delimited : Delimited encode) : Function.Injective encode := by
  intro left right same
  exact (@Delimited.split _ _ delimited left right [] [] (by rw [same])).1

theorem u32_delimited : Delimited u32 := word_delimited.tagged _

theorem bytesN_delimited : Delimited bytesN :=
  (key_delimited.tagged _).tagged _

theorem bool_delimited : Delimited bool := by
  constructor
  intro left right rest rest' same
  obtain ⟨numbers, tails⟩ := (word_delimited.tagged (fixed 4 0)).split same
  refine ⟨?_, tails⟩
  cases left <;> cases right <;> first | rfl | cases numbers

theorem address_delimited : Delimited address := by
  constructor
  intro left right rest rest' same
  cases left with
  | account key =>
      cases right with
      | account key' =>
          obtain ⟨keys, tails⟩ := (((key_delimited.tagged _).tagged
            _).tagged _).split same
          exact ⟨congrArg Address.account keys, tails⟩
      | contract id => cases same
  | contract id =>
      cases right with
      | account key => cases same
      | contract id' =>
          obtain ⟨ids, tails⟩ :=
            ((key_delimited.tagged _).tagged _).split same
          exact ⟨congrArg Address.contract ids, tails⟩

theorem padded_injective {left right rest rest' : Bytes}
    (short : left.length < 2 ^ 32) (short' : right.length < 2 ^ 32)
    (same : padded left ++ rest = padded right ++ rest') :
    left = right ∧ rest = rest' := by
  simp only [padded, List.append_assoc] at same
  obtain ⟨lengths, tails⟩ := fixed_append_injective short short' same
  obtain ⟨contents, tails⟩ := List.append_inj tails lengths
  rw [lengths] at tails
  exact ⟨contents, List.append_cancel_left tails⟩

/-- A list of addresses ends where the next value is not an address. -/
theorem addresses_before_u32_injective {left right : List Address}
    {count count' : UInt32}
    (same : left.flatMap address ++ u32 count =
      right.flatMap address ++ u32 count') :
    left = right ∧ count = count' := by
  induction left generalizing right with
  | nil =>
      cases right with
      | nil => exact ⟨rfl, u32_delimited.injective same⟩
      | cons first others => cases first <;> cases same
  | cons first others induction =>
      cases right with
      | nil => cases first <;> cases same
      | cons first' others' =>
          simp only [List.flatMap_cons, List.append_assoc] at same
          obtain ⟨rfl, tails⟩ := address_delimited.split same
          obtain ⟨rfl, counts⟩ := induction tails
          exact ⟨rfl, counts⟩

end Xdr

end BettaPay.Host
