import Mathlib.Algebra.Order.Floor.Ring
import Mathlib.Tactic.Linarith
import Mathlib.Tactic.Ring

namespace BettaPay.Host

/-! A whole number of units is divided among two collectors and an owner. Each
collector is due a fraction of the whole, rounded up. The first is paid before
the second, and what neither takes is the owner's. -/

section Shares

structure Rates (K : Type) [Zero K] [LE K] where
  first : K
  second : K
  firstNonneg : 0 ≤ first
  secondNonneg : 0 ≤ second

variable {K : Type} [Field K] [LinearOrder K] [IsStrictOrderedRing K]

namespace Rates

variable {rates : Rates K} (affordable : rates.first + rates.second ≤ 1)

include affordable

theorem first_le_one : rates.first ≤ 1 := by
  have nonneg := rates.secondNonneg
  linarith

end Rates

variable [FloorRing K]

/-- A fraction of a whole, rounded up to units. -/
def due (rate : K) (whole : Int) : Int := ⌈(whole : K) * rate⌉

namespace Rates

def firstShare (rates : Rates K) (whole : Int) : Int :=
  min whole (due rates.first whole)

def secondShare (rates : Rates K) (whole : Int) : Int :=
  min (whole - rates.firstShare whole) (due rates.second whole)

def taken (rates : Rates K) (whole : Int) : Int :=
  rates.firstShare whole + rates.secondShare whole

def ownerShare (rates : Rates K) (whole : Int) : Int :=
  whole - rates.taken whole

/-- The two rounded dues do not fit into the whole. -/
def Clamped (rates : Rates K) (whole : Int) : Prop :=
  due rates.first whole + due rates.second whole = whole + 1

end Rates

theorem due_bounds (rate : K) (whole : Int) :
    (whole : K) * rate ≤ due rate whole ∧
      (due rate whole : K) < (whole : K) * rate + 1 :=
  ⟨Int.le_ceil _, Int.ceil_lt_add_one _⟩

theorem due_nonneg {rate : K} {whole : Int} (nonneg : 0 ≤ rate)
    (positive : 0 ≤ whole) : 0 ≤ due rate whole := by
  apply Int.ceil_nonneg
  exact mul_nonneg (Int.cast_nonneg positive) nonneg

theorem due_mono {rate : K} {smaller larger : Int} (nonneg : 0 ≤ rate)
    (ordered : smaller ≤ larger) : due rate smaller ≤ due rate larger := by
  apply Int.ceil_mono
  exact mul_le_mul_of_nonneg_right (Int.cast_le.mpr ordered) nonneg

theorem due_le_whole {rate : K} {whole : Int} (atMost : rate ≤ 1)
    (positive : 0 ≤ whole) : due rate whole ≤ whole := by
  apply Int.ceil_le.mpr
  exact mul_le_of_le_one_right (Int.cast_nonneg positive) atMost

theorem due_add_le (rate : K) (left right : Int) :
    due rate (left + right) ≤ due rate left + due rate right := by
  rw [due, Int.cast_add, add_mul]
  exact Int.ceil_add_le _ _

theorem due_add_due_le (rate : K) (left right : Int) :
    due rate left + due rate right ≤ due rate (left + right) + 1 := by
  rw [due, due, due, Int.cast_add, add_mul]
  exact Int.ceil_add_ceil_le _ _

/-- What the rounding leaves of a whole does not shrink when the whole
grows. -/
theorem sub_due_mono {rate : K} {smaller larger : Int} (atMost : rate ≤ 1)
    (ordered : smaller ≤ larger) :
    smaller - due rate smaller ≤ larger - due rate larger := by
  have more : (smaller : K) ≤ larger := Int.cast_le.mpr ordered
  have kept : 0 ≤ ((larger : K) - smaller) * (1 - rate) :=
    mul_nonneg (sub_nonneg.mpr more) (sub_nonneg.mpr atMost)
  obtain ⟨above, _⟩ := due_bounds rate smaller
  obtain ⟨_, below⟩ := due_bounds rate larger
  have gap : ((smaller - due rate smaller : Int) : K) <
      ((larger - due rate larger + 1 : Int) : K) := by
    push_cast
    linarith
  exact Int.lt_add_one_iff.mp (Int.cast_lt.mp gap)

section Affordable

variable {rates : Rates K} {whole : Int}
  (affordable : rates.first + rates.second ≤ 1)

include affordable

/-- The dues exceed the whole by one unit at most. -/
theorem due_add_due_le_succ (positive : 0 ≤ whole) :
    due rates.first whole + due rates.second whole ≤ whole + 1 := by
  have fits : (whole : K) * (rates.first + rates.second) ≤ whole :=
    mul_le_of_le_one_right (Int.cast_nonneg positive) affordable
  obtain ⟨_, first⟩ := due_bounds rates.first whole
  obtain ⟨_, second⟩ := due_bounds rates.second whole
  have gap : ((due rates.first whole + due rates.second whole : Int) : K) <
      ((whole + 2 : Int) : K) := by
    push_cast
    linarith
  have small := Int.cast_lt.mp gap
  omega

theorem firstShare_eq (positive : 0 ≤ whole) :
    rates.firstShare whole = due rates.first whole :=
  min_eq_right (due_le_whole (Rates.first_le_one affordable) positive)

theorem secondShare_eq (positive : 0 ≤ whole) :
    rates.secondShare whole =
      min (whole - due rates.first whole) (due rates.second whole) := by
  rw [Rates.secondShare, firstShare_eq affordable positive]

/-- The second collector gets its due, less one unit when the dues do not
fit. -/
theorem secondShare_cases (positive : 0 ≤ whole) :
    rates.secondShare whole = due rates.second whole ∧
        ¬ rates.Clamped whole ∨
      rates.secondShare whole = due rates.second whole - 1 ∧
        rates.Clamped whole := by
  have bounded := due_add_due_le_succ affordable positive
  rw [secondShare_eq affordable positive, Rates.Clamped]
  omega

theorem taken_eq (positive : 0 ≤ whole) :
    rates.taken whole =
      min whole (due rates.first whole + due rates.second whole) := by
  rw [Rates.taken, firstShare_eq affordable positive,
    secondShare_eq affordable positive]
  omega

/-- Where the dues do not fit the second one is not integral. -/
theorem secondShare_gt (positive : 0 ≤ whole) :
    (whole : K) * rates.second - 1 < rates.secondShare whole := by
  have fits : (whole : K) * (rates.first + rates.second) ≤ whole :=
    mul_le_of_le_one_right (Int.cast_nonneg positive) affordable
  obtain ⟨_, first⟩ := due_bounds rates.first whole
  obtain ⟨second, _⟩ := due_bounds rates.second whole
  rcases secondShare_cases affordable positive with
    ⟨same, _⟩ | ⟨less, clamped⟩
  · rw [same]
    linarith
  · have total : (due rates.first whole : K) + due rates.second whole =
        whole + 1 := by
      exact_mod_cast clamped
    rw [less]
    push_cast
    linarith

theorem secondShare_lt (positive : 0 ≤ whole) :
    (rates.secondShare whole : K) < (whole : K) * rates.second + 1 := by
  obtain ⟨_, second⟩ := due_bounds rates.second whole
  apply lt_of_le_of_lt _ second
  rw [secondShare_eq affordable positive]
  exact Int.cast_le.mpr (min_le_right _ _)

/-- The owner gets its fraction rounded down twice, and never more than that
fraction. -/
theorem ownerShare_bounds (positive : 0 ≤ whole) :
    (rates.ownerShare whole : K) ≤
        whole * (1 - (rates.first + rates.second)) ∧
      (whole : K) * (1 - (rates.first + rates.second)) - 2 <
        rates.ownerShare whole := by
  have kept : 0 ≤ (whole : K) * (1 - (rates.first + rates.second)) :=
    mul_nonneg (Int.cast_nonneg positive) (sub_nonneg.mpr affordable)
  obtain ⟨first, first'⟩ := due_bounds rates.first whole
  obtain ⟨second, second'⟩ := due_bounds rates.second whole
  have fits := due_add_due_le_succ affordable positive
  rw [Rates.ownerShare, taken_eq affordable positive]
  constructor
  · rcases le_total (due rates.first whole + due rates.second whole) whole
      with within | beyond
    · rw [min_eq_right within]
      push_cast
      linarith
    · rw [min_eq_left beyond, sub_self, Int.cast_zero]
      exact kept
  · have least : whole - (due rates.first whole + due rates.second whole) ≤
        whole - min whole
          (due rates.first whole + due rates.second whole) := by
      omega
    apply lt_of_lt_of_le _ (Int.cast_le.mpr least)
    push_cast
    linarith

theorem firstShare_mono {smaller larger : Int} (positive : 0 ≤ smaller)
    (ordered : smaller ≤ larger) :
    rates.firstShare smaller ≤ rates.firstShare larger := by
  rw [firstShare_eq affordable positive,
    firstShare_eq affordable (positive.trans ordered)]
  exact due_mono rates.firstNonneg ordered

theorem secondShare_mono {smaller larger : Int} (positive : 0 ≤ smaller)
    (ordered : smaller ≤ larger) :
    rates.secondShare smaller ≤ rates.secondShare larger := by
  rw [secondShare_eq affordable positive,
    secondShare_eq affordable (positive.trans ordered)]
  exact min_le_min (sub_due_mono (Rates.first_le_one affordable) ordered)
    (due_mono rates.secondNonneg ordered)

/-- The share of the owner falls by one unit at most when the whole grows. -/
theorem ownerShare_le {smaller larger : Int} (positive : 0 ≤ smaller)
    (ordered : smaller ≤ larger) :
    rates.ownerShare smaller - 1 ≤ rates.ownerShare larger := by
  have more : (smaller : K) ≤ larger := Int.cast_le.mpr ordered
  have kept : 0 ≤ ((larger : K) - smaller) *
      (1 - (rates.first + rates.second)) :=
    mul_nonneg (sub_nonneg.mpr more) (sub_nonneg.mpr affordable)
  obtain ⟨first, _⟩ := due_bounds rates.first smaller
  obtain ⟨second, _⟩ := due_bounds rates.second smaller
  obtain ⟨_, first'⟩ := due_bounds rates.first larger
  obtain ⟨_, second'⟩ := due_bounds rates.second larger
  have gap : ((smaller - due rates.first smaller -
        due rates.second smaller : Int) : K) <
      ((larger - due rates.first larger - due rates.second larger + 2 :
        Int) : K) := by
    push_cast
    linarith
  have small := Int.cast_lt.mp gap
  rw [Rates.ownerShare, Rates.ownerShare, taken_eq affordable positive,
    taken_eq affordable (positive.trans ordered)]
  omega

/-- Dividing two parts instead of the whole saves a unit only where a part is
clamped. -/
theorem taken_add_le {left right : Int} (positive : 0 ≤ left)
    (positive' : 0 ≤ right) :
    rates.taken (left + right) ≤
        rates.taken left + rates.taken right + 1 ∧
      (¬ rates.Clamped left → ¬ rates.Clamped right →
        rates.taken (left + right) ≤
          rates.taken left + rates.taken right) := by
  have first := due_add_le rates.first left right
  have second := due_add_le rates.second left right
  have fits := due_add_due_le_succ affordable positive
  have fits' := due_add_due_le_succ affordable positive'
  rw [taken_eq affordable positive, taken_eq affordable positive',
    taken_eq affordable (by omega), Rates.Clamped, Rates.Clamped]
  omega

end Affordable

end Shares

end BettaPay.Host
