import BettaPay.Host.Value

namespace BettaPay.Host

/-! Base32 text. -/

namespace Base32

def alphabet : List Char :=
  ['A', 'B', 'C', 'D', 'E', 'F', 'G', 'H', 'I', 'J', 'K', 'L', 'M', 'N', 'O',
    'P', 'Q', 'R', 'S', 'T', 'U', 'V', 'W', 'X', 'Y', 'Z', '2', '3', '4', '5',
    '6', '7']

def digit (value : Nat) : Char := alphabet.getD value 'A'

/-- The eight digits of five bytes. -/
def group (first second third fourth fifth : UInt8) : List Char :=
  [digit (first.toNat / 8),
    digit (first.toNat % 8 * 4 + second.toNat / 64),
    digit (second.toNat / 2 % 32),
    digit (second.toNat % 2 * 16 + third.toNat / 16),
    digit (third.toNat % 16 * 2 + fourth.toNat / 128),
    digit (fourth.toNat / 4 % 32),
    digit (fourth.toNat % 4 * 8 + fifth.toNat / 32),
    digit (fifth.toNat % 32)]

/-- A last group that is short is filled with zeros, and the digits that hold
none of its bits are replaced. -/
def digits : Bytes → List Char
  | [] => []
  | [first] =>
      (group first 0 0 0 0).take 2 ++ List.replicate 6 '='
  | [first, second] =>
      (group first second 0 0 0).take 4 ++ List.replicate 4 '='
  | [first, second, third] =>
      (group first second third 0 0).take 5 ++ List.replicate 3 '='
  | [first, second, third, fourth] =>
      (group first second third fourth 0).take 7 ++ ['=']
  | first :: second :: third :: fourth :: fifth :: rest =>
      group first second third fourth fifth ++ digits rest

def b32encode (bytes : Bytes) : String := String.ofList (digits bytes)

theorem digit_ne_pad {value : Nat} : digit value ≠ '=' := by
  have members : ∀ letter ∈ alphabet, letter ≠ '=' := by
    simp [alphabet]
  rw [digit, List.getD_eq_getElem?_getD]
  cases found : alphabet[value]? with
  | none => decide
  | some letter => exact members letter (List.mem_of_getElem? found)

theorem group_ne_pad {first second third fourth fifth : UInt8} :
    ∀ letter ∈ group first second third fourth fifth, letter ≠ '=' := by
  simp [group, digit_ne_pad]

/-- Whole groups have eight digits each and no padding. -/
theorem digits_whole {bytes : Bytes} {groups : Nat}
    (whole : bytes.length = 5 * groups) :
    (digits bytes).length = 8 * groups ∧
      ∀ letter ∈ digits bytes, letter ≠ '=' := by
  induction groups generalizing bytes with
  | zero =>
      rw [List.length_eq_zero_iff.mp whole]
      simp [digits]
  | succ groups induction =>
      rcases bytes with _ | ⟨first, _ | ⟨second, _ | ⟨third, _ | ⟨fourth,
        _ | ⟨fifth, rest⟩⟩⟩⟩⟩ <;> simp only [List.length_cons,
        List.length_nil] at whole
      all_goals try omega
      obtain ⟨length, clean⟩ := @induction rest (by omega)
      constructor
      · rw [digits, List.length_append, length]
        simp only [group, List.length_cons, List.length_nil]
        omega
      · intro letter member
        rcases List.mem_append.mp member with here | later
        · exact group_ne_pad letter here
        · exact clean letter later

end Base32

end BettaPay.Host
