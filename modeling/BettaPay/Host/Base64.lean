import BettaPay.Host.Value
import Mathlib.Data.Fintype.Basic

namespace BettaPay.Host

/-! Base64 text. The decoder is the lenient one: it skips what is not a digit
and stops at complete padding. -/

namespace Base64

def alphabet : List Char :=
  ['A', 'B', 'C', 'D', 'E', 'F', 'G', 'H', 'I', 'J', 'K', 'L', 'M', 'N', 'O',
    'P', 'Q', 'R', 'S', 'T', 'U', 'V', 'W', 'X', 'Y', 'Z', 'a', 'b', 'c', 'd',
    'e', 'f', 'g', 'h', 'i', 'j', 'k', 'l', 'm', 'n', 'o', 'p', 'q', 'r', 's',
    't', 'u', 'v', 'w', 'x', 'y', 'z', '0', '1', '2', '3', '4', '5', '6', '7',
    '8', '9', '+', '/']

def digit (value : Nat) : Char := alphabet.getD value 'A'

def digitValue (letter : Char) : Option Nat :=
  if alphabet.idxOf letter < 64 then some (alphabet.idxOf letter) else none

/-- Four digits for every three bytes. -/
def digits : Bytes → List Char
  | [] => []
  | [first] =>
      [digit (first.toNat / 4), digit (first.toNat % 4 * 16), '=', '=']
  | [first, second] =>
      [digit (first.toNat / 4),
        digit (first.toNat % 4 * 16 + second.toNat / 16),
        digit (second.toNat % 16 * 4), '=']
  | first :: second :: third :: rest =>
      digit (first.toNat / 4) ::
        digit (first.toNat % 4 * 16 + second.toNat / 16) ::
        digit (second.toNat % 16 * 4 + third.toNat / 64) ::
        digit (third.toNat % 64) :: digits rest

def b64encode (bytes : Bytes) : String := String.ofList (digits bytes)

/-- The decoder after `position` digits of a group, with the bits it has not
output yet and the padding it has seen. -/
def scan : Nat → Nat → Nat → List Char → Option Bytes
  | position, _, _, [] => if position = 0 then some [] else none
  | position, left, pads, letter :: rest =>
      if letter = '=' then
        if 2 ≤ position then
          if 4 ≤ position + (pads + 1) then some []
          else scan position left (pads + 1) rest
        else scan position left pads rest
      else
        match digitValue letter with
        | none => scan position left pads rest
        | some value =>
            match position with
            | 0 => scan 1 value 0 rest
            | 1 =>
                (scan 2 (value % 16) 0 rest).map
                  (UInt8.ofNat (left * 4 + value / 16) :: ·)
            | 2 =>
                (scan 3 (value % 4) 0 rest).map
                  (UInt8.ofNat (left * 16 + value / 4) :: ·)
            | _ =>
                (scan 0 0 0 rest).map (UInt8.ofNat (left * 64 + value) :: ·)

/-- Text that is not ASCII is refused. -/
def b64decode (text : String) : Option Bytes :=
  if text.toList.all fun letter => letter.toNat < 128 then
    scan 0 0 0 text.toList
  else none

/-! What was encoded is decoded. -/

theorem digit_table : ∀ value : Fin 64,
    digitValue (digit value) = some value.val ∧ digit value ≠ '=' ∧
      (digit value).toNat < 128 := by
  decide +kernel

theorem digitValue_digit {value : Nat} (small : value < 64) :
    digitValue (digit value) = some value :=
  (digit_table ⟨value, small⟩).1

theorem digit_ne_pad {value : Nat} (small : value < 64) :
    digit value ≠ '=' :=
  (digit_table ⟨value, small⟩).2.1

theorem digit_ascii {value : Nat} (small : value < 64) :
    (digit value).toNat < 128 :=
  (digit_table ⟨value, small⟩).2.2

section Scan

variable {value left pads : Nat} {rest : List Char}

/-- A digit adds its six bits, wherever it stands in its group. -/
theorem scan_digit (small : value < 64) {position : Nat} :
    scan position left pads (digit value :: rest) =
      match position with
      | 0 => scan 1 value 0 rest
      | 1 =>
          (scan 2 (value % 16) 0 rest).map
            (UInt8.ofNat (left * 4 + value / 16) :: ·)
      | 2 =>
          (scan 3 (value % 4) 0 rest).map
            (UInt8.ofNat (left * 16 + value / 4) :: ·)
      | _ =>
          (scan 0 0 0 rest).map (UInt8.ofNat (left * 64 + value) :: ·) := by
  rw [scan, if_neg (digit_ne_pad small), digitValue_digit small]

theorem scan_first (small : value < 64) :
    scan 0 left pads (digit value :: rest) = scan 1 value 0 rest :=
  scan_digit small

theorem scan_second (small : value < 64) :
    scan 1 left pads (digit value :: rest) =
      (scan 2 (value % 16) 0 rest).map
        (UInt8.ofNat (left * 4 + value / 16) :: ·) :=
  scan_digit small

theorem scan_third (small : value < 64) :
    scan 2 left pads (digit value :: rest) =
      (scan 3 (value % 4) 0 rest).map
        (UInt8.ofNat (left * 16 + value / 4) :: ·) :=
  scan_digit small

theorem scan_fourth (small : value < 64) :
    scan 3 left pads (digit value :: rest) =
      (scan 0 0 0 rest).map (UInt8.ofNat (left * 64 + value) :: ·) :=
  scan_digit small

end Scan

theorem byte_eq {byte : UInt8} {value : Nat} (same : value = byte.toNat) :
    UInt8.ofNat value = byte := by
  rw [same, UInt8.ofNat_toNat]

theorem scan_pad_two {left : Nat} {rest : List Char} :
    scan 2 left 0 ('=' :: '=' :: rest) = some [] := rfl

theorem scan_pad_one {left : Nat} {rest : List Char} :
    scan 3 left 0 ('=' :: rest) = some [] := rfl

theorem scan_digits (bytes : Bytes) :
    scan 0 0 0 (digits bytes) = some bytes := by
  induction bytes using digits.induct with
  | case1 => rfl
  | case2 first =>
      have bound := first.toNat_lt
      have firstByte : UInt8.ofNat (first.toNat / 4 * 4 +
          first.toNat % 4 * 16 / 16) = first := byte_eq (by omega)
      rw [digits, scan_first (by omega), scan_second (by omega),
        scan_pad_two, Option.map_some, firstByte]
  | case3 first second =>
      have bound := first.toNat_lt
      have bound' := second.toNat_lt
      have firstByte : UInt8.ofNat (first.toNat / 4 * 4 +
          (first.toNat % 4 * 16 + second.toNat / 16) / 16) = first :=
        byte_eq (by omega)
      have secondByte : UInt8.ofNat
          ((first.toNat % 4 * 16 + second.toNat / 16) % 16 * 16 +
            second.toNat % 16 * 4 / 4) = second := byte_eq (by omega)
      rw [digits, scan_first (by omega), scan_second (by omega),
        scan_third (by omega), scan_pad_one, Option.map_some,
        Option.map_some, firstByte, secondByte]
  | case4 first second third rest induction =>
      have bound := first.toNat_lt
      have bound' := second.toNat_lt
      have bound'' := third.toNat_lt
      have firstByte : UInt8.ofNat (first.toNat / 4 * 4 +
          (first.toNat % 4 * 16 + second.toNat / 16) / 16) = first :=
        byte_eq (by omega)
      have secondByte : UInt8.ofNat
          ((first.toNat % 4 * 16 + second.toNat / 16) % 16 * 16 +
            (second.toNat % 16 * 4 + third.toNat / 64) / 4) = second :=
        byte_eq (by omega)
      have thirdByte : UInt8.ofNat
          ((second.toNat % 16 * 4 + third.toNat / 64) % 4 * 64 +
            third.toNat % 64) = third := byte_eq (by omega)
      rw [digits, scan_first (by omega), scan_second (by omega),
        scan_third (by omega), scan_fourth (by omega), induction,
        Option.map_some, Option.map_some, Option.map_some, firstByte,
        secondByte, thirdByte]

theorem digits_ascii (bytes : Bytes) :
    ∀ letter ∈ digits bytes, letter.toNat < 128 := by
  have padding : ('=' : Char).toNat < 128 := by decide
  induction bytes using digits.induct with
  | case1 => simp [digits]
  | case2 first =>
      have bound := first.toNat_lt
      simp only [digits, List.forall_mem_cons]
      exact ⟨digit_ascii (by omega), digit_ascii (by omega), padding, padding,
        by simp⟩
  | case3 first second =>
      have bound := first.toNat_lt
      have bound' := second.toNat_lt
      simp only [digits, List.forall_mem_cons]
      exact ⟨digit_ascii (by omega), digit_ascii (by omega),
        digit_ascii (by omega), padding, by simp⟩
  | case4 first second third rest induction =>
      have bound := first.toNat_lt
      have bound' := second.toNat_lt
      have bound'' := third.toNat_lt
      simp only [digits, List.forall_mem_cons]
      exact ⟨digit_ascii (by omega), digit_ascii (by omega),
        digit_ascii (by omega), digit_ascii (by omega), induction⟩

@[simp] theorem b64decode_b64encode (bytes : Bytes) :
    b64decode (b64encode bytes) = some bytes := by
  have ascii : (digits bytes).all (fun letter => letter.toNat < 128) =
      true := by
    simpa using digits_ascii bytes
  rw [b64decode, b64encode, String.toList_ofList, if_pos ascii,
    scan_digits]

theorem b64encode_injective : Function.Injective b64encode := by
  intro left right same
  have decoded := congrArg b64decode same
  rw [b64decode_b64encode, b64decode_b64encode] at decoded
  exact Option.some.inj decoded

end Base64

end BettaPay.Host
