import BettaPay.Host.Base64
import BettaPay.Host.Consumption
import BettaPay.Host.ScVal
import BettaPay.Scripts.SorobanEvents

namespace BettaPay.Scripts

open BettaPay.Host
open BettaPay.Host.Tx (readState writeState)

/-! The cursor with which the scripts read serialized values, and their UTF-8
text. -/

/-- What a decoder raises: a `ValueError` or one of its subclasses. -/
inductive ValueError where
  | truncated (wanted offset length : Nat)
  | notSymbol (tag : Nat)
  | notBytes
  | base64
  | unicode
  deriving DecidableEq, Repr

/-- The texts the scripts give. The other two are Python's own. -/
def ValueError.message : ValueError → Option String
  | .truncated wanted offset length =>
      some (s!"truncated XDR: wanted {wanted} bytes at offset {offset} " ++
        s!"of {length}")
  | .notSymbol tag => some s!"value is not a symbol (SCVal tag {tag})"
  | .notBytes => some "value is not Bytes (SCVal discriminant mismatch)"
  | .base64 => none
  | .unicode => none

structure Reader where
  data : Bytes
  pos : Nat

abbrev Read (α : Type) := Tx Reader ValueError α

def pad (length : Nat) : Nat := (4 - length % 4) % 4

def bigEndian (bytes : Bytes) : Nat :=
  bytes.foldl (fun value byte => 256 * value + byte.toNat) 0

/-- A number in two's complement. -/
def fromSigned (length value : Nat) : Int :=
  if value < 256 ^ length / 2 then value else value - 256 ^ length

namespace Reader

def take (count : Nat) : Read Bytes := do
  let reader ← readState
  Tx.panicIf (reader.data.length < reader.pos + count)
    (.truncated count reader.pos reader.data.length)
  writeState fun reader => { reader with pos := reader.pos + count }
  pure ((reader.data.drop reader.pos).take count)

def u32 : Read Nat := do
  let raw ← take 4
  pure (bigEndian raw)

def i32 : Read Int := do
  let raw ← take 4
  pure (fromSigned 4 (bigEndian raw))

def u64 : Read Nat := do
  let raw ← take 8
  pure (bigEndian raw)

def i64 : Read Int := do
  let raw ← take 8
  pure (fromSigned 8 (bigEndian raw))

/-- A length, as many bytes, and their padding. -/
def opaqueBytes : Read Bytes := do
  let count ← u32
  let payload ← take count
  let _ ← take (pad count)
  pure payload

end Reader

def utf8Encode (text : String) : Bytes :=
  text.toList.flatMap String.utf8EncodeChar

/-- `decode("utf-8")`, which refuses malformed text. -/
def utf8Decode (raw : Bytes) : Option String :=
  raw.toByteArray.utf8Decode?.map fun letters => String.ofList letters.toList

theorem utf8Decode_utf8Encode (text : String) :
    utf8Decode (utf8Encode text) = some text := by
  have letters : (utf8Encode text).toByteArray.utf8Decode? =
      some text.toList.toArray := List.utf8Decode?_utf8Encode
  rw [utf8Decode, letters, Option.map_some, List.toList_toArray,
    String.ofList_toList]

theorem utf8Encode_ascii {text : String}
    (ascii : ∀ letter ∈ text.toList, letter.toNat < 128) :
    utf8Encode text = Xdr.ascii text := by
  rw [utf8Encode, Xdr.ascii, List.map_eq_flatMap]
  apply List.flatMap_congr
  intro letter member
  have small : letter.utf8Size = 1 := by
    have bound : letter.val.toNat < 128 := ascii letter member
    have last : (127 : UInt32).toNat = 127 := rfl
    rw [Char.utf8Size_eq_one_iff, UInt32.le_iff_toNat_le]
    omega
  rw [String.utf8EncodeChar_eq_singleton small]
  rfl

theorem bigEndian_fixed {length value : Nat}
    (bounded : value < 256 ^ length) :
    bigEndian (Xdr.fixed length value) = value := by
  have folded : ∀ start, (Xdr.fixed length value).foldl
      (fun value byte => 256 * value + byte.toNat) start =
        256 ^ length * start + value := by
    induction length generalizing value with
    | zero =>
        intro start
        have none : value = 0 := by
          simpa using bounded
        simp [Xdr.fixed, none]
    | succ length induction =>
        intro start
        have positive : 0 < 256 ^ length := Nat.pow_pos (by decide)
        rw [Nat.pow_succ] at bounded
        have top : value / 256 ^ length < 256 :=
          Nat.div_lt_of_lt_mul bounded
        rw [Xdr.fixed, List.foldl_cons, induction (Nat.mod_lt _ positive),
          UInt8.toNat_ofNat_of_lt' top]
        have split := Nat.div_add_mod value (256 ^ length)
        rw [Nat.mul_add, ← Nat.mul_assoc, ← Nat.pow_succ, Nat.add_assoc,
          split]
  have whole := folded 0
  rw [Nat.mul_zero, Nat.zero_add] at whole
  exact whole

theorem fromSigned_emod {length half : Nat} {value : Int}
    (even : 256 ^ length = 2 * half) (lower : -half ≤ value)
    (upper : value < half) :
    fromSigned length (value % 256 ^ length).toNat = value := by
  have modulus : (256 ^ length : Int) = 2 * half := by
    exact_mod_cast even
  rw [fromSigned, modulus, even]
  rcases Int.lt_or_le value 0 with negative | nonnegative
  · have wrapped : value % (2 * half) = value + 2 * half := by
      rw [← Int.add_emod_right, Int.emod_eq_of_lt (by omega) (by omega)]
    rw [wrapped, if_neg (by omega)]
    omega
  · rw [Int.emod_eq_of_lt nonnegative (by omega), if_pos (by omega)]
    omega

namespace Reader

/-- The bytes ahead of the cursor. -/
def At (rest : Bytes) (reader : Reader) : Prop :=
  ∃ front, reader.data = front ++ rest ∧ reader.pos = front.length

/-- The bytes ahead of the cursor, over the given data. -/
def Ahead (data rest : Bytes) (reader : Reader) : Prop :=
  reader.data = data ∧ reader.At rest

theorem at_start (data : Bytes) : At data ⟨data, 0⟩ := ⟨[], rfl, rfl⟩

section Consumes

variable {data : Bytes}

/-- The cursor takes the bytes ahead of it and stops behind them. -/
theorem take_consumes {count : Nat} {bytes : Bytes}
    (width : bytes.length = count) :
    Tx.Consumes (Ahead data) (take count) bytes bytes := by
  intro rest reader here
  obtain ⟨same, front, whole, pos⟩ := here
  refine ⟨⟨reader.data, reader.pos + count⟩, ?_, same, front ++ bytes, ?_,
    ?_⟩
  · simp [take, whole, pos, ← width]
  · rw [whole, List.append_assoc]
  · rw [pos, List.length_append, width]

/-- Every number is read by taking its bytes. -/
theorem number_consumes {α : Type} {length : Nat} {bytes : Bytes}
    {number : Bytes → α} {value : α} (width : bytes.length = length)
    (spelled : number bytes = value) :
    Tx.Consumes (Ahead data) (do
      let raw ← take length
      pure (number raw)) bytes value := by
  rw [← spelled]
  exact (take_consumes width).yielding

theorem u32_consumes {value : Nat} (bounded : value < 2 ^ 32) :
    Tx.Consumes (Ahead data) u32 (Xdr.fixed 4 value) value :=
  number_consumes (Xdr.length_fixed 4 value) (bigEndian_fixed bounded)

theorem u64_consumes {value : Nat} (bounded : value < 2 ^ 64) :
    Tx.Consumes (Ahead data) u64 (Xdr.fixed 8 value) value :=
  number_consumes (Xdr.length_fixed 8 value) (bigEndian_fixed bounded)

theorem i32_consumes (value : SInt 32) :
    Tx.Consumes (Ahead data) i32 (Xdr.signed 4 value.val) value.val := by
  refine number_consumes (Xdr.length_fixed 4 _) ?_
  rw [Xdr.signed, bigEndian_fixed (by omega)]
  exact @fromSigned_emod 4 (2 ^ 31) _ rfl value.lower value.upper

theorem i64_consumes {value : Int} (lower : -2 ^ 63 ≤ value)
    (upper : value < 2 ^ 63) :
    Tx.Consumes (Ahead data) i64 (Xdr.signed 8 value) value := by
  refine number_consumes (Xdr.length_fixed 8 _) ?_
  rw [Xdr.signed, bigEndian_fixed (by omega)]
  exact @fromSigned_emod 8 (2 ^ 63) _ rfl lower upper

end Consumes

theorem take_ahead {reader : Reader} {count : Nat} {bytes rest : Bytes}
    (ahead : reader.At (bytes ++ rest)) (width : bytes.length = count) :
    ∃ after, take count reader = .ok (bytes, after) ∧ after.At rest := by
  obtain ⟨after, taken, _, behind⟩ :=
    take_consumes width rest reader ⟨rfl, ahead⟩
  exact ⟨after, taken, behind⟩

theorem u32_ahead {reader : Reader} {value : Nat} {rest : Bytes}
    (ahead : reader.At (Xdr.fixed 4 value ++ rest))
    (bounded : value < 2 ^ 32) :
    ∃ after, u32 reader = .ok (value, after) ∧ after.At rest := by
  obtain ⟨after, read, _, behind⟩ :=
    u32_consumes bounded rest reader ⟨rfl, ahead⟩
  exact ⟨after, read, behind⟩

theorem opaqueBytes_ahead {reader : Reader} {bytes rest : Bytes}
    (ahead : reader.At (Xdr.padded bytes ++ rest))
    (short : bytes.length < 2 ^ 32) :
    ∃ after, opaqueBytes reader = .ok (bytes, after) ∧ after.At rest := by
  rw [Xdr.padded, List.append_assoc, List.append_assoc] at ahead
  obtain ⟨counted, count, ahead⟩ := u32_ahead ahead short
  obtain ⟨loaded, payload, ahead⟩ := take_ahead ahead rfl
  obtain ⟨after, padding, beyond⟩ := take_ahead ahead
    (List.length_replicate)
  refine ⟨after, ?_, beyond⟩
  rw [opaqueBytes, Tx.bind_of_ok count, Tx.bind_of_ok payload]
  exact Tx.bind_of_ok padding

end Reader

end BettaPay.Scripts
