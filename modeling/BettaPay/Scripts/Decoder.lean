import BettaPay.Host.Ensures
import BettaPay.Scripts.Escapes
import BettaPay.Scripts.StrKey
import BettaPay.Scripts.Topics

namespace BettaPay.Scripts.Wire

open BettaPay.Host
open BettaPay.Host.Tx (readState writeState)

/-! `decode_scval`: the value that the cursor stands before, under the
discriminants that the scripts declare. -/

def scvalBool : Nat := 0

def scvalU32 : Nat := 2

def scvalI32 : Nat := 3

def scvalU64 : Nat := 4

def scvalI64 : Nat := 5

def scvalTimepoint : Nat := 6

def scvalDuration : Nat := 7

def scvalU128 : Nat := 8

def scvalI128 : Nat := 9

def scvalString : Nat := 11

def scvalVec : Nat := 13

def scvalMap : Nat := 14

def scvalAddress : Nat := 15

/-- What ends a decoding: a `ValueError`, of the reader or of the decoder, or
the interpreter's own error for calls that nest too deeply. -/
inductive Raised where
  | reading (error : ValueError)
  | unsupported (tag : Nat)
  | recursion
  deriving DecidableEq, Repr

def Raised.message : Raised → Option String
  | .reading error => error.message
  | .unsupported tag => some s!"unsupported SCVal[tag] {tag}"
  | .recursion => none

def Raised.isValueError : Raised → Bool
  | .reading _ => true
  | .unsupported _ => true
  | .recursion => false

/-- The reader of a decoding. The calls made so far and the positions where
the cursor has stood, the last one first, are noted and never read. -/
structure Scanner extends Reader where
  calls : Nat
  trail : List Nat

def Scanner.start (data : Bytes) : Scanner where
  data := data
  pos := 0
  calls := 0
  trail := [0]

/-- An exception leaves the reader as it is. -/
structure Stop where
  raised : Raised
  scanner : Scanner

abbrev Scan (α : Type) := Tx Scanner Stop α

section Scan

variable {α : Type}

def raise (raised : Raised) : Scan α := do
  let scanner ← readState
  Tx.panic ⟨raised, scanner⟩

/-- One read, after which the new position is noted. -/
def scan (read : Read α) : Scan α := fun scanner =>
  match read scanner.toReader with
  | .ok (value, reader) =>
      .ok (value, ⟨reader, scanner.calls, reader.pos :: scanner.trail⟩)
  | .error error => .error ⟨.reading error, scanner⟩

end Scan

namespace Scanner

/-- `opaque`, read by read. -/
def opaqueBytes : Scan Bytes := do
  let count ← scan Reader.u32
  let payload ← scan (Reader.take count)
  let _ ← scan (Reader.take (pad count))
  pure payload

/-- The shifted high half leaves room for the low one. -/
def u128 : Scan Nat := do
  let high ← scan Reader.u64
  let low ← scan Reader.u64
  pure (high * 2 ^ 64 + low)

def i128 : Scan Int := do
  let high ← scan Reader.i64
  let low ← scan Reader.u64
  pure (high * 2 ^ 64 + low)

end Scanner

/-! Dictionaries of Python, where a number and a boolean can be the same
key. -/

def sameKey : Decoded → Decoded → Bool
  | .str left, .str right => left = right
  | left, right =>
      match left.asInt, right.asInt with
      | some first, some second => first = second
      | _, _ => false

/-- A key that is there stays and gets the new value. -/
def setItem (key value : Decoded) :
    List (Decoded × Decoded) → List (Decoded × Decoded)
  | [] => [(key, value)]
  | (found, old) :: rest =>
      if sameKey found key then (found, value) :: rest
      else (found, old) :: setItem key value rest

section Decode

variable (repr : Decoded → String)

/-- A key that is no text and no number is replaced by its `repr`. -/
def asKey : Decoded → Decoded
  | .str text => .str text
  | .int value => .int value
  | .bool value => .bool value
  | other => .str (repr other)

/-- The loop over the entries of a map. -/
def decodeEntries (decode : Scan Decoded) :
    Nat → List (Decoded × Decoded) → Scan (List (Decoded × Decoded))
  | 0, mapping => pure mapping
  | count + 1, mapping => do
      let key ← decode
      let value ← decode
      decodeEntries decode count (setItem (asKey repr key) value mapping)

/-- A call, which starts with the tag. -/
def callTag : Scan Nat := do
  writeState fun scanner => { scanner with calls := scanner.calls + 1 }
  scan Reader.u32

/-- The address is read from a copy of the bytes ahead; the cursor stays. -/
def decodeAddressAhead : Scan Decoded := do
  let scanner ← readState
  match decodeAddress (scanner.data.drop scanner.pos) with
  | .ok text => pure (.str text)
  | .error error => raise (.reading error)

/-- What `decode_scval` does after the tag. -/
def decodeTagged (decode : Scan Decoded) (tag : Nat) : Scan Decoded :=
  if tag = scvalBool then do
    let value ← scan Reader.u32
    pure (.bool (value = 1))
  else if tag = scvalU32 then do
    let value ← scan Reader.u32
    pure (.int value)
  else if tag = scvalI32 then do
    let value ← scan Reader.i32
    pure (.int value)
  else if tag ∈ [scvalU64, scvalDuration] then do
    let value ← scan Reader.u64
    pure (.int value)
  else if tag ∈ [scvalI64, scvalTimepoint] then do
    let value ← scan Reader.i64
    pure (.int value)
  else if tag = scvalU128 then do
    let value ← Scanner.u128
    pure (.int value)
  else if tag = scvalI128 then do
    let value ← Scanner.i128
    pure (.int value)
  else if tag ∈ [scvalBytes, scvalString, scvalSymbol] then do
    let payload ← Scanner.opaqueBytes
    pure (.str
      (if tag = scvalBytes then hex payload else utf8DecodeEscaped payload))
  else if tag = scvalVec then do
    let count ← scan Reader.u32
    let items ← Tx.times decode count
    pure (.list items)
  else if tag = scvalMap then do
    let count ← scan Reader.u32
    let mapping ← decodeEntries repr decode count []
    pure (.dict mapping)
  else if tag = scvalAddress then
    decodeAddressAhead
  else
    raise (.unsupported tag)

/-- At most `limit` calls can be nested. -/
def decodeScval : Nat → Scan Decoded
  | 0 => raise .recursion
  | limit + 1 => do
      let tag ← callTag
      decodeTagged repr (decodeScval limit) tag

/-- The base64 text is decoded outside of the `try`. -/
def decodeEventValue (limit : Nat) (text : String) : Except Raised Decoded :=
  match Base64.b64decode text with
  | none => .error (.reading .base64)
  | some raw =>
      match decodeScval repr limit (Scanner.start raw) with
      | .ok (value, _) => .ok value
      | .error stop =>
          if stop.raised.isValueError then .ok .none else .error stop.raised

variable {repr} {limit : Nat} {text : String} {raw : Bytes}

theorem decodeEventValue_ok {value : Decoded} {after : Scanner}
    (decoded : Base64.b64decode text = some raw)
    (ran : decodeScval repr limit (Scanner.start raw) =
      .ok (value, after)) :
    decodeEventValue repr limit text = .ok value := by
  simp only [decodeEventValue, decoded, ran]

theorem decodeEventValue_caught {stop : Stop}
    (decoded : Base64.b64decode text = some raw)
    (ran : decodeScval repr limit (Scanner.start raw) = .error stop)
    (caught : stop.raised.isValueError = true) :
    decodeEventValue repr limit text = .ok .none := by
  simp only [decodeEventValue, decoded, ran, caught, if_true]

end Decode

instance decodeEntries_ensures {repr : Decoded → String}
    {given : Scanner → Prop} {allowed : Stop → Prop} {decode : Scan Decoded}
    {count : Nat} {mapping : List (Decoded × Decoded)}
    [ensures : Tx.Ensures given given allowed decode] :
    Tx.Ensures given given allowed
      (decodeEntries repr decode count mapping) := by
  induction count generalizing mapping with
  | zero => exact Tx.Ensures.pure
  | succ count induction =>
      unfold decodeEntries
      infer_instance

end BettaPay.Scripts.Wire
