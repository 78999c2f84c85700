import BettaPay.Host.Base32
import BettaPay.Scripts.Reader
import Mathlib.Data.List.DropRight

namespace BettaPay.Scripts

open BettaPay.Host

/-! The text of addresses. -/

def crc16Bit (crc : Nat) : Nat :=
  (if crc &&& 0x8000 ≠ 0 then (crc <<< 1) ^^^ 0x1021 else crc <<< 1) &&&
    0xFFFF

def crc16Byte (crc : Nat) (byte : UInt8) : Nat :=
  crc16Bit^[8] (crc ^^^ (byte.toNat <<< 8))

def crc16Xmodem (data : Bytes) : Nat := data.foldl crc16Byte 0

/-- `rstrip("=")`. -/
def stripPadding (text : String) : String :=
  String.ofList (text.toList.rdropWhile (· = '='))

/-- The checksum is packed with its low byte first. -/
def strkeyEncode (version : Nat) (payload : Bytes) : String :=
  let body := UInt8.ofNat version :: payload
  let checksum := [UInt8.ofNat (crc16Xmodem body % 256),
    UInt8.ofNat (crc16Xmodem body / 256)]
  stripPadding (Base32.b32encode (body ++ checksum))

/-- The body of `decode_address`, on a reader of its own. -/
def readAddress : Read String := do
  let reader ← Tx.readState
  let kind ← Reader.u32
  if kind = 0 then
    let keyType ← Reader.u32
    if keyType ≠ 0 then
      pure "<unsupported account key>"
    else
      let key ← Reader.take 32
      pure (strkeyEncode (6 <<< 3) key)
  else if 4 + 32 ≤ reader.data.length then
    pure (strkeyEncode (24 <<< 3) ((reader.data.drop 4).take 32))
  else
    pure "<unsupported address>"

/-- `raw` starts at the discriminant of the address. -/
def decodeAddress (raw : Bytes) : Except ValueError String :=
  (readAddress ⟨raw, 0⟩).map Prod.fst

theorem stripPadding_of_clean {letters : List Char}
    (clean : ∀ letter ∈ letters, letter ≠ '=') :
    stripPadding (String.ofList letters) = String.ofList letters := by
  have kept : letters.rdropWhile (fun letter => letter = '=') = letters := by
    rw [List.rdropWhile_eq_self_iff]
    intro nonempty
    simpa using clean _ (List.getLast_mem nonempty)
  rw [stripPadding, String.toList_ofList, kept]

/-- A key of 32 bytes gives a text of 56 letters. -/
theorem length_strkeyEncode {version : Nat} {payload : Bytes}
    (width : payload.length = 32) :
    (strkeyEncode version payload).length = 56 := by
  have whole : (UInt8.ofNat version :: payload ++
      [UInt8.ofNat (crc16Xmodem (UInt8.ofNat version :: payload) % 256),
        UInt8.ofNat (crc16Xmodem (UInt8.ofNat version :: payload) / 256)]
      ).length = 5 * 7 := by
    simp [width]
  obtain ⟨length, clean⟩ := Base32.digits_whole whole
  rw [strkeyEncode, Base32.b32encode, stripPadding_of_clean clean,
    String.length_ofList, length]

end BettaPay.Scripts
