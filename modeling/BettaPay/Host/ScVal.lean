import BettaPay.Host.Xdr

namespace BettaPay.Host

/-! Contract values as the chain serializes them: a discriminant and a
body. -/

/-- A number in two's complement. -/
def Xdr.signed (length : Nat) (value : Int) : Bytes :=
  Xdr.fixed length (value % 256 ^ length).toNat

def Xdr.addressBody : Address → Bytes
  | .account key => Xdr.fixed 4 0 ++ (Xdr.fixed 4 0 ++ Xdr.fixed 32 key.toNat)
  | .contract id => Xdr.fixed 4 1 ++ Xdr.fixed 32 id.toNat

def Val.discriminant : Val → Nat
  | .bool _ => 0
  | .void => 1
  | .error _ => 2
  | .u32 _ => 3
  | .i32 _ => 4
  | .u64 _ => 5
  | .i64 _ => 6
  | .timepoint _ => 7
  | .duration _ => 8
  | .u128 _ => 9
  | .i128 _ => 10
  | .u256 _ => 11
  | .i256 _ => 12
  | .bytes _ => 13
  | .string _ => 14
  | .symbol _ => 15
  | .vec _ => 16
  | .map _ => 17
  | .address _ => 18

mutual

/-- A vector or a map is an optional sequence: that it is there, its length
and its elements. An error is one of the contract's. -/
def Val.body : Val → Bytes
  | .bool value => Xdr.fixed 4 value.toNat
  | .void => []
  | .error code => Xdr.fixed 4 0 ++ Xdr.fixed 4 code.toNat
  | .u32 value => Xdr.fixed 4 value.toNat
  | .i32 value => Xdr.signed 4 value.val
  | .u64 value => Xdr.fixed 8 value.toNat
  | .i64 value => Xdr.signed 8 value.val
  | .timepoint value => Xdr.fixed 8 value.toNat
  | .duration value => Xdr.fixed 8 value.toNat
  | .u128 value => Xdr.fixed 16 value.toNat
  | .i128 value => Xdr.signed 16 value.val
  | .u256 value => Xdr.fixed 32 value.toNat
  | .i256 value => Xdr.signed 32 value.val
  | .bytes value => Xdr.padded value
  | .string value => Xdr.padded value
  | .symbol name => Xdr.padded (Xdr.ascii name)
  | .vec items =>
      Xdr.fixed 4 1 ++ (Xdr.fixed 4 items.length ++ Val.sequence items)
  | .map entries =>
      Xdr.fixed 4 1 ++ (Xdr.fixed 4 entries.length ++ Val.pairs entries)
  | .address value => Xdr.addressBody value

def Val.sequence : List Val → Bytes
  | [] => []
  | item :: rest =>
      Xdr.fixed 4 item.discriminant ++ item.body ++ Val.sequence rest

def Val.pairs : List (Val × Val) → Bytes
  | [] => []
  | (key, value) :: rest =>
      Xdr.fixed 4 key.discriminant ++ key.body ++
        (Xdr.fixed 4 value.discriminant ++ value.body) ++ Val.pairs rest

end

def Val.toXdr (value : Val) : Bytes :=
  Xdr.fixed 4 value.discriminant ++ value.body

theorem Val.discriminant_lt (value : Val) : value.discriminant < 19 := by
  cases value <;> simp only [Val.discriminant] <;> omega

/-- A symbol as the chain admits it. -/
structure ScSymbol where
  text : Symbol
  short : text.length ≤ 32
  plain : ∀ letter ∈ text.toList, letter.isAlphanum ∨ letter = '_'

theorem ScSymbol.ascii_letters (symbol : ScSymbol) :
    ∀ letter ∈ symbol.text.toList, letter.toNat < 128 := by
  intro letter member
  rcases symbol.plain letter member with alphanumeric | rfl
  · delta Char.isAlphanum Char.isAlpha Char.isUpper Char.isLower
      Char.isDigit at alphanumeric
    simp only [Bool.or_eq_true, Bool.and_eq_true, decide_eq_true_eq,
      UInt32.le_iff_toNat_le] at alphanumeric
    have same : letter.toNat = letter.val.toNat := rfl
    simp at alphanumeric
    omega
  · decide

end BettaPay.Host
