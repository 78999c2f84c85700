import BettaPay.Host.Xdr

namespace BettaPay.Host

/-! Rust values as values of the host, and read back from them. -/

/-- The number in bytes, most significant first. -/
def Xdr.number : Bytes → Nat
  | [] => 0
  | byte :: rest => byte.toNat * 256 ^ rest.length + Xdr.number rest

theorem Xdr.number_fixed {length value : Nat} (bounded : value < 256 ^ length) :
    Xdr.number (Xdr.fixed length value) = value := by
  induction length generalizing value with
  | zero =>
      rw [Nat.pow_zero] at bounded
      rw [Xdr.fixed, Xdr.number]
      omega
  | succ length induction =>
      have positive : 0 < 256 ^ length := Nat.pow_pos (by decide)
      have digit : value / 256 ^ length < 256 := by
        apply Nat.div_lt_of_lt_mul
        rwa [← Nat.pow_succ]
      rw [Xdr.fixed, Xdr.number, Xdr.length_fixed,
        induction (Nat.mod_lt value positive),
        UInt8.toNat_ofNat_of_lt' digit, Nat.mul_comm, Nat.div_add_mod]

def Val.ofBytesN (value : BytesN 32) : Val :=
  .bytes (Xdr.fixed 32 value.toNat)

def Val.asBytesN : Val → Option (BytesN 32)
  | .bytes octets =>
      if octets.length = 32 then some (BitVec.ofNat 256 (Xdr.number octets))
      else none
  | _ => none

@[simp] theorem Val.asBytesN_ofBytesN (value : BytesN 32) :
    (Val.ofBytesN value).asBytesN = some value := by
  have bounded : value.toNat < 256 ^ 32 := value.isLt
  rw [Val.ofBytesN, Val.asBytesN, if_pos (Xdr.length_fixed _ _),
    Xdr.number_fixed bounded, BitVec.ofNat_toNat, BitVec.setWidth_eq]

def Val.ofAddresses (addresses : List Address) : Val :=
  .vec (addresses.map .address)

def Val.asAddress : Val → Option Address
  | .address value => some value
  | _ => none

def Val.asAddresses : Val → Option (List Address)
  | .vec items => items.mapM Val.asAddress
  | _ => none

@[simp] theorem Val.asAddresses_ofAddresses (addresses : List Address) :
    (Val.ofAddresses addresses).asAddresses = some addresses := by
  rw [Val.ofAddresses, Val.asAddresses]
  induction addresses with
  | nil => rfl
  | cons address rest induction =>
      simp [Val.asAddress, induction]

/-- `None` is the void value, and `Some` the value itself. -/
def Val.ofOption {α : Type} (whole : α → Val) : Option α → Val
  | none => .void
  | some value => whole value

/-- A structure: a map from the names of its fields. -/
def Val.struct (fields : List (Symbol × Val)) : Val :=
  .map (fields.map fun field => (.symbol field.1, field.2))

def Val.isSymbol (name : Symbol) : Val → Bool
  | .symbol other => other = name
  | _ => false

def Val.field (name : Symbol) : Val → Option Val
  | .map entries =>
      (entries.find? fun entry => entry.1.isSymbol name).map Prod.snd
  | _ => none

@[simp] theorem Val.field_struct_nil (name : Symbol) :
    (Val.struct []).field name = none := rfl

@[simp] theorem Val.field_struct_cons (name other : Symbol) (value : Val)
    (rest : List (Symbol × Val)) :
    (Val.struct ((other, value) :: rest)).field name =
      if other = name then some value else (Val.struct rest).field name := by
  by_cases same : other = name
  · simp [Val.struct, Val.field, Val.isSymbol, same]
  · simp [Val.struct, Val.field, Val.isSymbol, same]

end BettaPay.Host
