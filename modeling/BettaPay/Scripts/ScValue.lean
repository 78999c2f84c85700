import BettaPay.Scripts.Decoder

namespace BettaPay.Scripts.Wire

open BettaPay.Host

/-! The values that `decode_scval` is meant for, and how they are written:
under the discriminants that the scripts declare, in the layouts that their
reader implements. -/

inductive ScValue where
  | bool (value : Bool)
  | u32 (value : UInt32)
  | i32 (value : SInt 32)
  | u64 (value : UInt64)
  | i64 (value : SInt 64)
  | u128 (value : BitVec 128)
  | i128 (value : I128)
  | bytes (value : Bytes)
  | string (text : String)
  | symbol (name : Symbol)
  | address (value : Address)
  | vec (items : List ScValue)
  | map (entries : List (Symbol × ScValue))

namespace ScValue

def encodeName (name : Symbol) : Bytes :=
  Xdr.fixed 4 scvalSymbol ++ Xdr.padded (utf8Encode name)

mutual

def encode : ScValue → Bytes
  | .bool value => Xdr.fixed 4 scvalBool ++ Xdr.fixed 4 value.toNat
  | .u32 value => Xdr.fixed 4 scvalU32 ++ Xdr.fixed 4 value.toNat
  | .i32 value => Xdr.fixed 4 scvalI32 ++ Xdr.signed 4 value.val
  | .u64 value => Xdr.fixed 4 scvalU64 ++ Xdr.fixed 8 value.toNat
  | .i64 value => Xdr.fixed 4 scvalI64 ++ Xdr.signed 8 value.val
  | .u128 value => Xdr.fixed 4 scvalU128 ++ Xdr.fixed 16 value.toNat
  | .i128 value => Xdr.fixed 4 scvalI128 ++ Xdr.signed 16 value.val
  | .bytes value => Xdr.fixed 4 scvalBytes ++ Xdr.padded value
  | .string text => Xdr.fixed 4 scvalString ++ Xdr.padded (utf8Encode text)
  | .symbol name => encodeName name
  | .address value => Xdr.fixed 4 scvalAddress ++ Xdr.addressBody value
  | .vec items =>
      Xdr.fixed 4 scvalVec ++ (Xdr.fixed 4 items.length ++ encodeItems items)
  | .map entries =>
      Xdr.fixed 4 scvalMap ++
        (Xdr.fixed 4 entries.length ++ encodeEntries entries)

def encodeItems : List ScValue → Bytes
  | [] => []
  | item :: rest => encode item ++ encodeItems rest

def encodeEntries : List (Symbol × ScValue) → Bytes
  | [] => []
  | (name, value) :: rest =>
      encodeName name ++ (encode value ++ encodeEntries rest)

end

/-- The text that the scripts give an address. -/
def addressText : Address → String
  | .account key => strkeyEncode (6 <<< 3) (Xdr.fixed 32 key.toNat)
  | .contract id => strkeyEncode (24 <<< 3) (Xdr.fixed 32 id.toNat)

mutual

/-- The value in Python. -/
def render : ScValue → Decoded
  | .bool value => .bool value
  | .u32 value => .int value.toNat
  | .i32 value => .int value.val
  | .u64 value => .int value.toNat
  | .i64 value => .int value.val
  | .u128 value => .int value.toNat
  | .i128 value => .int value.val
  | .bytes value => .str (hex value)
  | .string text => .str text
  | .symbol name => .str name
  | .address value => .str (addressText value)
  | .vec items => .list (renderItems items)
  | .map entries => .dict (renderEntries entries)

def renderItems : List ScValue → List Decoded
  | [] => []
  | item :: rest => render item :: renderItems rest

def renderEntries : List (Symbol × ScValue) → List (Decoded × Decoded)
  | [] => []
  | (name, value) :: rest => (.str name, render value) :: renderEntries rest

end

/-- Every count fits its word, and no map has two entries under a name. -/
inductive Fits : ScValue → Prop where
  | bool (value : Bool) : Fits (.bool value)
  | u32 (value : UInt32) : Fits (.u32 value)
  | i32 (value : SInt 32) : Fits (.i32 value)
  | u64 (value : UInt64) : Fits (.u64 value)
  | i64 (value : SInt 64) : Fits (.i64 value)
  | u128 (value : BitVec 128) : Fits (.u128 value)
  | i128 (value : I128) : Fits (.i128 value)
  | bytes {value : Bytes} (short : value.length < 2 ^ 32) :
      Fits (.bytes value)
  | string {text : String} (short : (utf8Encode text).length < 2 ^ 32) :
      Fits (.string text)
  | symbol {name : Symbol} (short : (utf8Encode name).length < 2 ^ 32) :
      Fits (.symbol name)
  | address (value : Address) : Fits (.address value)
  | vec {items : List ScValue} (short : items.length < 2 ^ 32)
      (each : ∀ item ∈ items, Fits item) : Fits (.vec items)
  | map {entries : List (Symbol × ScValue)}
      (short : entries.length < 2 ^ 32)
      (distinct : (entries.map Prod.fst).Nodup)
      (names : ∀ entry ∈ entries, Fits (.symbol entry.1))
      (each : ∀ entry ∈ entries, Fits entry.2) : Fits (.map entries)

mutual

/-- The addresses in a value, at any depth. -/
def addresses : ScValue → List Address
  | .address value => [value]
  | .vec items => addressesOfItems items
  | .map entries => addressesOfEntries entries
  | _ => []

def addressesOfItems : List ScValue → List Address
  | [] => []
  | item :: rest => addresses item ++ addressesOfItems rest

def addressesOfEntries : List (Symbol × ScValue) → List Address
  | [] => []
  | (_, value) :: rest => addresses value ++ addressesOfEntries rest

end

mutual

/-- The same value with other addresses in the places of its own. -/
def readdress (replace : Address → Address) : ScValue → ScValue
  | .address value => .address (replace value)
  | .vec items => .vec (readdressItems replace items)
  | .map entries => .map (readdressEntries replace entries)
  | other => other

def readdressItems (replace : Address → Address) :
    List ScValue → List ScValue
  | [] => []
  | item :: rest => readdress replace item :: readdressItems replace rest

def readdressEntries (replace : Address → Address) :
    List (Symbol × ScValue) → List (Symbol × ScValue)
  | [] => []
  | (name, value) :: rest =>
      (name, readdress replace value) :: readdressEntries replace rest

end

mutual

/-- How deeply calls nest over a value. -/
def depth : ScValue → Nat
  | .vec items => depthOfItems items + 1
  | .map entries => depthOfEntries entries + 1
  | _ => 1

def depthOfItems : List ScValue → Nat
  | [] => 0
  | item :: rest => max (depth item) (depthOfItems rest)

def depthOfEntries : List (Symbol × ScValue) → Nat
  | [] => 0
  | (_, value) :: rest => max (depth value) (depthOfEntries rest)

end

/-! The lists of parts, by the functions on one part. -/

theorem encodeItems_eq (items : List ScValue) :
    encodeItems items = items.flatMap encode := by
  induction items with
  | nil => rfl
  | cons item rest induction =>
      rw [encodeItems, induction, List.flatMap_cons]

theorem renderItems_eq (items : List ScValue) :
    renderItems items = items.map render := by
  induction items with
  | nil => rfl
  | cons item rest induction => rw [renderItems, induction, List.map_cons]

theorem renderEntries_eq (entries : List (Symbol × ScValue)) :
    renderEntries entries =
      entries.map fun entry => (.str entry.1, render entry.2) := by
  induction entries with
  | nil => rfl
  | cons entry rest induction =>
      rw [renderEntries, induction, List.map_cons]

theorem addressesOfItems_eq (items : List ScValue) :
    addressesOfItems items = items.flatMap addresses := by
  induction items with
  | nil => rfl
  | cons item rest induction =>
      rw [addressesOfItems, induction, List.flatMap_cons]

theorem addressesOfEntries_eq (entries : List (Symbol × ScValue)) :
    addressesOfEntries entries =
      entries.flatMap fun entry => addresses entry.2 := by
  induction entries with
  | nil => rfl
  | cons entry rest induction =>
      rw [addressesOfEntries, induction, List.flatMap_cons]

theorem readdressItems_eq (replace : Address → Address)
    (items : List ScValue) :
    readdressItems replace items = items.map (readdress replace) := by
  induction items with
  | nil => rfl
  | cons item rest induction =>
      rw [readdressItems, induction, List.map_cons]

theorem readdressEntries_eq (replace : Address → Address)
    (entries : List (Symbol × ScValue)) :
    readdressEntries replace entries =
      entries.map fun entry => (entry.1, readdress replace entry.2) := by
  induction entries with
  | nil => rfl
  | cons entry rest induction =>
      rw [readdressEntries, induction, List.map_cons]

theorem depth_pos (value : ScValue) : 0 < value.depth := by
  cases value <;> exact Nat.succ_pos _

theorem depth_le_depthOfItems {item : ScValue} {items : List ScValue}
    (member : item ∈ items) : item.depth ≤ depthOfItems items := by
  induction member with
  | head rest => exact Nat.le_max_left _ _
  | tail other _ induction => exact induction.trans (Nat.le_max_right _ _)

theorem depth_le_depthOfEntries {entry : Symbol × ScValue}
    {entries : List (Symbol × ScValue)} (member : entry ∈ entries) :
    entry.2.depth ≤ depthOfEntries entries := by
  induction member with
  | head rest => exact Nat.le_max_left _ _
  | tail other _ induction => exact induction.trans (Nat.le_max_right _ _)

/-- The parts of a vector are one call deeper. -/
theorem depth_vec {items : List ScValue} {limit : Nat}
    (deep : (vec items).depth ≤ limit) :
    ∃ fewer, limit = fewer + 1 ∧ ∀ item ∈ items, item.depth ≤ fewer := by
  obtain ⟨fewer, rfl⟩ :=
    Nat.exists_eq_add_of_le' ((depth_pos _).trans_le deep)
  refine ⟨fewer, rfl, ?_⟩
  intro item member
  exact (depth_le_depthOfItems member).trans (Nat.le_of_succ_le_succ deep)

theorem depth_map {entries : List (Symbol × ScValue)} {limit : Nat}
    (deep : (map entries).depth ≤ limit) :
    ∃ fewer, limit = fewer + 1 ∧
      ∀ entry ∈ entries, entry.2.depth ≤ fewer := by
  obtain ⟨fewer, rfl⟩ :=
    Nat.exists_eq_add_of_le' ((depth_pos _).trans_le deep)
  refine ⟨fewer, rfl, ?_⟩
  intro entry member
  exact (depth_le_depthOfEntries member).trans (Nat.le_of_succ_le_succ deep)

/-! Replacing addresses. -/

theorem Fits.readdress {value : ScValue} {replace : Address → Address}
    (fits : value.Fits) : (value.readdress replace).Fits := by
  induction fits with
  | address value => exact .address _
  | vec short each induction =>
      rw [ScValue.readdress, readdressItems_eq]
      refine .vec (by rw [List.length_map]; exact short) ?_
      intro item member
      obtain ⟨original, listed, rfl⟩ := List.mem_map.mp member
      exact induction original listed
  | map short distinct names each _ induction =>
      rw [ScValue.readdress, readdressEntries_eq]
      refine .map (by rw [List.length_map]; exact short) ?_ ?_ ?_
      · rw [List.map_map]
        exact distinct
      · intro entry member
        obtain ⟨original, listed, rfl⟩ := List.mem_map.mp member
        exact names original listed
      · intro entry member
        obtain ⟨original, listed, rfl⟩ := List.mem_map.mp member
        exact induction original listed
  | bytes short => exact .bytes short
  | string short => exact .string short
  | symbol short => exact .symbol short
  | _ => constructor

theorem addresses_readdress {value : ScValue}
    {replace : Address → Address} (fits : value.Fits) :
    (value.readdress replace).addresses = value.addresses.map replace := by
  induction fits with
  | address value => rfl
  | vec short each induction =>
      rw [readdress, readdressItems_eq, addresses, addresses,
        addressesOfItems_eq, addressesOfItems_eq, List.flatMap_map,
        List.map_flatMap]
      exact List.flatMap_congr induction
  | map short distinct names each _ induction =>
      rw [readdress, readdressEntries_eq, addresses, addresses,
        addressesOfEntries_eq, addressesOfEntries_eq, List.flatMap_map,
        List.map_flatMap]
      exact List.flatMap_congr induction
  | _ => rfl

end ScValue

end BettaPay.Scripts.Wire
