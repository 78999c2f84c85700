import BettaPay.Host.Loops
import BettaPay.Scripts.RoundTrip

namespace BettaPay.Scripts.Wire

open BettaPay.Host

/-! After an address the decoder reads the address once more, as the values
that follow. -/

/-- The discriminants that `decode_scval` has a branch for. -/
def declaredTags : List Nat :=
  [scvalBool, scvalU32, scvalI32, scvalU64, scvalDuration, scvalI64,
    scvalTimepoint, scvalU128, scvalI128, scvalBytes, scvalString,
    scvalSymbol, scvalVec, scvalMap, scvalAddress]

/-- An account key that does not look like a value. -/
def Inert (key : BytesN 32) : Prop := key.toNat / 256 ^ 28 ∉ declaredTags

instance (key : BytesN 32) : Decidable (Inert key) :=
  inferInstanceAs (Decidable (_ ∉ declaredTags))

section Refusal

variable {repr : Decoded → String} {data tail : Bytes} {limit : Nat}
  {scanner : Scanner}

theorem decodeTagged_undeclared {decode : Scan Decoded} {tag : Nat}
    (undeclared : tag ∉ declaredTags) :
    decodeTagged repr decode tag = raise (.unsupported tag) := by
  simp only [declaredTags, List.mem_cons, List.not_mem_nil, or_false,
    not_or] at undeclared
  simp [decodeTagged, undeclared]

theorem decodeScval_undeclared {tag : Nat} (bounded : tag < 2 ^ 32)
    (undeclared : tag ∉ declaredTags)
    (here : scanner.Ahead data (Xdr.fixed 4 tag ++ tail)) :
    ∃ stop, decodeScval repr (limit + 1) scanner = .error stop ∧
      stop.raised = .unsupported tag := by
  obtain ⟨after, called, _⟩ := callTag_consumes bounded tail scanner here
  refine ⟨⟨.unsupported tag, after⟩, ?_, rfl⟩
  rw [decodeScval, Tx.bind_of_ok called, decodeTagged_undeclared undeclared]
  rfl

/-- Two zero words are a boolean. -/
theorem zeros_consumes :
    Tx.Consumes (Scanner.Ahead data) (decodeScval repr (limit + 1))
      (Xdr.fixed 4 0 ++ Xdr.fixed 4 0) (.bool false) := by
  have plain := @reads_back repr _ (ScValue.Fits.bool false) rfl
  exact plain data (limit + 1) (Nat.succ_pos limit)

end Refusal

/-! The address itself is rendered, and the cursor stays before it. -/

theorem Scanner.Ahead.drop {data rest : Bytes} {scanner : Scanner}
    (ahead : scanner.Ahead data rest) :
    scanner.data.drop scanner.pos = rest := by
  obtain ⟨_, front, whole, pos⟩ := ahead
  rw [whole, pos, List.drop_left]

theorem readAddress_body (address : Address) (rest : Bytes) :
    ∃ after, readAddress ⟨Xdr.addressBody address ++ rest, 0⟩ =
      .ok (ScValue.addressText address, after) := by
  have start := Reader.at_start (Xdr.addressBody address ++ rest)
  cases address with
  | account key =>
      simp only [Xdr.addressBody, List.append_assoc] at start ⊢
      obtain ⟨kind, readKind, start⟩ := Reader.u32_ahead start (by decide)
      obtain ⟨keyType, readType, start⟩ := Reader.u32_ahead start (by decide)
      obtain ⟨after, readKey, _⟩ :=
        Reader.take_ahead start (Xdr.length_fixed 32 _)
      refine ⟨after, ?_⟩
      rw [readAddress, Tx.readState_bind, Tx.bind_of_ok readKind,
        if_pos rfl, Tx.bind_of_ok readType, if_neg (not_not_intro rfl)]
      exact Tx.bind_of_ok readKey
  | contract id =>
      simp only [Xdr.addressBody, List.append_assoc] at start ⊢
      obtain ⟨after, readKind, _⟩ := Reader.u32_ahead start (by decide)
      have enough : 4 + 32 ≤ (Xdr.fixed 4 1 ++
          (Xdr.fixed 32 id.toNat ++ rest)).length := by
        rw [List.length_append, List.length_append, Xdr.length_fixed,
          Xdr.length_fixed]
        omega
      have key : ((Xdr.fixed 4 1 ++
          (Xdr.fixed 32 id.toNat ++ rest)).drop 4).take 32 =
            Xdr.fixed 32 id.toNat := by
        rw [List.drop_left' (Xdr.length_fixed 4 1),
          List.take_left' (Xdr.length_fixed 32 _)]
      refine ⟨after, ?_⟩
      rw [readAddress, Tx.readState_bind, Tx.bind_of_ok readKind,
        if_neg Nat.one_ne_zero, if_pos enough, key]
      rfl

section Stays

variable {repr : Decoded → String} {data tail : Bytes} {limit : Nat}
  {scanner : Scanner}

theorem decodeAddressAhead_stays {address : Address}
    (here : scanner.Ahead data (Xdr.addressBody address ++ tail)) :
    decodeAddressAhead scanner =
      .ok (.str (ScValue.addressText address), scanner) := by
  obtain ⟨after, read⟩ := readAddress_body address tail
  rw [decodeAddressAhead, Tx.readState_bind, here.drop, decodeAddress, read]
  rfl

/-- A call reads no more of an address than its tag. -/
theorem address_stays {address : Address}
    (here : scanner.Ahead data
      ((ScValue.address address).encode ++ tail)) :
    ∃ after, decodeScval repr (limit + 1) scanner =
        .ok (.str (ScValue.addressText address), after) ∧
      after.Ahead data (Xdr.addressBody address ++ tail) := by
  rw [ScValue.encode, List.append_assoc] at here
  obtain ⟨after, called, before⟩ :=
    callTag_consumes (by decide) _ scanner here
  refine ⟨after, ?_, before⟩
  rw [decodeScval, Tx.bind_of_ok called]
  exact decodeAddressAhead_stays before

end Stays

/-! The cursor never gets past an address that it was left before. -/

/-- What is left of an address between two calls. -/
inductive Misread : Bytes → Prop where
  | account {key : BytesN 32} (inert : Inert key) :
      Misread (Xdr.addressBody (.account key))
  | key {key : BytesN 32} (inert : Inert key) :
      Misread (Xdr.fixed 32 key.toNat)
  | contract (id : BytesN 32) : Misread (Xdr.addressBody (.contract id))

theorem Misread.length_pos {payload : Bytes} (misread : Misread payload) :
    0 < payload.length := by
  cases misread <;> simp [Xdr.addressBody]

/-- The address is one that a decoding cannot take for values. -/
def Hidden : Address → Prop
  | .account key => Inert key
  | .contract _ => True

theorem Hidden.misread {address : Address} (hidden : Hidden address) :
    Misread (Xdr.addressBody address) := by
  cases address with
  | account key => exact .account hidden
  | contract id => exact .contract id

def Astray (data : Bytes) (scanner : Scanner) : Prop :=
  ∃ payload tail, Misread payload ∧ scanner.Ahead data (payload ++ tail)

section Astray

variable {repr : Decoded → String} {data : Bytes} {limit : Nat}

/-- Such an address is never behind all of the data. -/
theorem Astray.pos_lt {scanner : Scanner} (astray : Astray data scanner) :
    scanner.pos < data.length := by
  obtain ⟨payload, tail, misread, same, front, whole, pos⟩ := astray
  have positive := misread.length_pos
  rw [← same, whole, pos, List.length_append, List.length_append]
  omega

/-- An account is read as a boolean up to its key. A key, and a contract,
are refused. -/
instance decodeScval_astray :
    Tx.Ensures (Astray data) (Astray data) (fun _ => True)
      (decodeScval repr limit) where
  ok := by
    intro scanner after value astray succeeded
    obtain ⟨payload, tail, misread, here⟩ := astray
    cases limit with
    | zero => cases succeeded
    | succ limit =>
        cases misread with
        | account inert =>
            rw [Xdr.addressBody, ← List.append_assoc,
              List.append_assoc] at here
            obtain ⟨stopped, ran, behind⟩ := zeros_consumes _ scanner here
            rw [ran] at succeeded
            cases succeeded
            exact ⟨_, tail, .key inert, behind⟩
        | @key key inert =>
            have split := @Xdr.fixed_add 4 28 key.toNat key.isLt
            rw [split, List.append_assoc] at here
            obtain ⟨stop, refused, _⟩ := @decodeScval_undeclared repr _ _
              limit _ _ (by omega) inert here
            rw [refused] at succeeded
            cases succeeded
        | contract id =>
            rw [Xdr.addressBody, List.append_assoc] at here
            obtain ⟨stop, refused, _⟩ := @decodeScval_undeclared repr _ _
              limit _ _ (by decide) (by decide) here
            rw [refused] at succeeded
            cases succeeded
  error := fun _ _ _ _ => trivial

end Astray

/-- No call on the value gets past the first of its addresses. -/
def Misses (repr : Decoded → String) (value : ScValue) : Prop :=
  ∀ data rest limit, value.depth ≤ limit →
    Tx.Ensures (Scanner.Ahead data (value.encode ++ rest)) (Astray data)
      (fun _ => True) (decodeScval repr limit)

section Misses

variable {repr : Decoded → String} {data rest : Bytes} {limit : Nat}

theorem Misses.not_decodes {value : ScValue} (misses : Misses repr value) :
    ¬Decodes repr value := by
  intro decodes
  obtain ⟨after, ran, done⟩ := decodes [] value.depth le_rfl
  have astray := (misses _ [] value.depth le_rfl).ok _ after value.render
    (Scanner.ahead_start (value.encode ++ [])) ran
  have before := astray.pos_lt
  rw [List.append_nil, done] at before
  exact Nat.lt_irrefl _ before

theorem Misses.not_readsBack {value : ScValue}
    (misses : Misses repr value) : ¬ReadsBack repr value :=
  fun readsBack => misses.not_decodes readsBack.decodes

theorem Misses.address {address : Address} (hidden : Hidden address) :
    Misses repr (.address address) := by
  intro data rest limit deep
  obtain ⟨limit, rfl⟩ := Nat.exists_eq_add_of_le'
    ((ScValue.depth_pos _).trans_le deep)
  refine ⟨?_, fun _ _ _ _ => trivial⟩
  intro scanner after value here succeeded
  obtain ⟨stopped, ran, behind⟩ := @address_stays repr _ _ limit _ _ here
  rw [ran] at succeeded
  cases succeeded
  exact ⟨_, rest, hidden.misread, behind⟩

/-- The first item that is missed leaves the cursor before an address, and
the others leave it there. -/
theorem items_astray {items : List ScValue}
    (each : ∀ item ∈ items, ReadsBack repr item ∨ Misses repr item)
    (missed : ∃ item ∈ items, Misses repr item)
    (shallow : ∀ item ∈ items, item.depth ≤ limit) :
    Tx.Ensures (Scanner.Ahead data (ScValue.encodeItems items ++ rest))
      (Astray data) (fun _ => True)
      (Tx.times (decodeScval repr limit) items.length) := by
  induction items with
  | nil =>
      obtain ⟨_, member, _⟩ := missed
      cases member
  | cons item others induction =>
      rw [List.forall_mem_cons] at each shallow
      rw [List.exists_mem_cons_iff] at missed
      rw [ScValue.encodeItems, List.append_assoc]
      rcases each.1 with readsBack | misses
      · have missed := missed.resolve_left fun misses =>
          misses.not_readsBack readsBack
        have behind := induction each.2 missed shallow.2
        refine Tx.Ensures.afterReading (readsBack data limit shallow.1) ?_
        exact behind.andThen fun _ => inferInstance
      · exact Tx.Ensures.andThen (misses data _ limit shallow.1)
          fun _ => inferInstance

theorem entries_astray {entries : List (Symbol × ScValue)}
    {mapping : List (Decoded × Decoded)}
    (names : ∀ entry ∈ entries, ReadsBack repr (.symbol entry.1))
    (each : ∀ entry ∈ entries, ReadsBack repr entry.2 ∨ Misses repr entry.2)
    (missed : ∃ entry ∈ entries, Misses repr entry.2)
    (shallow : ∀ entry ∈ entries, entry.2.depth ≤ limit) :
    Tx.Ensures (Scanner.Ahead data (ScValue.encodeEntries entries ++ rest))
      (Astray data) (fun _ => True)
      (decodeEntries repr (decodeScval repr limit) entries.length
        mapping) := by
  induction entries generalizing mapping with
  | nil =>
      obtain ⟨_, member, _⟩ := missed
      cases member
  | cons entry others induction =>
      obtain ⟨name, value⟩ := entry
      rw [List.forall_mem_cons] at names each shallow
      rw [List.exists_mem_cons_iff] at missed
      have named := names.1 data limit
        ((ScValue.depth_pos value).trans_le shallow.1)
      rw [ScValue.encodeEntries, List.append_assoc, List.append_assoc]
      refine Tx.Ensures.afterReading named ?_
      rcases each.1 with readsBack | misses
      · have missed := missed.resolve_left fun misses =>
          misses.not_readsBack readsBack
        refine Tx.Ensures.afterReading (readsBack data limit shallow.1) ?_
        exact induction names.2 each.2 missed shallow.2
      · exact Tx.Ensures.andThen (misses data _ limit shallow.1)
          fun _ => inferInstance

theorem Misses.vec {items : List ScValue}
    (short : items.length < 2 ^ 32)
    (each : ∀ item ∈ items, ReadsBack repr item ∨ Misses repr item)
    (missed : ∃ item ∈ items, Misses repr item) :
    Misses repr (.vec items) := by
  intro data rest limit deep
  obtain ⟨limit, rfl, shallow⟩ := ScValue.depth_vec deep
  have contents := @items_astray repr data rest limit items each missed
    shallow
  rw [ScValue.encode, List.append_assoc, List.append_assoc]
  refine Tx.Ensures.afterReading (callTag_consumes (by decide)) ?_
  refine Tx.Ensures.afterReading
    (scan_consumes (Reader.u32_consumes short)) ?_
  exact contents.andThen fun _ => inferInstance

theorem Misses.map {entries : List (Symbol × ScValue)}
    (short : entries.length < 2 ^ 32)
    (names : ∀ entry ∈ entries, ReadsBack repr (.symbol entry.1))
    (each : ∀ entry ∈ entries, ReadsBack repr entry.2 ∨ Misses repr entry.2)
    (missed : ∃ entry ∈ entries, Misses repr entry.2) :
    Misses repr (.map entries) := by
  intro data rest limit deep
  obtain ⟨limit, rfl, shallow⟩ := ScValue.depth_map deep
  have contents := @entries_astray repr data rest limit entries [] names
    each missed shallow
  rw [ScValue.encode, List.append_assoc, List.append_assoc]
  refine Tx.Ensures.afterReading (callTag_consumes (by decide)) ?_
  refine Tx.Ensures.afterReading
    (scan_consumes (Reader.u32_consumes short)) ?_
  exact contents.andThen fun _ => inferInstance

/-- What holds addresses, none of which can be taken for values, is missed
when the parts of it that hold none are read back. -/
theorem misses {value : ScValue} (fits : value.Fits)
    (hidden : ∀ address ∈ value.addresses, Hidden address)
    (some : value.addresses ≠ []) : Misses repr value := by
  induction fits with
  | address value => exact .address (hidden value List.mem_cons_self)
  | @vec items short each induction =>
      rw [ScValue.addresses, ScValue.addressesOfItems_eq] at hidden some
      have missed : ∀ item ∈ items, item.addresses ≠ [] →
          Misses repr item := by
        intro item member
        exact induction item member fun address listed =>
          hidden address (List.mem_flatMap_of_mem member listed)
      refine .vec short ?_ ?_
      · intro item member
        by_cases plain : item.addresses = []
        · exact .inl (reads_back (each item member) plain)
        · exact .inr (missed item member plain)
      · by_contra none
        apply some
        rw [List.flatMap_eq_nil_iff]
        intro item member
        by_contra holds
        exact none ⟨item, member, missed item member holds⟩
  | @map entries short distinct names each _ induction =>
      rw [ScValue.addresses, ScValue.addressesOfEntries_eq] at hidden some
      have missed : ∀ entry ∈ entries, entry.2.addresses ≠ [] →
          Misses repr entry.2 := by
        intro entry member
        exact induction entry member fun address listed =>
          hidden address (List.mem_flatMap_of_mem member listed)
      refine .map short ?_ ?_ ?_
      · intro entry member
        exact reads_back (names entry member) rfl
      · intro entry member
        by_cases plain : entry.2.addresses = []
        · exact .inl (reads_back (each entry member) plain)
        · exact .inr (missed entry member plain)
      · by_contra none
        apply some
        rw [List.flatMap_eq_nil_iff]
        intro entry member
        by_contra holds
        exact none ⟨entry, member, missed entry member holds⟩
  | _ => exact absurd rfl some

end Misses

/-! A key that spells the start of a map, up to a string that takes in the
values behind the key. -/

def spellingKey : BytesN 32 :=
  0x0000000E_00000002_0000000C_00000004_61626364_0000000B_00000014_00000000

def spelledMap : ScValue := .map [("abcd", .u32 7)]

def spelledValue : ScValue :=
  .vec [.address (.account spellingKey), .bool false, spelledMap]

/-- The string holds the last word of the key, the boolean, and the start of
the map. -/
def spelledString : Bytes :=
  Xdr.fixed 4 0 ++ (ScValue.bool false).encode ++
    (Xdr.fixed 4 scvalMap ++ Xdr.fixed 4 1)

theorem spelled_layout :
    Xdr.fixed 32 spellingKey.toNat ++ ((ScValue.bool false).encode ++
        spelledMap.encode) =
      Xdr.fixed 4 scvalMap ++ (Xdr.fixed 4 2 ++
        (ScValue.encodeName "abcd" ++
          ((Xdr.fixed 4 scvalString ++ Xdr.padded spelledString) ++
            (ScValue.encodeName "abcd" ++ (ScValue.u32 7).encode)))) := by
  decide +kernel

section Spelled

variable {repr : Decoded → String} {data : Bytes} {limit : Nat}

/-- The entry under the name that comes twice is the second one. -/
theorem spelledMap_consumes :
    Tx.Consumes (Scanner.Ahead data) (decodeScval repr (limit + 2))
      (Xdr.fixed 32 spellingKey.toNat ++
        ((ScValue.bool false).encode ++ spelledMap.encode))
      spelledMap.render := by
  have count := scan_consumes (@Reader.u32_consumes data 2 (by decide))
  have name := @text_consumes repr data limit _ "abcd" (.inr rfl)
    (by decide)
  have string := @decodeScval_consumes repr data limit scvalString _ _
    (by decide) (@opaqueBytes_consumes data spelledString (by decide)).yielding
  have number := @reads_back repr _ (.u32 7) rfl data (limit + 1)
    (Nat.succ_pos limit)
  have entries : Tx.Consumes (Scanner.Ahead data)
      (decodeEntries repr (decodeScval repr (limit + 1)) 2 []) _ _ :=
    name.andThen (string.andThen (name.andThen number.yielding))
  rw [spelled_layout]
  apply decodeScval_consumes (by decide)
  refine Tx.Consumes.andThen count ?_
  exact entries.yielding

/-- Such an address is passed by accident. -/
theorem spelledValue_readsBack : ReadsBack repr spelledValue := by
  intro data limit deep rest scanner here
  obtain ⟨limit, rfl⟩ : ∃ fewer, limit = fewer + 3 :=
    Nat.exists_eq_add_of_le' deep
  have layout : spelledValue.encode ++ rest =
      Xdr.fixed 4 scvalVec ++ (Xdr.fixed 4 3 ++
        ((ScValue.address (.account spellingKey)).encode ++
          ((ScValue.bool false).encode ++ (spelledMap.encode ++ rest)))) := by
    simp [spelledValue, ScValue.encode, ScValue.encodeItems]
  have regrouped : Xdr.addressBody (.account spellingKey) ++
      ((ScValue.bool false).encode ++ (spelledMap.encode ++ rest)) =
        (Xdr.fixed 4 0 ++ Xdr.fixed 4 0) ++
          ((Xdr.fixed 32 spellingKey.toNat ++
            ((ScValue.bool false).encode ++ spelledMap.encode)) ++ rest) := by
    simp [Xdr.addressBody]
  rw [layout] at here
  obtain ⟨tagged, called, here⟩ :=
    callTag_consumes (by decide) _ scanner here
  obtain ⟨counted, count, here⟩ :=
    scan_consumes (Reader.u32_consumes (by decide)) _ tagged here
  obtain ⟨passed, first, here⟩ :=
    @address_stays repr _ _ (limit + 1) _ _ here
  rw [regrouped] at here
  obtain ⟨second, false, here⟩ :=
    @zeros_consumes repr data (limit + 1) _ passed here
  obtain ⟨after, third, here⟩ :=
    @spelledMap_consumes repr data limit _ second here
  refine ⟨after, ?_, here⟩
  rw [decodeScval, Tx.bind_of_ok called]
  refine (Tx.bind_of_ok count).trans ?_
  simp only [Tx.times, bind_assoc, pure_bind]
  rw [Tx.bind_of_ok first, Tx.bind_of_ok false, Tx.bind_of_ok third]
  rfl

end Spelled

/-- So a value may hold an address and still be decoded. -/
theorem exists_decodes_with_address (repr : Decoded → String) :
    ∃ value : ScValue, value.Fits ∧ value.addresses ≠ [] ∧
      Decodes repr value := by
  refine ⟨spelledValue, ?_, List.cons_ne_nil _ _,
    spelledValue_readsBack.decodes⟩
  have three : 3 < 2 ^ 32 := by decide
  have one : 1 < 2 ^ 32 := by decide
  refine .vec three ?_
  intro item member
  simp only [List.mem_cons, List.not_mem_nil, or_false] at member
  rcases member with rfl | rfl | rfl
  · exact .address _
  · exact .bool _
  · refine .map one (List.nodup_singleton _) ?_ ?_
    · intro entry member
      cases List.mem_singleton.mp member
      exact .symbol (by decide)
    · intro entry member
      cases List.mem_singleton.mp member
      exact .u32 7

end BettaPay.Scripts.Wire
