import BettaPay.Scripts.ScValue

namespace BettaPay.Scripts.Wire

open BettaPay.Host

/-! What the decoder makes of encoded values. -/

/-- The bytes ahead of the cursor, over the given data. -/
def Scanner.Ahead (data rest : Bytes) (scanner : Scanner) : Prop :=
  scanner.toReader.Ahead data rest

theorem Scanner.ahead_start (data : Bytes) :
    (Scanner.start data).Ahead data data :=
  ⟨rfl, Reader.at_start data⟩

theorem Scanner.Ahead.pos_eq {front rest : Bytes} {scanner : Scanner}
    (ahead : scanner.Ahead (front ++ rest) rest) :
    scanner.pos = front.length := by
  obtain ⟨same, passed, whole, pos⟩ := ahead
  rw [same] at whole
  rw [pos, List.append_cancel_right whole]

section Reads

variable {α : Type} {data bytes : Bytes} {read : Read α} {value : α}

theorem scan_consumes
    (consumes : Tx.Consumes (Reader.Ahead data) read bytes value) :
    Tx.Consumes (Scanner.Ahead data) (scan read) bytes value := by
  intro rest scanner here
  obtain ⟨reader, ran, behind⟩ := consumes rest scanner.toReader here
  refine ⟨⟨reader, scanner.calls, reader.pos :: scanner.trail⟩, ?_, behind⟩
  rw [scan, ran]

theorem opaqueBytes_consumes (short : bytes.length < 2 ^ 32) :
    Tx.Consumes (Scanner.Ahead data) Scanner.opaqueBytes
      (Xdr.padded bytes) bytes := by
  have count := scan_consumes (@Reader.u32_consumes data _ short)
  have payload := scan_consumes (@Reader.take_consumes data _ bytes rfl)
  have padding := scan_consumes (@Reader.take_consumes data
    (pad bytes.length) (List.replicate (pad bytes.length) 0)
    List.length_replicate)
  rw [Xdr.padded, List.append_assoc]
  refine Tx.Consumes.andThen count (Tx.Consumes.andThen payload ?_)
  exact padding.yielding

/-- Both kinds of long number: a half of either sign, then the low half. -/
theorem halves_consume {number : Type} {readHigh : Read number}
    {join : number → Nat → α} {high : number} {low : Nat} {first : Bytes}
    (bounded : low < 2 ^ 64)
    (consumes : Tx.Consumes (Reader.Ahead data) readHigh first high) :
    Tx.Consumes (Scanner.Ahead data) (do
      let high ← scan readHigh
      let low ← scan Reader.u64
      pure (join high low)) (first ++ Xdr.fixed 8 low) (join high low) := by
  have lowHalf := scan_consumes (@Reader.u64_consumes data low bounded)
  refine Tx.Consumes.andThen (scan_consumes consumes) ?_
  exact lowHalf.yielding

theorem u128_consumes (value : BitVec 128) :
    Tx.Consumes (Scanner.Ahead data) Scanner.u128
      (Xdr.fixed 16 value.toNat) value.toNat := by
  have bound := value.isLt
  have whole : value.toNat / 256 ^ 8 * 2 ^ 64 + value.toNat % 256 ^ 8 =
      value.toNat := by
    omega
  have high := @Reader.u64_consumes data (value.toNat / 256 ^ 8) (by omega)
  have joined := @halves_consume _ data _ _
    (fun high low => high * 2 ^ 64 + low) _ (value.toNat % 256 ^ 8) _
    (by omega) high
  rw [whole, ← Xdr.fixed_add (by omega)] at joined
  exact joined

/-- The high half carries the sign. -/
theorem signed_halves (value : I128) :
    Xdr.signed 16 value.val = Xdr.signed 8 (value.val / 256 ^ 8) ++
      Xdr.fixed 8 (value.val % 256 ^ 8).toNat := by
  have lower := value.lower
  have upper := value.upper
  have high : (value.val % 256 ^ 16).toNat / 256 ^ 8 =
      (value.val / 256 ^ 8 % 256 ^ 8).toNat := by
    omega
  have low : (value.val % 256 ^ 16).toNat % 256 ^ 8 =
      (value.val % 256 ^ 8).toNat := by
    omega
  rw [Xdr.signed, Xdr.signed, ← high, ← low]
  exact @Xdr.fixed_add 8 8 _ (by omega)

theorem i128_consumes (value : I128) :
    Tx.Consumes (Scanner.Ahead data) Scanner.i128
      (Xdr.signed 16 value.val) value.val := by
  have lower := value.lower
  have upper := value.upper
  have whole : value.val / 256 ^ 8 * 2 ^ 64 +
      ((value.val % 256 ^ 8).toNat : Nat) = value.val := by
    omega
  have high := @Reader.i64_consumes data (value.val / 256 ^ 8) (by omega)
    (by omega)
  have joined := @halves_consume _ data _ _
    (fun (high : Int) (low : Nat) => high * 2 ^ 64 + low) _
    (value.val % 256 ^ 8).toNat _ (by omega) high
  rw [whole, ← signed_halves] at joined
  exact joined

end Reads

section Calls

variable {repr : Decoded → String} {data : Bytes} {limit : Nat}

theorem callTag_consumes {tag : Nat} (bounded : tag < 2 ^ 32) :
    Tx.Consumes (Scanner.Ahead data) callTag (Xdr.fixed 4 tag) tag := by
  intro rest scanner here
  exact scan_consumes (Reader.u32_consumes bounded) rest
    { scanner with calls := scanner.calls + 1 } here

/-- A call reads its tag back, and then what the branch reads. -/
theorem decodeScval_consumes {tag : Nat} {body : Bytes} {value : Decoded}
    (bounded : tag < 2 ^ 32)
    (branch : Tx.Consumes (Scanner.Ahead data)
      (decodeTagged repr (decodeScval repr limit) tag) body value) :
    Tx.Consumes (Scanner.Ahead data) (decodeScval repr (limit + 1))
      (Xdr.fixed 4 tag ++ body) value :=
  Tx.Consumes.andThen (callTag_consumes bounded) branch

theorem text_consumes {tag : Nat} {text : String}
    (textual : tag = scvalString ∨ tag = scvalSymbol)
    (short : (utf8Encode text).length < 2 ^ 32) :
    Tx.Consumes (Scanner.Ahead data) (decodeScval repr (limit + 1))
      (Xdr.fixed 4 tag ++ Xdr.padded (utf8Encode text)) (.str text) := by
  have payload := @opaqueBytes_consumes data _ short
  have read : Decoded.str (utf8DecodeEscaped (utf8Encode text)) =
      .str text := by
    rw [utf8DecodeEscaped_utf8Encode]
  rw [← read]
  rcases textual with rfl | rfl
  · exact decodeScval_consumes (by decide) payload.yielding
  · exact decodeScval_consumes (by decide) payload.yielding

end Calls

section Entries

variable {repr : Decoded → String} {data : Bytes} {decode : Scan Decoded}

/-- Another name gets an entry of its own, behind the others. -/
theorem setItem_fresh {name : Symbol} {value : Decoded}
    {entries : List (Symbol × ScValue)}
    (fresh : name ∉ entries.map Prod.fst) :
    setItem (.str name) value (ScValue.renderEntries entries) =
      ScValue.renderEntries entries ++ [(.str name, value)] := by
  induction entries with
  | nil => rfl
  | cons entry rest induction =>
      obtain ⟨found, old⟩ := entry
      rw [List.map_cons, List.mem_cons, not_or] at fresh
      have other : sameKey (.str found) (.str name) = false :=
        decide_eq_false (Ne.symm fresh.1)
      rw [ScValue.renderEntries, setItem, other,
        if_neg Bool.false_ne_true, induction fresh.2, List.cons_append]

/-- The entries follow those that the dictionary has from before. -/
theorem decodeEntries_consumes {done entries : List (Symbol × ScValue)}
    (distinct : ((done ++ entries).map Prod.fst).Nodup)
    (names : ∀ entry ∈ entries, Tx.Consumes (Scanner.Ahead data) decode
      (ScValue.encodeName entry.1) (.str entry.1))
    (values : ∀ entry ∈ entries, Tx.Consumes (Scanner.Ahead data) decode
      entry.2.encode entry.2.render) :
    Tx.Consumes (Scanner.Ahead data)
      (decodeEntries repr decode entries.length
        (ScValue.renderEntries done))
      (ScValue.encodeEntries entries)
      (ScValue.renderEntries (done ++ entries)) := by
  induction entries generalizing done with
  | nil =>
      rw [List.append_nil]
      exact Tx.Consumes.pure
  | cons entry rest induction =>
      obtain ⟨name, value⟩ := entry
      have key := names (name, value) List.mem_cons_self
      have contents := values (name, value) List.mem_cons_self
      have fresh : name ∉ done.map Prod.fst := by
        rw [List.map_append, List.map_cons, List.nodup_append] at distinct
        intro listed
        exact distinct.2.2 name listed name List.mem_cons_self rfl
      rw [List.append_cons] at distinct ⊢
      have others := induction distinct
        (fun other member => names other (List.mem_cons_of_mem _ member))
        (fun other member => values other (List.mem_cons_of_mem _ member))
      have grown : ScValue.renderEntries (done ++ [(name, value)]) =
          setItem (.str name) value.render (ScValue.renderEntries done) := by
        rw [setItem_fresh fresh, ScValue.renderEntries_eq,
          ScValue.renderEntries_eq, List.map_append]
        rfl
      rw [grown] at others
      exact key.andThen (contents.andThen others)

end Entries

/-- Over any bytes, a value is read to its end and rendered. -/
def ReadsBack (repr : Decoded → String) (value : ScValue) : Prop :=
  ∀ data limit, value.depth ≤ limit →
    Tx.Consumes (Scanner.Ahead data) (decodeScval repr limit) value.encode
      value.render

section ReadsBack

variable {repr : Decoded → String}

/-- A value without parts is read by one call. -/
theorem ReadsBack.of_leaf {value : ScValue} {tag : Nat} {body : Bytes}
    (flat : value.depth = 1) (layout : value.encode = Xdr.fixed 4 tag ++ body)
    (bounded : tag < 2 ^ 32)
    (branch : ∀ data decode, Tx.Consumes (Scanner.Ahead data)
      (decodeTagged repr decode tag) body value.render) :
    ReadsBack repr value := by
  intro data limit deep
  rw [flat] at deep
  obtain ⟨limit, rfl⟩ := Nat.exists_eq_add_of_le' deep
  rw [layout]
  exact decodeScval_consumes bounded (branch data _)

theorem ReadsBack.vec {items : List ScValue}
    (short : items.length < 2 ^ 32)
    (each : ∀ item ∈ items, ReadsBack repr item) :
    ReadsBack repr (.vec items) := by
  intro data limit deep
  obtain ⟨limit, rfl, within⟩ := ScValue.depth_vec deep
  have contents : Tx.Consumes (Scanner.Ahead data)
      (Tx.times (decodeScval repr limit) items.length)
      (ScValue.encodeItems items) (ScValue.renderItems items) := by
    rw [ScValue.encodeItems_eq, ScValue.renderItems_eq]
    apply Tx.Consumes.times
    intro item member
    exact each item member data limit (within item member)
  have count := scan_consumes (@Reader.u32_consumes data _ short)
  apply decodeScval_consumes (by decide)
  refine Tx.Consumes.andThen count ?_
  exact contents.yielding

theorem ReadsBack.map {entries : List (Symbol × ScValue)}
    (short : entries.length < 2 ^ 32)
    (distinct : (entries.map Prod.fst).Nodup)
    (names : ∀ entry ∈ entries, (utf8Encode entry.1).length < 2 ^ 32)
    (each : ∀ entry ∈ entries, ReadsBack repr entry.2) :
    ReadsBack repr (.map entries) := by
  intro data limit deep
  obtain ⟨limit, rfl, within⟩ := ScValue.depth_map deep
  have contents := @decodeEntries_consumes repr data
    (decodeScval repr limit) [] entries distinct
    (by
      intro entry member
      obtain ⟨limit, rfl⟩ := Nat.exists_eq_add_of_le'
        ((ScValue.depth_pos entry.2).trans_le (within entry member))
      exact text_consumes (.inr rfl) (names entry member))
    (fun entry member =>
      each entry member data limit (within entry member))
  have count := scan_consumes (@Reader.u32_consumes data _ short)
  apply decodeScval_consumes (by decide)
  refine Tx.Consumes.andThen count ?_
  exact contents.yielding

/-- What holds no address is read back. -/
theorem reads_back {value : ScValue} (fits : value.Fits)
    (plain : value.addresses = []) : ReadsBack repr value := by
  induction fits with
  | bool value =>
      apply ReadsBack.of_leaf rfl rfl (by decide)
      intro data decode
      have read := scan_consumes (@Reader.u32_consumes data value.toNat
        (by cases value <;> decide))
      cases value <;> exact read.yielding
  | u32 value =>
      apply ReadsBack.of_leaf rfl rfl (by decide)
      intro data decode
      exact (scan_consumes (Reader.u32_consumes value.toNat_lt)).yielding
  | i32 value =>
      apply ReadsBack.of_leaf rfl rfl (by decide)
      intro data decode
      exact (scan_consumes (Reader.i32_consumes value)).yielding
  | u64 value =>
      apply ReadsBack.of_leaf rfl rfl (by decide)
      intro data decode
      exact (scan_consumes (Reader.u64_consumes value.toNat_lt)).yielding
  | i64 value =>
      apply ReadsBack.of_leaf rfl rfl (by decide)
      intro data decode
      exact (scan_consumes
        (Reader.i64_consumes value.lower value.upper)).yielding
  | u128 value =>
      apply ReadsBack.of_leaf rfl rfl (by decide)
      intro data decode
      exact (u128_consumes value).yielding
  | i128 value =>
      apply ReadsBack.of_leaf rfl rfl (by decide)
      intro data decode
      exact (i128_consumes value).yielding
  | bytes short =>
      apply ReadsBack.of_leaf rfl rfl (by decide)
      intro data decode
      exact (opaqueBytes_consumes short).yielding
  | string short =>
      intro data limit deep
      obtain ⟨limit, rfl⟩ := Nat.exists_eq_add_of_le' deep
      exact text_consumes (.inl rfl) short
  | symbol short =>
      intro data limit deep
      obtain ⟨limit, rfl⟩ := Nat.exists_eq_add_of_le' deep
      exact text_consumes (.inr rfl) short
  | address value => cases plain
  | vec short each induction =>
      rw [ScValue.addresses, ScValue.addressesOfItems_eq,
        List.flatMap_eq_nil_iff] at plain
      exact .vec short fun item member =>
        induction item member (plain item member)
  | map short distinct names each _ induction =>
      rw [ScValue.addresses, ScValue.addressesOfEntries_eq,
        List.flatMap_eq_nil_iff] at plain
      refine .map short distinct ?_ fun entry member =>
        induction entry member (plain entry member)
      intro entry member
      cases names entry member with
      | symbol short => exact short

/-- Before any bytes, the encoding of a value decodes to the value, and the
cursor ends where those bytes start. -/
def Decodes (repr : Decoded → String) (value : ScValue) : Prop :=
  ∀ rest limit, value.depth ≤ limit →
    ∃ after : Scanner,
      decodeScval repr limit (Scanner.start (value.encode ++ rest)) =
        .ok (value.render, after) ∧ after.pos = value.encode.length

theorem ReadsBack.decodes {value : ScValue}
    (readsBack : ReadsBack repr value) : Decodes repr value := by
  intro rest limit deep
  obtain ⟨after, ran, behind⟩ :=
    readsBack _ limit deep rest _ (Scanner.ahead_start _)
  exact ⟨after, ran, behind.pos_eq⟩

end ReadsBack

end BettaPay.Scripts.Wire
