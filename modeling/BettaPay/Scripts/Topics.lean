import BettaPay.Scripts.Reader

namespace BettaPay.Scripts.Wire

open BettaPay.Host
open BettaPay.Host.Base64

/-! Event topics as the scripts read and write them: base64 text of a
serialized value, under the discriminants that the scripts declare. -/

def scvalBytes : Nat := 10

def scvalSymbol : Nat := 12

/-- `encode_symbol`, under any discriminant. -/
def encodeSymbolAs (tag : Nat) (symbol : Symbol) : String :=
  let raw := utf8Encode symbol
  let body := Xdr.fixed 4 tag ++ (Xdr.fixed 4 raw.length ++ raw)
  b64encode (body ++ List.replicate (pad raw.length) 0)

/-- A discriminant, which must be the expected one, and the bytes under
it. -/
def taggedBytes (tag : Nat) (mismatch : Nat → ValueError) : Read Bytes := do
  let found ← Reader.u32
  Tx.panicIf (found ≠ tag) (mismatch found)
  Reader.opaqueBytes

def readTopic {α : Type} (topic : String) (read : Read α) :
    Except ValueError α :=
  match b64decode topic with
  | none => .error .base64
  | some raw => (read ⟨raw, 0⟩).map Prod.fst

def decodeText (payload : Bytes) : Except ValueError String :=
  match utf8Decode payload with
  | none => .error .unicode
  | some text => .ok text

def decodeSymbolAs (tag : Nat) (topic : String) :
    Except ValueError String := do
  let payload ← readTopic topic (taggedBytes tag .notSymbol)
  decodeText payload

def decodeBytesNAs (tag : Nat) (topic : String) :
    Except ValueError String := do
  let payload ← readTopic topic (taggedBytes tag fun _ => .notBytes)
  pure (hex payload)

def encodeSymbol (symbol : Symbol) : String :=
  encodeSymbolAs scvalSymbol symbol

def decodeSymbol (topic : String) : Except ValueError String :=
  decodeSymbolAs scvalSymbol topic

def decodeBytesN (topic : String) : Except ValueError String :=
  decodeBytesNAs scvalBytes topic

/-- The operation hash: the second topic. -/
def extractOpHash : List String → Option String
  | _ :: second :: _ => (decodeBytesN second).toOption
  | _ => none

/-- A filter of a `getEvents` request. -/
structure EventFilter where
  contractIds : List String
  topic : List String

/-- The filters that `fetch_events` sends for the names of events. -/
def topicFilters (contractId : String) (topic0Names : List Symbol) :
    List EventFilter :=
  topic0Names.map fun name => ⟨[contractId], [encodeSymbol name]⟩

/-- A topic as the chain reports it. -/
def chainText (value : Val) : String := b64encode value.toXdr

/-- The filter is for this contract and its first topic. -/
def EventFilter.Selects (filter : EventFilter) (event : RpcEvent) : Prop :=
  event.contractId ∈ filter.contractIds ∧
    (event.topic.map chainText).head? = filter.topic.head?

/-! Decoding what the chain reports. -/

section Decoding

variable {tag : Nat} {mismatch : Nat → ValueError}

theorem readTopic_b64encode {α : Type} (read : Read α) (raw : Bytes) :
    readTopic (b64encode raw) read = (read ⟨raw, 0⟩).map Prod.fst := by
  rw [readTopic, b64decode_b64encode]

theorem taggedBytes_other {found : Nat} {body : Bytes}
    (bounded : found < 2 ^ 32) (other : found ≠ tag) :
    taggedBytes tag mismatch ⟨Xdr.fixed 4 found ++ body, 0⟩ =
      .error (mismatch found) := by
  obtain ⟨after, read, _⟩ :=
    Reader.u32_ahead (Reader.at_start (Xdr.fixed 4 found ++ body)) bounded
  rw [taggedBytes, Tx.bind_of_ok read]
  exact Tx.bind_error.mpr (.inl (by simp [other]))

theorem taggedBytes_padded {bytes rest : Bytes} (bounded : tag < 2 ^ 32)
    (short : bytes.length < 2 ^ 32) :
    (taggedBytes tag mismatch
      ⟨Xdr.fixed 4 tag ++ (Xdr.padded bytes ++ rest), 0⟩).map Prod.fst =
        .ok bytes := by
  obtain ⟨loaded, read, ahead⟩ := Reader.u32_ahead
    (Reader.at_start (Xdr.fixed 4 tag ++ (Xdr.padded bytes ++ rest))) bounded
  obtain ⟨after, taken, _⟩ := Reader.opaqueBytes_ahead ahead short
  have passed : (Tx.panicIf (tag ≠ tag) (mismatch tag) : Read Unit) loaded =
      .ok ((), loaded) := by
    simp
  rw [taggedBytes, Tx.bind_of_ok read, Tx.bind_of_ok passed, taken]
  rfl

theorem discriminant_bounded (value : Val) :
    value.discriminant < 2 ^ 32 := by
  have bound := value.discriminant_lt
  omega

theorem decodeSymbolAs_other {value : Val}
    (other : value.discriminant ≠ tag) :
    decodeSymbolAs tag (chainText value) =
      .error (.notSymbol value.discriminant) := by
  rw [decodeSymbolAs, chainText, readTopic_b64encode, Val.toXdr,
    taggedBytes_other (discriminant_bounded value) other]
  rfl

theorem decodeBytesNAs_other {value : Val}
    (other : value.discriminant ≠ tag) :
    decodeBytesNAs tag (chainText value) = .error .notBytes := by
  rw [decodeBytesNAs, chainText, readTopic_b64encode, Val.toXdr,
    taggedBytes_other (discriminant_bounded value) other]
  rfl

end Decoding

theorem ascii_length (name : Symbol) :
    (Xdr.ascii name).length = name.length := by
  rw [Xdr.ascii, List.length_map, String.length_toList]

theorem decodeSymbolAs_symbol (symbol : ScSymbol) :
    decodeSymbolAs 15 (chainText (.symbol symbol.text)) =
      .ok symbol.text := by
  have short := symbol.short
  rw [decodeSymbolAs, chainText, readTopic_b64encode, Val.toXdr,
    Val.discriminant, Val.body, ← List.append_nil (Xdr.padded _),
    taggedBytes_padded (by decide) (by rw [ascii_length]; omega),
    ← utf8Encode_ascii symbol.ascii_letters]
  change decodeText (utf8Encode symbol.text) = _
  rw [decodeText, utf8Decode_utf8Encode]

theorem decodeBytesNAs_bytes {bytes : Bytes}
    (short : bytes.length < 2 ^ 32) :
    decodeBytesNAs 13 (chainText (.bytes bytes)) = .ok (hex bytes) := by
  rw [decodeBytesNAs, chainText, readTopic_b64encode, Val.toXdr,
    Val.discriminant, Val.body, ← List.append_nil (Xdr.padded _),
    taggedBytes_padded (by decide) short]
  rfl

theorem encodeSymbolAs_eq (tag : Nat) (symbol : ScSymbol) :
    encodeSymbolAs tag symbol.text =
      b64encode (Xdr.fixed 4 tag ++ Xdr.padded (Xdr.ascii symbol.text)) := by
  rw [encodeSymbolAs, utf8Encode_ascii symbol.ascii_letters, Xdr.padded]
  simp only [pad, List.append_assoc]

theorem tag_of_encodeSymbolAs {tag : Nat} {name : String} {value : Symbol}
    (bounded : tag < 2 ^ 32)
    (same : encodeSymbolAs tag name = chainText (.symbol value)) :
    tag = 15 := by
  have bytes := b64encode_injective same
  simp only [List.append_assoc, Val.toXdr] at bytes
  exact (Xdr.fixed_append_injective bounded (discriminant_bounded _) bytes).1

theorem discriminant_eq_symbol {value : Val} :
    value.discriminant = 15 ↔ ∃ name, value = .symbol name := by
  cases value <;> simp [Val.discriminant]

theorem discriminant_eq_bytes {value : Val} :
    value.discriminant = 13 ↔ ∃ bytes, value = .bytes bytes := by
  cases value <;> simp [Val.discriminant]

/-- With these discriminants the scripts read and write topics in the format
of the chain. -/
structure ReadsChain (symbolTag bytesTag : Nat) : Prop where
  encodes : ∀ symbol : ScSymbol,
    encodeSymbolAs symbolTag symbol.text = chainText (.symbol symbol.text)
  decodes : ∀ symbol : ScSymbol,
    decodeSymbolAs symbolTag (chainText (.symbol symbol.text)) =
      .ok symbol.text
  hexes : ∀ bytes : Bytes, bytes.length < 2 ^ 32 →
    decodeBytesNAs bytesTag (chainText (.bytes bytes)) = .ok (hex bytes)
  rejectsSymbol : ∀ value, (∀ name, value ≠ .symbol name) →
    ∃ error, decodeSymbolAs symbolTag (chainText value) = .error error
  rejectsBytes : ∀ value, (∀ bytes, value ≠ .bytes bytes) →
    ∃ error, decodeBytesNAs bytesTag (chainText value) = .error error

/-- The discriminants are all that keeps the scripts from it. -/
theorem readsChain_iff {symbolTag bytesTag : Nat}
    (bounded : symbolTag < 2 ^ 32) :
    ReadsChain symbolTag bytesTag ↔ symbolTag = 15 ∧ bytesTag = 13 := by
  constructor
  · intro reads
    constructor
    · exact tag_of_encodeSymbolAs bounded
        (reads.encodes ⟨"", by decide, by simp⟩)
    · by_contra other
      have read := reads.hexes [] (by decide)
      rw [decodeBytesNAs_other (fun same => other same.symm)] at read
      cases read
  · intro tags
    obtain ⟨rfl, rfl⟩ := tags
    refine ⟨encodeSymbolAs_eq 15, decodeSymbolAs_symbol,
      fun _ => decodeBytesNAs_bytes, ?_, ?_⟩
    · intro value other
      refine ⟨_, decodeSymbolAs_other fun same => ?_⟩
      obtain ⟨name, found⟩ := discriminant_eq_symbol.mp same
      exact other name found
    · intro value other
      refine ⟨_, decodeBytesNAs_other fun same => ?_⟩
      obtain ⟨bytes, found⟩ := discriminant_eq_bytes.mp same
      exact other bytes found

/-! The discriminants that the scripts declare are those of other kinds. -/

theorem encodeSymbol_ne_chainText (name : String) (value : Symbol) :
    encodeSymbol name ≠ chainText (.symbol value) := by
  intro same
  have tag := tag_of_encodeSymbolAs (by decide) same
  exact absurd tag (by decide)

theorem decodeSymbol_symbol (name : Symbol) :
    decodeSymbol (chainText (.symbol name)) = .error (.notSymbol 15) := by
  apply decodeSymbolAs_other
  rw [Val.discriminant]
  decide

theorem decodeBytesN_bytes (bytes : Bytes) :
    decodeBytesN (chainText (.bytes bytes)) = .error .notBytes := by
  apply decodeBytesNAs_other
  rw [Val.discriminant]
  decide

theorem topicFilters_miss {contractId : String} {names : List Symbol}
    {filter : EventFilter} (sent : filter ∈ topicFilters contractId names)
    {event : RpcEvent} {symbol : Symbol}
    (named : event.topic.head? = some (.symbol symbol)) :
    ¬ filter.Selects event := by
  intro selects
  obtain ⟨name, _, rfl⟩ := List.mem_map.mp sent
  have topics := selects.2
  rw [List.head?_map, named] at topics
  exact encodeSymbol_ne_chainText name symbol (Option.some.inj topics).symm

/-- The symbol's discriminant is that of a 256-bit number on the chain, and
such a number may read as the empty symbol. -/
theorem decodeSymbol_i256 (value : SInt 256) (zero : value.val = 0) :
    decodeSymbol (chainText (.i256 value)) = .ok "" := by
  have read : (taggedBytes scvalSymbol .notSymbol
      ⟨(Val.i256 value).toXdr, 0⟩).map Prod.fst = .ok [] := by
    have body : Xdr.fixed 32 (0 % 256 ^ 32 : Int).toNat =
        Xdr.padded [] ++ List.replicate 28 0 := by
      decide
    rw [Val.toXdr, Val.discriminant, Val.body, Xdr.signed, zero, body]
    exact taggedBytes_padded (by decide) (by decide)
  rw [decodeSymbol, decodeSymbolAs, chainText, readTopic_b64encode, read]
  change decodeText (utf8Encode "") = _
  rw [decodeText, utf8Decode_utf8Encode]

theorem decodeBytesN_i128 (value : I128) (zero : value.val = 0) :
    decodeBytesN (chainText (.i128 value)) = .ok "" := by
  have read : (taggedBytes scvalBytes (fun _ => .notBytes)
      ⟨(Val.i128 value).toXdr, 0⟩).map Prod.fst = .ok [] := by
    have body : Xdr.fixed 16 (0 % 256 ^ 16 : Int).toNat =
        Xdr.padded [] ++ List.replicate 12 0 := by
      decide
    rw [Val.toXdr, Val.discriminant, Val.body, Xdr.signed, zero, body]
    exact taggedBytes_padded (by decide) (by decide)
  rw [decodeBytesN, decodeBytesNAs, chainText, readTopic_b64encode, read]
  rfl

/-- No symbol is encoded as the chain encodes it, and no symbol and no bytes of
the chain are decoded, while values of two other kinds are. So no filter
selects an event named by a symbol, and no operation hash is recovered. -/
theorem topics_never_in_chain_format (symbol : ScSymbol) (bytes : Bytes) :
    encodeSymbol symbol.text ≠ chainText (.symbol symbol.text) ∧
    decodeSymbol (chainText (.symbol symbol.text)) =
      .error (.notSymbol 15) ∧
    decodeBytesN (chainText (.bytes bytes)) = .error .notBytes ∧
    (∃ value, (∀ name, value ≠ .symbol name) ∧
      decodeSymbol (chainText value) = .ok "") ∧
    (∃ value, (∀ other, value ≠ .bytes other) ∧
      decodeBytesN (chainText value) = .ok "") ∧
    (∀ contractId names, ∀ filter ∈ topicFilters contractId names,
      ∀ event : RpcEvent, event.topic.head? = some (.symbol symbol.text) →
        ¬ filter.Selects event) ∧
    ∀ topic0 rest,
      extractOpHash ((topic0 :: .bytes bytes :: rest).map chainText) =
        none := by
  refine ⟨encodeSymbol_ne_chainText _ _, decodeSymbol_symbol _,
    decodeBytesN_bytes _, ?_, ?_, ?_, ?_⟩
  · exact ⟨.i256 ⟨0, by decide, by decide⟩, by simp,
      decodeSymbol_i256 _ rfl⟩
  · exact ⟨.i128 ⟨0, by decide, by decide⟩, by simp,
      decodeBytesN_i128 _ rfl⟩
  · intro contractId names filter sent event named
    exact topicFilters_miss sent named
  · intro topic0 rest
    simp only [List.map_cons, extractOpHash, decodeBytesN_bytes]
    rfl

/-- The contract's own event names are among them. -/
theorem op_scheduled_not_in_chain_format :
    ¬ ReadsChain scvalSymbol scvalBytes := by
  intro reads
  have read := reads.decodes ⟨opScheduled, by decide, by simp [opScheduled]⟩
  have refused := decodeSymbol_symbol opScheduled
  rw [decodeSymbol, read] at refused
  cases refused

end BettaPay.Scripts.Wire
