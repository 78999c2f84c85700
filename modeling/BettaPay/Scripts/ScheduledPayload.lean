import BettaPay.Scripts.Misreading

namespace BettaPay.Scripts.Wire

open BettaPay.Host

/-! The payload of `op_scheduled`, `(caller, execute_at)`. -/

def scheduledPayload (caller : Address) (executeAt : UInt64) : ScValue :=
  .vec [.address caller, .u64 executeAt]

section Payload

variable {repr : Decoded → String} {data : Bytes} {scanner : Scanner}
  {caller : Address} {executeAt : UInt64} {limit : Nat}

theorem scheduledPayload_encode :
    (scheduledPayload caller executeAt).encode =
      Xdr.fixed 4 scvalVec ++ (Xdr.fixed 4 2 ++
        ((ScValue.address caller).encode ++
          (ScValue.u64 executeAt).encode)) := by
  simp [scheduledPayload, ScValue.encode, ScValue.encodeItems]

/-- The second item is read from the address of the first. -/
theorem scheduledPayload_decodes
    (here : scanner.Ahead data
      (scheduledPayload caller executeAt).encode) :
    ∃ middle : Scanner,
      middle.Ahead data
        (Xdr.addressBody caller ++ (ScValue.u64 executeAt).encode) ∧
      decodeScval repr (limit + 2) scanner =
        (decodeScval repr (limit + 1) >>= fun second => pure
          (.list [.str (ScValue.addressText caller), second])) middle := by
  rw [scheduledPayload_encode] at here
  obtain ⟨tagged, called, here⟩ :=
    callTag_consumes (by decide) _ scanner here
  obtain ⟨counted, count, here⟩ :=
    scan_consumes (Reader.u32_consumes (by decide)) _ tagged here
  obtain ⟨middle, first, here⟩ := @address_stays repr _ _ limit _ _ here
  refine ⟨middle, here, ?_⟩
  rw [decodeScval, Tx.bind_of_ok called]
  refine (Tx.bind_of_ok count).trans ?_
  simp only [Tx.times, bind_assoc, pure_bind]
  exact Tx.bind_of_ok first

/-- The zero words before a key are the boolean that follows. -/
theorem scheduledPayload_account {key : BytesN 32}
    (here : scanner.Ahead data
      (scheduledPayload (.account key) executeAt).encode) :
    ∃ after, decodeScval repr (limit + 2) scanner =
      .ok (.list [.str (ScValue.addressText (.account key)), .bool false],
        after) := by
  obtain ⟨middle, before, decodes⟩ :=
    @scheduledPayload_decodes repr _ _ _ _ limit here
  rw [Xdr.addressBody, ← List.append_assoc, List.append_assoc] at before
  obtain ⟨after, read, _⟩ :=
    @zeros_consumes repr data limit _ middle before
  refine ⟨after, ?_⟩
  rw [decodes, Tx.bind_of_ok read]
  rfl

theorem scheduledPayload_contract {id : BytesN 32}
    (here : scanner.Ahead data
      (scheduledPayload (.contract id) executeAt).encode) :
    ∃ stop, decodeScval repr (limit + 2) scanner = .error stop ∧
      stop.raised = .unsupported 1 := by
  obtain ⟨middle, before, decodes⟩ :=
    @scheduledPayload_decodes repr _ _ _ _ limit here
  rw [Xdr.addressBody, List.append_assoc] at before
  obtain ⟨stop, refused, raised⟩ := @decodeScval_undeclared repr _ _ limit
    _ _ (by decide) (by decide) before
  refine ⟨stop, ?_, raised⟩
  rw [decodes]
  exact Tx.bind_error.mpr (.inl refused)

/-- What the scripts take from the event. -/
def readSchedule (repr : Decoded → String) (limit : Nat) (raw : Bytes) :
    Except Raised (Option String × Option Int) :=
  (decodeEventValue repr limit (Base64.b64encode raw)).map
    extractScheduledPayload

theorem length_addressText (address : Address) :
    (ScValue.addressText address).length = 56 := by
  cases address <;> exact length_strkeyEncode (Xdr.length_fixed 32 _)

/-- The caller of an account is read, and `False` as its `execute_at`. -/
theorem readSchedule_account {key : BytesN 32} :
    readSchedule repr (limit + 2)
        (scheduledPayload (.account key) executeAt).encode =
      .ok (some (ScValue.addressText (.account key)), some 0) := by
  obtain ⟨after, decodes⟩ := @scheduledPayload_account repr
    _ _ executeAt limit key (Scanner.ahead_start _)
  rw [readSchedule,
    decodeEventValue_ok (Base64.b64decode_b64encode _) decodes]
  simp [Except.map, extractScheduledPayload, extractItem, Decoded.asCaller,
    Decoded.asInt, length_addressText]

/-- Nothing is read of the payload of a contract. -/
theorem readSchedule_contract {id : BytesN 32} :
    readSchedule repr (limit + 2)
        (scheduledPayload (.contract id) executeAt).encode =
      .ok (none, none) := by
  obtain ⟨stop, decodes, raised⟩ := @scheduledPayload_contract repr
    _ _ executeAt limit id (Scanner.ahead_start _)
  have caught : stop.raised.isValueError = true := by
    rw [raised]
    rfl
  rw [readSchedule,
    decodeEventValue_caught (Base64.b64decode_b64encode _) decodes caught]
  rfl

theorem scheduledPayload_fits :
    (scheduledPayload caller executeAt).Fits := by
  have short : 2 < 2 ^ 32 := by decide
  refine .vec short ?_
  intro item member
  rcases List.mem_pair.mp member with rfl | rfl
  · exact .address caller
  · exact .u64 executeAt

theorem readSchedule_iff :
    readSchedule repr (limit + 2)
        (scheduledPayload caller executeAt).encode =
      .ok (some (ScValue.addressText caller), some executeAt.toNat) ↔
    (∃ key, caller = .account key) ∧ executeAt = 0 := by
  cases caller with
  | account key =>
      rw [readSchedule_account]
      constructor
      · intro same
        cases zero : executeAt.toNat with
        | zero => exact ⟨⟨key, rfl⟩, UInt64.toNat_inj.mp zero⟩
        | succ _ =>
            rw [zero] at same
            cases same
      · rintro ⟨_, rfl⟩
        rfl
  | contract id =>
      rw [readSchedule_contract]
      simp

end Payload

section Values

variable {repr : Decoded → String} {value : ScValue}

theorem decodes_iff_of_hidden (fits : value.Fits)
    (hidden : ∀ address ∈ value.addresses, Hidden address) :
    Decodes repr value ↔ value.addresses = [] := by
  constructor
  · intro decodes
    by_contra some
    exact (misses fits hidden some).not_decodes decodes
  · intro plain
    exact (reads_back fits plain).decodes

/-- With contracts for its addresses, a value is not decoded. -/
theorem readdressed_decodes_iff (fits : value.Fits) :
    (∀ replace, Decodes repr (value.readdress replace)) ↔
      value.addresses = [] := by
  constructor
  · intro decodes
    have renamed := @ScValue.addresses_readdress value
      (fun _ => .contract 0) fits
    have hidden : ∀ address ∈
        (value.readdress fun _ => .contract 0).addresses,
        Hidden address := by
      intro address member
      rw [renamed] at member
      obtain ⟨_, _, rfl⟩ := List.mem_map.mp member
      trivial
    have none := (decodes_iff_of_hidden fits.readdress hidden).mp (decodes _)
    rw [renamed] at none
    exact List.map_eq_nil_iff.mp none
  · intro plain replace
    apply (reads_back fits.readdress _).decodes
    rw [ScValue.addresses_readdress fits, plain]
    rfl

end Values

/-- A value is decoded, whatever follows it, exactly when it holds no
address. The converse is about addresses that cannot be taken for values,
and about the shape of a value when all addresses are allowed in it. The
payload of a scheduled operation is read when `execute_at` happens to be
what the address is taken for. -/
theorem decodes_iff_no_address (repr : Decoded → String) :
    (∀ value : ScValue, value.Fits →
      (∀ address ∈ value.addresses, Hidden address) →
        (Decodes repr value ↔ value.addresses = [])) ∧
    (∀ value : ScValue, value.Fits →
      ((∀ replace, Decodes repr (value.readdress replace)) ↔
        value.addresses = [])) ∧
    ∀ caller executeAt limit,
      readSchedule repr (limit + 2)
          (scheduledPayload caller executeAt).encode =
        .ok (some (ScValue.addressText caller), some executeAt.toNat) ↔
      (∃ key, caller = .account key) ∧ executeAt = 0 := by
  refine ⟨?_, ?_, ?_⟩
  · intro value fits hidden
    exact decodes_iff_of_hidden fits hidden
  · intro value fits
    exact readdressed_decodes_iff fits
  · intro caller executeAt limit
    exact readSchedule_iff

/-- An operation that an account scheduled for a time of this century. -/
theorem account_schedule_misread :
    (scheduledPayload (.account 1) 1750000000).Fits ∧
      ¬Decodes (fun _ => "") (scheduledPayload (.account 1) 1750000000) ∧
      readSchedule (fun _ => "") 1000
          (scheduledPayload (.account 1) 1750000000).encode =
        .ok (some (ScValue.addressText (.account 1)), some 0) := by
  refine ⟨scheduledPayload_fits, ?_, readSchedule_account⟩
  intro decodes
  have nested : (scheduledPayload (.account 1) 1750000000).depth ≤ 1000 := by
    decide
  obtain ⟨after, ran, _⟩ := decodes [] 1000 nested
  obtain ⟨stopped, misread⟩ := @scheduledPayload_account (fun _ => "") _ _
    1750000000 998 1 (Scanner.ahead_start _)
  rw [List.append_nil, misread] at ran
  cases ran

end BettaPay.Scripts.Wire
