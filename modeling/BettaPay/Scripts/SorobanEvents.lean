import BettaPay.Host.Dict
import BettaPay.Host.Value
import Mathlib.Data.List.Induction
import Mathlib.Data.List.Perm.Basic

namespace BettaPay.Scripts

open BettaPay.Host

/-! The reconstruction of the pending operations from the event log, as the
operator scripts do it off chain. Topics are the values they decode to. -/

def opScheduled : Symbol := "op_scheduled"

def opExecuted : Symbol := "op_executed"

def opCancelled : Symbol := "op_cancelled"

/-- One event of a `getEvents` response. -/
structure RpcEvent where
  contractId : String
  ledger : Nat
  pagingToken : String
  topic : List Val
  value : String

def hexDigits : List Char :=
  ['0', '1', '2', '3', '4', '5', '6', '7', '8', '9', 'a', 'b', 'c', 'd', 'e',
    'f']

def hexDigit (value : Nat) : Char := hexDigits.getD value '0'

def hexByte (byte : UInt8) : List Char :=
  [hexDigit (byte.toNat / 16), hexDigit (byte.toNat % 16)]

/-- `bytes.hex()`. -/
def hex (bytes : Bytes) : String := String.ofList (bytes.flatMap hexByte)

def decodeSymbol : Val → Option Symbol
  | .symbol name => some name
  | _ => none

def decodeBytesN : Val → Option String
  | .bytes value => some (hex value)
  | _ => none

def extractTopicSymbols (event : RpcEvent) : List (Option Symbol) :=
  event.topic.map decodeSymbol

/-- The operation hash: the second topic, as bytes. -/
def extractOpHash (event : RpcEvent) : Option String :=
  match event.topic with
  | _ :: second :: _ => decodeBytesN second
  | _ => none

/-- What the data of an event decodes to. -/
inductive Decoded where
  | none
  | bool (value : Bool)
  | int (value : Int)
  | str (value : String)
  | list (items : List Decoded)
  | dict (entries : List (Decoded × Decoded))

/-- `isinstance(item, int)`, which a boolean passes. -/
def Decoded.asInt : Decoded → Option Int
  | .int value => some value
  | .bool value => some value.toInt
  | _ => Option.none

/-- A string of the length of an encoded address. -/
def Decoded.asCaller : Decoded → Option String
  | .str value => if value.length = 56 then some value else Option.none
  | _ => Option.none

/-- One turn of the loop over `(caller, execute_at)`. -/
def extractItem (found : Option String × Option Int) (item : Decoded) :
    Option String × Option Int :=
  match found.1, item.asCaller with
  | none, some caller => (some caller, found.2)
  | _, _ =>
      match found.2 with
      | none => (found.1, item.asInt)
      | some _ => found

def extractScheduledPayload : Decoded → Option String × Option Int
  | .list items => items.foldl extractItem (none, none)
  | _ => (none, none)

structure PendingEntry where
  contractId : String
  opHash : String
  executeAt : Option Int
  caller : Option String
  scheduledLedger : Nat
  pagingToken : String

structure Collected where
  scheduled : Dict String PendingEntry
  finished : Dict String Symbol

section Collect

variable (decodeEventValue : String → Decoded)

def scheduledEntry (event : RpcEvent) (opHash : String) : PendingEntry where
  contractId := event.contractId
  opHash := opHash
  executeAt := (extractScheduledPayload (decodeEventValue event.value)).2
  caller := (extractScheduledPayload (decodeEventValue event.value)).1
  scheduledLedger := event.ledger
  pagingToken := event.pagingToken

/-- One turn of the loop over the events. -/
def collect (collected : Collected) (event : RpcEvent) : Collected :=
  match (extractTopicSymbols event).head?.join with
  | none => collected
  | some topic0 =>
      if topic0 ∈ [opScheduled, opExecuted, opCancelled] then
        match extractOpHash event with
        | none => collected
        | some opHash =>
            if topic0 = opScheduled then
              { collected with
                scheduled := collected.scheduled.set opHash
                  (scheduledEntry decodeEventValue event opHash) }
            else
              { collected with
                finished := collected.finished.set opHash topic0 }
      else collected

def sortKey (entry : PendingEntry) : Int × String :=
  (entry.executeAt.getD (2 ^ 64), entry.opHash)

def sortedBefore (left right : PendingEntry) : Bool :=
  (sortKey left).1 < (sortKey right).1 ||
    (sortKey left).1 = (sortKey right).1 &&
      !((sortKey right).2 < (sortKey left).2)

def collectPending (events : List RpcEvent) (contractId : Option String) :
    List PendingEntry × Nat × Nat :=
  let collected := events.foldl (collect decodeEventValue) ⟨[], []⟩
  let pending := (collected.scheduled.filter fun entry =>
    entry.1 ∉ collected.finished.keys).map Prod.snd
  let pending := match contractId with
    | none => pending
    | some id => pending.filter fun entry => entry.contractId = id
  (pending.mergeSort sortedBefore, collected.scheduled.length,
    collected.finished.length)

end Collect

/-! Hexadecimal text determines the bytes. -/

theorem hexDigit_injective {left right : Nat} (small : left < 16)
    (small' : right < 16) (same : hexDigit left = hexDigit right) :
    left = right := by
  have digits : ∀ first second : Fin 16,
      hexDigit first = hexDigit second → first = second := by
    decide
  exact congrArg Fin.val (digits ⟨left, small⟩ ⟨right, small'⟩ same)

theorem hexByte_injective {left right : UInt8}
    (same : hexByte left = hexByte right) : left = right := by
  simp only [hexByte, List.cons.injEq, and_true] at same
  have bound := left.toNat_lt
  have bound' := right.toNat_lt
  have high := hexDigit_injective (by omega) (by omega) same.1
  have low := hexDigit_injective (by omega) (by omega) same.2
  apply UInt8.toNat_inj.mp
  omega

theorem hex_injective {left right : Bytes} (same : hex left = hex right) :
    left = right := by
  have digits := String.ofList_injective same
  clear same
  induction left generalizing right with
  | nil =>
      cases right with
      | nil => rfl
      | cons byte rest => simp [hexByte] at digits
  | cons byte rest induction =>
      cases right with
      | nil => simp [hexByte] at digits
      | cons byte' rest' =>
          simp only [List.flatMap_cons] at digits
          obtain ⟨first, others⟩ := List.append_inj digits rfl
          rw [hexByte_injective first, induction others]

/-! What the loop collects. -/

/-- The name and the hash under which the loop notes an event. -/
def RpcEvent.noted (event : RpcEvent) : Option (Symbol × String) :=
  match (extractTopicSymbols event).head?.join, extractOpHash event with
  | some topic0, some opHash =>
      if topic0 ∈ [opScheduled, opExecuted, opCancelled] then
        some (topic0, opHash)
      else none
  | _, _ => none

variable {decodeEventValue : String → Decoded}

theorem collect_eq (collected : Collected) (event : RpcEvent) :
    collect decodeEventValue collected event =
      match event.noted with
      | none => collected
      | some (topic0, opHash) =>
          if topic0 = opScheduled then
            { collected with
              scheduled := collected.scheduled.set opHash
                (scheduledEntry decodeEventValue event opHash) }
          else
            { collected with
              finished := collected.finished.set opHash topic0 } := by
  unfold collect RpcEvent.noted
  cases (extractTopicSymbols event).head?.join with
  | none => rfl
  | some topic0 =>
      cases extractOpHash event with
      | none => simp
      | some opHash =>
          simp only
          by_cases known : topic0 ∈ [opScheduled, opExecuted, opCancelled]
          · rw [if_pos known, if_pos known]
          · rw [if_neg known, if_neg known]

/-- The dictionaries after a list of events. -/
structure Collects (events : List RpcEvent) (collected : Collected) :
    Prop where
  scheduled : ∀ opHash, opHash ∈ collected.scheduled.keys ↔
    ∃ event ∈ events, event.noted = some (opScheduled, opHash)
  finished : ∀ opHash, opHash ∈ collected.finished.keys ↔
    ∃ event ∈ events, ∃ topic0, topic0 ≠ opScheduled ∧
      event.noted = some (topic0, opHash)
  distinct : collected.scheduled.keys.Nodup
  own : ∀ entry ∈ collected.scheduled, entry.2.opHash = entry.1

theorem exists_mem_snoc {events : List RpcEvent} {event : RpcEvent}
    {holds : RpcEvent → Prop} :
    (∃ other ∈ events ++ [event], holds other) ↔
      (∃ other ∈ events, holds other) ∨ holds event := by
  simp only [List.mem_append, List.mem_singleton, or_and_right, exists_or,
    exists_eq_left]

theorem Collects.step {events : List RpcEvent} {collected : Collected}
    (collects : Collects events collected) (event : RpcEvent) :
    Collects (events ++ [event])
      (collect decodeEventValue collected event) := by
  rw [collect_eq]
  cases noted : event.noted with
  | none =>
      refine ⟨?_, ?_, collects.distinct, collects.own⟩
      · intro opHash
        rw [exists_mem_snoc, ← collects.scheduled, noted]
        simp
      · intro opHash
        rw [exists_mem_snoc, ← collects.finished, noted]
        simp
  | some note =>
      rcases note with ⟨topic0, opHash⟩
      simp only
      split
      · rename_i schedules
        subst schedules
        refine ⟨?_, ?_, Dict.nodup_set collects.distinct, ?_⟩
        · intro other
          rw [exists_mem_snoc, ← collects.scheduled, noted,
            Dict.mem_keys_set, or_comm]
          simp [eq_comm]
        · intro other
          rw [exists_mem_snoc, ← collects.finished, noted]
          simp
        · intro entry member
          rcases Dict.mem_set member with rfl | there
          · rfl
          · exact collects.own entry there
      · rename_i finishes
        refine ⟨?_, ?_, collects.distinct, collects.own⟩
        · intro other
          rw [exists_mem_snoc, ← collects.scheduled, noted]
          simp [finishes]
        · intro other
          rw [exists_mem_snoc, ← collects.finished, noted,
            Dict.mem_keys_set, or_comm]
          simp [finishes, eq_comm]

theorem collects_foldl (events : List RpcEvent) :
    Collects events
      (events.foldl (collect decodeEventValue) ⟨[], []⟩) := by
  induction events using List.reverseRecOn with
  | nil => exact ⟨by simp [Dict.keys], by simp [Dict.keys], List.nodup_nil,
      by simp⟩
  | append_singleton events event induction =>
      rw [List.foldl_append]
      exact induction.step event

/-- The hashes that `collect_pending` returns. -/
def pendingHashes (decodeEventValue : String → Decoded)
    (events : List RpcEvent) : List String :=
  (collectPending decodeEventValue events none).1.map PendingEntry.opHash

theorem pendingHashes_perm (events : List RpcEvent) :
    let collected := events.foldl (collect decodeEventValue) ⟨[], []⟩
    (pendingHashes decodeEventValue events).Perm
      (collected.scheduled.keys.filter fun opHash =>
        opHash ∉ collected.finished.keys) := by
  intro collected
  have own := (@collects_foldl decodeEventValue events).own
  have names : ((collected.scheduled.filter fun entry =>
        entry.1 ∉ collected.finished.keys).map Prod.snd).map
          PendingEntry.opHash =
      collected.scheduled.keys.filter fun opHash =>
        opHash ∉ collected.finished.keys := by
    have keyed : collected.scheduled.keys =
      collected.scheduled.map Prod.fst := rfl
    rw [List.map_map, keyed, List.filter_map]
    apply List.map_congr_left
    intro entry member
    exact own entry (List.mem_filter.mp member).1
  rw [← names]
  exact (List.mergeSort_perm _ _).map _

/-- A hash is returned once, if it was scheduled and has not been executed or
cancelled under its name, before or after. -/
theorem nodup_pendingHashes (events : List RpcEvent) :
    (pendingHashes decodeEventValue events).Nodup :=
  (pendingHashes_perm events).nodup_iff.mpr
    ((collects_foldl events).distinct.filter _)

theorem mem_pendingHashes {events : List RpcEvent} {opHash : String} :
    opHash ∈ pendingHashes decodeEventValue events ↔
      (∃ event ∈ events, event.noted = some (opScheduled, opHash)) ∧
        ¬ ∃ event ∈ events, ∃ topic0, topic0 ≠ opScheduled ∧
          event.noted = some (topic0, opHash) := by
  have collects := @collects_foldl decodeEventValue events
  rw [(pendingHashes_perm events).mem_iff, List.mem_filter,
    collects.scheduled, decide_eq_true_eq, collects.finished]

end BettaPay.Scripts
