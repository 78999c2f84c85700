import BettaPay.Scripts.SorobanEvents
import Mathlib.Data.List.TakeWhile

namespace BettaPay.Scripts

open BettaPay.Host

/-! How the operator scripts page an RPC endpoint for events. The topics of a
filter, as those of an event, are the values they decode to. -/

def defaultWindowLedgers : Nat := 1000

def defaultPendingWindowLedgers : Nat := 150000

/-- A filter of a `getEvents` request. -/
structure EventFilter where
  contractIds : List String
  topic : List Symbol

/-- Where a page of events begins. -/
inductive Position where
  | startLedger (ledger : Nat)
  | cursor (token : String)

def Position.isCursor : Position → Bool
  | .cursor _ => true
  | .startLedger _ => false

/-- How the endpoint answers during one listing, or the text of the error
that it raises. -/
structure Rpc where
  latestLedger : Except String Nat
  getEvents : List EventFilter → Position → Nat →
    Except String (List RpcEvent)

def contains (text : String) (wanted : String) : Prop :=
  wanted.toList <:+: text.toList

instance (text wanted : String) : Decidable (contains text wanted) :=
  inferInstanceAs (Decidable (_ <:+: _))

/-- An error that the reader takes for the end of the retained history. -/
def endsHistory (message : String) : Prop :=
  contains message "start node" ∨ contains message "not found" ∨
    contains message.toLower "cursor"

instance (message : String) : Decidable (endsHistory message) :=
  inferInstanceAs (Decidable (_ ∨ _))

/-- The loop over the pages. `fuel` bounds their number. -/
def fetchPages (rpc : Rpc) (filters : List EventFilter)
    (pageLimit endLedger : Nat) :
    Nat → Position → List RpcEvent → Option (Except String (List RpcEvent))
  | 0, _, _ => none
  | fuel + 1, position, events =>
      match rpc.getEvents filters position pageLimit with
      | .error message =>
          if position.isCursor ∧ endsHistory message then
            some (.ok events)
          else some (.error message)
      | .ok page =>
          match page.getLast? with
          | none => some (.ok events)
          | some last =>
              let kept := page.takeWhile fun event =>
                event.ledger ≤ endLedger
              if kept.length < page.length ∨ page.length < pageLimit then
                some (.ok (events ++ kept))
              else
                fetchPages rpc filters pageLimit endLedger fuel
                  (.cursor last.pagingToken) (events ++ kept)

def eventFilters (contractId : String) (topic0Names : List Symbol) :
    List EventFilter :=
  match topic0Names with
  | [] => [⟨[contractId], []⟩]
  | names => names.map fun name => ⟨[contractId], [name]⟩

def firstLedger (latest : Nat) (startLedger : Option Nat)
    (topic0Names : List Symbol) : Nat :=
  match startLedger with
  | some start => start
  | none =>
      latest - match topic0Names with
        | [] => defaultWindowLedgers
        | _ => defaultPendingWindowLedgers

def lastLedger (latest : Nat) (endLedger : Option Nat) : Nat :=
  match endLedger with
  | none => latest
  | some last => if latest < last then latest else last

structure Fetched where
  events : List RpcEvent
  startLedger : Nat
  endLedger : Nat

section Fetch

-- The order in which the paging tokens are compared.
variable (tokenBefore : String → String → Bool)

def fetchedBefore (left right : RpcEvent) : Bool :=
  left.ledger < right.ledger ||
    left.ledger = right.ledger &&
      tokenBefore left.pagingToken right.pagingToken

def fetchEvents (rpc : Rpc) (startLedger endLedger : Option Nat)
    (contractId : String) (topic0Names : List Symbol) (pageLimit fuel : Nat) :
    Option (Except String Fetched) :=
  match rpc.latestLedger with
  | .error message => some (.error message)
  | .ok latest =>
      let start := firstLedger latest startLedger topic0Names
      let last := lastLedger latest endLedger
      (fetchPages rpc (eventFilters contractId topic0Names) pageLimit last
        fuel (.startLedger start) []).map fun fetched =>
          fetched.map fun events =>
            ⟨events.mergeSort (fetchedBefore tokenBefore), start, last⟩

end Fetch

/-! An endpoint that serves a log. -/

def EventFilter.selects (filter : EventFilter) (event : RpcEvent) : Bool :=
  event.contractId ∈ filter.contractIds &&
    (filter.topic.isEmpty ||
      (extractTopicSymbols event).head?.join = filter.topic.head?)

def selected (filters : List EventFilter) (event : RpcEvent) : Bool :=
  filters.any fun filter => filter.selects event

/-- What of the log comes at a position or later. -/
def Position.rest (log : List RpcEvent) : Position → List RpcEvent
  | .startLedger ledger => log.filter fun event => ledger ≤ event.ledger
  | .cursor token =>
      (log.dropWhile fun event => event.pagingToken ≠ token).tail

/-- A log in the order of its ledgers, without equal paging tokens. -/
structure Chronicle (log : List RpcEvent) : Prop where
  ordered : log.Pairwise fun left right => left.ledger ≤ right.ledger
  named : (log.map RpcEvent.pagingToken).Nodup

/-- Each page holds the next selected events of the log, up to the limit. -/
structure Rpc.Serves (rpc : Rpc) (log : List RpcEvent) (latest : Nat) :
    Prop where
  latestLedger : rpc.latestLedger = .ok latest
  getEvents : ∀ filters position limit,
    rpc.getEvents filters position limit =
      .ok (((position.rest log).filter (selected filters)).take limit)

section Serving

variable {log rest : List RpcEvent} {filters : List EventFilter}

theorem filter_suffix (ordered : log.Pairwise fun left right =>
    left.ledger ≤ right.ledger) (ledger : Nat) :
    (log.filter fun event => ledger ≤ event.ledger) <:+ log := by
  induction ordered with
  | nil => exact List.suffix_rfl
  | @cons event log sorted ordered induction =>
      rw [List.filter_cons]
      split
      · rename_i late
        have kept : log.filter (fun event => ledger ≤ event.ledger) = log := by
          rw [List.filter_eq_self]
          intro other member
          exact decide_eq_true
            (Nat.le_trans (of_decide_eq_true late) (sorted other member))
        exact ⟨[], congrArg (List.cons event) kept⟩
      · exact induction.trans (List.suffix_cons event log)

/-- From the last event of a page on, what the page left out. -/
theorem rest_cursor (chronicle : Chronicle log) (suffix : rest <:+ log)
    {front back : List RpcEvent} {last : RpcEvent}
    (wanted : rest.filter (selected filters) = front ++ last :: back) :
    ∃ later, (Position.cursor last.pagingToken).rest log = later ∧
      later <:+ log ∧ later.filter (selected filters) = back := by
  obtain ⟨early, rfl⟩ := suffix
  obtain ⟨before, found, rfl, _, continued⟩ :=
    List.filter_eq_append_iff.mp wanted
  obtain ⟨skipped, after, rfl, _, _, ended⟩ :=
    List.filter_eq_cons_iff.mp continued
  have placed : early ++ (before ++ (skipped ++ last :: after)) =
      (early ++ before ++ skipped) ++ last :: after := by
    simp
  rw [placed] at chronicle ⊢
  refine ⟨after, ?_, ⟨early ++ before ++ skipped ++ [last], by simp⟩, ended⟩
  have named := chronicle.named
  rw [List.map_append, List.nodup_append] at named
  have earlier : ∀ event ∈ early ++ before ++ skipped,
      decide (event.pagingToken ≠ last.pagingToken) = true := by
    intro event member
    exact decide_eq_true (named.2.2 _ (List.mem_map_of_mem member) _
      (List.mem_map_of_mem List.mem_cons_self))
  rw [Position.rest, List.dropWhile_append_of_pos earlier]
  simp

/-- The loop collects what is selected up to the last ledger; there are no
more pages than selected events. -/
theorem fetchPages_serving {rpc : Rpc} {latest pageLimit endLedger : Nat}
    (serves : rpc.Serves log latest) (chronicle : Chronicle log)
    (positive : 0 < pageLimit) {fuel : Nat} {position : Position}
    (begins : position.rest log = rest) (suffix : rest <:+ log)
    (enough : (rest.filter (selected filters)).length < fuel)
    (events : List RpcEvent) :
    fetchPages rpc filters pageLimit endLedger fuel position events =
      some (.ok (events ++ (rest.filter (selected filters)).takeWhile
        fun event => event.ledger ≤ endLedger)) := by
  induction fuel generalizing position rest events with
  | zero => cases enough
  | succ fuel induction =>
      have pages := List.take_append_drop pageLimit
        (rest.filter (selected filters))
      have size := @List.length_take _ pageLimit
        (rest.filter (selected filters))
      rw [fetchPages, serves.getEvents, begins]
      simp only
      generalize (rest.filter (selected filters)).take pageLimit = page
        at pages size ⊢
      generalize (rest.filter (selected filters)).drop pageLimit = back
        at pages
      have total := congrArg List.length pages
      rw [List.length_append] at total
      rw [← pages, List.takeWhile_append]
      cases ended : page.getLast? with
      | none =>
          have empty : page = [] := List.getLast?_eq_none_iff.mp ended
          subst empty
          have nothing : back = [] := by
            apply List.eq_nil_of_length_eq_zero
            simp only [List.length_nil] at size total
            omega
          subst nothing
          simp
      | some last =>
          have prefixed : (page.takeWhile fun event =>
              decide (event.ledger ≤ endLedger)) <+: page :=
            List.takeWhile_prefix _
          simp only
          split
          · rename_i stops
            split
            · rename_i whole
              have nothing : back = [] := by
                apply List.eq_nil_of_length_eq_zero
                omega
              subst nothing
              rw [prefixed.eq_of_length whole]
              simp
            · rfl
          · rename_i goes
            obtain ⟨unstopped, full⟩ := not_or.mp goes
            have whole := Nat.le_antisymm prefixed.length_le
              (Nat.le_of_not_lt unstopped)
            rw [if_pos whole, prefixed.eq_of_length whole]
            obtain ⟨front, rfl⟩ :=
              List.getLast?_eq_some_iff.mp ended
            have wanted : rest.filter (selected filters) =
                front ++ last :: back := by
              rw [← pages]
              simp
            obtain ⟨later, continues, suffix', remaining⟩ :=
              rest_cursor chronicle suffix wanted
            rw [induction continues suffix', remaining, List.append_assoc]
            rw [remaining]
            omega

theorem mem_takeWhile_ordered (ordered : log.Pairwise fun left right =>
    left.ledger ≤ right.ledger) {last : Nat} {event : RpcEvent} :
    event ∈ (log.takeWhile fun event => event.ledger ≤ last) ↔
      event ∈ log ∧ event.ledger ≤ last := by
  induction ordered with
  | nil => simp
  | @cons first log sorted ordered induction =>
      rw [List.takeWhile_cons, List.mem_cons]
      split
      · rename_i early
        rw [List.mem_cons, induction]
        constructor
        · intro given
          rcases given with rfl | given
          · exact ⟨.inl rfl, of_decide_eq_true early⟩
          · exact ⟨.inr given.1, given.2⟩
        · intro given
          obtain ⟨rfl | member, bounded⟩ := given
          · exact .inl rfl
          · exact .inr ⟨member, bounded⟩
      · rename_i late
        have above : last < first.ledger := by simpa using late
        constructor
        · intro member
          cases member
        · intro given
          obtain ⟨rfl | member, bounded⟩ := given
          · exact absurd bounded (Nat.not_le_of_lt above)
          · exact absurd (Nat.le_trans (sorted event member) bounded)
              (Nat.not_le_of_lt above)

/-- The script returns exactly the selected events of its window. -/
theorem fetchEvents_serving {tokenBefore : String → String → Bool}
    {rpc : Rpc} {latest pageLimit fuel : Nat}
    {startLedger endLedger : Option Nat} {contractId : String}
    {topic0Names : List Symbol} (serves : rpc.Serves log latest)
    (chronicle : Chronicle log) (positive : 0 < pageLimit)
    (enough : log.length < fuel) :
    ∃ events, fetchEvents tokenBefore rpc startLedger endLedger contractId
        topic0Names pageLimit fuel =
      some (.ok ⟨events, firstLedger latest startLedger topic0Names,
        lastLedger latest endLedger⟩) ∧
      ∀ event, event ∈ events ↔
        event ∈ log ∧
        selected (eventFilters contractId topic0Names) event = true ∧
        firstLedger latest startLedger topic0Names ≤ event.ledger ∧
        event.ledger ≤ lastLedger latest endLedger := by
  have suffix : (Position.startLedger
      (firstLedger latest startLedger topic0Names)).rest log <:+ log :=
    filter_suffix chronicle.ordered _
  have fewer := (List.length_filter_le
    (selected (eventFilters contractId topic0Names)) _).trans
      suffix.length_le
  have paged : fetchPages rpc (eventFilters contractId topic0Names)
      pageLimit (lastLedger latest endLedger) fuel
      (.startLedger (firstLedger latest startLedger topic0Names)) [] = _ :=
    fetchPages_serving serves chronicle positive rfl suffix
      (Nat.lt_of_le_of_lt fewer enough) []
  simp only [fetchEvents, serves.latestLedger, paged]
  refine ⟨_, rfl, ?_⟩
  intro event
  rw [List.mem_mergeSort, List.nil_append, mem_takeWhile_ordered
    ((chronicle.ordered.sublist suffix.sublist).sublist List.filter_sublist)]
  simp only [Position.rest, List.mem_filter, decide_eq_true_eq]
  tauto

end Serving

end BettaPay.Scripts
