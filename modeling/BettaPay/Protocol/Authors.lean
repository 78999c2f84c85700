import BettaPay.Governance.Named
import BettaPay.Settlement.Executor
import BettaPay.Settlement.Xdr

namespace BettaPay.Protocol

open BettaPay.Host
open BettaPay.Common

/-! Who is answerable for what the logs report. -/

/-- Whoever a log names as the author of an event signed the call that
published it, in a role that may do what it reports. The one exception are
the events of a queued operation: they name the executor the call states, who
signs nothing, and stating another one changes nothing but that name. -/
theorem authors_answer (codec : Settlement.Codec) :
    (∀ {inputs : List Settlement.Input} {position : Nat}
        {event : Settlement.Event} {actor : Address},
      (run (Settlement.step codec) Settlement.State.initial
        inputs).events[position]? = some event →
      event.actor = some actor →
      ∃ index input,
        AddedBy (Settlement.step codec) Settlement.State.events
          Settlement.State.initial inputs position index input ∧
        (Settlement.Vouched input.env
            (stateAt (Settlement.step codec) Settlement.State.initial inputs
              index) actor event ∨
          ∃ operation, input.call = .execute actor operation)) ∧
    (∀ {env : Settlement.Env} {actor : Address}
        {operation : Settlement.Operation} {state : Settlement.State}
        (other : Address),
      (∀ failure,
        Settlement.execute codec env actor operation state =
            .error failure ↔
          Settlement.execute codec env other operation state =
            .error failure) ∧
      ∀ {after}, Settlement.execute codec env actor operation state =
          .ok ((), after) →
        ∃ published, after.events = state.events ++ published ∧
          Settlement.execute codec env other operation state =
            .ok ((), { after with
              events := state.events ++
                published.map (Settlement.Event.attribute other) })) ∧
    ∀ {inputs : List Governance.Input} {position : Nat}
        {event : Governance.Event} {actor : Address},
      (run Governance.step Governance.State.initial
        inputs).events[position]? = some event →
      event.actor = some actor →
      ∃ index input,
        AddedBy Governance.step Governance.State.events
          Governance.State.initial inputs position index input ∧
        Governance.Vouched input.env
          (stateAt Governance.step Governance.State.initial inputs index)
          actor event := by
  refine ⟨?_, ?_, ?_⟩
  · intro inputs position event actor listed names
    exact Settlement.authors_vouched codec listed names
  · intro env actor operation state other
    exact ⟨fun _ => Settlement.execute_alike.error_iff,
      fun succeeded => Settlement.execute_attribution other succeeded⟩
  · intro inputs position event actor listed names
    exact Governance.authors_vouched listed names

/-- A quorum queues an operation; a stranger has it executed in the name of
an admin who signs nothing. -/
def borrowedName : List Settlement.Input :=
  [⟨.granting 0, .init (.account 9) [.account 1, .account 2] 1 (.contract 5)
      (.account 4)⟩,
    ⟨.granting 100, .schedule [.account 1] Settlement.sampleOperation
      604800⟩,
    ⟨.unsigned 605000, .execute (.account 2) Settlement.sampleOperation⟩]

theorem authors_answer_sample :
    let state := run (Settlement.step Settlement.sampleCodec)
      Settlement.State.initial borrowedName
    (state.events[1]?).bind Settlement.Event.actor = some (.account 2) ∧
      ∃ index input,
        AddedBy (Settlement.step Settlement.sampleCodec)
          Settlement.State.events Settlement.State.initial borrowedName 1
          index input := by
  intro state
  have named : (state.events[1]?).bind Settlement.Event.actor =
      some (.account 2) := by decide
  obtain ⟨event, listed, names⟩ := Option.bind_eq_some_iff.mp named
  obtain ⟨index, input, added, _⟩ :=
    (authors_answer Settlement.sampleCodec).1 listed names
  exact ⟨named, index, input, added⟩

end BettaPay.Protocol
