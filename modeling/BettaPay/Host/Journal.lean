import BettaPay.Host.Run

namespace BettaPay.Host

/-! Books kept from what a machine publishes. A book accepts an entry only
where it can follow what the book holds already. -/

/-- The next book, where the entry can follow. -/
def follow {β : Type} (condition : Prop) [Decidable condition] (next : β) :
    Option β :=
  if condition then some next else none

@[simp] theorem follow_eq_some {β : Type} {condition : Prop}
    [Decidable condition] {next book : β} :
    follow condition next = some book ↔ condition ∧ next = book := by
  simp [follow]

section Replay

variable {κ β : Type} (post : β → κ → Option β)

/-- The book after a journal, or nothing where an entry cannot follow. -/
def replay (book : β) (journal : List κ) : Option β :=
  journal.foldlM post book

variable {post}

@[simp] theorem replay_nil (book : β) : replay post book [] = some book := rfl

@[simp] theorem replay_cons (book : β) (entry : κ) (rest : List κ) :
    replay post book (entry :: rest) =
      (post book entry).bind fun next => replay post next rest := rfl

theorem replay_singleton (book : β) (entry : κ) :
    replay post book [entry] = post book entry := by
  cases posted : post book entry <;> simp [posted]

theorem replay_append (book : β) (first second : List κ) :
    replay post book (first ++ second) =
      (replay post book first).bind fun middle =>
        replay post middle second := by
  simp only [replay, List.foldlM_append]
  rfl

end Replay

/-- A machine with a log, and the books that are kept from it. `tells` is
what a book says about a state. -/
structure Journaled (σ ε ι ο κ β : Type) where
  step : ι → Tx σ ε ο
  entries : σ → List κ
  post : β → κ → Option β
  tells : β → σ → Prop
  posts : ∀ {book : β} {input : ι} {before after : σ} {reply : ο},
    tells book before → step input before = .ok (reply, after) →
    ∃ published next, entries after = entries before ++ published ∧
      replay post book published = some next ∧ tells next after

namespace Journaled

variable {σ ε ι ο κ β : Type} (machine : Journaled σ ε ι ο κ β)

/-- A book that tells the state is kept true by posting what is published. -/
theorem replays {book : β} {start : σ} (told : machine.tells book start)
    (inputs : List ι) :
    ∃ published next,
      machine.entries (run machine.step start inputs) =
        machine.entries start ++ published ∧
      replay machine.post book published = some next ∧
      machine.tells next (run machine.step start inputs) := by
  induction inputs generalizing start book with
  | nil => exact ⟨[], book, (List.append_nil _).symm, rfl, told⟩
  | cons input rest induction =>
      rw [run_cons]
      cases attempt : machine.step input start with
      | error failure =>
          rw [commit_of_error attempt]
          exact induction told
      | ok outcome =>
          rcases outcome with ⟨reply, middle⟩
          rw [commit_of_ok attempt]
          obtain ⟨first, between, extended, posted, holds⟩ :=
            machine.posts told attempt
          obtain ⟨second, finish, extended', posted', ended⟩ :=
            induction holds
          refine ⟨first ++ second, finish, ?_, ?_, ended⟩
          · rw [extended', extended, List.append_assoc]
          · rw [replay_append, posted]
            exact posted'

/-- The book of a run at every earlier moment, kept from the part of the log
that was there by then. -/
theorem replays_at {book : β} {start : σ} (told : machine.tells book start)
    (inputs : List ι) (index : Nat) :
    ∃ earlier later middle finish,
      machine.entries (run machine.step start inputs) =
        machine.entries start ++ (earlier ++ later) ∧
      machine.entries (stateAt machine.step start inputs index) =
        machine.entries start ++ earlier ∧
      replay machine.post book earlier = some middle ∧
      machine.tells middle (stateAt machine.step start inputs index) ∧
      replay machine.post middle later = some finish ∧
      machine.tells finish (run machine.step start inputs) := by
  obtain ⟨earlier, middle, extended, posted, holds⟩ :=
    machine.replays told (inputs.take index)
  obtain ⟨later, finish, extended', posted', ended⟩ :=
    machine.replays holds (inputs.drop index)
  rw [← run_append, List.take_append_drop] at extended' ended
  refine ⟨earlier, later, middle, finish, ?_, extended, posted, holds, posted',
    ended⟩
  rw [extended', extended, List.append_assoc]

/-- The log decides the book. -/
theorem same_log {book : β} {left right : σ}
    (told : machine.tells book left) (told' : machine.tells book right)
    {inputs inputs' : List ι} {published : List κ}
    (log : machine.entries (run machine.step left inputs) =
      machine.entries left ++ published)
    (log' : machine.entries (run machine.step right inputs') =
      machine.entries right ++ published) :
    ∃ finish, machine.tells finish (run machine.step left inputs) ∧
      machine.tells finish (run machine.step right inputs') := by
  obtain ⟨first, finish, extended, posted, holds⟩ :=
    machine.replays told inputs
  obtain ⟨second, finish', extended', posted', holds'⟩ :=
    machine.replays told' inputs'
  have same : first = published :=
    List.append_cancel_left (extended.symm.trans log)
  have same' : second = published :=
    List.append_cancel_left (extended'.symm.trans log')
  rw [same] at posted
  rw [same', posted] at posted'
  cases posted'
  exact ⟨finish, holds, holds'⟩

end Journaled

/-! Logs that only grow. -/

section Growing

variable {σ ε ι ο κ : Type} {step : ι → Tx σ ε ο} {entries : σ → List κ}

variable (step entries) in
/-- A committed call only adds to the log. -/
def Growing : Prop :=
  ∀ input before reply after, step input before = .ok (reply, after) →
    ∃ published, entries after = entries before ++ published

theorem Growing.after_run (growing : Growing step entries) (start : σ)
    (inputs : List ι) :
    ∃ published, entries (run step start inputs) =
      entries start ++ published := by
  apply run_invariant
    (fun state => ∃ published, entries state = entries start ++ published)
  · intro input before reply after known succeeded
    obtain ⟨earlier, known⟩ := known
    obtain ⟨published, added⟩ := growing input before reply after succeeded
    exact ⟨earlier ++ published, by rw [added, known, List.append_assoc]⟩
  · exact ⟨[], (List.append_nil _).symm⟩

theorem Growing.later (growing : Growing step entries) {start : σ}
    {inputs : List ι} (index : Nat) :
    entries (stateAt step start inputs index) <+:
      entries (run step start inputs) := by
  obtain ⟨published, extended⟩ :=
    growing.after_run (stateAt step start inputs index) (inputs.drop index)
  rw [stateAt, ← run_append, List.take_append_drop] at extended
  exact ⟨published, extended.symm⟩

variable (step entries) in
/-- The call at `index` committed and added the entry at `position`. -/
def AddedBy (start : σ) (inputs : List ι) (position index : Nat)
    (input : ι) : Prop :=
  ∃ reply, Succeeds step start inputs index input reply ∧
    (entries (stateAt step start inputs index)).length ≤ position ∧
    position < (entries (stateAt step start inputs (index + 1))).length

/-- Every entry of a log that was empty is one that some committed call
added. -/
theorem Growing.added (growing : Growing step entries) {start : σ}
    {inputs : List ι} {position : Nat} {entry : κ}
    (empty : entries start = [])
    (listed : (entries (run step start inputs))[position]? =
      some entry) :
    ∃ index input reply after published,
      AddedBy step entries start inputs position index input ∧
      step input (stateAt step start inputs index) = .ok (reply, after) ∧
      entries after = entries (stateAt step start inputs index) ++
        published ∧
      entry ∈ published := by
  obtain ⟨inside, found⟩ := List.getElem?_eq_some_iff.mp listed
  have present : position <
      (entries (stateAt step start inputs inputs.length)).length := by
    rw [stateAt_of_length_le (Nat.le_refl _)]
    exact inside
  have absent : ¬ position < (entries start).length := by simp [empty]
  obtain ⟨index, input, reply, reached, succeeded, before, since⟩ :=
    exists_onset (fun state => position < (entries state).length) absent
      present
  obtain ⟨published, added⟩ := growing _ _ _ _ succeeded.2
  have known := since (index + 1) (Nat.lt_succ_self _) reached
  have enough := Nat.le_of_not_lt before
  refine ⟨index, input, reply, _, published, ⟨reply, succeeded, enough,
    known⟩, succeeded.2, added, ?_⟩
  rw [added, List.length_append] at known
  obtain ⟨rest, whole⟩ := growing.later (index + 1)
  rw [← whole, added, List.append_assoc, List.getElem?_append_right enough,
    List.getElem?_append_left (by omega)] at listed
  exact List.mem_of_getElem? listed

end Growing

end BettaPay.Host
