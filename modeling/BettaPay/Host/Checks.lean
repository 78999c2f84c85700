import BettaPay.Host.Value

namespace BettaPay.Host

/-! Checks that are made one after the other. A failing check names its error,
and the first one that fails decides. -/

section Checks

variable {σ ε α β : Type}

def raise (check : Option ε) : Tx σ (Failure ε) Unit :=
  match check with
  | some error => reject error
  | none => pure ()

/-- The check that some condition does not hold. -/
def failIf (condition : Prop) [Decidable condition] (error : ε) : Option ε :=
  if condition then some error else none

def firstError (checks : List (Option ε)) : Option ε :=
  checks.findSome? id

def errorOf (result : Except ε α) : Option ε :=
  match result with
  | .ok _ => none
  | .error error => some error

/-- What came of an attempt is the first error; where all checks pass, it is
as `passed` says. -/
def Ends (passed : Except (Failure ε) (α × σ) → Prop)
    (checks : List (Option ε)) (attempt : Except (Failure ε) (α × σ)) :
    Prop :=
  match firstError checks with
  | some error => attempt = .error (.error error)
  | none => passed attempt

/-- What came of an attempt is the first error, or success. -/
abbrev Decided (checks : List (Option ε))
    (attempt : Except (Failure ε) (α × σ)) : Prop :=
  Ends (fun attempt => attempt.isOk = true) checks attempt

@[simp] theorem failIf_eq_none {condition : Prop} [Decidable condition]
    {error : ε} : failIf condition error = none ↔ ¬ condition := by
  simp [failIf]

theorem failIf_eq_some {condition : Prop} [Decidable condition]
    {error found : ε} :
    failIf condition error = some found ↔ condition ∧ error = found := by
  simp [failIf]

theorem rejectIf_eq_raise (condition : Prop) [Decidable condition]
    (error : ε) :
    (rejectIf condition error : Tx σ (Failure ε) Unit) =
      raise (failIf condition error) := by
  funext state
  by_cases holds : condition <;>
    simp [rejectIf, Tx.panicIf, raise, failIf, reject, holds]

@[simp] theorem firstError_nil : firstError ([] : List (Option ε)) = none :=
  rfl

@[simp] theorem firstError_singleton (check : Option ε) :
    firstError [check] = check := by
  cases check <;> rfl

@[simp] theorem firstError_cons (check : Option ε)
    (checks : List (Option ε)) :
    firstError (check :: checks) = check.or (firstError checks) := by
  cases check <;> rfl

/-- Checks raised one by one are the check of the first error. -/
theorem raise_firstError_cons (check : Option ε)
    (checks : List (Option ε)) :
    (raise (firstError (check :: checks)) : Tx σ (Failure ε) Unit) =
      (do
        raise check
        raise (firstError checks)) := by
  cases check <;> rfl

theorem firstError_append (checks later : List (Option ε)) :
    firstError (checks ++ later) =
      (firstError checks).or (firstError later) := by
  simp [firstError, List.findSome?_append]

theorem firstError_eq_none {checks : List (Option ε)} :
    firstError checks = none ↔ ∀ check, check ∈ checks → check = none := by
  simp [firstError]

/-- Making the last check first keeps the error exactly unless two errors
compete for it. -/
theorem firstError_rotate_iff {checks : List (Option ε)}
    {last : Option ε} :
    (∀ error, firstError (checks ++ [last]) = some error →
      firstError (last :: checks) = some error) ↔
      last = none ∨ firstError checks = none ∨ firstError checks = last := by
  rw [firstError_append, firstError_singleton, firstError_cons]
  cases firstError checks <;> cases last <;> simp [eq_comm]

namespace Ends

variable {passed : Except (Failure ε) (α × σ) → Prop}
  {checks : List (Option ε)} {attempt : Except (Failure ε) (α × σ)}

theorem done (accepted : passed attempt) : Ends passed [] attempt :=
  accepted

theorem skip (ends : Ends passed checks attempt) :
    Ends passed (none :: checks) attempt :=
  ends

theorem ofRaise {check : Option ε} {before : σ} :
    Decided [check] (raise check before) := by
  cases check with
  | none => exact .skip (.done rfl)
  | some error => exact rfl

theorem ofRejectIf {condition : Prop} [Decidable condition] {error : ε}
    {before : σ} :
    Decided [failIf condition error] (rejectIf condition error before) := by
  rw [rejectIf_eq_raise]
  exact ofRaise

theorem ofOrReject {value : Option α} [Decidable (value = none)]
    {error : ε} {before : σ} :
    Decided [failIf (value = none) error] (orReject value error before) := by
  cases check : failIf (value = none) error with
  | none =>
      obtain ⟨found, rfl⟩ :=
        Option.ne_none_iff_exists'.mp (failIf_eq_none.mp check)
      exact .skip (.done rfl)
  | some raised =>
      obtain ⟨rfl, rfl⟩ := failIf_eq_some.mp check
      exact rfl

theorem ofResult {result : Except ε α} {before : σ} :
    Decided [errorOf result] (orRaise result before) := by
  cases result with
  | ok value => exact .skip (.done rfl)
  | error error => exact rfl

theorem after {first : Tx σ (Failure ε) β}
    {next : β → Tx σ (Failure ε) α} {before middle : σ} {value : β}
    (succeeded : first before = .ok (value, middle))
    (ends : Ends passed checks (next value middle)) :
    Ends passed checks ((first >>= next) before) := by
  rw [Tx.bind_of_ok succeeded]
  exact ends

/-- An action that is decided by a check of its own. -/
theorem andThenCheck {first : Tx σ (Failure ε) β}
    {next : β → Tx σ (Failure ε) α} {check : Option ε} {before : σ}
    (decided : Decided [check] (first before))
    (passing : ∀ value middle, first before = .ok (value, middle) →
      Ends passed checks (next value middle)) :
    Ends passed (check :: checks) ((first >>= next) before) := by
  cases check with
  | some error => exact Tx.bind_error.mpr (.inl decided)
  | none =>
      obtain ⟨value, middle, done⟩ := isOk_iff_exists.mp decided
      exact .skip (.after done (passing value middle done))

theorem rejectIf {condition : Prop} [Decidable condition] {error : ε}
    {next : Unit → Tx σ (Failure ε) α} {before : σ}
    (passing : ¬ condition → Ends passed checks (next () before)) :
    Ends passed (failIf condition error :: checks)
      ((rejectIf condition error >>= next) before) := by
  apply andThenCheck ofRejectIf
  intro value middle accepted
  obtain ⟨passes, rfl⟩ := rejectIf_ok.mp accepted
  exact passing passes

theorem orRaise {result : Except ε β} {next : β → Tx σ (Failure ε) α}
    {before : σ}
    (passing : ∀ value, result = .ok value →
      Ends passed checks (next value before)) :
    Ends passed (errorOf result :: checks)
      ((orRaise result >>= next) before) := by
  apply andThenCheck ofResult
  intro value middle accepted
  obtain ⟨found, rfl⟩ := orRaise_ok.mp accepted
  exact passing value found

/-- What cannot fail may follow. -/
theorem andThen {first : Tx σ (Failure ε) α}
    {next : α → Tx σ (Failure ε) β} {before : σ}
    (decided : Decided checks (first before))
    (accepts : ∀ value middle, (next value middle).isOk = true) :
    Decided checks ((first >>= next) before) := by
  unfold Decided Ends at decided ⊢
  split at decided
  · exact Tx.bind_error.mpr (.inl decided)
  · obtain ⟨value, middle, done⟩ := isOk_iff_exists.mp decided
    rw [Tx.bind_of_ok done]
    exact accepts value middle

theorem of_firstError_eq_none (ends : Ends passed checks attempt)
    (accepted : firstError checks = none) : passed attempt := by
  unfold Ends at ends
  rw [accepted] at ends
  exact ends

/-- An error that does not come after the checks is the first of theirs. -/
theorem eq_error_iff (ends : Ends passed checks attempt) {error : ε}
    (later : passed attempt → attempt ≠ .error (.error error)) :
    attempt = .error (.error error) ↔ firstError checks = some error := by
  unfold Ends at ends
  split at ends
  · rename_i found failed
    rw [ends, failed]
    simp
  · rename_i none
    rw [none]
    exact ⟨fun raised => absurd raised (later ends), nofun⟩

/-- Two attempts under the same checks fail alike, or pass both. -/
theorem together {passed' : Except (Failure ε) (β × σ) → Prop}
    {attempt' : Except (Failure ε) (β × σ)}
    (ends : Ends passed checks attempt)
    (ends' : Ends passed' checks attempt') :
    (∃ error, attempt = .error (.error error) ∧
        attempt' = .error (.error error)) ∨
      passed attempt ∧ passed' attempt' := by
  unfold Ends at ends ends'
  cases failed : firstError checks with
  | none =>
      simp only [failed] at ends ends'
      exact .inr ⟨ends, ends'⟩
  | some error =>
      simp only [failed] at ends ends'
      exact .inl ⟨error, ends, ends'⟩

end Ends

namespace Decided

variable {checks : List (Option ε)}
  {attempt : Except (Failure ε) (α × σ)}

theorem isOk_iff (decided : Decided checks attempt) :
    attempt.isOk = true ↔ firstError checks = none := by
  unfold Decided Ends at decided
  split at decided
  · rename_i error failed
    simp [decided, failed, Except.isOk, Except.toBool]
  · rename_i passed
    simp [decided, passed]

theorem eq_error_iff (decided : Decided checks attempt)
    {failure : Failure ε} :
    attempt = .error failure ↔
      ∃ error, firstError checks = some error ∧ .error error = failure := by
  unfold Decided Ends at decided
  split at decided
  · rename_i error failed
    simp [decided, failed]
  · rename_i passed
    obtain ⟨value, after, rfl⟩ := isOk_iff_exists.mp decided
    simp [passed]

theorem raises_iff (decided : Decided checks attempt) {error : ε} :
    attempt = .error (.error error) ↔ firstError checks = some error := by
  simp [decided.eq_error_iff]

/-- The errors of one attempt are those of another as their checks' errors
are. -/
theorem follows_iff {checks' : List (Option ε)}
    {attempt' : Except (Failure ε) (β × σ)}
    (decided : Decided checks attempt)
    (decided' : Decided checks' attempt') :
    (∀ failure, attempt = .error failure → attempt' = .error failure) ↔
      ∀ error, firstError checks = some error →
        firstError checks' = some error := by
  simp only [decided.eq_error_iff, decided'.eq_error_iff]
  constructor
  · intro follows error failed
    obtain ⟨found, failed', same⟩ := follows _ ⟨error, failed, rfl⟩
    cases same
    exact failed'
  · intro follows failure given
    obtain ⟨error, failed, raised⟩ := given
    exact ⟨error, follows error failed, raised⟩

end Decided

end Checks

end BettaPay.Host
