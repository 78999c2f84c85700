import Mathlib.Data.List.Basic

namespace BettaPay.Host.Csv

/-! Comma-separated text: one row to a line, a field in double quotes where it
holds a separator, and a quote inside of it written twice. -/

abbrev Letters := List Char

def isSpecial (letter : Char) : Bool :=
  letter = ',' || letter = '"' || letter = '\n'

def doubled (letter : Char) : Letters :=
  if letter = '"' then ['"', '"'] else [letter]

def quoted (letters : Letters) : Letters :=
  '"' :: (letters.flatMap doubled ++ ['"'])

def field (letters : Letters) : Letters :=
  if letters.any isSpecial then quoted letters else letters

/-- The fields of a row, parted by commas. -/
def join : List Letters → Letters
  | [] => []
  | [last] => last
  | first :: rest => first ++ ',' :: join rest

def row (fields : List Letters) : Letters :=
  join (fields.map field) ++ ['\n']

def table (rows : List (List Letters)) : Letters := rows.flatMap row

/-! Reading. -/

/-- Where a reader stands in a field, or just behind a carriage return. -/
inductive Mode where
  | start
  | plain
  | quoted
  | closed
  | returned
  deriving DecidableEq, Repr

/-- The field, the row and the rows read so far. -/
structure Scan where
  mode : Mode
  letters : Letters
  fields : List Letters
  rows : List (List Letters)
  deriving DecidableEq, Repr

namespace Scan

def take (scan : Scan) (mode : Mode) (letter : Char) : Scan :=
  { scan with mode := mode, letters := scan.letters ++ [letter] }

def endField (scan : Scan) : Scan :=
  { scan with
    mode := .start
    letters := []
    fields := scan.fields ++ [scan.letters] }

def endRow (scan : Scan) (mode : Mode) : Scan :=
  { mode := mode
    letters := []
    fields := []
    rows := scan.rows ++ [scan.fields ++ [scan.letters]] }

/-- One letter outside of quotes; a quote opens a field only at its start, and
a carriage return ends a row as a line feed does. -/
def outside (scan : Scan) (letter : Char) : Option Scan :=
  if letter = ',' then some scan.endField
  else if letter = '\n' then some (scan.endRow .start)
  else if letter = '\r' then some (scan.endRow .returned)
  else if letter = '"' then
    if scan.mode = .start then some { scan with mode := .quoted } else none
  else if scan.mode = .closed then none
  else some (scan.take .plain letter)

def step (scan : Scan) (letter : Char) : Option Scan :=
  match scan.mode with
  | .quoted =>
      if letter = '"' then some { scan with mode := .closed }
      else some (scan.take .quoted letter)
  | .closed =>
      if letter = '"' then some (scan.take .quoted letter)
      else scan.outside letter
  | .returned =>
      -- A line feed belongs to the carriage return before it.
      if letter = '\n' then some { scan with mode := .start }
      else { scan with mode := .start }.outside letter
  | _ => scan.outside letter

def through (scan : Scan) (text : Letters) : Option Scan :=
  text.foldlM step scan

end Scan

/-- The rows of a text whose last line is ended. -/
def read (text : Letters) : Option (List (List Letters)) :=
  match Scan.through ⟨.start, [], [], []⟩ text with
  | some ⟨.start, [], [], rows⟩ => some rows
  | some ⟨.returned, [], [], rows⟩ => some rows
  | _ => none

/-! What is written is read back, but for a carriage return, which is not
quoted for itself. -/

def Kept (letters : Letters) : Prop :=
  letters.any isSpecial = true ∨ '\r' ∉ letters

instance (letters : Letters) : Decidable (Kept letters) :=
  inferInstanceAs (Decidable (_ ∨ _))

section RoundTrip

variable {scan : Scan} {letters : Letters}

@[simp] theorem through_nil : scan.through [] = some scan := rfl

@[simp] theorem through_cons (letter : Char) (text : Letters) :
    scan.through (letter :: text) =
      (scan.step letter).bind fun next => next.through text := rfl

theorem through_append (first second : Letters) :
    scan.through (first ++ second) =
      (scan.through first).bind fun next => next.through second := by
  simp only [Scan.through, List.foldlM_append]
  rfl

/-- Plain letters are taken as they are. -/
theorem through_plain (plain : letters.any isSpecial = false)
    (single : '\r' ∉ letters)
    (unquoted : scan.mode = .start ∨ scan.mode = .plain) :
    ∃ mode, (mode = .start ∨ mode = .plain) ∧
      scan.through letters = some
        { scan with mode := mode, letters := scan.letters ++ letters } := by
  induction letters generalizing scan with
  | nil =>
      refine ⟨scan.mode, unquoted, ?_⟩
      simp
  | cons letter rest induction =>
      rw [List.any_cons, Bool.or_eq_false_iff] at plain
      obtain ⟨ordinary, others⟩ := plain
      rw [List.mem_cons, not_or] at single
      obtain ⟨unreturned, single⟩ := single
      simp only [isSpecial, Bool.or_eq_false_iff, decide_eq_false_iff_not]
        at ordinary
      obtain ⟨⟨comma, quote⟩, newline⟩ := ordinary
      have taken : scan.step letter = some (scan.take .plain letter) := by
        rcases unquoted with start | plain
        · simp [Scan.step, Scan.outside, start, comma, quote, newline,
            Ne.symm unreturned]
        · simp [Scan.step, Scan.outside, plain, comma, quote, newline,
            Ne.symm unreturned]
      obtain ⟨mode, still, read⟩ :=
        @induction (scan.take .plain letter) others single (.inr rfl)
      refine ⟨mode, still, ?_⟩
      rw [through_cons, taken, Option.bind_some, read]
      simp [Scan.take]

/-- Inside of quotes every letter is taken, doubled or not. -/
theorem through_doubled (inside : scan.mode = .quoted) :
    scan.through (letters.flatMap doubled) = some
      { scan with letters := scan.letters ++ letters } := by
  induction letters generalizing scan with
  | nil => simp
  | cons letter rest induction =>
      have taken : scan.through (doubled letter) =
          some (scan.take .quoted letter) := by
        by_cases quote : letter = '"'
        · subst quote
          simp [doubled, Scan.step, inside, Scan.take]
        · simp [doubled, Scan.step, inside, quote, Scan.take]
      rw [List.flatMap_cons, through_append, taken, Option.bind_some,
        @induction (scan.take .quoted letter) rfl]
      simp [Scan.take, inside]

/-- A field is read as its letters, up to what ends it. -/
theorem through_field (kept : Kept letters) (fresh : scan.mode = .start)
    (empty : scan.letters = []) :
    ∃ mode, mode ≠ .quoted ∧ mode ≠ .returned ∧
      scan.through (field letters) =
        some { scan with mode := mode, letters := letters } := by
  unfold field
  split
  · refine ⟨.closed, nofun, nofun, ?_⟩
    rw [quoted, through_cons]
    have opened : scan.step '"' = some { scan with mode := .quoted } := by
      simp [Scan.step, Scan.outside, fresh]
    rw [opened, Option.bind_some, through_append, through_doubled rfl]
    simp [Scan.step, empty]
  · rename_i plain
    obtain ⟨mode, still, read⟩ :=
      through_plain (Bool.eq_false_iff.mpr plain) (kept.resolve_left plain)
        (.inl fresh)
    refine ⟨mode, ?_, ?_, ?_⟩
    · rcases still with rfl | rfl <;> exact nofun
    · rcases still with rfl | rfl <;> exact nofun
    · rw [read, empty]
      rfl

theorem through_comma (outside : scan.mode ≠ .quoted)
    (still : scan.mode ≠ .returned) :
    scan.through [','] = some scan.endField := by
  cases standing : scan.mode <;>
    first
    | exact absurd standing outside
    | exact absurd standing still
    | simp [Scan.step, Scan.outside, standing]

theorem through_newline (outside : scan.mode ≠ .quoted)
    (still : scan.mode ≠ .returned) :
    scan.through ['\n'] = some (scan.endRow .start) := by
  cases standing : scan.mode <;>
    first
    | exact absurd standing outside
    | exact absurd standing still
    | simp [Scan.step, Scan.outside, standing]

theorem through_row {fields : List Letters} (some_field : fields ≠ [])
    (kept : ∀ letters ∈ fields, Kept letters) (fresh : scan.mode = .start)
    (empty : scan.letters = []) :
    scan.through (row fields) = some
      { mode := .start
        letters := []
        fields := []
        rows := scan.rows ++ [scan.fields ++ fields] } := by
  induction fields generalizing scan with
  | nil => exact absurd rfl some_field
  | cons first rest induction =>
      obtain ⟨mode, outside, still, read⟩ := @through_field scan first
        (kept first List.mem_cons_self) fresh empty
      cases rest with
      | nil =>
          have ended := @through_newline
            { scan with mode := mode, letters := first } outside still
          rw [row, List.map_singleton, join, through_append, read,
            Option.bind_some, ended]
          rfl
      | cons second others =>
          have parted := @through_comma
            { scan with mode := mode, letters := first } outside still
          have later := @induction
            { scan with
              mode := .start
              letters := []
              fields := scan.fields ++ [first] } (by simp)
            (fun letters listed =>
              kept letters (List.mem_cons_of_mem _ listed)) rfl rfl
          have split : row (first :: second :: others) =
              field first ++ ([','] ++ row (second :: others)) := by
            simp [row, join]
          rw [split, through_append, read, Option.bind_some, through_append,
            parted, Option.bind_some]
          simp only [Scan.endField]
          rw [later]
          simp

theorem through_table {rows : List (List Letters)}
    (some_field : ∀ fields ∈ rows, fields ≠ [])
    (kept : ∀ fields ∈ rows, ∀ letters ∈ fields, Kept letters)
    (fresh : scan.mode = .start) (empty : scan.letters = [])
    (begun : scan.fields = []) :
    scan.through (table rows) = some
      { mode := .start
        letters := []
        fields := []
        rows := scan.rows ++ rows } := by
  induction rows generalizing scan with
  | nil =>
      rcases scan with ⟨mode, letters, fields, rows⟩
      simp only at fresh empty begun
      subst fresh empty begun
      simp [table]
  | cons fields rest induction =>
      rw [table, List.flatMap_cons, through_append,
        through_row (some_field fields List.mem_cons_self)
          (kept fields List.mem_cons_self) fresh empty,
        Option.bind_some]
      have later := @induction
        ⟨.start, [], [], scan.rows ++ [scan.fields ++ fields]⟩
        (fun other listed =>
          some_field other (List.mem_cons_of_mem _ listed))
        (fun other listed =>
          kept other (List.mem_cons_of_mem _ listed)) rfl rfl rfl
      rw [table] at later
      rw [later, begun]
      simp

/-- A table without empty rows is read back as it was. -/
theorem read_table {rows : List (List Letters)}
    (some_field : ∀ fields ∈ rows, fields ≠ [])
    (kept : ∀ fields ∈ rows, ∀ letters ∈ fields, Kept letters) :
    read (table rows) = some rows := by
  rw [read, through_table some_field kept rfl rfl rfl]
  rfl

end RoundTrip

end BettaPay.Host.Csv
