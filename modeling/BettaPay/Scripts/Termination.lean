import BettaPay.Host.Extends
import BettaPay.Scripts.Decoder

namespace BettaPay.Scripts

open BettaPay.Host

/-! A decoding of any bytes ends. Every call pays for itself with the bytes
of its tag. -/

/-- A read moves the cursor by its width, within the data. -/
class Reader.Takes {α : Type} (width : outParam Nat) (read : Read α) :
    Prop where
  moves : ∀ {reader after : Reader} {value : α},
    read reader = .ok (value, after) → after.data = reader.data ∧
      after.pos = reader.pos + width ∧ after.pos ≤ reader.data.length

namespace Reader

instance take_takes {count : Nat} : Takes count (take count) where
  moves := by
    intro reader after value taken
    have moved : reader.pos + count ≤ reader.data.length ∧
        ⟨reader.data, reader.pos + count⟩ = after ∧
          (reader.data.drop reader.pos).take count = value := by
      simpa [take] using taken
    obtain ⟨inside, rfl, _⟩ := moved
    exact ⟨rfl, rfl, inside⟩

theorem number_takes {α : Type} {width : Nat} {number : Bytes → α} :
    Takes width (do
      let raw ← take width
      pure (number raw)) where
  moves := by
    intro reader after value read
    obtain ⟨raw, middle, taken, rest⟩ := Tx.bind_ok.mp read
    obtain ⟨_, rfl⟩ := Tx.pure_ok.mp rest
    exact take_takes.moves taken

instance u32_takes : Takes 4 u32 := number_takes

instance i32_takes : Takes 4 i32 := number_takes

instance u64_takes : Takes 8 u64 := number_takes

instance i64_takes : Takes 8 i64 := number_takes

end Reader

namespace Wire

/-- What every read, and everything that is raised for the bytes read,
leaves in order. -/
class Steady (given : Scanner → Prop) (allowed : Stop → Prop) : Prop where
  scan : ∀ {α : Type} {width : Nat} (read : Read α)
    [Reader.Takes width read], Tx.Ensures given given allowed (scan read)
  raise : ∀ {α : Type} {raised : Raised}, raised.isValueError = true →
    Tx.Ensures given given allowed (raise raised : Scan α)

theorem raise_ensures {α : Type} {given ensured : Scanner → Prop}
    {allowed : Stop → Prop} {raised : Raised}
    (stops : ∀ scanner, given scanner → allowed ⟨raised, scanner⟩) :
    Tx.Ensures given ensured allowed (raise raised : Scan α) where
  ok := by
    intro scanner after value _ succeeded
    cases succeeded
  error := by
    intro scanner stop holds failed
    cases failed
    exact stops scanner holds

section Steady

variable {given : Scanner → Prop} {allowed : Stop → Prop}
  [steady : Steady given allowed]

instance scan_steady {α : Type} {width : Nat} {read : Read α}
    [Reader.Takes width read] : Tx.Ensures given given allowed (scan read) :=
  steady.scan read

instance opaqueBytes_steady :
    Tx.Ensures given given allowed Scanner.opaqueBytes := by
  unfold Scanner.opaqueBytes
  infer_instance

instance u128_steady : Tx.Ensures given given allowed Scanner.u128 := by
  unfold Scanner.u128
  infer_instance

instance i128_steady : Tx.Ensures given given allowed Scanner.i128 := by
  unfold Scanner.i128
  infer_instance

instance decodeAddressAhead_steady :
    Tx.Ensures given given allowed decodeAddressAhead := by
  refine Tx.Ensures.andThen Tx.Ensures.readState fun scanner => ?_
  split
  · exact Tx.Ensures.pure
  · exact steady.raise rfl

instance decodeTagged_steady {repr : Decoded → String}
    {decode : Scan Decoded} {tag : Nat}
    [Tx.Ensures given given allowed decode] :
    Tx.Ensures given given allowed (decodeTagged repr decode tag) := by
  have raised : Tx.Ensures given given allowed
      (raise (.unsupported tag) : Scan Decoded) := steady.raise rfl
  unfold decodeTagged
  infer_instance

end Steady

/-- The positions only grow and stay within the data, and four bytes are
read for every call but for those that are owed. -/
structure Sound (data : Bytes) (owed : Nat) (scanner : Scanner) : Prop where
  same : scanner.data = data
  here : scanner.trail.head? = some scanner.pos
  forward : scanner.trail.Pairwise (· ≥ ·)
  inside : scanner.pos ≤ data.length
  paid : 4 * scanner.calls ≤ scanner.pos + owed

/-- The calls left are enough for the bytes left. -/
structure Roomy (data : Bytes) (limit : Nat) (scanner : Scanner) : Prop where
  same : scanner.data = data
  inside : scanner.pos ≤ data.length
  room : data.length < 4 * limit + scanner.pos

theorem Sound.trail_le {data : Bytes} {owed : Nat} {scanner : Scanner}
    (sound : Sound data owed scanner) :
    ∀ earlier ∈ scanner.trail, earlier ≤ scanner.pos := by
  have here := sound.here
  have forward := sound.forward
  intro earlier member
  cases stood : scanner.trail with
  | nil =>
      rw [stood] at member
      cases member
  | cons latest others =>
      rw [stood, List.head?_cons, Option.some_inj] at here
      rw [stood, List.pairwise_cons] at forward
      rw [stood, List.mem_cons] at member
      rcases member with rfl | member
      · exact here.le
      · exact (forward.1 earlier member).trans here.le

section Scan

variable {data : Bytes} {α : Type} {width : Nat} {read : Read α}
  [takes : Reader.Takes width read]

theorem scan_ok {scanner after : Scanner} {value : α}
    (succeeded : scan read scanner = .ok (value, after)) :
    after.data = scanner.data ∧ after.pos = scanner.pos + width ∧
      after.pos ≤ scanner.data.length ∧ after.calls = scanner.calls ∧
      after.trail = after.pos :: scanner.trail := by
  cases ran : read scanner.toReader with
  | error error =>
      rw [scan, ran] at succeeded
      cases succeeded
  | ok outcome =>
      obtain ⟨found, reader⟩ := outcome
      obtain ⟨same, moved, inside⟩ := takes.moves ran
      rw [scan, ran] at succeeded
      cases succeeded
      exact ⟨same, moved, inside, rfl, rfl⟩

theorem scan_error {scanner : Scanner} {stop : Stop}
    (failed : scan read scanner = .error stop) :
    stop.raised.isValueError = true ∧ stop.scanner = scanner := by
  cases ran : read scanner.toReader with
  | error error =>
      rw [scan, ran] at failed
      cases failed
      exact ⟨rfl, rfl⟩
  | ok outcome =>
      rw [scan, ran] at failed
      cases failed

/-- What was owed is paid by a read that is wide enough. -/
theorem scan_sound {owed : Nat} (enough : owed ≤ width) (small : owed ≤ 4) :
    Tx.Ensures (Sound data owed) (Sound data 0)
      (fun stop => Sound data 4 stop.scanner) (scan read) where
  ok := by
    intro scanner after value sound succeeded
    obtain ⟨same, moved, inside, calls, trail⟩ := scan_ok succeeded
    have paid := sound.paid
    refine ⟨same.trans sound.same, ?_, ?_, ?_, ?_⟩
    · rw [trail]
      rfl
    · rw [trail, List.pairwise_cons]
      refine ⟨?_, sound.forward⟩
      intro earlier member
      have passed := sound.trail_le earlier member
      omega
    · rw [← sound.same]
      exact inside
    · rw [calls]
      omega
  error := by
    intro scanner stop sound failed
    obtain ⟨_, kept⟩ := scan_error failed
    have paid := sound.paid
    rw [kept]
    exact ⟨sound.same, sound.here, sound.forward, sound.inside, by omega⟩

theorem scan_roomy {limit more : Nat} (enough : 4 * more ≤ width) :
    Tx.Ensures (Roomy data (limit + more)) (Roomy data limit)
      (fun stop => stop.raised.isValueError = true) (scan read) where
  ok := by
    intro scanner after value roomy succeeded
    obtain ⟨same, moved, inside, _, _⟩ := scan_ok succeeded
    have room := roomy.room
    refine ⟨same.trans roomy.same, ?_, by omega⟩
    rw [← roomy.same]
    exact inside
  error := by
    intro scanner stop _ failed
    exact (scan_error failed).1

end Scan

section Invariants

variable {repr : Decoded → String} {data : Bytes} {limit : Nat}

theorem Sound.owing {scanner : Scanner} (sound : Sound data 0 scanner) :
    Sound data 4 scanner := by
  have paid := sound.paid
  exact ⟨sound.same, sound.here, sound.forward, sound.inside, by omega⟩

instance sound_steady :
    Steady (Sound data 0) fun stop => Sound data 4 stop.scanner where
  scan := fun _ _ => scan_sound (Nat.zero_le _) (Nat.zero_le _)
  raise := fun _ => raise_ensures fun _ sound => sound.owing

instance roomy_steady :
    Steady (Roomy data limit) fun stop => stop.raised.isValueError = true where
  scan := fun _ _ => @scan_roomy _ _ _ _ _ limit 0 (Nat.zero_le _)
  raise := fun caught => raise_ensures fun _ _ => caught

theorem callTag_sound :
    Tx.Ensures (Sound data 0) (Sound data 0)
      (fun stop => Sound data 4 stop.scanner) callTag := by
  refine Tx.Ensures.andThen (.writing ?_)
    fun _ => scan_sound (le_refl 4) (le_refl 4)
  intro scanner sound
  have paid : 4 * (scanner.calls + 1) ≤ scanner.pos + 4 :=
    Nat.add_le_add_right sound.paid 4
  exact ⟨sound.same, sound.here, sound.forward, sound.inside, paid⟩

theorem callTag_roomy :
    Tx.Ensures (Roomy data (limit + 1)) (Roomy data limit)
      (fun stop => stop.raised.isValueError = true) callTag := by
  refine Tx.Ensures.andThen (.writing ?_)
    fun _ => @scan_roomy data _ _ _ _ limit 1 (le_refl 4)
  intro scanner roomy
  exact ⟨roomy.same, roomy.inside, roomy.room⟩

/-- By induction on the calls that may still be nested. -/
instance decodeScval_sound :
    Tx.Ensures (Sound data 0) (Sound data 0)
      (fun stop => Sound data 4 stop.scanner) (decodeScval repr limit) := by
  induction limit with
  | zero => exact raise_ensures fun _ sound => sound.owing
  | succ limit induction =>
      exact Tx.Ensures.andThen callTag_sound fun _ => inferInstance

theorem Roomy.weaken {scanner : Scanner} (roomy : Roomy data limit scanner) :
    Roomy data (limit + 1) scanner := by
  have room := roomy.room
  exact ⟨roomy.same, roomy.inside, by omega⟩

instance decodeScval_roomy :
    Tx.Ensures (Roomy data limit) (Roomy data limit)
      (fun stop => stop.raised.isValueError = true)
      (decodeScval repr limit) := by
  induction limit with
  | zero =>
      refine raise_ensures fun scanner roomy => ?_
      have inside := roomy.inside
      have room := roomy.room
      omega
  | succ limit induction =>
      have kept := Tx.Ensures.andThen callTag_roomy fun tag =>
        @decodeTagged_steady (Roomy data limit) _ _ repr _ tag induction
      exact kept.weaken fun _ => Roomy.weaken

end Invariants

/-! More nested calls change nothing unless too few were allowed. -/

section Extends

variable {repr : Decoded → String} {gap : Stop → Prop}
  {decode longer : Scan Decoded}

instance decodeEntries_extends {count : Nat}
    {mapping : List (Decoded × Decoded)}
    [each : Tx.Extends gap decode longer] :
    Tx.Extends gap (decodeEntries repr decode count mapping)
      (decodeEntries repr longer count mapping) := by
  induction count generalizing mapping with
  | zero => exact Tx.Extends.same
  | succ count induction =>
      unfold decodeEntries
      infer_instance

instance decodeTagged_extends {tag : Nat}
    [Tx.Extends gap decode longer] :
    Tx.Extends gap (decodeTagged repr decode tag)
      (decodeTagged repr longer tag) := by
  unfold decodeTagged
  infer_instance

theorem decodeScval_extends {limit more : Nat} (fewer : limit ≤ more) :
    Tx.Extends (fun stop => stop.raised = .recursion)
      (decodeScval repr limit) (decodeScval repr more) := by
  induction limit generalizing more with
  | zero => exact ⟨fun scanner => .inr ⟨⟨.recursion, scanner⟩, rfl, rfl⟩⟩
  | succ limit induction =>
      obtain ⟨more, rfl⟩ := Nat.exists_eq_add_of_le'
        ((Nat.succ_pos limit).trans_le fewer)
      have nested := induction (Nat.le_of_succ_le_succ fewer)
      unfold decodeScval
      infer_instance

end Extends

/-- The reader as a decoding leaves it, with a value or an exception. -/
def lastScanner : Except Stop (Decoded × Scanner) → Scanner
  | .ok (_, after) => after
  | .error stop => stop.scanner

structure Bounded (data : Bytes) (scanner : Scanner) : Prop where
  calls : scanner.calls ≤ data.length / 4 + 1
  stands : scanner.trail.head? = some scanner.pos
  forward : scanner.trail.Pairwise (· ≥ ·)
  inside : ∀ pos ∈ scanner.trail, pos ≤ data.length

theorem Sound.bounded {data : Bytes} {scanner : Scanner}
    (sound : Sound data 4 scanner) : Bounded data scanner := by
  have paid := sound.paid
  have inside := sound.inside
  refine ⟨by omega, sound.here, sound.forward, ?_⟩
  intro pos member
  exact (sound.trail_le pos member).trans inside

theorem sound_start (data : Bytes) : Sound data 0 (Scanner.start data) :=
  ⟨rfl, rfl, List.pairwise_singleton _ _, Nat.zero_le _, Nat.zero_le _⟩

section Decoding

variable {repr : Decoded → String} {data : Bytes} {limit : Nat}

theorem decodeScval_bounded :
    Bounded data
      (lastScanner (decodeScval repr limit (Scanner.start data))) := by
  have start := sound_start data
  cases ran : decodeScval repr limit (Scanner.start data) with
  | ok outcome =>
      obtain ⟨value, after⟩ := outcome
      exact (decodeScval_sound.ok _ after value start ran).owing.bounded
  | error stop => exact (decodeScval_sound.error _ stop start ran).bounded

/-- As many calls as there are words in the data are never used up. -/
theorem decodeScval_caught (enough : data.length / 4 < limit) {stop : Stop}
    (failed : decodeScval repr limit (Scanner.start data) = .error stop) :
    stop.raised.isValueError = true := by
  have room : data.length < 4 * limit + 0 := by omega
  have roomy : Roomy data limit (Scanner.start data) :=
    ⟨rfl, Nat.zero_le _, room⟩
  exact decodeScval_roomy.error _ stop roomy failed

theorem decodeScval_settles (enough : data.length / 4 < limit) {more : Nat}
    (fewer : limit ≤ more) :
    decodeScval repr more (Scanner.start data) =
      decodeScval repr limit (Scanner.start data) := by
  apply (decodeScval_extends fewer).settles
  intro stop failed recursion
  have caught := decodeScval_caught enough failed
  rw [recursion] at caught
  cases caught

end Decoding

/-- A decoding of any bytes makes at most one call for every four of them and
one more, and its cursor only moves forward, up to the end of the data. When
as many calls may be nested, the decoding ends with a value or a
`ValueError`, which no higher limit changes, and what reads the value of an
event gets a value or `None`. -/
theorem decodeScval_terminates (repr : Decoded → String) (data : Bytes)
    (limit : Nat) :
    Bounded data
        (lastScanner (decodeScval repr limit (Scanner.start data))) ∧
      (data.length / 4 < limit →
        ((∃ value after, decodeScval repr limit (Scanner.start data) =
            .ok (value, after)) ∨
          ∃ stop, decodeScval repr limit (Scanner.start data) =
            .error stop ∧ stop.raised.isValueError = true) ∧
        (∀ more, limit ≤ more →
          decodeScval repr more (Scanner.start data) =
            decodeScval repr limit (Scanner.start data)) ∧
        ∀ text, Base64.b64decode text = some data →
          ∃ value, decodeEventValue repr limit text = .ok value) := by
  refine ⟨decodeScval_bounded, ?_⟩
  intro enough
  refine ⟨?_, fun more fewer => decodeScval_settles enough fewer, ?_⟩
  · cases ran : decodeScval repr limit (Scanner.start data) with
    | ok outcome => exact .inl ⟨outcome.1, outcome.2, rfl⟩
    | error stop => exact .inr ⟨stop, rfl, decodeScval_caught enough ran⟩
  · intro text decoded
    cases ran : decodeScval repr limit (Scanner.start data) with
    | ok outcome => exact ⟨outcome.1, decodeEventValue_ok decoded ran⟩
    | error stop =>
        have caught := decodeScval_caught enough ran
        exact ⟨.none, decodeEventValue_caught decoded ran caught⟩

end Wire

end BettaPay.Scripts
