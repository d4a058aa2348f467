import Recorder.Proofs.Session.Batch

/-!
# Modes of a session

A session is idle, or it records events, or it records and has assertions chosen. No assertions are
chosen of a session that does not record, whatever was asked of it (`recording_of_asserting_run`),
since no single call changes that (`recording_of_asserting_call`). Only a session that records, and
of which no assertions are chosen, captures events, and then it captures each event that means
something and can be located (`capture_eq_ok_some_iff`). Where nothing is captured, for whatever
reason, the session stays as it was (`keep_eq_self`).
-/

namespace Recorder.Session

variable {s : Session} {doc : Document} {container target : NodeId}

/-! ## What is captured -/

/-- An entry is located where its target is. -/
theorem locate_eq_ok_some_iff {event : Event} {entry : Entry} :
    s.locate doc container target event = .ok (some entry) ↔
      entry.event = event ∧
        s.synthesizer.synthesize doc container target = .ok (some entry.locator) := by
  obtain ⟨l, event'⟩ := entry
  rw [locate]
  cases s.synthesizer.synthesize doc container target with
  | error e => simp [Except.map]
  | ok found =>
    cases found with
    | none => simp [Except.map]
    | some l' => simp [Except.map, eq_comm, and_comm]

/-- A session that does not record, or of which assertions are chosen, captures no event. -/
theorem capture_eq_ok_none (h : s.recording = false ∨ s.asserting = true) (raw : RawEvent) :
    s.capture doc container raw = .ok none := by
  rw [capture, if_pos (by simpa using h)]

/-- Any other session captures the events that mean something and whose targets can be located. -/
theorem capture_eq_ok_some_iff {raw : RawEvent} {entry : Entry} :
    s.capture doc container raw = .ok (some entry) ↔
      s.recording = true ∧ s.asserting = false ∧ doc.classify? raw = some entry.event ∧
        s.synthesizer.synthesize doc container raw.target = .ok (some entry.locator) := by
  by_cases hidle : s.recording = false ∨ s.asserting = true
  · rw [capture_eq_ok_none hidle]
    rcases hidle with h | h <;> simp [h]
  · obtain ⟨hrecording, hasserting⟩ : s.recording = true ∧ s.asserting = false := by
      simpa using hidle
    rw [capture, if_neg (by simp [hrecording, hasserting])]
    cases doc.classify? raw with
    | none => simp
    | some event =>
      rw [locate_eq_ok_some_iff, Option.some.injEq, eq_comm (a := event)]
      simp [hrecording, hasserting]

/-- Where no entry is captured, there is nothing to keep. -/
theorem keep_eq_self {captured : Except Error (Option Entry)}
    (h : ∀ entry, captured ≠ .ok (some entry)) : s.keep captured = s := by
  match captured with
  | .error e => rfl
  | .ok none => rfl
  | .ok (some entry) => exact absurd rfl (h entry)

/-! ## Modes -/

/-- A session records from its start until it is stopped or another story is shown. -/
theorem recording_call (s : Session) (c : Call) :
    (s.call c).2.recording =
      match c with
      | .start => true
      | .stop | .changeStory => false
      | _ => s.recording := by
  cases c with
  | handle doc container raw => rw [call, handle, keep_eq]
  | recordAssertion doc container target assertion => rw [call, recordAssertion, keep_eq]
  | start | stop | setAsserting | reset | changeStory => rfl

/-- Assertions are chosen as was asked for last, until the session is stopped or another story is
shown, but never of a session that does not record. -/
theorem asserting_call (s : Session) (c : Call) :
    (s.call c).2.asserting =
      match c with
      | .setAsserting on => on && s.recording
      | .stop | .changeStory => false
      | _ => s.asserting := by
  cases c with
  | handle doc container raw => rw [call, handle, keep_eq]
  | recordAssertion doc container target assertion => rw [call, recordAssertion, keep_eq]
  | start | stop | setAsserting | reset | changeStory => rfl

/-- No call has assertions chosen of a session that does not record. -/
theorem recording_of_asserting_call (h : s.asserting = true → s.recording = true) (c : Call) :
    (s.call c).2.asserting = true → (s.call c).2.recording = true := by
  rw [recording_call, asserting_call]
  cases c with
  | start => exact fun _ => rfl
  | stop | changeStory => exact id
  | setAsserting on => exact fun hon => (Bool.and_eq_true_iff.1 hon).2
  | reset | handle | recordAssertion => exact h

/-- No calls have assertions chosen of a session that does not record. -/
theorem recording_of_asserting_run (h : s.asserting = true → s.recording = true)
    (calls : List Call) : (s.run calls).2.asserting = true → (s.run calls).2.recording = true := by
  induction calls generalizing s with
  | nil => exact h
  | cons c calls ih => exact ih (recording_of_asserting_call h c)

/-- Whatever was asked of a new session, and whoever answers its queries: it records if assertions
are chosen of it. Unless it records and none are chosen, it passes over each event, whatever its
target is, and else it captures just the events that mean something and can be located. Where it
captures nothing, for an event or for an assertion, and also where it fails, it stays as it was. -/
theorem modes_run (config : Config) (engine : QueryEngine) (calls : List Call) :
    let s := ((newWith config engine).run calls).2
    (s.asserting = true → s.recording = true) ∧
      (∀ doc container raw, s.recording = false ∨ s.asserting = true →
        s.handle doc container raw = (.ok none, s)) ∧
      (∀ doc container raw entry, (s.handle doc container raw).1 = .ok (some entry) ↔
        s.recording = true ∧ s.asserting = false ∧ doc.classify? raw = some entry.event ∧
          s.synthesizer.synthesize doc container raw.target = .ok (some entry.locator)) ∧
      (∀ doc container raw, (∀ entry, (s.handle doc container raw).1 ≠ .ok (some entry)) →
        (s.handle doc container raw).2 = s) ∧
      ∀ doc container target assertion,
        (∀ entry, (s.recordAssertion doc container target assertion).1 ≠ .ok (some entry)) →
          (s.recordAssertion doc container target assertion).2 = s := by
  intro s
  refine ⟨?_, fun doc container raw hidle => ?_, fun _ _ _ _ => capture_eq_ok_some_iff,
    fun _ _ _ => keep_eq_self, fun _ _ _ _ => keep_eq_self⟩
  · -- A new session is idle.
    have hnew : (newWith config engine).asserting = true → (newWith config engine).recording = true :=
      fun h => absurd h Bool.false_ne_true
    exact recording_of_asserting_run hnew calls
  · rw [handle, capture_eq_ok_none hidle, keep_eq_self (by simp)]

end Recorder.Session
