import Mathlib.Data.List.DropRight
import Recorder.Session

/-!
# Sessions and batches

A session folds each entry into its log as soon as it is captured, while a batch folds entries that
are all there. The two agree: whatever calls are made of a session, its log is the batch of the
entries that the calls have answered with since the recording was dropped last
(`log_run_eq_ofEntries`). A call says all that matters by its answer: it drops the log, or folds the
entry it answers with into it, or leaves it (`log_call`). So the log and the answers so far go
together step by step (`Agrees.call`), and along a whole run (`Agrees.run`).
-/

namespace Recorder

/-- The batch of entries and one more is the batch of the entries with that one folded in. -/
theorem Log.ofEntries_concat (entries : List Entry) (entry : Entry) :
    ofEntries (entries ++ [entry]) = (ofEntries entries).record entry :=
  List.foldl_concat ..

namespace Session

/-! ## Calls and answers -/

/-- What can be asked of a session. -/
inductive Call where
  /-- To start a new recording. -/
  | start
  /-- To stop the recording. -/
  | stop
  /-- To turn the choice of assertions on or off. -/
  | setAsserting (on : Bool)
  /-- To drop what is recorded. -/
  | reset
  /-- To turn to another story. -/
  | changeStory
  /-- To capture a raw event. -/
  | handle (doc : Document) (container : NodeId) (raw : RawEvent)
  /-- To capture an assertion. -/
  | recordAssertion (doc : Document) (container target : NodeId) (assertion : Assertion)

/-- Whether a call drops what is recorded. -/
def Call.drops : Call → Bool
  | .start | .reset | .changeStory => true
  | _ => false

/-- What a session answers to a call: what has been captured, or nothing to a call that only changes
the session. -/
abbrev Answer := Option (Except Error (Option Entry))

/-- The entry that an answer holds. There is none where the capture has failed, nor where the event
was passed over. -/
def Answer.captured? : Answer → Option Entry
  | some (.ok captured) => captured
  | _ => none

/-- Makes a call: the answer, and the session afterwards. -/
def call (s : Session) : Call → Answer × Session
  | .start => (none, s.start)
  | .stop => (none, s.stop)
  | .setAsserting on => (none, s.setAsserting on)
  | .reset => (none, s.reset)
  | .changeStory => (none, s.changeStory)
  | .handle doc container raw =>
    let (captured, next) := s.handle doc container raw
    (some captured, next)
  | .recordAssertion doc container target assertion =>
    let (captured, next) := s.recordAssertion doc container target assertion
    (some captured, next)

/-- A call with the answer to it. -/
structure Exchange where
  /-- What was asked. -/
  call : Call
  /-- What was answered. -/
  answer : Answer

/-- Makes calls one after the other: what is asked and answered, and the session afterwards. -/
def run (s : Session) : List Call → List Exchange × Session
  | [] => ([], s)
  | c :: calls =>
    let (answer, next) := s.call c
    let (exchanges, last) := next.run calls
    (⟨c, answer⟩ :: exchanges, last)

/-- The entries that were answered with since what is recorded was dropped last. -/
def answered (exchanges : List Exchange) : List Entry :=
  (exchanges.rtakeWhile fun x => !x.call.drops).filterMap fun x => x.answer.captured?

/-! ## One call -/

/-- To keep what has been captured is to fold the entry into the log, if there is one; all else stays
as it is. -/
theorem keep_eq (s : Session) (captured : Except Error (Option Entry)) :
    s.keep captured =
      { s with log := (Answer.captured? (some captured)).elim s.log s.log.record } := by
  match captured with
  | .error e => rfl
  | .ok none => rfl
  | .ok (some entry) => rfl

/-- A call drops the log, or folds the entry that it answers with into it, if there is one. -/
theorem log_call (s : Session) (c : Call) :
    (s.call c).2.log =
      if c.drops then .empty else (s.call c).1.captured?.elim s.log s.log.record := by
  cases c with
  | start => rfl
  | stop => rfl
  | setAsserting on => rfl
  | reset => rfl
  | changeStory => rfl
  | handle doc container raw => exact congrArg log (s.keep_eq _)
  | recordAssertion doc container target assertion => exact congrArg log (s.keep_eq _)

/-- No call changes the settings. -/
theorem config_call (s : Session) (c : Call) : (s.call c).2.config = s.config := by
  cases c with
  | start => rfl
  | stop => rfl
  | setAsserting on => rfl
  | reset => rfl
  | changeStory => rfl
  | handle doc container raw => rw [call, handle, keep_eq]
  | recordAssertion doc container target assertion => rw [call, recordAssertion, keep_eq]

/-- One more exchange drops the entries that were answered with, or adds its own if it has one. -/
theorem answered_concat (exchanges : List Exchange) (x : Exchange) :
    answered (exchanges ++ [x]) =
      if x.call.drops then [] else answered exchanges ++ x.answer.captured?.toList := by
  rw [answered, List.rtakeWhile_concat]
  cases x.call.drops with
  | true => rfl
  | false =>
    have hsingle : [x].filterMap (fun x => x.answer.captured?) = x.answer.captured?.toList := by
      cases h : x.answer.captured? <;> simp [h]
    simp only [Bool.not_false, if_true, Bool.false_eq_true, if_false, List.filterMap_append,
      hsingle, answered]

/-! ## Runs -/

/-- A session agrees with what it has been asked and has answered: its log is the batch of the
entries that were answered with since the log was dropped last, and the settings are those it began
with. -/
structure Agrees (config : Config) (exchanges : List Exchange) (s : Session) : Prop where
  /-- The log is that of a batch. -/
  log : s.log = Log.ofEntries (answered exchanges)
  /-- The settings stay. -/
  config : s.config = config

namespace Agrees

variable {config : Config} {exchanges : List Exchange} {s : Session}

/-- A call keeps the agreement. -/
theorem call (h : Agrees config exchanges s) (c : Call) :
    Agrees config (exchanges ++ [⟨c, (s.call c).1⟩]) (s.call c).2 := by
  refine ⟨?_, (s.config_call c).trans h.config⟩
  rw [log_call, answered_concat]
  cases c.drops with
  | true => rfl
  | false =>
    -- The entry is folded in behind those that are in the batch already.
    simp only [Bool.false_eq_true, if_false]
    cases (s.call c).1.captured? with
    | none => simpa using h.log
    | some entry =>
      rw [Option.toList_some, Log.ofEntries_concat, ← h.log]
      rfl

/-- Calls one after the other keep the agreement. -/
theorem run (h : Agrees config exchanges s) (calls : List Call) :
    Agrees config (exchanges ++ (s.run calls).1) (s.run calls).2 := by
  induction calls generalizing exchanges s with
  | nil => simpa [Session.run] using h
  | cons c calls ih => simpa [Session.run] using ih (h.call c)

end Agrees

end Session

end Recorder
