import Recorder.Assertion
import Recorder.Config
import Recorder.Event.Raw

/-!
# Sessions

A session is the recording of one story. While it records and no assertions are being chosen, events
are captured: classified, located and folded into the log. What an operation captures is the entry
as it was before merging. An operation that captures nothing leaves the session as it was.
-/

namespace Recorder

/-- The state of a recording. -/
structure Session where
  /-- The settings. -/
  config : Config
  /-- Makes the locators. -/
  synthesizer : Synthesizer
  /-- Whether events are captured. -/
  recording : Bool
  /-- Whether assertions are being chosen instead. -/
  asserting : Bool
  /-- The entries so far. -/
  log : Log

namespace Session

/-- A session that does not record yet, with an engine of one's own. -/
def newWith (config : Config) (engine : QueryEngine) : Session :=
  ⟨config, config.synthesizerWith engine, false, false, .empty⟩

/-- A session that does not record yet. -/
def new (config : Config) : Session :=
  newWith config config.engine

/-- Starts a new recording. -/
def start (s : Session) : Session :=
  { s with log := .empty, recording := true }

/-- Stops the recording and keeps what is recorded. -/
def stop (s : Session) : Session :=
  { s with recording := false, asserting := false }

/-- Turns the choice of assertions on or off; it stays off while nothing is recorded. -/
def setAsserting (s : Session) (on : Bool) : Session :=
  { s with asserting := on && s.recording }

/-- Drops what is recorded. -/
def reset (s : Session) : Session :=
  { s with log := .empty }

/-- Stops the recording and drops what is recorded, as another story is shown. -/
def changeStory (s : Session) : Session :=
  s.stop.reset

/-- The entry of an event at a target, if the target can be located. -/
def locate (s : Session) (doc : Document) (container target : NodeId) (event : Event) :
    Except Error (Option Entry) :=
  (s.synthesizer.synthesize doc container target).map fun l => l.map (⟨·, event⟩)

/-- The entry that a raw event is captured as, if it is. -/
def capture (s : Session) (doc : Document) (container : NodeId) (raw : RawEvent) :
    Except Error (Option Entry) :=
  if !s.recording || s.asserting then .ok none
  else
    match doc.classify? raw with
    | none => .ok none
    | some event => s.locate doc container raw.target event

/-- The entry that an assertion is captured as, if its target can be located. -/
def captureAssertion (s : Session) (doc : Document) (container target : NodeId)
    (assertion : Assertion) : Except Error (Option Entry) :=
  s.locate doc container target assertion.toEvent

/-- Folds what has been captured into the log. -/
def keep (s : Session) : Except Error (Option Entry) → Session
  | .ok (some entry) => { s with log := s.log.record entry }
  | _ => s

/-- Captures a raw event. -/
def handle (s : Session) (doc : Document) (container : NodeId) (raw : RawEvent) :
    Except Error (Option Entry) × Session :=
  let captured := s.capture doc container raw
  (captured, s.keep captured)

/-- Captures an assertion. -/
def recordAssertion (s : Session) (doc : Document) (container target : NodeId)
    (assertion : Assertion) : Except Error (Option Entry) × Session :=
  let captured := s.captureAssertion doc container target assertion
  (captured, s.keep captured)

/-- The code of the log. -/
def compile (s : Session) : Bundle :=
  s.log.compile s.config.compileOptions

end Session

end Recorder
