import Recorder.Code.Frame
import Recorder.Locator.Synthesis

/-!
# Settings

The settings of a recorder and what they make: the options of a compilation, and a synthesizer that
answers queries from the document.
-/

namespace Recorder

/-- The settings of a recorder. -/
structure Config where
  /-- The attribute that holds test ids. -/
  testIdAttribute : String := "data-testid"
  /-- The form of the code. -/
  dialect : Dialect := .play
  /-- Whether expressions are given a type where they need one. -/
  typed : Bool := false
  /-- The time for the search of a CSS path. -/
  milliseconds : Nat := 1000
deriving DecidableEq

namespace Config

/-- How logs are compiled. -/
def compileOptions (c : Config) : CompileOptions :=
  ⟨c.dialect, c.typed⟩

/-- Answers queries from the document. -/
def engine (c : Config) : QueryEngine :=
  QueryEngine.ofAttribute c.testIdAttribute

/-- Makes locators with an engine of one's own. -/
def synthesizerWith (c : Config) (engine : QueryEngine) : Synthesizer :=
  ⟨engine, c.testIdAttribute, c.milliseconds⟩

/-- Makes locators from the document. -/
def synthesizer (c : Config) : Synthesizer :=
  c.synthesizerWith c.engine

end Config

end Recorder
