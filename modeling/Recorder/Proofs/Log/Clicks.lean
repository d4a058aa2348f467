import Mathlib.Data.List.Basic
import Recorder.Proofs.Log.Rules

/-!
# Clicks as a stack

Which clicks a recording keeps is what a stack says that is told of nothing but clicks: a click is
put on top, and a double click takes up to two off. The clicks of a log, the newest on top, are such
a stack, and folding in an entry does to it what the entry does to the stack (`clicks_apply`). All
other rules leave the clicks alone. A double click itself is never taken away
(`doubleClicks_apply`), and takes away nothing but clicks, so that the rest of a log keeps its order
(`clicks_recording`).
-/

namespace Recorder

/-- The clicks among entries, in order. -/
def clicks (entries : List Entry) : List Entry :=
  entries.filter (·.event.isClick)

/-- The double clicks among entries, in order. -/
def doubleClicks (entries : List Entry) : List Entry :=
  entries.filter (·.event.isDoubleClick)

/-- The entries that are no clicks, in order. -/
def nonClicks (entries : List Entry) : List Entry :=
  entries.filter (!·.event.isClick)

/-- What an entry does to a stack of clicks, given from the top down: a click is put on top, and a
double click takes up to two clicks off. -/
def stackClick (stack : List Entry) (entry : Entry) : List Entry :=
  match entry.event with
  | .click => entry :: stack
  | .doubleClick => stack.drop 2
  | _ => stack

/-- The stack of clicks that entries leave behind, from the top down. -/
def clickStack (entries : List Entry) : List Entry :=
  entries.foldl stackClick []

namespace Merge

/-- A double click takes the two newest clicks away. -/
theorem clicks_absorbClicks (entries : List Entry) (l : Locator) :
    (clicks (absorbClicks entries ⟨l, .doubleClick⟩)).reverse =
      (clicks entries).reverse.drop 2 := by
  rw [clicks, absorbClicks, filter_concat_of_neg rfl, List.filter_reverse, List.reverse_reverse,
    filter_isClick_dropClicks, List.filter_reverse, clicksPerDoubleClick, clicks]

/-- The rules for other events leave clicks and double clicks. -/
theorem not_click_of_isMerged {e : Entry} (h : isMerged e = true) :
    e.event.isClick = false ∧ e.event.isDoubleClick = false := by
  obtain ⟨l, event⟩ := e
  cases event with
  | click | doubleClick => cases h
  | _ => exact ⟨rfl, rfl⟩

/-- Folding in an entry does to the clicks of a log what the entry does to their stack. -/
theorem clicks_apply (entries : List Entry) (entry : Entry) :
    (clicks (apply entries entry)).reverse = stackClick (clicks entries).reverse entry := by
  obtain ⟨l, event⟩ := entry
  cases event with
  | doubleClick => exact clicks_absorbClicks entries l
  | _ =>
    -- It is as good as appended, and on top if it is a click.
    rw [clicks, filter_apply (fun e he => (not_click_of_isMerged he).1) rfl, List.filter_append,
      List.reverse_append]
    rfl

/-- Folding in an entry does to the double clicks of a log what appending it does. -/
theorem doubleClicks_apply (entries : List Entry) (entry : Entry) :
    doubleClicks (apply entries entry) = doubleClicks (entries ++ [entry]) := by
  obtain ⟨l, event⟩ := entry
  cases event with
  | doubleClick => exact filter_absorbClicks_of_not_click (fun _ => rfl) entries _
  | _ => exact filter_apply (fun e he => (not_click_of_isMerged he).2) rfl entries

/-- Folding in a double click leaves what is no click, and the double click comes last. -/
theorem nonClicks_apply (entries : List Entry) (l : Locator) :
    nonClicks (apply entries ⟨l, .doubleClick⟩) = nonClicks entries ++ [⟨l, .doubleClick⟩] := by
  rw [nonClicks, apply, filter_absorbClicks_of_not_click (fun _ => rfl), List.filter_append]
  rfl

end Merge

/-- The clicks of a recording, from the bottom up, are the stack on which each captured click is put
and from which each captured double click takes up to two. The double clicks are those captured, in
their order, and what is no click stays in its order when a double click is recorded. -/
theorem clicks_recording (captured : List Entry) :
    clicks (Log.ofEntries captured).entries = (clickStack captured).reverse ∧
      doubleClicks (Log.ofEntries captured).entries = doubleClicks captured ∧
      ∀ (log : Log) (l : Locator), nonClicks (log.record ⟨l, .doubleClick⟩).entries =
        nonClicks log.entries ++ [⟨l, .doubleClick⟩] := by
  have hstack : (clicks (Log.ofEntries captured).entries).reverse = clickStack captured := by
    refine Log.ofEntries_induction
      (motive := fun captured entries => (clicks entries).reverse = clickStack captured) rfl ?_ _
    intro captured entry entries h
    rw [Merge.clicks_apply, h, clickStack, clickStack, List.foldl_concat]
  have hdouble : doubleClicks (Log.ofEntries captured).entries = doubleClicks captured := by
    refine Log.ofEntries_induction
      (motive := fun captured entries => doubleClicks entries = doubleClicks captured) rfl ?_ _
    intro captured entry entries h
    have happend (es : List Entry) :
        doubleClicks (es ++ [entry]) = doubleClicks es ++ doubleClicks [entry] :=
      List.filter_append ..
    rw [Merge.doubleClicks_apply, happend, h, happend]
  exact ⟨List.reverse_eq_iff.1 hstack, hdouble, fun log l => Merge.nonClicks_apply log.entries l⟩

end Recorder
