import Recorder.Event.Basic

/-!
# Logs

A log is a recording: its entries in the order in which they are to be run. Entries are recorded one
by one, each folded into the log by the merge rules.

A gesture causes several events: typing one for each key, a double click two clicks before it, a
move by Tab a key and a focus. The rules fold a new entry into the entries before it, so that each
gesture is left with one entry. All of them look back from the newest entry. The search of each rule
goes over the entries newest first; where it has to leave entries in place, it gives the list back
with the rest unchanged.
-/

namespace Recorder

/-! ## Merging entries -/

namespace Merge

/-- The entries, newest first, without the first `count` clicks among them. -/
def dropClicks : Nat → List Entry → List Entry
  | 0, es => es
  | _, [] => []
  | count + 1, e :: es =>
    if e.event.isClick then dropClicks count es else e :: dropClicks (count + 1) es

/-- The number of clicks that come with a double click. -/
def clicksPerDoubleClick : Nat := 2

/-- Takes the last two clicks away, wherever they are, and appends the double click. -/
def absorbClicks (entries : List Entry) (entry : Entry) : List Entry :=
  (dropClicks clicksPerDoubleClick entries.reverse).reverse ++ [entry]

/-- The entries, newest first, with the value of the first typing into a target replaced. Typing
elsewhere and pressed Shift keys are passed over; any other entry ends the search. -/
def retype? (target : Locator) (value : String) : List Entry → Option (List Entry)
  | [] => none
  | e :: es =>
    match e.event with
    | .type _ =>
      if e.locator.sameTarget target then some ({ e with event := .type value } :: es)
      else (retype? target value es).map (e :: ·)
    | .keyDown .shift => (retype? target value es).map (e :: ·)
    | _ => none

/-- Replaces the value of an earlier typing into the same target, or appends the entry. -/
def coalesceType (entries : List Entry) (entry : Entry) : List Entry :=
  match entry.event with
  | .type value =>
    ((retype? entry.locator value entries.reverse).map List.reverse).getD (entries ++ [entry])
  | _ => entries ++ [entry]

/-- Whether the entry is a pressed Shift key. -/
def isShift (e : Entry) : Bool :=
  e.event.isKeyDown .shift

/-- Whether the entry is a pressed Tab key. -/
def isTab (e : Entry) : Bool :=
  e.event.isKeyDown .tab

/-- Takes the last pressed Shift key away. The key going up is no entry. -/
def cancelShift (entries : List Entry) : List Entry :=
  (entries.reverse.eraseP isShift).reverse

/-- The entries up to the last pressed Shift key, and those after it. -/
def splitAtShift (entries : List Entry) : List Entry × List Entry :=
  ((entries.reverse.dropWhile (!isShift ·)).reverse,
    (entries.reverse.takeWhile (!isShift ·)).reverse)

/-- Turns the first Tab after the last pressed Shift key into a move of the focus, backwards if
there is such a key. A focus without a Tab is a side effect of another entry, and dropped. -/
def fuseFocus (entries : List Entry) (entry : Entry) : List Entry :=
  let (before, recent) := splitAtShift entries
  if recent.any isTab then
    before ++ recent.eraseP isTab ++ [⟨entry.locator, .focus !before.isEmpty⟩]
  else entries

/-- Folds an entry into the entries before it. -/
def apply (entries : List Entry) (entry : Entry) : List Entry :=
  match entry.event with
  | .doubleClick => absorbClicks entries entry
  | .type _ => coalesceType entries entry
  | .keyUp _ => cancelShift entries
  | .focus _ => fuseFocus entries entry
  | _ => entries ++ [entry]

end Merge

/-! ## Recording -/

/-- A recording. -/
structure Log where
  /-- The entries in order. -/
  entries : List Entry

namespace Log

/-- A log without entries. -/
def empty : Log := ⟨[]⟩

/-- Whether nothing is recorded. -/
def isEmpty (log : Log) : Bool :=
  log.entries.isEmpty

/-- Folds an entry into the log. -/
def record (log : Log) (entry : Entry) : Log :=
  ⟨Merge.apply log.entries entry⟩

/-- The log of entries that are recorded one after the other. -/
def ofEntries (entries : List Entry) : Log :=
  entries.foldl record empty

end Log

end Recorder
