import Mathlib.Algebra.Ring.Nat
import Recorder.Proofs.Log.Rules

/-!
# Moves of the focus as a stack machine

Which moves of the focus a log keeps, and in which direction, is what a machine says that never
looks back. It holds a stack of counters, one for the Tabs since each Shift that is still held: a
Shift pushes a counter, a key that goes up merges the top counter with the one below, and a focus
takes a Tab from the top counter or is dropped. `TabStack.ofEntries` reads the stack off a log. Each
merge rule acts on it as the machine does (`apply_simulates_step`), and by induction over what is
captured so does a whole recording (`foldl_apply_simulates_run`, `focuses_recording`).
-/

namespace Recorder

/-- The moves of the focus among entries, in order. -/
def focuses (entries : List Entry) : List Entry :=
  entries.filter (·.event.isFocus)

/-- The moves of the focus of one list behind those of another. -/
theorem focuses_append (a b : List Entry) : focuses (a ++ b) = focuses a ++ focuses b :=
  List.filter_append ..

/-- An entry that is no move of the focus does not count. -/
theorem focuses_cons_of_not_focus {e : Entry} (es : List Entry) (h : e.event.isFocus = false) :
    focuses (e :: es) = focuses es :=
  List.filter_cons_of_neg (by simp [h])

/-- A stack of counters that is never empty. -/
structure TabStack where
  /-- The top counter. -/
  top : Nat
  /-- The counters below, from the top down. -/
  below : List Nat
deriving DecidableEq

namespace TabStack

/-- The stack of one counter at zero. -/
def initial : TabStack :=
  ⟨0, []⟩

/-- The counters from the top down. -/
def counters (s : TabStack) : List Nat :=
  s.top :: s.below

/-- Adds one to the top counter. -/
def press (s : TabStack) : TabStack :=
  { s with top := s.top + 1 }

/-- Puts a counter at zero on top. -/
def push (s : TabStack) : TabStack :=
  ⟨0, s.counters⟩

/-- Adds the top counter to the one below and pops it; a single counter stays. -/
def merge : TabStack → TabStack
  | ⟨top, []⟩ => ⟨top, []⟩
  | ⟨top, next :: below⟩ => ⟨next + top, below⟩

/-- What the machine does on an entry: its next stack, and the entry it emits if any. -/
def step (s : TabStack) (entry : Entry) : TabStack × Option Entry :=
  match entry.event with
  | .keyDown .tab => (s.press, none)
  | .keyDown .shift => (s.push, none)
  | .keyUp _ => (s.merge, none)
  | .focus _ =>
    match s.top with
    | 0 => (s, none)
    | top + 1 => ({ s with top }, some ⟨entry.locator, .focus (1 < s.counters.length)⟩)
  | _ => (s, none)

/-- What the machine does on entries one after the other: its last stack, and all it emits. -/
def run (s : TabStack) : List Entry → TabStack × List Entry
  | [] => (s, [])
  | e :: es =>
    let (next, emitted) := s.step e
    let (last, later) := next.run es
    (last, emitted.toList ++ later)

/-! ## The stack of a log -/

/-- The stack behind an entry of a log. -/
def note (s : TabStack) (e : Entry) : TabStack :=
  if Merge.isShift e then s.push else if Merge.isTab e then s.press else s

/-- The stack of a log: a counter for the Tabs in front of the first Shift, and one for the Tabs
behind each. -/
def ofEntries (entries : List Entry) : TabStack :=
  entries.foldl note initial

open Merge

/-- An entry that is neither Shift nor Tab leaves the stack alone. -/
theorem note_of_other {e : Entry} (s : TabStack) (hs : isShift e = false) (ht : isTab e = false) :
    s.note e = s := by
  simp [note, hs, ht]

/-- A click leaves the stack alone. -/
theorem note_of_isClick {e : Entry} (s : TabStack) (h : e.event.isClick = true) : s.note e = s := by
  obtain ⟨l, event⟩ := e
  obtain rfl : event = .click := Event.isClick_iff.1 h
  rfl

/-- The stack depends on no click. -/
theorem foldl_note_filter_isClick (s : TabStack) (es : List Entry) :
    (es.filter (!·.event.isClick)).foldl note s = es.foldl note s := by
  induction es generalizing s with
  | nil => rfl
  | cons e es ih =>
    by_cases h : e.event.isClick = true
    · rw [List.filter_cons_of_neg (by simp [h]), ih, List.foldl_cons, note_of_isClick s h]
    · rw [List.filter_cons_of_pos (by simp [h]), List.foldl_cons, List.foldl_cons, ih]

/-- Without a Shift, the top counter counts the Tabs. -/
theorem foldl_note_of_no_shift (s : TabStack) {es : List Entry}
    (h : ∀ e ∈ es, isShift e = false) :
    es.foldl note s = { s with top := s.top + es.countP isTab } := by
  induction es generalizing s with
  | nil => rfl
  | cons e es ih =>
    have he : isShift e = false := h e (by simp)
    rw [List.foldl_cons, ih _ fun e' he' => h e' (by simp [he'])]
    cases ht : isTab e with
    | true =>
      rw [List.countP_cons_of_pos ht]
      simp only [note, he, ht, press, Bool.false_eq_true, ↓reduceIte, mk.injEq, and_true]
      omega
    | false => rw [note_of_other s he ht, List.countP_cons_of_neg (by simp [ht])]

/-- A log without a Shift has one counter. -/
theorem ofEntries_of_no_shift {es : List Entry} (h : ∀ e ∈ es, isShift e = false) :
    ofEntries es = ⟨es.countP isTab, []⟩ := by
  rw [ofEntries, foldl_note_of_no_shift _ h]
  simp [initial]

/-- The top counter counts the Tabs behind the last Shift. -/
theorem ofEntries_append_shift {s : Entry} {recent : List Entry} (before : List Entry)
    (hs : isShift s = true) (h : ∀ e ∈ recent, isShift e = false) :
    ofEntries (before ++ s :: recent) = ⟨recent.countP isTab, (ofEntries before).counters⟩ := by
  rw [ofEntries, List.foldl_append, List.foldl_cons, foldl_note_of_no_shift _ h]
  simp [note, hs, push, ofEntries]

/-- An entry at the end of a log. -/
theorem ofEntries_concat (entries : List Entry) (e : Entry) :
    ofEntries (entries ++ [e]) = (ofEntries entries).note e := by
  simp [ofEntries]

/-! ## The rules -/

/-- A double click leaves the stack alone. -/
theorem ofEntries_absorbClicks (entries : List Entry) (l : Locator) :
    ofEntries (absorbClicks entries ⟨l, .doubleClick⟩) = ofEntries entries := by
  obtain ⟨kept, heq, hkept⟩ := filter_absorbClicks entries ⟨l, .doubleClick⟩
  rw [heq, ofEntries_concat, note_of_other _ rfl rfl, ofEntries, ofEntries,
    ← foldl_note_filter_isClick, hkept, foldl_note_filter_isClick]

/-- A typing leaves the stack alone. -/
theorem ofEntries_coalesceType (entries : List Entry) (l : Locator) (value : String) :
    ofEntries (coalesceType entries ⟨l, .type value⟩) = ofEntries entries := by
  rcases coalesceType_cases entries l value with h | ⟨before, l', old, recent, rfl, -, h⟩
  · rw [h, ofEntries_concat, note_of_other _ rfl rfl]
  · rw [h, ofEntries, ofEntries, List.foldl_append, List.foldl_append, List.foldl_cons,
      List.foldl_cons, note_of_other _ rfl rfl, note_of_other _ rfl rfl]

/-- A key that goes up merges the two top counters. -/
theorem ofEntries_cancelShift (entries : List Entry) :
    ofEntries (cancelShift entries) = (ofEntries entries).merge := by
  rcases exists_last_shift entries with h | ⟨before, s, recent, rfl, hs, h⟩
  · rw [cancelShift_of_no_shift h, ofEntries_of_no_shift h, merge]
  · rw [cancelShift_append before hs h, ofEntries_append_shift before hs h, ofEntries,
      List.foldl_append, foldl_note_of_no_shift _ h]
    rfl

/-- A log splits at its last Shift, and what stands behind it counts for the top counter only. -/
theorem exists_splitAtShift (entries : List Entry) :
    ∃ before recent below, splitAtShift entries = (before, recent) ∧ entries = before ++ recent ∧
      (∀ e ∈ recent, isShift e = false) ∧ before.isEmpty = below.isEmpty ∧
      ∀ es, (∀ e ∈ es, isShift e = false) → ofEntries (before ++ es) = ⟨es.countP isTab, below⟩ := by
  rcases exists_last_shift entries with h | ⟨before, s, recent, rfl, hs, h⟩
  · exact ⟨[], entries, [], splitAtShift_of_no_shift h, rfl, h, rfl,
      fun es hes => ofEntries_of_no_shift hes⟩
  · refine ⟨before ++ [s], recent, (ofEntries before).counters, splitAtShift_append before hs h,
      by simp, h, by simp [counters], fun es hes => ?_⟩
    rw [List.append_assoc]
    exact ofEntries_append_shift before hs hes

/-- A focus takes a Tab from the top counter and is kept at its own locator, backwards if a Shift
is held; without such a Tab it is dropped. -/
theorem fuseFocus_eq (entries : List Entry) (l : Locator) (shift : Bool) :
    ofEntries (fuseFocus entries ⟨l, .focus shift⟩) =
        ((ofEntries entries).step ⟨l, .focus shift⟩).1 ∧
      focuses (fuseFocus entries ⟨l, .focus shift⟩) =
        focuses entries ++ ((ofEntries entries).step ⟨l, .focus shift⟩).2.toList := by
  obtain ⟨before, recent, below, hsplit, rfl, hrecent, hbelow, hstack⟩ :=
    exists_splitAtShift entries
  simp only [fuseFocus, hsplit, hstack recent hrecent, step]
  rcases eraseP_isTab_cases recent with ⟨hany, hcount⟩ | ⟨earlier, t, later, rfl, ht, hany, herase⟩
  · -- No Tab is left behind the last Shift.
    simp [hany, hcount, hstack recent hrecent]
  · -- The first such Tab is taken away, and the move at the end is no Shift, so the last Shift of
    -- the log stays the last one.
    have hcount : (earlier ++ t :: later).countP isTab = (earlier ++ later).countP isTab + 1 := by
      rw [List.countP_append, List.countP_append, List.countP_cons_of_pos ht]
      omega
    have hmove : ∀ e ∈ earlier ++ later ++ [⟨l, .focus !before.isEmpty⟩], isShift e = false := by
      intro e he
      rcases List.mem_append.1 he with he | he
      · exact hrecent e (by grind)
      · rw [List.mem_singleton.1 he]
        rfl
    have htab : t.event.isFocus = false := by rw [isTab_iff.1 ht]; rfl
    have hback : (!before.isEmpty) = decide (1 < (below.length + 1)) := by
      rw [hbelow]
      cases below <;> simp
    rw [hany, if_pos rfl, herase, hcount, List.append_assoc, hstack _ hmove]
    constructor
    · rw [List.countP_append]
      simp [isTab, Event.isKeyDown]
    · simp only [focuses_append, focuses_cons_of_not_focus _ htab, hback, counters,
        List.length_cons, Option.toList_some, List.append_assoc]
      rfl

/-- A double click leaves the moves of the focus. -/
theorem focuses_absorbClicks (entries : List Entry) (l : Locator) :
    focuses (absorbClicks entries ⟨l, .doubleClick⟩) = focuses entries := by
  rw [focuses, filter_absorbClicks_of_not_click (fun _ => rfl), filter_concat_of_neg rfl, focuses]

/-- A typing leaves the moves of the focus. -/
theorem focuses_coalesceType (entries : List Entry) (l : Locator) (value : String) :
    focuses (coalesceType entries ⟨l, .type value⟩) = focuses entries :=
  filter_coalesceType (fun _ _ => rfl) entries l value

/-- A key that goes up leaves the moves of the focus. -/
theorem focuses_cancelShift (entries : List Entry) :
    focuses (cancelShift entries) = focuses entries :=
  filter_cancelShift (fun _ => rfl) entries

/-- Each merge rule does to the stack and to the moves of the focus what the machine does. -/
theorem apply_simulates_step (entries : List Entry) (entry : Entry) :
    ofEntries (apply entries entry) = ((ofEntries entries).step entry).1 ∧
      focuses (apply entries entry) =
        focuses entries ++ ((ofEntries entries).step entry).2.toList := by
  obtain ⟨l, event⟩ := entry
  -- The events that are only appended: the stack notes them, and none is a move of the focus.
  have appended (event : Event) (h : event.isFocus = false) :
      focuses (entries ++ [⟨l, event⟩]) = focuses entries ++ (none : Option Entry).toList := by
    rw [focuses, filter_concat_of_neg h, Option.toList_none, List.append_nil, focuses]
  cases event with
  | doubleClick =>
    exact ⟨ofEntries_absorbClicks entries l,
      (focuses_absorbClicks entries l).trans (List.append_nil _).symm⟩
  | type value =>
    exact ⟨ofEntries_coalesceType entries l value,
      (focuses_coalesceType entries l value).trans (List.append_nil _).symm⟩
  | keyUp key =>
    exact ⟨ofEntries_cancelShift entries,
      (focuses_cancelShift entries).trans (List.append_nil _).symm⟩
  | focus shift => exact fuseFocus_eq entries l shift
  | keyDown key => cases key <;> exact ⟨ofEntries_concat entries _, appended _ rfl⟩
  | click => exact ⟨ofEntries_concat entries _, appended _ rfl⟩
  | select options => exact ⟨ofEntries_concat entries _, appended _ rfl⟩
  | upload files => exact ⟨ofEntries_concat entries _, appended _ rfl⟩
  | assertion kind args => exact ⟨ofEntries_concat entries _, appended _ rfl⟩

/-! ## Recordings -/

/-- A recording does to the stack and to the moves of the focus what the machine does on the
captured entries. -/
theorem foldl_apply_simulates_run (entries captured : List Entry) :
    ofEntries (captured.foldl apply entries) = ((ofEntries entries).run captured).1 ∧
      focuses (captured.foldl apply entries) =
        focuses entries ++ ((ofEntries entries).run captured).2 := by
  -- The log that is folded into changes with each entry, and the stack of the machine with it.
  induction captured generalizing entries with
  | nil => exact ⟨rfl, (List.append_nil _).symm⟩
  | cons e es ih =>
    obtain ⟨hstack, hfocus⟩ := apply_simulates_step entries e
    obtain ⟨ihstack, ihfocus⟩ := ih (apply entries e)
    rw [hstack] at ihstack ihfocus
    refine ⟨ihstack, ?_⟩
    rw [List.foldl_cons, ihfocus, hfocus, List.append_assoc]
    rfl

/-- The counters of a log add up to its Tabs. -/
theorem sum_counters_ofEntries (entries : List Entry) :
    (ofEntries entries).counters.sum = entries.countP isTab := by
  induction entries using List.reverseRecOn with
  | nil => rfl
  | append_singleton entries e ih =>
    rw [ofEntries_concat, List.countP_append, ← ih, List.countP_singleton, note]
    split
    case isTrue h => simp [isTab_eq_false_of_isShift h, push, counters]
    case isFalse =>
      split
      · simp only [press, counters, List.sum_cons]
        omega
      · rfl

/-- A log has one counter more than it has Shifts. -/
theorem length_counters_ofEntries (entries : List Entry) :
    (ofEntries entries).counters.length = entries.countP isShift + 1 := by
  induction entries using List.reverseRecOn with
  | nil => rfl
  | append_singleton entries e ih =>
    rw [ofEntries_concat, List.countP_append, List.countP_singleton, note]
    split
    case isTrue h => simpa [push, counters] using ih
    case isFalse h =>
      rw [Nat.add_zero, ← ih]
      split <;> rfl

/-- The moves of the focus that a recording keeps are those that the machine emits on the captured
entries, and the Tabs and Shifts it is left with are those of the machine's stack: the counters add
up to the Tabs, and there is one counter more than there are Shifts. -/
theorem focuses_recording (captured : List Entry) :
    focuses (Log.ofEntries captured).entries = (initial.run captured).2 ∧
      (Log.ofEntries captured).entries.countP isTab = (initial.run captured).1.counters.sum ∧
      (Log.ofEntries captured).entries.countP isShift + 1 =
        (initial.run captured).1.counters.length := by
  obtain ⟨hstack, hfocus⟩ := foldl_apply_simulates_run [] captured
  have hempty : ofEntries [] = initial := rfl
  rw [Log.entries_ofEntries, hfocus, ← hempty, ← hstack, sum_counters_ofEntries,
    length_counters_ofEntries]
  exact ⟨rfl, rfl, rfl⟩

end TabStack

end Recorder
