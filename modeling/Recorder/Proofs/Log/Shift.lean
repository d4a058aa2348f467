import Recorder.Proofs.Code.Locality
import Recorder.Proofs.Log.Rules

/-!
# Held Shift keys

A pressed Shift key stands in a log for as long as it is held. A focus looks at it, and a key that
goes up takes the last one away; every other entry is folded in as if it were not there. So taking
the last Shift away commutes with folding in such entries (`cancelShift_apply`,
`cancelShift_foldl_apply`), and a Shift that is pressed and released leaves no trace of itself
(`record_released_shift`). Taking all of them away is taking the last one away for as long as there
is one, and commutes as well (`withoutShift_apply`). So where the focus never moves, whether Shift
is pressed shows neither in the other entries of a recording nor in its code
(`withoutShift_recording`).
-/

namespace Recorder

/-- Whether folding in the event has to do with the Shift keys that are held: one more is pressed, a
key goes up, or the focus moves. -/
def Event.heedsShift : Event → Bool
  | .keyDown .shift | .keyUp _ | .focus _ => true
  | _ => false

/-- An event that does not move the focus has to do with the Shift keys that are held if it is Shift
or a key that goes up. -/
theorem Event.heedsShift_eq {event : Event} (h : event.isFocus = false) :
    event.heedsShift = (event.isKeyDown .shift || event.isKeyUp) := by
  cases event with
  | keyDown key => cases key <;> rfl
  | focus back => cases h
  | _ => rfl

namespace Merge

/-! ## The last Shift -/

/-- Another entry stays where it is when the last Shift is taken away. -/
theorem cancelShift_concat {entry : Entry} (h : isShift entry = false) (entries : List Entry) :
    cancelShift (entries ++ [entry]) = cancelShift entries ++ [entry] := by
  rw [cancelShift, List.reverse_concat, List.eraseP_cons_of_neg (by simp [h]), List.reverse_cons,
    cancelShift]

/-- A Shift at the end of a log is the last one. -/
theorem cancelShift_concat_shift {entry : Entry} (h : isShift entry = true)
    (entries : List Entry) : cancelShift (entries ++ [entry]) = entries := by
  rw [cancelShift_append entries h (by simp), List.append_nil]

/-- Taking the last Shift away changes something if there is one. -/
theorem cancelShift_eq_self_iff {entries : List Entry} :
    cancelShift entries = entries ↔ ∀ e ∈ entries, isShift e = false := by
  refine ⟨fun h => ?_, cancelShift_of_no_shift⟩
  rcases exists_last_shift entries with hno | ⟨before, s, recent, rfl, hs, hrecent⟩
  · exact hno
  · rw [cancelShift_append before hs hrecent] at h
    simpa using congrArg List.length h

/-- A double click takes the same clicks away without the last Shift. -/
theorem cancelShift_absorbClicks {entry : Entry} (h : isShift entry = false)
    (entries : List Entry) :
    cancelShift (absorbClicks entries entry) = absorbClicks (cancelShift entries) entry := by
  rw [absorbClicks, cancelShift_concat h, cancelShift, List.reverse_reverse,
    ← dropClicks_eraseP (fun _ => rfl), absorbClicks, cancelShift, List.reverse_reverse]

/-- A typing takes the same value, or is appended, without the last Shift. -/
theorem cancelShift_coalesceType (entries : List Entry) (l : Locator) (value : String) :
    cancelShift (coalesceType entries ⟨l, .type value⟩) =
      coalesceType (cancelShift entries) ⟨l, .type value⟩ := by
  -- Both searches go over the entries newest first.
  have hrev : (cancelShift entries).reverse = entries.reverse.eraseP isShift :=
    List.reverse_reverse _
  simp only [coalesceType, hrev, retype?_eraseP_isShift]
  cases retype? l value entries.reverse with
  | none => exact cancelShift_concat rfl entries
  | some es => simp [cancelShift]

/-- What has nothing to do with Shift is folded in as if the last Shift were not there. -/
theorem cancelShift_apply (entries : List Entry) {entry : Entry}
    (h : entry.event.heedsShift = false) :
    cancelShift (apply entries entry) = apply (cancelShift entries) entry := by
  obtain ⟨l, event⟩ := entry
  cases event with
  | doubleClick => exact cancelShift_absorbClicks rfl entries
  | type value => exact cancelShift_coalesceType entries l value
  | keyDown key =>
    cases key with
    | shift => cases h
    | enter | escape | tab => exact cancelShift_concat rfl entries
  | keyUp | focus => cases h
  | click | select | upload | assertion => exact cancelShift_concat rfl entries

/-- A run of what has nothing to do with Shift goes as if the last Shift were not there. -/
theorem cancelShift_foldl_apply (entries : List Entry) {captured : List Entry}
    (h : ∀ e ∈ captured, e.event.heedsShift = false) :
    cancelShift (captured.foldl apply entries) = captured.foldl apply (cancelShift entries) := by
  induction captured generalizing entries with
  | nil => rfl
  | cons e captured ih =>
    rw [List.foldl_cons, List.foldl_cons, ih _ fun e he => h e (by simp [he]),
      cancelShift_apply entries (h e (by simp))]

end Merge

open Merge

/-- A Shift that is pressed and released leaves no trace, whatever is recorded while it is held, as
long as no other key goes up, no other Shift is pressed and the focus does not move. -/
theorem record_released_shift (log : Log) {captured : List Entry}
    (h : ∀ e ∈ captured, e.event.heedsShift = false) (pressed released : Locator) (key : Key) :
    (captured.foldl Log.record (log.record ⟨pressed, .keyDown .shift⟩)).record
      ⟨released, .keyUp key⟩ = captured.foldl Log.record log := by
  let shift : Entry := ⟨pressed, .keyDown .shift⟩
  have hentries : cancelShift (captured.foldl Log.record (log.record shift)).entries =
      (captured.foldl Log.record log).entries := by
    rw [Log.entries_foldl_record, Log.entries_foldl_record]
    calc cancelShift (captured.foldl apply (log.entries ++ [shift]))
        = captured.foldl apply (cancelShift (log.entries ++ [shift])) := cancelShift_foldl_apply _ h
      _ = captured.foldl apply log.entries := by rw [cancelShift_concat_shift rfl]
  exact congrArg Log.mk hentries

/-- A field for notes. -/
def notesField : Locator :=
  .single (.role "textbox" (some "Notes"))

/-- A button that saves. -/
def saveButton : Locator :=
  .single (.role "button" (some "Save"))

/-- A log in which Shift is held already. -/
def shiftedLog : Log :=
  ⟨[⟨notesField, .keyDown .shift⟩, ⟨saveButton, .click⟩, ⟨notesField, .type "A"⟩]⟩

/-- What is done while Shift is held a second time. -/
def doneUnderShift : List Entry :=
  [⟨notesField, .type "AB"⟩, ⟨saveButton, .click⟩, ⟨saveButton, .doubleClick⟩,
    ⟨notesField, .keyDown .tab⟩]

/-- The typing and the double click reach behind the second Shift, which is gone in the end; the
first one is still there. -/
theorem record_released_shift_twice :
    (∀ e ∈ doneUnderShift, e.event.heedsShift = false) ∧
      ((doneUnderShift.foldl Log.record (shiftedLog.record ⟨notesField, .keyDown .shift⟩)).record
        ⟨saveButton, .keyUp .shift⟩).entries =
          [⟨notesField, .keyDown .shift⟩, ⟨notesField, .type "AB"⟩, ⟨saveButton, .doubleClick⟩,
            ⟨notesField, .keyDown .tab⟩] := by
  have h : ∀ e ∈ doneUnderShift, e.event.heedsShift = false := by decide
  have hlog := record_released_shift shiftedLog h notesField saveButton .shift
  exact ⟨h, (congrArg Log.entries hlog).trans rfl⟩

/-! ## All Shifts -/

namespace Merge

/-- The entries that are no pressed Shift key. -/
def withoutShift (entries : List Entry) : List Entry :=
  entries.filter (!isShift ·)

/-- The entries that neither press Shift nor let a key go. -/
def unshifted (entries : List Entry) : List Entry :=
  entries.filter fun e => !isShift e && !e.event.isKeyUp

/-- Without a pressed Shift key there is nothing to take away. -/
theorem withoutShift_of_no_shift {entries : List Entry} (h : ∀ e ∈ entries, isShift e = false) :
    withoutShift entries = entries :=
  List.filter_eq_self.2 fun e he => by simp [h e he]

/-- The last Shift is one of all. -/
theorem withoutShift_cancelShift (entries : List Entry) :
    withoutShift (cancelShift entries) = withoutShift entries :=
  filter_cancelShift (fun _ => rfl) entries

/-- What has nothing to do with Shift is folded in as if no Shift were there. -/
theorem withoutShift_apply (entries : List Entry) {entry : Entry}
    (h : entry.event.heedsShift = false) :
    withoutShift (apply entries entry) = apply (withoutShift entries) entry := by
  have hcancel := cancelShift_apply entries h
  by_cases hself : cancelShift entries = entries
  · -- There is no Shift before, so there is none afterwards.
    have hnext : cancelShift (apply entries entry) = apply entries entry := by rw [hcancel, hself]
    rw [withoutShift_of_no_shift (cancelShift_eq_self_iff.1 hself),
      withoutShift_of_no_shift (cancelShift_eq_self_iff.1 hnext)]
  · -- The last Shift is taken away on both sides, and then the others.
    have hlt : (cancelShift entries).length < entries.length :=
      lt_of_le_of_ne (sublist_cancelShift entries).length_le fun hlength =>
        hself ((sublist_cancelShift entries).eq_of_length hlength)
    calc withoutShift (apply entries entry)
        = withoutShift (apply (cancelShift entries) entry) := by
          rw [← withoutShift_cancelShift, hcancel]
      _ = apply (withoutShift (cancelShift entries)) entry := withoutShift_apply _ h
      _ = apply (withoutShift entries) entry := by rw [withoutShift_cancelShift]
termination_by entries.length

/-- Pressing Shift and letting a key go changes no other entry. -/
theorem withoutShift_apply_of_key (entries : List Entry) {entry : Entry}
    (h : isShift entry = true ∨ entry.event.isKeyUp = true) :
    withoutShift (apply entries entry) = withoutShift entries := by
  obtain ⟨l, event⟩ := entry
  rcases h with hs | hup
  · obtain rfl : event = .keyDown .shift := isShift_iff.1 hs
    rw [apply, withoutShift, List.filter_append]
    exact List.append_nil _
  · cases event with
    | keyUp key => exact withoutShift_cancelShift entries
    | _ => cases hup

/-- Where the focus does not move, a run goes for the other entries as if no Shift were pressed and
no key went up. -/
theorem withoutShift_foldl_apply (entries : List Entry) {captured : List Entry}
    (h : ∀ e ∈ captured, e.event.isFocus = false) :
    withoutShift (captured.foldl apply entries) =
      (unshifted captured).foldl apply (withoutShift entries) := by
  induction captured generalizing entries with
  | nil => rfl
  | cons e captured ih =>
    have hheeds : e.event.heedsShift = (isShift e || e.event.isKeyUp) :=
      Event.heedsShift_eq (h e (by simp))
    rw [List.foldl_cons, ih _ fun e he => h e (by simp [he])]
    cases hkey : isShift e || e.event.isKeyUp with
    | false =>
      have hkeep : unshifted (e :: captured) = e :: unshifted captured :=
        List.filter_cons_of_pos (by simpa using hkey)
      rw [hkeep, List.foldl_cons, withoutShift_apply entries (hheeds.trans hkey)]
    | true =>
      have hdrop : unshifted (e :: captured) = unshifted captured :=
        List.filter_cons_of_neg (by simp [← Bool.not_or, hkey])
      rw [hdrop, withoutShift_apply_of_key entries (by simpa using hkey)]

end Merge

/-- Where the focus never moves, Shift is seen nowhere else in a recording: without the presses of
Shift it is the recording of what was captured but for Shift and the keys that go up, and its code
is the same for all options. -/
theorem withoutShift_recording {captured : List Entry}
    (h : ∀ e ∈ captured, e.event.isFocus = false) :
    withoutShift (Log.ofEntries captured).entries = (Log.ofEntries (unshifted captured)).entries ∧
      ∀ options, (Log.ofEntries captured).compile options =
        (Log.ofEntries (unshifted captured)).compile options := by
  have hentries : withoutShift (Log.ofEntries captured).entries =
      (Log.ofEntries (unshifted captured)).entries := by
    rw [Log.entries_ofEntries, Log.entries_ofEntries]
    exact withoutShift_foldl_apply [] h
  -- A press of Shift has no statement.
  have hsilent (typed : Bool) (e : Entry) (he : (!isShift e) = false) :
      Statements.ofEntry typed e = .empty := by
    rw [Statements.ofEntry, isShift_iff.1 (by simpa using he)]
  refine ⟨hentries, fun options => ?_⟩
  calc (Log.ofEntries captured).compile options
      = (Log.mk (withoutShift (Log.ofEntries captured).entries)).compile options :=
        (Log.compile_filter hsilent _ options).symm
    _ = (Log.ofEntries (unshifted captured)).compile options := by rw [hentries]

/-- Capital letters are typed with Shift pressed twice and let go once, and a key goes up that was
pressed before. -/
def unbalancedShifts : List Entry :=
  [⟨notesField, .keyUp .enter⟩, ⟨notesField, .keyDown .shift⟩, ⟨notesField, .type "A"⟩,
    ⟨saveButton, .click⟩, ⟨notesField, .keyDown .shift⟩, ⟨notesField, .keyUp .shift⟩,
    ⟨saveButton, .click⟩, ⟨saveButton, .doubleClick⟩, ⟨notesField, .keyDown .shift⟩]

/-- Two presses of Shift are left in the recording, and its code is that of a typing and a double
click. -/
theorem withoutShift_recording_unbalanced :
    (∀ e ∈ unbalancedShifts, e.event.isFocus = false) ∧
      (Log.ofEntries unbalancedShifts).entries.countP isShift = 2 ∧
      withoutShift (Log.ofEntries unbalancedShifts).entries =
        [⟨notesField, .type "A"⟩, ⟨saveButton, .doubleClick⟩] ∧
      ∀ options, (Log.ofEntries unbalancedShifts).compile options =
        Log.compile ⟨[⟨notesField, .type "A"⟩, ⟨saveButton, .doubleClick⟩]⟩ options := by
  have h : ∀ e ∈ unbalancedShifts, e.event.isFocus = false := by decide
  obtain ⟨hentries, hcompile⟩ := withoutShift_recording h
  exact ⟨h, by decide, hentries.trans rfl, hcompile⟩

end Recorder
