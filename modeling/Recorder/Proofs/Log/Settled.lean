import Mathlib.Data.List.Basic
import Recorder.Proofs.Log.Shift

/-!
# Settled logs

A log is settled if each of its entries is appended to those before it when they are recorded again.
Recording a settled log gives the log (`Settled.foldl_apply`). Without double clicks and moves of
the focus a recording is settled (`settled_recording`): a typing that replaces the text of another
leaves its target where it is, so that other typings find what they found before
(`Settled.retype`), and taking a Shift away commutes with what is recorded behind it
(`Settled.cancelShift`). So nothing is left to be merged in such a recording
(`ofEntries_recording`).
-/

namespace Recorder

/-- Whether an entry of this event can be appended to a log: it is no double click, no key that goes
up and no move of the focus. -/
def Event.isLasting : Event → Bool
  | .doubleClick | .keyUp _ | .focus _ => false
  | _ => true

/-- Of the events that are appended, only Shift has to do with the Shift keys that are held. -/
theorem Event.heedsShift_eq_false {event : Event} (hlasting : event.isLasting = true)
    (hshift : event.isKeyDown .shift = false) : event.heedsShift = false := by
  cases event with
  | keyDown key =>
    cases key with
    | shift => cases hshift
    | enter | escape | tab => rfl
  | doubleClick | keyUp | focus => cases hlasting
  | click | type | select | upload | assertion => rfl

namespace Merge

/-! ## What a typing finds -/

/-- Whether a typing into the target finds an earlier one whose text it replaces. -/
def findsTyping (target : Locator) (entries : List Entry) : Bool :=
  (entries.reverse.find? (endsSearch target)).any (·.event.isTyping)

/-- What a typing finds is where the search ends, if that is a typing. -/
theorem findsTyping_append {target : Locator} {s : Entry} {recent : List Entry}
    (before : List Entry) (hs : endsSearch target s = true)
    (h : ∀ e ∈ recent, endsSearch target e = false) :
    findsTyping target (before ++ s :: recent) = s.event.isTyping := by
  have hrev : (before ++ s :: recent).reverse = recent.reverse ++ s :: before.reverse := by simp
  have hnone : recent.reverse.find? (endsSearch target) = none :=
    List.find?_eq_none.2 (by simpa using h)
  rw [findsTyping, hrev, List.find?_append, hnone, Option.none_or, List.find?_cons_of_pos hs]
  rfl

/-- A typing is appended exactly if it finds no earlier one. -/
theorem coalesceType_eq_concat_iff {entries : List Entry} {l : Locator} {value : String} :
    coalesceType entries ⟨l, .type value⟩ = entries ++ [⟨l, .type value⟩] ↔
      findsTyping l entries = false := by
  rcases exists_last (endsSearch l) entries with h | ⟨before, s, recent, rfl, hs, h⟩
  · have hnone : findsTyping l entries = false := by
      rw [findsTyping, List.find?_eq_none.2 (by simpa using h)]
      rfl
    exact iff_of_true (coalesceType_of_forall h value) hnone
  · rw [coalesceType_append before hs h, findsTyping_append before hs h]
    cases s.event.isTyping with
    | false => exact iff_of_true rfl rfl
    | true =>
      -- Where a text is replaced, there are as many entries as before.
      refine iff_of_false (fun heq => ?_) (by simp)
      simpa using congrArg List.length heq

/-- What a typing finds does not depend on the texts of the earlier ones. -/
theorem findsTyping_retype (target l : Locator) (old value : String)
    (before recent : List Entry) :
    findsTyping target (before ++ ⟨l, .type value⟩ :: recent) =
      findsTyping target (before ++ ⟨l, .type old⟩ :: recent) := by
  have hrev (text : String) : (before ++ ⟨l, .type text⟩ :: recent).reverse =
      recent.reverse ++ ⟨l, .type text⟩ :: before.reverse := by simp
  have hends : endsSearch target ⟨l, .type value⟩ = endsSearch target ⟨l, .type old⟩ := rfl
  rw [findsTyping, findsTyping, hrev, hrev, List.find?_append, List.find?_append]
  cases recent.reverse.find? (endsSearch target) with
  | some e => rfl
  | none =>
    rw [Option.none_or, Option.none_or, List.find?_cons, List.find?_cons, hends]
    cases endsSearch target ⟨l, .type old⟩ <;> rfl

/-! ## Settled logs -/

/-- An entry that is appended when it is recorded behind others. -/
structure Stays (before : List Entry) (e : Entry) : Prop where
  /-- It is of a kind that is appended. -/
  isLasting : e.event.isLasting = true
  /-- It is not merged. -/
  apply_eq : apply before e = before ++ [e]

/-- Each entry is appended when it is recorded behind those before it. -/
def Settled (entries : List Entry) : Prop :=
  ∀ before e, before ++ [e] <+: entries → Stays before e

/-- A log is settled if it is without the last entry and that is appended. -/
theorem settled_concat_iff {entries : List Entry} {e : Entry} :
    Settled (entries ++ [e]) ↔ Settled entries ∧ Stays entries e := by
  refine ⟨fun h => ⟨fun before e' hinit => ?_, h entries e (List.prefix_refl _)⟩,
    fun ⟨hentries, he⟩ before e' hinit => ?_⟩
  · exact h before e' (hinit.trans (List.prefix_append _ _))
  · rcases List.prefix_concat_iff.1 hinit with heq | hinit
    · obtain ⟨rfl, hlast⟩ := List.append_inj' heq rfl
      obtain rfl := List.singleton_inj.1 hlast
      exact he
    · exact hentries before e' hinit

namespace Settled

variable {entries : List Entry}

/-- Without entries there is nothing to merge. -/
theorem nil : Settled [] :=
  fun before e hinit => by simp at hinit

/-- A settled log is what recording its entries gives. -/
theorem foldl_apply (h : Settled entries) : entries.foldl Merge.apply [] = entries := by
  induction entries using List.reverseRecOn with
  | nil => rfl
  | append_singleton entries e ih =>
    obtain ⟨hentries, he⟩ := settled_concat_iff.1 h
    rw [List.foldl_concat, ih hentries, he.apply_eq]

/-- Without its last Shift a log stays settled. -/
theorem cancelShift (h : Settled entries) : Settled (cancelShift entries) := by
  -- From the end of the log on, each entry is the last Shift or stays behind it.
  induction entries using List.reverseRecOn with
  | nil => exact h
  | append_singleton entries e ih =>
    obtain ⟨hentries, he⟩ := settled_concat_iff.1 h
    cases hs : isShift e with
    | true =>
      rw [cancelShift_concat_shift hs]
      exact hentries
    | false =>
      have hheeds := Event.heedsShift_eq_false he.isLasting hs
      rw [cancelShift_concat hs]
      refine settled_concat_iff.2 ⟨ih hentries, he.isLasting, ?_⟩
      rw [← cancelShift_apply entries hheeds, he.apply_eq, cancelShift_concat hs]

/-- A log stays settled when the text of a typing is replaced. -/
theorem retype {before recent : List Entry} {l : Locator} {old : String}
    (h : Settled (before ++ ⟨l, .type old⟩ :: recent)) (value : String) :
    Settled (before ++ ⟨l, .type value⟩ :: recent) := by
  -- From the end of the log on, only typings look at the entries before them, and not at the texts.
  induction recent using List.reverseRecOn with
  | nil =>
    obtain ⟨hbefore, he⟩ := settled_concat_iff.1 h
    have hfinds : findsTyping l before = false := coalesceType_eq_concat_iff.1 he.apply_eq
    exact settled_concat_iff.2 ⟨hbefore, rfl, coalesceType_eq_concat_iff.2 hfinds⟩
  | append_singleton recent e ih =>
    rw [← List.cons_append, ← List.append_assoc] at h ⊢
    obtain ⟨hentries, hlasting, happly⟩ := settled_concat_iff.1 h
    refine settled_concat_iff.2 ⟨ih hentries, hlasting, ?_⟩
    obtain ⟨target, event⟩ := e
    cases event with
    | type text =>
      have hfinds := coalesceType_eq_concat_iff.1 happly
      rw [← findsTyping_retype target l old value] at hfinds
      exact coalesceType_eq_concat_iff.2 hfinds
    | doubleClick | keyUp | focus => cases hlasting
    | click | keyDown | select | upload | assertion => rfl

/-- A log stays settled when an entry is recorded that is neither a double click nor a move of the
focus. -/
theorem apply (h : Settled entries) {entry : Entry}
    (hentry : entry.event.isDoubleClick = false ∧ entry.event.isFocus = false) :
    Settled (apply entries entry) := by
  obtain ⟨l, event⟩ := entry
  cases event with
  | doubleClick => cases hentry.1
  | focus back => cases hentry.2
  | keyUp key => exact h.cancelShift
  | type value =>
    rcases coalesceType_cases entries l value with heq | ⟨before, l', old, recent, rfl, -, heq⟩
    · rw [Merge.apply, heq]
      exact settled_concat_iff.2 ⟨h, rfl, heq⟩
    · rw [Merge.apply, heq]
      exact h.retype value
  | click | keyDown | select | upload | assertion => exact settled_concat_iff.2 ⟨h, rfl, rfl⟩

end Settled

/-- Without double clicks and moves of the focus a recording is settled. -/
theorem settled_recording {captured : List Entry}
    (h : ∀ e ∈ captured, e.event.isDoubleClick = false ∧ e.event.isFocus = false) :
    Settled (Log.ofEntries captured).entries := by
  revert h
  refine Log.ofEntries_induction (motive := fun captured entries =>
    (∀ e ∈ captured, e.event.isDoubleClick = false ∧ e.event.isFocus = false) →
      Settled entries) (fun _ => .nil) ?_ captured
  intro captured entry entries ih h
  exact (ih fun e he => h e (by simp [he])).apply (h entry (by simp))

end Merge

/-- Without double clicks and moves of the focus, recording the entries of a recording gives the
same log. -/
theorem ofEntries_recording {captured : List Entry}
    (h : ∀ e ∈ captured, e.event.isDoubleClick = false ∧ e.event.isFocus = false) :
    Log.ofEntries (Log.ofEntries captured).entries = Log.ofEntries captured := by
  have hentries : (Log.ofEntries (Log.ofEntries captured).entries).entries =
      (Log.ofEntries captured).entries := by
    rw [Log.entries_ofEntries (Log.ofEntries captured).entries]
    exact (Merge.settled_recording h).foldl_apply
  exact congrArg Log.mk hentries

/-- Notes are typed with Shift held, in two fields and around a click. -/
def notesTyped : List Entry :=
  [⟨notesField, .keyDown .shift⟩, ⟨notesField, .type "A"⟩, ⟨saveButton, .type "s"⟩,
    ⟨notesField, .type "AB"⟩, ⟨saveButton, .click⟩, ⟨notesField, .type "ABc"⟩,
    ⟨notesField, .keyUp .shift⟩, ⟨notesField, .keyDown .shift⟩, ⟨notesField, .type "ABcD"⟩]

/-- The click keeps two typings apart, and the Shift that is still held stays behind them. -/
theorem ofEntries_recording_notes :
    (∀ e ∈ notesTyped, e.event.isDoubleClick = false ∧ e.event.isFocus = false) ∧
      (Log.ofEntries (Log.ofEntries notesTyped).entries).entries =
        [⟨notesField, .type "AB"⟩, ⟨saveButton, .type "s"⟩, ⟨saveButton, .click⟩,
          ⟨notesField, .type "ABcD"⟩, ⟨notesField, .keyDown .shift⟩] := by
  have h : ∀ e ∈ notesTyped, e.event.isDoubleClick = false ∧ e.event.isFocus = false := by decide
  exact ⟨h, (congrArg Log.entries (ofEntries_recording h)).trans rfl⟩

/-- A double click may take away the click that kept two typings apart, and then they are merged
when they are recorded again. -/
example :
    let log := Log.ofEntries [⟨notesField, .type "A"⟩, ⟨saveButton, .click⟩,
      ⟨notesField, .type "AB"⟩, ⟨saveButton, .doubleClick⟩]
    log.entries = [⟨notesField, .type "A"⟩, ⟨notesField, .type "AB"⟩, ⟨saveButton, .doubleClick⟩] ∧
      (Log.ofEntries log.entries).entries =
        [⟨notesField, .type "AB"⟩, ⟨saveButton, .doubleClick⟩] :=
  ⟨rfl, rfl⟩

end Recorder
