import Mathlib.Data.List.Induction
import Mathlib.Data.List.TakeWhile
import Mathlib.Tactic.Common
import Mathlib.Tactic.Push
import Recorder.Log

/-!
# What the merge rules do

One statement for each rule, in the order of the log and not of the search: which entries it finds,
where they stand among the others, and what is left. Everything else about the rules follows from
these statements, so that the searches themselves are opened here only. `coalesceType_append` is
about the typing that takes a new value, `cancelShift_append` about the Shift that is taken away,
and `eraseP_isTab_cases` about the Tab that becomes a move of the focus. What is said of one kind of
entries follows from the rules that deal with this kind: the others leave its entries as they are
(`filter_coalesceType` and the statements around it, and `filter_apply` for all rules but one).
-/

namespace Recorder

/-- Whether the event is a typing. -/
def Event.isTyping : Event → Bool
  | .type _ => true
  | _ => false

/-- Whether the event is a double click. -/
def Event.isDoubleClick : Event → Bool
  | .doubleClick => true
  | _ => false

/-- Whether the event is a key that goes up. -/
def Event.isKeyUp : Event → Bool
  | .keyUp _ => true
  | _ => false

/-- Whether the event is a move of the focus. -/
def Event.isFocus : Event → Bool
  | .focus _ => true
  | _ => false

/-- The event is a click. -/
theorem Event.isClick_iff {event : Event} : event.isClick = true ↔ event = .click := by
  cases event <;> simp [isClick]

/-- The event is this key that goes down. -/
theorem Event.isKeyDown_iff {key : Key} {event : Event} :
    event.isKeyDown key = true ↔ event = .keyDown key := by
  cases event <;> simp [isKeyDown]

namespace Merge

/-- An entry is a pressed Shift key by its event. -/
theorem isShift_iff {e : Entry} : isShift e = true ↔ e.event = .keyDown .shift :=
  Event.isKeyDown_iff

/-- An entry is a pressed Tab key by its event. -/
theorem isTab_iff {e : Entry} : isTab e = true ↔ e.event = .keyDown .tab :=
  Event.isKeyDown_iff

/-- A pressed Shift key is no pressed Tab key. -/
theorem isTab_eq_false_of_isShift {e : Entry} (h : isShift e = true) : isTab e = false := by
  rw [Bool.eq_false_iff, ne_eq, isTab_iff, isShift_iff.1 h]
  simp

/-- The clicks that are taken away are the only entries that are. -/
theorem filter_dropClicks (count : Nat) (es : List Entry) :
    (dropClicks count es).filter (!·.event.isClick) = es.filter (!·.event.isClick) := by
  induction es generalizing count with
  | nil => cases count <;> rfl
  | cons e es ih =>
    cases count with
    | zero => rfl
    | succ count =>
      rw [dropClicks]
      split
      case isTrue h => rw [ih, List.filter_cons_of_neg (by simp [h])]
      case isFalse h =>
        rw [List.filter_cons_of_pos (by simpa using h), List.filter_cons_of_pos (by simpa using h),
          ih]

/-- A double click changes nothing of what is no click, and comes last. -/
theorem filter_absorbClicks (entries : List Entry) (entry : Entry) :
    ∃ kept, absorbClicks entries entry = kept ++ [entry] ∧
      kept.filter (!·.event.isClick) = entries.filter (!·.event.isClick) := by
  refine ⟨_, rfl, ?_⟩
  rw [List.filter_reverse, filter_dropClicks, List.filter_reverse, List.reverse_reverse]

/-- Taking clicks away leaves the other entries in order. -/
theorem sublist_dropClicks (count : Nat) (es : List Entry) : (dropClicks count es).Sublist es := by
  fun_induction dropClicks count es with
  | case1 => exact .refl _
  | case2 => exact .refl _
  | case3 _ e _ _ ih => exact ih.cons e
  | case4 _ e _ _ ih => exact ih.cons_cons e

/-- The clicks that are taken away are the newest ones. -/
theorem filter_isClick_dropClicks (count : Nat) (es : List Entry) :
    (dropClicks count es).filter (·.event.isClick) = (es.filter (·.event.isClick)).drop count := by
  fun_induction dropClicks count es with
  | case1 => rfl
  | case2 count => rw [List.filter_nil, List.drop_nil]
  | case3 count e es he ih => rw [ih, List.filter_cons, if_pos he, List.drop_succ_cons]
  | case4 count e es he ih => rw [List.filter_cons, List.filter_cons, if_neg he, if_neg he, ih]

/-- An entry that is no click can be taken away before or after the clicks. -/
theorem dropClicks_eraseP {p : Entry → Bool} (hclick : ∀ l, p ⟨l, .click⟩ = false) (count : Nat)
    (es : List Entry) : dropClicks count (es.eraseP p) = (dropClicks count es).eraseP p := by
  fun_induction dropClicks count es with
  | case1 => rw [dropClicks]
  | case2 count => cases count <;> rfl
  | case3 count e es he ih =>
    obtain ⟨l, event⟩ := e
    obtain rfl : event = .click := Event.isClick_iff.1 he
    rw [List.eraseP_cons_of_neg (by simp [hclick]), dropClicks, if_pos he, ih]
  | case4 count e es he ih =>
    cases hp : p e with
    | false =>
      rw [List.eraseP_cons_of_neg (by simp [hp]), List.eraseP_cons_of_neg (by simp [hp]),
        dropClicks, if_neg he, ih]
    | true => rw [List.eraseP_cons_of_pos hp, List.eraseP_cons_of_pos hp]

/-- Either no entry satisfies a condition, or the last one that does splits a log. -/
theorem exists_last (p : Entry → Bool) (entries : List Entry) :
    (∀ e ∈ entries, p e = false) ∨
      ∃ before s recent, entries = before ++ s :: recent ∧ p s = true ∧
        ∀ e ∈ recent, p e = false := by
  induction entries using List.reverseRecOn with
  | nil => exact .inl (by simp)
  | append_singleton entries e ih =>
    by_cases he : p e = true
    · exact .inr ⟨entries, e, [], rfl, he, by simp⟩
    · rcases ih with h | ⟨before, s, recent, rfl, hs, h⟩
      · exact .inl fun e' he' => by grind
      · exact .inr ⟨before, s, recent ++ [e], by simp, hs, fun e' he' => by grind⟩

/-- Whether the search for an earlier typing into a target ends at an entry: at a typing into the
target, and at anything that is neither a typing nor a pressed Shift key. -/
def endsSearch (target : Locator) (e : Entry) : Bool :=
  match e.event with
  | .type _ => e.locator.sameTarget target
  | .keyDown .shift => false
  | _ => true

/-- The search goes on behind an entry that does not end it. -/
theorem retype?_of_not_endsSearch {target : Locator} {e : Entry} (h : endsSearch target e = false)
    (value : String) (es : List Entry) :
    retype? target value (e :: es) = (retype? target value es).map (e :: ·) := by
  obtain ⟨l, event⟩ := e
  cases event with
  | type old => exact if_neg (by simpa [endsSearch] using h)
  | keyDown key =>
    cases key with
    | shift => rfl
    | enter | escape | tab => cases h
  | _ => cases h

/-- Where the search ends, the value of a typing is replaced. -/
theorem retype?_of_endsSearch {target : Locator} {e : Entry} (h : endsSearch target e = true)
    (value : String) (es : List Entry) :
    retype? target value (e :: es) =
      if e.event.isTyping then some ({ e with event := .type value } :: es) else none := by
  obtain ⟨l, event⟩ := e
  cases event with
  | type old => exact if_pos h
  | keyDown key =>
    cases key with
    | shift => cases h
    | enter | escape | tab => rfl
  | _ => rfl

/-- The search goes on behind entries that do not end it. -/
theorem retype?_append {target : Locator} {recent : List Entry}
    (h : ∀ e ∈ recent, endsSearch target e = false) (value : String) (es : List Entry) :
    retype? target value (recent ++ es) = (retype? target value es).map (recent ++ ·) := by
  induction recent with
  | nil => simp
  | cons e recent ih =>
    rw [List.cons_append, retype?_of_not_endsSearch (h e (by simp)), ih fun e he => h e (by simp [he]),
      Option.map_map]
    rfl

/-- A pressed Shift key can be taken away before or after a typing has taken the value. -/
theorem retype?_eraseP_isShift (target : Locator) (value : String) (es : List Entry) :
    retype? target value (es.eraseP isShift) =
      (retype? target value es).map (·.eraseP isShift) := by
  induction es with
  | nil => rfl
  | cons e es ih =>
    by_cases hs : isShift e = true
    · -- The search passes over the key that is taken away.
      have hends : endsSearch target e = false := by rw [endsSearch, isShift_iff.1 hs]
      rw [List.eraseP_cons_of_pos hs, retype?_of_not_endsSearch hends]
      cases retype? target value es with
      | none => rfl
      | some rest => rw [Option.map_some, Option.map_some, List.eraseP_cons_of_pos hs]
    · rw [List.eraseP_cons_of_neg hs]
      by_cases hends : endsSearch target e = true
      · rw [retype?_of_endsSearch hends, retype?_of_endsSearch hends]
        split <;> rfl
      · rw [Bool.not_eq_true] at hends
        rw [retype?_of_not_endsSearch hends, retype?_of_not_endsSearch hends, ih]
        cases retype? target value es with
        | none => rfl
        | some rest => rw [Option.map_some, Option.map_some, Option.map_some, Option.map_some,
            List.eraseP_cons_of_neg hs]

/-- A typing is appended where no entry ends the search. -/
theorem coalesceType_of_forall {entries : List Entry} {target : Locator}
    (h : ∀ e ∈ entries, endsSearch target e = false) (value : String) :
    coalesceType entries ⟨target, .type value⟩ = entries ++ [⟨target, .type value⟩] := by
  have hrev : ∀ e ∈ entries.reverse, endsSearch target e = false := by simpa using h
  have hnone : retype? target value entries.reverse = none := by
    rw [← List.append_nil entries.reverse, retype?_append hrev]
    rfl
  simp only [coalesceType, hnone]
  rfl

/-- Where an entry ends the search, a typing into the target takes the new value, and behind any
other entry the new typing is appended. -/
theorem coalesceType_append {s : Entry} {recent : List Entry} {target : Locator}
    (before : List Entry) (hs : endsSearch target s = true)
    (h : ∀ e ∈ recent, endsSearch target e = false) (value : String) :
    coalesceType (before ++ s :: recent) ⟨target, .type value⟩ =
      if s.event.isTyping then before ++ { s with event := .type value } :: recent
      else before ++ s :: recent ++ [⟨target, .type value⟩] := by
  have hrev : (before ++ s :: recent).reverse = recent.reverse ++ s :: before.reverse := by simp
  have hfound : retype? target value (before ++ s :: recent).reverse =
      if s.event.isTyping then
        some (recent.reverse ++ { s with event := .type value } :: before.reverse)
      else none := by
    rw [hrev, retype?_append (by simpa using h), retype?_of_endsSearch hs]
    split <;> rfl
  simp only [coalesceType, hfound]
  split <;> simp

/-- A typing replaces the value of an earlier one, which keeps its place and its locator, or is
appended. -/
theorem coalesceType_cases (entries : List Entry) (target : Locator) (value : String) :
    coalesceType entries ⟨target, .type value⟩ = entries ++ [⟨target, .type value⟩] ∨
      ∃ before l old recent, entries = before ++ ⟨l, .type old⟩ :: recent ∧
        l.sameTarget target = true ∧
        coalesceType entries ⟨target, .type value⟩ = before ++ ⟨l, .type value⟩ :: recent := by
  rcases exists_last (endsSearch target) entries with h | ⟨before, s, recent, rfl, hs, h⟩
  · exact .inl (coalesceType_of_forall h value)
  · rw [coalesceType_append before hs h]
    obtain ⟨l, event⟩ := s
    cases event with
    | type old => exact .inr ⟨before, l, old, recent, rfl, hs, rfl⟩
    | _ => exact .inl rfl

/-- A typing leaves the entries of other targets as they are, and in their places. -/
theorem getElem?_coalesceType {entries : List Entry} {target : Locator} {i : Nat} {e : Entry}
    (hi : entries[i]? = some e) (he : e.locator.sameTarget target = false) (value : String) :
    (coalesceType entries ⟨target, .type value⟩)[i]? = some e := by
  rcases coalesceType_cases entries target value with h | ⟨before, l, old, recent, rfl, hl, h⟩
  · rw [h, List.getElem?_append_left (List.getElem?_eq_some_iff.1 hi).1]
    exact hi
  · -- The entry that is replaced is one of the target, so it does not stand at this place.
    have hne : before.length ≠ i := by
      rintro rfl
      have hsame : (⟨l, .type old⟩ : Entry) = e := by simpa using hi
      rw [← hsame, hl] at he
      cases he
    have hset : before ++ ⟨l, .type value⟩ :: recent =
        (before ++ ⟨l, .type old⟩ :: recent).set before.length ⟨l, .type value⟩ := by
      simp
    rw [h, hset, List.getElem?_set_ne hne]
    exact hi

/-- The last pressed Shift key splits a log, if there is one. -/
theorem exists_last_shift (entries : List Entry) :
    (∀ e ∈ entries, isShift e = false) ∨
      ∃ before s recent, entries = before ++ s :: recent ∧ isShift s = true ∧
        ∀ e ∈ recent, isShift e = false :=
  exists_last isShift entries

/-- Without a pressed Shift key, a key that goes up changes nothing. -/
theorem cancelShift_of_no_shift {entries : List Entry} (h : ∀ e ∈ entries, isShift e = false) :
    cancelShift entries = entries := by
  rw [cancelShift, List.eraseP_of_forall_not (by simpa using h), List.reverse_reverse]

/-- A key that goes up takes the last pressed Shift key away, and nothing else. -/
theorem cancelShift_append {s : Entry} {recent : List Entry} (before : List Entry)
    (hs : isShift s = true) (h : ∀ e ∈ recent, isShift e = false) :
    cancelShift (before ++ s :: recent) = before ++ recent := by
  have hrev : (before ++ s :: recent).reverse = recent.reverse ++ s :: before.reverse := by simp
  rw [cancelShift, hrev, List.eraseP_append_right _ (by simpa using h),
    List.eraseP_cons_of_pos hs]
  simp

/-- A key that goes up leaves the other entries in order. -/
theorem sublist_cancelShift (entries : List Entry) : (cancelShift entries).Sublist entries := by
  rw [cancelShift, ← List.reverse_sublist, List.reverse_reverse]
  exact List.eraseP_sublist

/-- Without a pressed Shift key, all entries are recent. -/
theorem splitAtShift_of_no_shift {entries : List Entry} (h : ∀ e ∈ entries, isShift e = false) :
    splitAtShift entries = ([], entries) := by
  have hrev : ∀ e ∈ entries.reverse, (!isShift e) = true := by simpa using h
  rw [splitAtShift, List.dropWhile_eq_nil_iff.2 hrev, List.takeWhile_eq_self_iff.2 hrev]
  simp

/-- The entries behind the last pressed Shift key are the recent ones. -/
theorem splitAtShift_append {s : Entry} {recent : List Entry} (before : List Entry)
    (hs : isShift s = true) (h : ∀ e ∈ recent, isShift e = false) :
    splitAtShift (before ++ s :: recent) = (before ++ [s], recent) := by
  have hrev : (before ++ s :: recent).reverse = recent.reverse ++ s :: before.reverse := by simp
  have hpos : ∀ e ∈ recent.reverse, (!isShift e) = true := by simpa using h
  rw [splitAtShift, hrev, List.dropWhile_append_of_pos hpos, List.takeWhile_append_of_pos hpos]
  simp [hs]

/-- The two parts of a split log are the log. -/
theorem append_splitAtShift (entries : List Entry) :
    (splitAtShift entries).1 ++ (splitAtShift entries).2 = entries := by
  rw [splitAtShift, ← List.reverse_append, List.takeWhile_append_dropWhile, List.reverse_reverse]

/-- Of the recent entries, a focus finds the first Tab, or none. -/
theorem eraseP_isTab_cases (recent : List Entry) :
    (recent.any isTab = false ∧ recent.countP isTab = 0) ∨
      ∃ earlier t later, recent = earlier ++ t :: later ∧ isTab t = true ∧
        recent.any isTab = true ∧ recent.eraseP isTab = earlier ++ later := by
  by_cases h : ∃ e ∈ recent, isTab e = true
  · obtain ⟨e, he, ht⟩ := h
    obtain ⟨t, earlier, later, -, ht', hrecent, herase⟩ := List.exists_of_eraseP he ht
    exact .inr ⟨earlier, t, later, hrecent, ht', List.any_eq_true.2 ⟨e, he, ht⟩, herase⟩
  · push Not at h
    exact .inl ⟨by simpa using h, by simpa [List.countP_eq_zero] using h⟩

/-! ## What the rules leave -/

variable {p : Entry → Bool}

/-- An entry at the end that does not count. -/
theorem filter_concat_of_neg {entry : Entry} (h : p entry = false) (entries : List Entry) :
    (entries ++ [entry]).filter p = entries.filter p := by
  rw [List.filter_append, List.filter_cons_of_neg (by simp [h]), List.filter_nil, List.append_nil]

/-- A double click does to entries that are no clicks what appending it does. -/
theorem filter_absorbClicks_of_not_click (hclick : ∀ l, p ⟨l, .click⟩ = false)
    (entries : List Entry) (entry : Entry) :
    (absorbClicks entries entry).filter p = (entries ++ [entry]).filter p := by
  obtain ⟨kept, heq, hkept⟩ := filter_absorbClicks entries entry
  have hother (es : List Entry) : (es.filter (!·.event.isClick)).filter p = es.filter p := by
    rw [List.filter_filter]
    refine List.filter_congr fun e _ => ?_
    obtain ⟨l, event⟩ := e
    cases event with
    | click => rw [hclick l, Bool.false_and]
    | _ => exact Bool.and_true _
  rw [heq, List.filter_append, List.filter_append, ← hother kept, hkept, hother]

/-- A typing leaves the entries that are no typings. -/
theorem filter_coalesceType (htyping : ∀ l value, p ⟨l, .type value⟩ = false)
    (entries : List Entry) (l : Locator) (value : String) :
    (coalesceType entries ⟨l, .type value⟩).filter p = entries.filter p := by
  rcases coalesceType_cases entries l value with h | ⟨before, l', old, recent, rfl, -, h⟩
  · rw [h, filter_concat_of_neg (htyping l value)]
  · rw [h, List.filter_append, List.filter_append, List.filter_cons_of_neg (by simp [htyping]),
      List.filter_cons_of_neg (by simp [htyping])]

/-- A key that goes up leaves the entries that are no pressed Shift keys. -/
theorem filter_cancelShift (hshift : ∀ l, p ⟨l, .keyDown .shift⟩ = false) (entries : List Entry) :
    (cancelShift entries).filter p = entries.filter p := by
  rcases exists_last_shift entries with h | ⟨before, ⟨l, event⟩, recent, rfl, hs, h⟩
  · rw [cancelShift_of_no_shift h]
  · obtain rfl : event = .keyDown .shift := isShift_iff.1 hs
    rw [cancelShift_append before hs h, List.filter_append, List.filter_append,
      List.filter_cons_of_neg (by simp [hshift])]

/-- A focus leaves the entries that are neither pressed Tab keys nor moves of the focus. -/
theorem filter_fuseFocus (htab : ∀ l, p ⟨l, .keyDown .tab⟩ = false)
    (hfocus : ∀ l shift, p ⟨l, .focus shift⟩ = false) (entries : List Entry) (entry : Entry) :
    (fuseFocus entries entry).filter p = entries.filter p := by
  have hsplit := append_splitAtShift entries
  simp only [fuseFocus]
  rcases eraseP_isTab_cases (splitAtShift entries).2 with
    ⟨hany, -⟩ | ⟨earlier, ⟨l, event⟩, later, hrecent, ht, hany, herase⟩
  · rw [if_neg (by simp [hany])]
  · obtain rfl : event = .keyDown .tab := isTab_iff.1 ht
    rw [if_pos hany, herase, filter_concat_of_neg (hfocus _ _)]
    conv_rhs => rw [← hsplit, hrecent]
    rw [List.filter_append, List.filter_append, List.filter_append, List.filter_append,
      List.filter_cons_of_neg (by simp [htab])]

/-- Whether a rule other than that of double clicks changes entries like this one or leaves them
out. -/
def isMerged (e : Entry) : Bool :=
  match e.event with
  | .type _ | .keyDown .tab | .keyDown .shift | .keyUp _ | .focus _ => true
  | _ => false

/-- But for a double click, folding in an entry does to the entries that the other rules leave what
appending it does. -/
theorem filter_apply (hmerged : ∀ e, isMerged e = true → p e = false) {entry : Entry}
    (hentry : entry.event.isDoubleClick = false) (entries : List Entry) :
    (apply entries entry).filter p = (entries ++ [entry]).filter p := by
  have hout (h : isMerged entry = true) : (entries ++ [entry]).filter p = entries.filter p :=
    filter_concat_of_neg (hmerged entry h) entries
  obtain ⟨l, event⟩ := entry
  cases event with
  | doubleClick => cases hentry
  | type value =>
    rw [hout rfl]
    exact filter_coalesceType (fun _ _ => hmerged _ rfl) entries l value
  | keyUp key =>
    rw [hout rfl]
    exact filter_cancelShift (fun _ => hmerged _ rfl) entries
  | focus shift =>
    rw [hout rfl]
    exact filter_fuseFocus (fun _ => hmerged _ rfl) (fun _ _ => hmerged _ rfl) entries _
  | click | keyDown | select | upload | assertion => rfl

end Merge

namespace Log

/-- Recording entries one after the other folds them into the entries of the log. -/
theorem entries_foldl_record (log : Log) (captured : List Entry) :
    (captured.foldl record log).entries = captured.foldl Merge.apply log.entries := by
  induction captured generalizing log with
  | nil => rfl
  | cons e captured ih => exact ih (log.record e)

/-- A recording folds the captured entries by the merge rules, one after the other. -/
theorem entries_ofEntries (captured : List Entry) :
    (ofEntries captured).entries = captured.foldl Merge.apply [] :=
  entries_foldl_record empty captured

/-- What holds before anything is captured, and is kept when an entry is captured and folded in,
holds of every recording. -/
theorem ofEntries_induction {motive : List Entry → List Entry → Prop} (nil : motive [] [])
    (concat : ∀ captured entry entries, motive captured entries →
      motive (captured ++ [entry]) (Merge.apply entries entry)) (captured : List Entry) :
    motive captured (ofEntries captured).entries := by
  rw [entries_ofEntries]
  induction captured using List.reverseRecOn with
  | nil => exact nil
  | append_singleton captured entry ih =>
    rw [List.foldl_append]
    exact concat captured entry _ ih

end Log

end Recorder
