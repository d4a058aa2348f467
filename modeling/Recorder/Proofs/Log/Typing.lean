import Recorder.Proofs.Locator.Expression
import Recorder.Proofs.Log.Rules
import Recorder.Proofs.Pairs

/-!
# Typed texts

Each typing is captured with the whole text that is there afterwards, so of the typings into one
target only the last one matters. The log may keep several of them, where something else was done in
between, but the last one that it keeps has the text that was captured last
(`getLast?_textsAt_recording`): a rule either does for the last text of a target what appending
would do, or leaves the typings alone (`getLast?_textsAt_apply`). Where nothing but Shift is pressed
between them, the typings of the log are those captured with each target once, at its first place
and with its last text (`typings_recording`): the log is a map from targets to texts, and a typing
is put into it (`typings_coalesceType`).
-/

namespace Recorder

/-- The target and the text of a typing, if the entry is one. -/
def Entry.typing? (e : Entry) : Option (Locator × String) :=
  match e.event with
  | .type value => some (e.locator, value)
  | _ => none

/-- The typings among entries, in order: where, and which text. -/
def typings (entries : List Entry) : List (Locator × String) :=
  entries.filterMap Entry.typing?

/-- The texts that entries type into a target, in order. -/
def textsAt (target : Locator) (entries : List Entry) : List String :=
  valuesOf target (typings entries)

/-- The typings of one list behind those of another. -/
theorem typings_append (a b : List Entry) : typings (a ++ b) = typings a ++ typings b :=
  List.filterMap_append

/-- No entries have no typings. -/
theorem typings_nil : typings [] = [] := rfl

/-- A typing in front. -/
theorem typings_cons (l : Locator) (value : String) (es : List Entry) :
    typings (⟨l, .type value⟩ :: es) = (l, value) :: typings es :=
  rfl

/-- An entry that is no typing does not count. -/
theorem typings_cons_of_not_typing {e : Entry} (es : List Entry) (h : e.event.isTyping = false) :
    typings (e :: es) = typings es := by
  refine List.filterMap_cons_none ?_
  obtain ⟨l, event⟩ := e
  cases event with
  | type value => cases h
  | _ => rfl

/-- What is no typing does not matter for the typings. -/
theorem typings_filter_isTyping (es : List Entry) :
    typings (es.filter (·.event.isTyping)) = typings es := by
  rw [typings, typings, List.filterMap_filter]
  refine List.filterMap_congr fun e _ => ?_
  obtain ⟨l, event⟩ := e
  cases event <;> rfl

/-- Entries with the same typings among them have the same typings. -/
theorem typings_congr {a b : List Entry}
    (h : a.filter (·.event.isTyping) = b.filter (·.event.isTyping)) : typings a = typings b := by
  rw [← typings_filter_isTyping a, h, typings_filter_isTyping]

/-- The typings are entries. -/
theorem mem_typings {l : Locator} {value : String} {entries : List Entry} :
    (l, value) ∈ typings entries ↔ ⟨l, .type value⟩ ∈ entries := by
  have htyping (e : Entry) : e.typing? = some (l, value) ↔ e = ⟨l, .type value⟩ := by
    obtain ⟨l', event⟩ := e
    cases event <;> simp [Entry.typing?]
  simp [typings, htyping]

/-- The texts that one list types into a target behind those of another. -/
theorem textsAt_append (target : Locator) (a b : List Entry) :
    textsAt target (a ++ b) = textsAt target a ++ textsAt target b := by
  rw [textsAt, typings_append]
  simp [textsAt, valuesOf]

/-- No entries type no text. -/
theorem textsAt_nil (target : Locator) : textsAt target [] = [] := rfl

/-- A typing into the target is the first text of it. -/
theorem textsAt_cons_self (target : Locator) (value : String) (es : List Entry) :
    textsAt target (⟨target, .type value⟩ :: es) = value :: textsAt target es := by
  simp [textsAt, typings, Entry.typing?, valuesOf]

/-- A typing elsewhere is no text of the target. -/
theorem textsAt_cons_of_ne {target l : Locator} (h : l ≠ target) (value : String)
    (es : List Entry) : textsAt target (⟨l, .type value⟩ :: es) = textsAt target es := by
  simp [textsAt, typings, Entry.typing?, valuesOf, h]

namespace Merge

/-! ## The rules that leave the typings -/

/-- A double click leaves the typings. -/
theorem typings_absorbClicks (entries : List Entry) (l : Locator) :
    typings (absorbClicks entries ⟨l, .doubleClick⟩) = typings entries := by
  refine typings_congr ?_
  rw [filter_absorbClicks_of_not_click (fun _ => rfl), filter_concat_of_neg rfl]

/-- A key that goes up leaves the typings. -/
theorem typings_cancelShift (entries : List Entry) :
    typings (cancelShift entries) = typings entries :=
  typings_congr (filter_cancelShift (fun _ => rfl) entries)

/-- A focus leaves the typings. -/
theorem typings_fuseFocus (entries : List Entry) (l : Locator) (shift : Bool) :
    typings (fuseFocus entries ⟨l, .focus shift⟩) = typings entries :=
  typings_congr (filter_fuseFocus (fun _ => rfl) (fun _ _ => rfl) entries _)

/-- An entry that is no typing leaves the typings. -/
theorem typings_apply_of_not_typing {entry : Entry} (h : entry.event.isTyping = false)
    (entries : List Entry) : typings (apply entries entry) = typings entries := by
  -- The entries of most events are only appended.
  have happend : typings (entries ++ [entry]) = typings entries := by
    rw [typings_append, typings_cons_of_not_typing _ h, typings_nil, List.append_nil]
  obtain ⟨l, event⟩ := entry
  cases event with
  | type value => cases h
  | doubleClick => exact typings_absorbClicks entries l
  | keyUp key => exact typings_cancelShift entries
  | focus shift => exact typings_fuseFocus entries l shift
  | click | keyDown | select | upload | assertion => exact happend

/-! ## The last text of a target -/

/-- The search for an earlier typing goes past no typing into its target. -/
theorem notMem_keys_typings {target : Locator} {entries : List Entry}
    (h : ∀ e ∈ entries, endsSearch target e = false) :
    target ∉ (typings entries).map Prod.fst := by
  intro hmem
  obtain ⟨⟨l, value⟩, hvalue, rfl⟩ := List.mem_map.1 hmem
  have hends : endsSearch l ⟨l, .type value⟩ = true := by simp [endsSearch, Locator.sameTarget]
  rw [h _ (mem_typings.1 hvalue)] at hends
  cases hends

/-- A typing does for the last text of each target what appending it would do. -/
theorem getLast?_textsAt_coalesceType (target : Locator) (entries : List Entry) (l : Locator)
    (value : String) :
    (textsAt target (coalesceType entries ⟨l, .type value⟩)).getLast? =
      (textsAt target (entries ++ [⟨l, .type value⟩])).getLast? := by
  rcases exists_last (endsSearch l) entries with h | ⟨before, ⟨l', event⟩, recent, rfl, hs, h⟩
  · rw [coalesceType_of_forall h]
  · rw [coalesceType_append before hs h]
    cases event with
    | type old =>
      obtain rfl := Locator.eq_of_sameTarget hs
      have hrecent : textsAt l' recent = [] := valuesOf_eq_nil (notMem_keys_typings h)
      simp only [Event.isTyping, if_true, textsAt_append]
      by_cases hl : l' = target
      · -- The new text comes last on both sides, as no other one stands behind the typing.
        subst hl
        simp [textsAt_cons_self, textsAt_nil, hrecent]
      · simp [textsAt_cons_of_ne hl, textsAt_nil]
    | _ => rfl

/-- Folding in an entry does for the last text of each target what appending it would do. -/
theorem getLast?_textsAt_apply (target : Locator) (entries : List Entry) (entry : Entry) :
    (textsAt target (apply entries entry)).getLast? =
      (textsAt target (entries ++ [entry])).getLast? := by
  cases h : entry.event.isTyping with
  | false =>
    rw [textsAt, typings_apply_of_not_typing h, textsAt, typings_append,
      typings_cons_of_not_typing _ h, typings_nil, List.append_nil]
  | true =>
    obtain ⟨l, event⟩ := entry
    cases event with
    | type value => exact getLast?_textsAt_coalesceType target entries l value
    | _ => cases h

end Merge

/-- The last text that a recording keeps of a target is the last one that was captured there,
whatever was captured in between. Where a text was captured, one is kept. -/
theorem getLast?_textsAt_recording (target : Locator) (captured : List Entry) :
    (textsAt target (Log.ofEntries captured).entries).getLast? =
      (textsAt target captured).getLast? := by
  rw [Log.entries_ofEntries]
  induction captured using List.reverseRecOn with
  | nil => rfl
  | append_singleton captured entry ih =>
    rw [List.foldl_concat, Merge.getLast?_textsAt_apply, textsAt_append, textsAt_append,
      List.getLast?_append, List.getLast?_append, ih]

/-- A click between two typings keeps them apart, also where a double click takes it away later. -/
example (field button : Locator) :
    (Log.ofEntries [⟨field, .type "a"⟩, ⟨button, .click⟩, ⟨field, .type "ab"⟩,
      ⟨button, .doubleClick⟩]).entries =
        [⟨field, .type "a"⟩, ⟨field, .type "ab"⟩, ⟨button, .doubleClick⟩] :=
  rfl

/-! ## Nothing but typing -/

/-- Whether the event happens where nothing but typing is done: a typing, a Shift key that is
pressed, or a key that goes up. -/
def Event.isOfTyping : Event → Bool
  | .type _ | .keyDown .shift | .keyUp _ => true
  | _ => false

namespace Merge

/-- Among typings and pressed Shift keys, a typing is put into the map from targets to texts. -/
theorem typings_coalesceType {entries : List Entry}
    (h : ∀ e ∈ entries, e.event.isTyping = true ∨ isShift e = true)
    (hkeys : ((typings entries).map Prod.fst).Nodup) (l : Locator) (value : String) :
    typings (coalesceType entries ⟨l, .type value⟩) = putPair l value (typings entries) := by
  rcases exists_last (endsSearch l) entries with hnone | ⟨before, s, recent, rfl, hs, hrecent⟩
  · rw [coalesceType_of_forall hnone, putPair_of_notMem value (notMem_keys_typings hnone),
      typings_append, typings_cons, typings_nil]
  · rw [coalesceType_append before hs hrecent]
    obtain ⟨l', event⟩ := s
    rcases h ⟨l', event⟩ (by simp) with htyping | hshift
    · cases event with
      | type old =>
        obtain rfl := Locator.eq_of_sameTarget hs
        rw [typings_append, typings_cons, List.map_append, List.nodup_append] at hkeys
        have hnew : l' ∉ (typings before).map Prod.fst :=
          fun hmem => hkeys.2.2 _ hmem _ (by simp) rfl
        simp only [Event.isTyping, if_true, typings_append, typings_cons]
        rw [putPair_append old value _ hnew]
      | _ => cases htyping
    · -- A pressed Shift key does not end the search.
      obtain rfl : event = .keyDown .shift := isShift_iff.1 hshift
      cases hs

/-- A log with nothing but typings and pressed Shift keys, whose typings are the captured ones with
each target once. -/
structure OfTyping (captured entries : List Entry) : Prop where
  /-- There are no other entries. -/
  typing_or_shift : ∀ e ∈ entries, e.event.isTyping = true ∨ isShift e = true
  /-- The typings are merged by their targets. -/
  typings_eq : typings entries = mergePairs (typings captured)

namespace OfTyping

variable {captured entries : List Entry}

/-- A typing is put into the merged ones. -/
theorem coalesceType (h : OfTyping captured entries) (l : Locator) (value : String) :
    OfTyping (captured ++ [⟨l, .type value⟩]) (coalesceType entries ⟨l, .type value⟩) where
  typing_or_shift e he := by
    rcases coalesceType_cases entries l value with heq | ⟨before, l', old, recent, rfl, -, heq⟩
    · rw [heq, List.mem_append, List.mem_singleton] at he
      rcases he with he | rfl
      · exact h.typing_or_shift e he
      · exact .inl rfl
    · rw [heq, List.mem_append, List.mem_cons] at he
      rcases he with he | rfl | he
      · exact h.typing_or_shift e (by simp [he])
      · exact .inl rfl
      · exact h.typing_or_shift e (by simp [he])
  typings_eq := by
    have hkeys : ((typings entries).map Prod.fst).Nodup := by
      rw [h.typings_eq]
      exact nodup_keys_mergePairs _
    rw [typings_coalesceType h.typing_or_shift hkeys, h.typings_eq, typings_append, typings_cons,
      typings_nil, mergePairs_concat]

/-- An entry that is no typing leaves the merged ones, if the log gets no others by it. -/
theorem of_not_typing (h : OfTyping captured entries) {entry : Entry}
    (hentry : entry.event.isTyping = false)
    (hmem : ∀ e ∈ apply entries entry, e ∈ entries ∨ isShift e = true) :
    OfTyping (captured ++ [entry]) (apply entries entry) where
  typing_or_shift e he := (hmem e he).elim (h.typing_or_shift e) .inr
  typings_eq := by
    rw [typings_apply_of_not_typing hentry, h.typings_eq, typings_append,
      typings_cons_of_not_typing _ hentry, typings_nil, List.append_nil]

/-- Folding in what happens where nothing but typing is done keeps the typings merged. -/
theorem apply (h : OfTyping captured entries) {entry : Entry}
    (hentry : entry.event.isOfTyping = true) :
    OfTyping (captured ++ [entry]) (apply entries entry) := by
  obtain ⟨l, event⟩ := entry
  cases event with
  | type value => exact h.coalesceType l value
  | keyUp key => exact h.of_not_typing rfl fun e he => .inl ((sublist_cancelShift _).subset he)
  | keyDown key =>
    cases key with
    | shift =>
      refine h.of_not_typing rfl fun e he => ?_
      rcases List.mem_append.1 he with he | he
      · exact .inl he
      · obtain rfl := List.mem_singleton.1 he
        exact .inr rfl
    | enter | escape | tab => cases hentry
  | click | doubleClick | select | upload | focus | assertion => cases hentry

end OfTyping

end Merge

/-- Where nothing but typing is done, the typings of a recording are the captured ones put into a
map from targets to texts: its targets are those that were typed into, each once and in the order in
which they came, and the text of a target is the last one that was captured there. -/
theorem typings_recording {captured : List Entry}
    (h : ∀ e ∈ captured, e.event.isOfTyping = true) :
    typings (Log.ofEntries captured).entries = mergePairs (typings captured) ∧
      (typings (Log.ofEntries captured).entries).map Prod.fst =
        ((typings captured).map Prod.fst).eraseDups ∧
      ∀ target, (typings (Log.ofEntries captured).entries).lookup target =
        (textsAt target captured).getLast? := by
  have hrun : Merge.OfTyping captured (Log.ofEntries captured).entries := by
    rw [Log.entries_ofEntries]
    induction captured using List.reverseRecOn with
    | nil => exact ⟨by simp, rfl⟩
    | append_singleton captured entry ih =>
      rw [List.foldl_concat]
      exact (ih fun e he => h e (by simp [he])).apply (h entry (by simp))
  refine ⟨hrun.typings_eq, ?_, fun target => ?_⟩
  · rw [hrun.typings_eq, keys_mergePairs]
  · rw [hrun.typings_eq, lookup_mergePairs, textsAt]

/-- A field for a name. -/
def nameField : Locator :=
  .single (.role "textbox" (some "Name"))

/-- A field for an address. -/
def addressField : Locator :=
  .single (.role "textbox" (some "Address"))

/-- Capital letters are typed into two fields in turn; the second Shift is released late. -/
def twoFieldsTyped : List Entry :=
  [⟨nameField, .keyDown .shift⟩, ⟨nameField, .type "B"⟩, ⟨nameField, .keyUp .shift⟩,
    ⟨addressField, .type "1"⟩, ⟨nameField, .type "Bo"⟩, ⟨addressField, .keyDown .shift⟩,
    ⟨addressField, .type "1A"⟩, ⟨nameField, .type "Bob"⟩, ⟨nameField, .keyUp .shift⟩]

/-- The name comes first and each field has its last text, though the fields were typed into in
turn. -/
theorem typings_recording_twoFields :
    (∀ e ∈ twoFieldsTyped, e.event.isOfTyping = true) ∧
      typings (Log.ofEntries twoFieldsTyped).entries =
        [(nameField, "Bob"), (addressField, "1A")] ∧
      (typings (Log.ofEntries twoFieldsTyped).entries).lookup nameField = some "Bob" := by
  have h : ∀ e ∈ twoFieldsTyped, e.event.isOfTyping = true := by decide
  obtain ⟨hmerged, -, htexts⟩ := typings_recording h
  exact ⟨h, hmerged.trans (by decide), (htexts nameField).trans (by decide)⟩

end Recorder
