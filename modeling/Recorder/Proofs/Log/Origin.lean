import Mathlib.Order.Fin.Basic
import Recorder.Proofs.Locator.Expression
import Recorder.Proofs.Log.Rules

/-!
# Where the entries of a log come from

Each entry of a log stems from one that was captured, at the same locator (`StemsFrom`). A typing
may have taken the value of a later typing at its locator, and a move of the focus may have been
turned; nothing else is changed. `folds_apply` says what folding in an entry can do to a log: take
entries away, append the new one, or give an earlier typing its value. Each of these keeps the
positions that the entries stem from in order (`traced_apply`), so the log embeds into what was
captured (`recording_embeds`).
-/

namespace Recorder

namespace Merge

/-- What folding an entry into a log can make of it. -/
inductive Folds (entries : List Entry) (entry : Entry) : List Entry → Prop where
  /-- Entries are taken away, and the new one is dropped. -/
  | drops {kept : List Entry} (hkept : kept.Sublist entries) : Folds entries entry kept
  /-- Entries are taken away, and the new one is appended. -/
  | appends {kept : List Entry} (hkept : kept.Sublist entries)
      (hentry : entry.event.isKeyUp = false) : Folds entries entry (kept ++ [entry])
  /-- Entries are taken away, and a move of the focus is appended in its direction. -/
  | turns {kept : List Entry} {shift : Bool} (shift' : Bool) (hkept : kept.Sublist entries)
      (hentry : entry.event = .focus shift) :
      Folds entries entry (kept ++ [⟨entry.locator, .focus shift'⟩])
  /-- An earlier typing at the same locator takes the new value. -/
  | retypes {before recent : List Entry} {l : Locator} {old value : String}
      (hentries : entries = before ++ ⟨l, .type old⟩ :: recent)
      (hentry : entry = ⟨l, .type value⟩) :
      Folds entries entry (before ++ ⟨l, .type value⟩ :: recent)

/-- A double click takes clicks away and is appended. -/
theorem folds_absorbClicks (entries : List Entry) (l : Locator) :
    Folds entries ⟨l, .doubleClick⟩ (absorbClicks entries ⟨l, .doubleClick⟩) := by
  refine .appends ?_ rfl
  rw [← List.reverse_sublist, List.reverse_reverse]
  exact sublist_dropClicks _ _

/-- A typing is appended or gives its value to an earlier one. -/
theorem folds_coalesceType (entries : List Entry) (l : Locator) (value : String) :
    Folds entries ⟨l, .type value⟩ (coalesceType entries ⟨l, .type value⟩) := by
  rcases coalesceType_cases entries l value with h | ⟨before, l', old, recent, hentries, hl, h⟩
  · exact h ▸ .appends (.refl _) rfl
  · obtain rfl := Locator.eq_of_sameTarget hl
    exact h ▸ .retypes hentries rfl

/-- A key that goes up takes entries away. -/
theorem folds_cancelShift (entries : List Entry) (entry : Entry) :
    Folds entries entry (cancelShift entries) :=
  .drops (sublist_cancelShift entries)

/-- A focus takes a Tab away and is appended in the direction of the gesture, or is dropped. -/
theorem folds_fuseFocus (entries : List Entry) (l : Locator) (shift : Bool) :
    Folds entries ⟨l, .focus shift⟩ (fuseFocus entries ⟨l, .focus shift⟩) := by
  have hsplit := append_splitAtShift entries
  simp only [fuseFocus]
  split
  · -- The Tab that is taken away stands behind the last shift key, which stays.
    refine .turns _ ?_ (rfl : (⟨l, .focus shift⟩ : Entry).event = _)
    have hkept := (List.eraseP_sublist (p := isTab) (l := (splitAtShift entries).2)).append_left
      (splitAtShift entries).1
    rwa [hsplit] at hkept
  · exact .drops (.refl _)

/-- What folding in an entry does, for each of the rules. -/
theorem folds_apply (entries : List Entry) (entry : Entry) :
    Folds entries entry (apply entries entry) := by
  obtain ⟨l, event⟩ := entry
  cases event with
  | doubleClick => exact folds_absorbClicks entries l
  | type value => exact folds_coalesceType entries l value
  | keyUp key => exact folds_cancelShift entries _
  | focus shift => exact folds_fuseFocus entries l shift
  | click => exact .appends (.refl _) rfl
  | keyDown key => exact .appends (.refl _) rfl
  | select options => exact .appends (.refl _) rfl
  | upload files => exact .appends (.refl _) rfl
  | assertion kind args => exact .appends (.refl _) rfl

end Merge

/-- An entry of a log stems from the captured entry at a position: the two have one locator, and the
events are the same but for the value of a typing and the direction of a move of the focus. -/
inductive StemsFrom (captured : List Entry) (i : Nat) : Entry → Prop where
  /-- The entry is the captured one. -/
  | same {e : Entry} (h : captured[i]? = some e) : StemsFrom captured i e
  /-- The captured move of the focus may have had another direction. -/
  | turned {l : Locator} {shift shift' : Bool} (h : captured[i]? = some ⟨l, .focus shift⟩) :
      StemsFrom captured i ⟨l, .focus shift'⟩
  /-- The value is that of a typing captured later at the same locator. -/
  | retyped {l : Locator} {old value : String} {j : Nat} (h : captured[i]? = some ⟨l, .type old⟩)
      (hij : i < j) (hj : captured[j]? = some ⟨l, .type value⟩) :
      StemsFrom captured i ⟨l, .type value⟩

namespace StemsFrom

/-- The position is one of the captured entries. -/
theorem lt_length {captured : List Entry} {i : Nat} {e : Entry} (h : StemsFrom captured i e) :
    i < captured.length := by
  cases h with
  | same h => exact (List.getElem?_eq_some_iff.1 h).1
  | turned h => exact (List.getElem?_eq_some_iff.1 h).1
  | retyped h => exact (List.getElem?_eq_some_iff.1 h).1

/-- What is captured later changes nothing. -/
theorem append {captured : List Entry} {i : Nat} {e : Entry} (h : StemsFrom captured i e)
    (more : List Entry) : StemsFrom (captured ++ more) i e := by
  have hkeep {j : Nat} {c : Entry} (hj : captured[j]? = some c) :
      (captured ++ more)[j]? = some c := by
    rw [List.getElem?_append_left (List.getElem?_eq_some_iff.1 hj).1, hj]
  cases h with
  | same h => exact .same (hkeep h)
  | turned h => exact .turned (hkeep h)
  | retyped h hij hj => exact .retyped (hkeep h) hij (hkeep hj)

/-- A typing takes the value of the one that is captured next. -/
theorem retype {captured : List Entry} {i : Nat} {l : Locator} {old : String}
    (h : StemsFrom captured i ⟨l, .type old⟩) (value : String) :
    StemsFrom (captured ++ [⟨l, .type value⟩]) i ⟨l, .type value⟩ := by
  have hlt := h.lt_length
  have hlast : (captured ++ [(⟨l, .type value⟩ : Entry)])[captured.length]? =
      some ⟨l, .type value⟩ := List.getElem?_concat_length
  -- Whatever value the typing has by now, the one that was captured first is a typing.
  cases h.append [⟨l, .type value⟩] with
  | same h => exact .retyped h hlt hlast
  | retyped h => exact .retyped h hlt hlast

end StemsFrom

/-- The entries of a log stem from captured entries whose positions grow along the log, and none of
them is a key that goes up. -/
def Traced (captured entries : List Entry) : Prop :=
  ∃ origins : List (Nat × Entry), origins.map Prod.snd = entries ∧
    origins.Pairwise (fun o o' => o.1 < o'.1) ∧
    ∀ o ∈ origins, StemsFrom captured o.1 o.2 ∧ o.2.event.isKeyUp = false

namespace Traced

variable {captured entries : List Entry}

/-- Without some of its entries a log is still traced. -/
theorem sublist {kept : List Entry} (h : Traced captured entries) (hkept : kept.Sublist entries) :
    Traced captured kept := by
  obtain ⟨origins, rfl, hlt, hstem⟩ := h
  obtain ⟨rest, hrest, rfl⟩ := List.sublist_map_iff.1 hkept
  exact ⟨rest, rfl, hlt.sublist hrest, fun o ho => hstem o (hrest.subset ho)⟩

/-- What is captured later changes nothing. -/
theorem append (h : Traced captured entries) (more : List Entry) :
    Traced (captured ++ more) entries := by
  obtain ⟨origins, heq, hlt, hstem⟩ := h
  exact ⟨origins, heq, hlt, fun o ho => ⟨(hstem o ho).1.append more, (hstem o ho).2⟩⟩

/-- An entry that stems from the last captured one is behind all others. -/
theorem concat {entry e : Entry} (h : Traced captured entries)
    (he : StemsFrom (captured ++ [entry]) captured.length e) (hkey : e.event.isKeyUp = false) :
    Traced (captured ++ [entry]) (entries ++ [e]) := by
  obtain ⟨origins, rfl, hlt, hstem⟩ := h
  refine ⟨origins ++ [(captured.length, e)], by simp, ?_, ?_⟩
  · refine List.pairwise_append.2 ⟨hlt, List.pairwise_singleton .., fun o ho o' ho' => ?_⟩
    rw [List.mem_singleton.1 ho']
    exact (hstem o ho).1.lt_length
  · intro o ho
    rcases List.mem_append.1 ho with ho | ho
    · exact ⟨(hstem o ho).1.append _, (hstem o ho).2⟩
    · rw [List.mem_singleton.1 ho]
      exact ⟨he, hkey⟩

/-- A typing in the middle of a log takes the value of the one that is captured next. -/
theorem retype {before recent : List Entry} {l : Locator} {old : String}
    (h : Traced captured (before ++ ⟨l, .type old⟩ :: recent)) (value : String) :
    Traced (captured ++ [⟨l, .type value⟩]) (before ++ ⟨l, .type value⟩ :: recent) := by
  obtain ⟨origins, heq, hlt, hstem⟩ := h
  obtain ⟨os, os', rfl, hos, hos'⟩ := List.map_eq_append_iff.1 heq
  obtain ⟨⟨i, e⟩, os'', rfl, rfl, rfl⟩ := List.map_eq_cons_iff.1 hos'
  refine ⟨os ++ (i, ⟨l, .type value⟩) :: os'', by simp [hos], ?_, ?_⟩
  · -- The positions stay as they are.
    simpa [List.pairwise_append] using hlt
  · have hkeep {o : Nat × Entry} (ho : o ∈ os ++ os'') :
        StemsFrom (captured ++ [⟨l, .type value⟩]) o.1 o.2 ∧ o.2.event.isKeyUp = false := by
      obtain ⟨hstem, hkey⟩ := hstem o (by grind)
      exact ⟨hstem.append _, hkey⟩
    intro o ho
    rcases List.mem_append.1 ho with ho | ho
    · exact hkeep (List.mem_append_left _ ho)
    · rcases List.mem_cons.1 ho with rfl | ho
      · exact ⟨(hstem (i, ⟨l, .type old⟩) (by simp)).1.retype value, rfl⟩
      · exact hkeep (List.mem_append_right _ ho)

/-- The positions that a traced log stems from embed it into what was captured. -/
theorem exists_origin (h : Traced captured entries) :
    ∃ origin : Fin entries.length ↪o Fin captured.length,
      ∀ i, StemsFrom captured (origin i) entries[i] := by
  obtain ⟨origins, rfl, hlt, hstem⟩ := h
  -- The origin of an entry is the position that stands beside it, and these grow.
  have hget (i : Fin (origins.map Prod.snd).length) : i.1 < origins.length := by
    simpa using i.2
  have hmem (i : Fin (origins.map Prod.snd).length) := hstem _ (List.getElem_mem (hget i))
  let origin (i : Fin (origins.map Prod.snd).length) : Fin captured.length :=
    ⟨(origins.get ⟨i, hget i⟩).1, (hmem i).1.lt_length⟩
  have hmono : StrictMono origin := fun i j hij =>
    List.pairwise_iff_getElem.1 hlt i j (hget i) (hget j) hij
  exact ⟨.ofStrictMono origin hmono, fun i => by simpa [origin] using (hmem i).1⟩

/-- A traced log holds no key that goes up. -/
theorem isKeyUp_eq_false (h : Traced captured entries) {e : Entry} (he : e ∈ entries) :
    e.event.isKeyUp = false := by
  obtain ⟨origins, rfl, -, hstem⟩ := h
  obtain ⟨o, ho, rfl⟩ := List.mem_map.1 he
  exact (hstem o ho).2

end Traced

/-- Folding in an entry keeps a log traced. -/
theorem traced_apply {captured entries : List Entry} (h : Traced captured entries) (entry : Entry) :
    Traced (captured ++ [entry]) (Merge.apply entries entry) := by
  have hlast : (captured ++ [entry])[captured.length]? = some entry := List.getElem?_concat_length
  have hfolds := Merge.folds_apply entries entry
  generalize Merge.apply entries entry = next at hfolds ⊢
  cases hfolds with
  | drops hkept => exact (h.sublist hkept).append _
  | appends hkept hentry => exact (h.sublist hkept).concat (.same hlast) hentry
  | turns shift' hkept hentry =>
    obtain ⟨l, event⟩ := entry
    obtain rfl : event = .focus _ := hentry
    exact (h.sublist hkept).concat (.turned hlast) rfl
  | retypes hentries hentry =>
    subst hentries hentry
    exact h.retype _

/-- A recording is traced. -/
theorem traced_ofEntries (captured : List Entry) :
    Traced captured (Log.ofEntries captured).entries :=
  Log.ofEntries_induction (motive := Traced) ⟨[], rfl, .nil, by simp⟩
    (fun _ entry _ h => traced_apply h entry) captured

/-- The entries of a recording stem from captured entries in their order, no two of them from the
same one, and none of them is a key that goes up. -/
theorem recording_embeds (captured : List Entry) :
    (∃ origin : Fin (Log.ofEntries captured).entries.length ↪o Fin captured.length,
      ∀ i, StemsFrom captured (origin i) (Log.ofEntries captured).entries[i]) ∧
      ∀ e ∈ (Log.ofEntries captured).entries, e.event.isKeyUp = false :=
  have htraced := traced_ofEntries captured
  ⟨htraced.exists_origin, fun _ he => htraced.isKeyUp_eq_false he⟩

end Recorder
