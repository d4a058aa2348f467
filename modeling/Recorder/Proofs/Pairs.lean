import Mathlib.Data.List.Induction
import Mathlib.Data.List.Nodup
import Recorder.Json.Basic

/-!
# Merged pairs

Pairs are merged by putting them into a list one by one, each where its key stands already or at the
end of the list. Putting a pair changes the value of its own key only (`lookup_putPair`) and adds no
key that is there (`keys_putPair_of_mem`). So merged pairs are a map that remembers the order of its
keys: each key stands once (`nodup_keys_mergePairs`), at its first place (`keys_mergePairs`) and with
its last value (`lookup_mergePairs`).
-/

namespace Recorder

variable {κ α : Type} [BEq κ]

/-- The values that pairs have for a key, in order. -/
def valuesOf (key : κ) (pairs : List (κ × α)) : List α :=
  (pairs.filter (·.1 == key)).map Prod.snd

/-- One more pair is merged by being put. -/
theorem mergePairs_concat (pairs : List (κ × α)) (p : κ × α) :
    mergePairs (pairs ++ [p]) = putPair p.1 p.2 (mergePairs pairs) :=
  List.foldl_concat ..

variable [LawfulBEq κ]

/-! ## One pair -/

/-- A pair with a new key is put at the end. -/
theorem putPair_of_notMem {key : κ} (value : α) {pairs : List (κ × α)}
    (h : key ∉ pairs.map Prod.fst) : putPair key value pairs = pairs ++ [(key, value)] := by
  induction pairs with
  | nil => rfl
  | cons p rest ih =>
    obtain ⟨hne, hrest⟩ : key ≠ p.1 ∧ key ∉ rest.map Prod.fst := by simpa using h
    rw [putPair, if_neg (by simpa using hne.symm), ih hrest, List.cons_append]

/-- A pair is put where its key stands first. -/
theorem putPair_append {key : κ} (old value : α) {before : List (κ × α)} (after : List (κ × α))
    (h : key ∉ before.map Prod.fst) :
    putPair key value (before ++ (key, old) :: after) = before ++ (key, value) :: after := by
  induction before with
  | nil => rw [List.nil_append, putPair, if_pos (beq_self_eq_true key), List.nil_append]
  | cons p before ih =>
    obtain ⟨hne, hbefore⟩ : key ≠ p.1 ∧ key ∉ before.map Prod.fst := by simpa using h
    rw [List.cons_append, putPair, if_neg (by simpa using hne.symm), ih hbefore, List.cons_append]

/-- A pair whose key stands already leaves the keys as they are. -/
theorem keys_putPair_of_mem {key : κ} (value : α) {pairs : List (κ × α)}
    (h : key ∈ pairs.map Prod.fst) : (putPair key value pairs).map Prod.fst = pairs.map Prod.fst := by
  induction pairs with
  | nil => simp at h
  | cons p rest ih =>
    rw [putPair]
    split
    case isTrue => rfl
    case isFalse hne =>
      have hrest : key ∈ rest.map Prod.fst := by
        rcases List.mem_cons.1 h with rfl | hrest
        · exact absurd (beq_self_eq_true _) hne
        · exact hrest
      rw [List.map_cons, ih hrest, List.map_cons]

/-- A pair gives its key its value, and no other key another one. -/
theorem lookup_putPair (key : κ) (value : α) (pairs : List (κ × α)) (k : κ) :
    (putPair key value pairs).lookup k = if k == key then some value else pairs.lookup k := by
  induction pairs with
  | nil => simp only [putPair, List.lookup_cons, List.lookup_nil]; cases k == key <;> rfl
  | cons p rest ih =>
    obtain ⟨k', v⟩ := p
    rw [putPair]
    split
    case isTrue hkey =>
      obtain rfl := eq_of_beq hkey
      rw [List.lookup_cons, List.lookup_cons]
      cases k == k' <;> rfl
    case isFalse hkey =>
      rw [List.lookup_cons, List.lookup_cons, ih]
      cases hk : k == k' with
      | false => rfl
      | true =>
        obtain rfl := eq_of_beq hk
        exact (if_neg hkey).symm

/-- A pair that is put does not repeat a key. -/
theorem nodup_keys_putPair (key : κ) (value : α) {pairs : List (κ × α)}
    (h : (pairs.map Prod.fst).Nodup) : ((putPair key value pairs).map Prod.fst).Nodup := by
  by_cases hkey : key ∈ pairs.map Prod.fst
  · rwa [keys_putPair_of_mem value hkey]
  · rw [putPair_of_notMem value hkey, List.map_append, List.nodup_append]
    refine ⟨h, List.nodup_singleton _, fun k hk k' hk' => ?_⟩
    obtain rfl := List.mem_singleton.1 hk'
    exact fun heq => hkey (heq ▸ hk)

/-! ## All pairs -/

/-- There are no values for a key that does not stand in the pairs. -/
theorem valuesOf_eq_nil {key : κ} {pairs : List (κ × α)} (h : key ∉ pairs.map Prod.fst) :
    valuesOf key pairs = [] := by
  have hne : ∀ p ∈ pairs, ¬ (p.1 == key) = true :=
    fun p hp heq => h (eq_of_beq heq ▸ List.mem_map_of_mem hp)
  rw [valuesOf, List.filter_eq_nil_iff.2 hne, List.map_nil]

/-- Merged pairs do not repeat a key. -/
theorem nodup_keys_mergePairs (pairs : List (κ × α)) : ((mergePairs pairs).map Prod.fst).Nodup := by
  induction pairs using List.reverseRecOn with
  | nil => exact List.nodup_nil
  | append_singleton pairs p ih =>
    rw [mergePairs_concat]
    exact nodup_keys_putPair _ _ ih

/-- Merged pairs have the keys of the pairs, each once and at its first place. -/
theorem keys_mergePairs (pairs : List (κ × α)) :
    (mergePairs pairs).map Prod.fst = (pairs.map Prod.fst).eraseDups := by
  induction pairs using List.reverseRecOn with
  | nil => rfl
  | append_singleton pairs p ih =>
    have hmem : p.1 ∈ (mergePairs pairs).map Prod.fst ↔ p.1 ∈ pairs.map Prod.fst := by
      rw [ih, List.mem_eraseDups]
    rw [mergePairs_concat, List.map_append, List.map_singleton, List.eraseDups_append, ← ih]
    by_cases hkey : p.1 ∈ pairs.map Prod.fst
    · rw [keys_putPair_of_mem _ (hmem.2 hkey)]
      have hcontains : (pairs.map Prod.fst).contains p.1 = true := List.contains_iff_mem.2 hkey
      simp only [List.cons_removeAll, hcontains]
      simp
    · rw [putPair_of_notMem _ (mt hmem.1 hkey), List.map_append]
      simp [List.cons_removeAll, hkey, List.eraseDups_cons]

/-- Merged pairs have for a key the last of its values. -/
theorem lookup_mergePairs (pairs : List (κ × α)) (key : κ) :
    (mergePairs pairs).lookup key = (valuesOf key pairs).getLast? := by
  induction pairs using List.reverseRecOn with
  | nil => rfl
  | append_singleton pairs p ih =>
    rw [mergePairs_concat, lookup_putPair, ih, valuesOf, valuesOf, List.filter_append,
      List.map_append, List.getLast?_append]
    by_cases hkey : key = p.1
    · simp [hkey]
    · simp [hkey, Ne.symm hkey]

/-- Pairs without a repeated key are merged into themselves. -/
theorem mergePairs_eq_self {pairs : List (κ × α)} (h : (pairs.map Prod.fst).Nodup) :
    mergePairs pairs = pairs := by
  induction pairs using List.reverseRecOn with
  | nil => rfl
  | append_singleton pairs p ih =>
    rw [List.map_append, List.nodup_append] at h
    obtain ⟨hpairs, -, hnew⟩ := h
    have hkey : p.1 ∉ pairs.map Prod.fst := fun hp => hnew _ hp _ (by simp) rfl
    rw [mergePairs_concat, ih hpairs, putPair_of_notMem p.2 hkey]

end Recorder
