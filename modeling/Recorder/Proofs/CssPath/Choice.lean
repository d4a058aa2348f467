import Mathlib.Data.List.Chain
import Mathlib.Data.List.Pairwise
import Mathlib.Tactic.Common

/-!
# Choices of parts

A choice takes one part at each of the innermost levels, by its number there; the target's number
comes first. `path?` gives the path of a choice, and none where a number is out of range. The
choices that have a path are tried in the order of `Before` (`pairwise_tried`), each of them and
nothing else (`mem_tried_iff`); those of one length follow each other as the numbers of an odometer
do, whose last wheel turns first (`counts_walks`).
-/

namespace Recorder.CssPath

/-- The path of a choice: the parts with these numbers at the innermost levels, the outermost first.
There is none if the choice is longer than the levels are, or a number is out of range. -/
def path? : List (List String) → List Nat → Option (List String)
  | _, [] => some []
  | [], _ :: _ => none
  | level :: levels, i :: choice =>
    level[i]?.bind fun part => (path? levels choice).map (· ++ [part])

/-- The path of a choice has the part of the first level behind the path of the other levels. -/
theorem path?_cons_eq_some_iff {level : List String} {levels : List (List String)} {i : Nat}
    {choice : List Nat} {path : List String} :
    path? (level :: levels) (i :: choice) = some path ↔ ∃ part outer, level[i]? = some part ∧
      path? levels choice = some outer ∧ outer ++ [part] = path := by
  simp [path?, Option.bind_eq_some_iff]

/-- A choice is tried before another one if it is shorter, or as long and lexicographically
smaller. -/
def Before (c d : List Nat) : Prop :=
  c.length < d.length ∨ c.length = d.length ∧ c < d

/-- A choice and its path with a numbered part of one more level, which lies further inside. -/
def extend (numbered : String × Nat) (w : List Nat × List String) : List Nat × List String :=
  (numbered.2 :: w.1, w.2 ++ [numbered.1])

/-- The choices at all levels with their paths, in the order in which they are tried. -/
def walks : List (List String) → List (List Nat × List String)
  | [] => [([], [])]
  | level :: levels => level.zipIdx.flatMap fun numbered => (walks levels).map (extend numbered)

/-- Every choice has as many numbers as there are levels. -/
theorem length_of_mem_walks {levels : List (List String)} {w : List Nat × List String}
    (h : w ∈ walks levels) : w.1.length = levels.length := by
  induction levels generalizing w with
  | nil =>
    obtain rfl : w = ([], []) := by simpa [walks] using h
    rfl
  | cons level levels ih =>
    simp only [walks, List.mem_flatMap, List.mem_map] at h
    obtain ⟨⟨part, i⟩, -, ⟨choice, path⟩, hw, rfl⟩ := h
    simp [extend, ih hw]

/-- The choices are those in range, each with its path. -/
theorem mem_walks_iff {levels : List (List String)} {choice : List Nat} {path : List String} :
    (choice, path) ∈ walks levels ↔
      choice.length = levels.length ∧ path? levels choice = some path := by
  induction levels generalizing choice path with
  | nil => cases choice <;> simp [walks, path?, eq_comm]
  | cons level levels ih =>
    simp only [walks, List.mem_flatMap, List.mem_map, Prod.exists, extend, Prod.mk.injEq]
    constructor
    · rintro ⟨part, i, hpart, c, p, hw, rfl, rfl⟩
      obtain ⟨hlength, hpath⟩ := ih.1 hw
      have hi : level[i]? = some part := by simpa [List.mem_zipIdx_iff_getElem?] using hpart
      simp [hlength, path?, hi, hpath]
    · rintro ⟨hlength, hpath⟩
      cases choice with
      | nil => simp at hlength
      | cons i c =>
        obtain ⟨part, p, hpart, hp, rfl⟩ := path?_cons_eq_some_iff.1 hpath
        refine ⟨part, i, by simpa [List.mem_zipIdx_iff_getElem?] using hpart, c, p, ?_, rfl, rfl⟩
        exact ih.2 ⟨by simpa using hlength, hp⟩

/-- The choices stand in lexicographic order. -/
theorem pairwise_walks (levels : List (List String)) :
    (walks levels).Pairwise fun v w => v.1 < w.1 := by
  induction levels with
  | nil => exact List.pairwise_singleton _ _
  | cons level levels ih =>
    rw [walks, List.pairwise_flatMap]
    -- Choices of one part of the level compare as they do without it, others by its number.
    constructor
    · rintro ⟨part, i⟩ -
      rw [List.pairwise_map]
      exact ih.imp fun h => by simpa [extend] using h
    · have hsorted : level.zipIdx.Pairwise fun a b => a.2 < b.2 := by
        have hnumbers : (level.zipIdx.map Prod.snd).Pairwise (· < ·) := by
          rw [List.zipIdx_map_snd]
          exact List.pairwise_lt_range'
        exact List.pairwise_map.1 hnumbers
      refine hsorted.imp fun {a b} hab v hv w hw => ?_
      simp only [List.mem_map, Prod.exists] at hv hw
      obtain ⟨c, p, -, rfl⟩ := hv
      obtain ⟨d, q, -, rfl⟩ := hw
      exact List.cons_lt_cons_iff.2 (.inl hab)

/-- The choices at the innermost levels with their paths, in the order in which they are tried. -/
def tried (levels : List (List String)) : List (List Nat × List String) :=
  ((List.range levels.length).map (· + 1)).flatMap fun n => walks (levels.take n)

/-- A choice has the path that it has at its own levels. -/
theorem path?_take (levels : List (List String)) (choice : List Nat) :
    path? (levels.take choice.length) choice = path? levels choice := by
  induction choice generalizing levels with
  | nil => cases levels <;> rfl
  | cons i choice ih =>
    cases levels with
    | nil => rfl
    | cons level levels => simp only [List.length_cons, List.take_succ_cons, path?, ih]

/-- A path has one part for each number of its choice, and there are as many levels. -/
theorem length_of_path?_eq_some {levels : List (List String)} {choice : List Nat}
    {path : List String} (h : path? levels choice = some path) :
    path.length = choice.length ∧ choice.length ≤ levels.length := by
  induction choice generalizing levels path with
  | nil =>
    rw [path?] at h
    cases h
    simp
  | cons i choice ih =>
    cases levels with
    | nil => cases h
    | cons level levels =>
      obtain ⟨part, p, -, hp, rfl⟩ := path?_cons_eq_some_iff.1 h
      obtain ⟨hlength, hle⟩ := ih hp
      simp [hlength, hle]

/-- Only the empty choice has an empty path. -/
theorem path_ne_nil_of_path?_eq_some {levels : List (List String)} {choice : List Nat}
    {path : List String} (hne : choice ≠ []) (h : path? levels choice = some path) :
    path ≠ [] := by
  rintro rfl
  exact hne (List.length_eq_zero_iff.1 (length_of_path?_eq_some h).1.symm)

/-- All choices in range are tried, apart from the empty one, and nothing else. -/
theorem mem_tried_iff {levels : List (List String)} {choice : List Nat} {path : List String} :
    (choice, path) ∈ tried levels ↔ choice ≠ [] ∧ path? levels choice = some path := by
  simp only [tried, List.mem_flatMap, List.mem_map, List.mem_range, exists_exists_and_eq_and,
    mem_walks_iff]
  constructor
  · rintro ⟨k, hk, hlength, hpath⟩
    have htake : (levels.take (k + 1)).length = k + 1 := by
      rw [List.length_take]
      omega
    rw [htake] at hlength
    rw [← hlength, path?_take] at hpath
    exact ⟨fun hnil => by simp [hnil] at hlength, hpath⟩
  · -- A choice is found among those at as many levels as it is long.
    rintro ⟨hne, hpath⟩
    have hle := (length_of_path?_eq_some hpath).2
    have hpos := List.length_pos_iff.2 hne
    have hk : choice.length - 1 + 1 = choice.length := by omega
    refine ⟨choice.length - 1, by omega, ?_, ?_⟩
    · rw [hk, List.length_take]
      omega
    · rw [hk, path?_take]
      exact hpath

/-- The choices are tried in order. -/
theorem pairwise_tried (levels : List (List String)) :
    (tried levels).Pairwise fun v w => Before v.1 w.1 := by
  rw [tried, List.pairwise_flatMap]
  -- Choices at one number of levels are as long, and those at fewer levels are shorter.
  constructor
  · intro n _
    refine (pairwise_walks (levels.take n)).imp_of_mem fun {v w} hv hw h => ?_
    exact .inr ⟨(length_of_mem_walks hv).trans (length_of_mem_walks hw).symm, h⟩
  · rw [List.pairwise_map]
    refine List.pairwise_lt_range.imp_of_mem fun {i j} _ hj hij v hv w hw => .inl ?_
    have hj' := List.mem_range.1 hj
    rw [length_of_mem_walks hv, length_of_mem_walks hw, List.length_take, List.length_take]
    omega

/-! ## Counting -/

/-- The choice that comes next: the last number that can grow does, and those behind it start
again. -/
def next? : List (List String) → List Nat → Option (List Nat)
  | level :: levels, i :: choice =>
    match next? levels choice with
    | some choice => some (i :: choice)
    | none =>
      if i + 1 < level.length then some ((i + 1) :: choice.map fun _ => 0) else none
  | _, _ => none

/-- A list of choices counts through the parts of all levels: it begins with the first parts, goes
on as long as a choice comes next, and no number is ever out of range. -/
structure Counts (levels : List (List String)) (choices : List (List Nat)) : Prop where
  /-- The first choice is that of the first parts. -/
  start : choices.head? = some (List.replicate levels.length 0)
  /-- Each choice comes next after the one before it. -/
  step : choices.IsChain fun c d => next? levels c = some d
  /-- No choice comes next after the last one. -/
  stop : ∀ c ∈ choices.getLast?, next? levels c = none
  /-- Each number is that of a part. -/
  inRange : ∀ c ∈ choices, ∃ path, path? levels c = some path

section Level

variable {level : List String} {levels : List (List String)} {choices : List (List Nat)}

/-- The choices at one more level, from its part number `k` on. -/
def countFrom (choices : List (List Nat)) (k m : Nat) : List (List Nat) :=
  (List.range' k m).flatMap fun i => choices.map (i :: ·)

/-- The choices with one part of the level come in front of those with the parts behind it. -/
theorem countFrom_succ (choices : List (List Nat)) (k m : Nat) :
    countFrom choices k (m + 1) = choices.map (k :: ·) ++ countFrom choices (k + 1) m := by
  rw [countFrom, List.range'_succ, List.flatMap_cons, countFrom]

/-- With one part of the level, the choices count as they do without the level. -/
theorem Counts.isChain_map (h : Counts levels choices) (k : Nat) :
    (choices.map (k :: ·)).IsChain fun c d => next? (level :: levels) c = some d :=
  (List.isChain_map (k :: ·)).2 (h.step.imp fun c d hnext => by rw [next?, hnext])

/-- With one part of the level, the choices begin with the first parts of the levels behind it. -/
theorem Counts.head?_map (h : Counts levels choices) (k : Nat) :
    (choices.map (k :: ·)).head? = some (k :: List.replicate levels.length 0) := by
  rw [List.head?_map, h.start, Option.map_some]

/-- Behind the last choice with one part of the level, the choices with the next part begin. -/
theorem Counts.next?_last (h : Counts levels choices)
    (hlength : ∀ c ∈ choices, c.length = levels.length) {k : Nat} {c : List Nat}
    (hc : c ∈ (choices.map (k :: ·)).getLast?) :
    next? (level :: levels) c =
      if k + 1 < level.length then some ((k + 1) :: List.replicate levels.length 0) else none := by
  rw [List.getLast?_map, Option.mem_def, Option.map_eq_some_iff] at hc
  obtain ⟨d, hd, rfl⟩ := hc
  have hzeros : (d.map fun _ => 0) = List.replicate levels.length 0 := by
    rw [List.map_const', hlength d (List.mem_of_mem_getLast? hd)]
  rw [next?, h.stop d hd, hzeros]

/-- The choices at one more level count through its parts from number `k` on. -/
theorem Counts.countFrom (h : Counts levels choices)
    (hlength : ∀ c ∈ choices, c.length = levels.length) {k m : Nat}
    (hm : k + m + 1 = level.length) :
    (CssPath.countFrom choices k (m + 1)).head? = some (k :: List.replicate levels.length 0) ∧
      ((CssPath.countFrom choices k (m + 1)).IsChain fun c d =>
        next? (level :: levels) c = some d) ∧
      ∀ c ∈ (CssPath.countFrom choices k (m + 1)).getLast?, next? (level :: levels) c = none := by
  induction m generalizing k with
  | zero =>
    -- At the last part of the level no number can grow any more.
    have hone : CssPath.countFrom choices k (0 + 1) = choices.map (k :: ·) := by
      rw [countFrom_succ, CssPath.countFrom]
      simp
    rw [hone]
    exact ⟨h.head?_map k, h.isChain_map k, fun c hc => by
      rw [h.next?_last hlength hc, if_neg (by omega)]⟩
  | succ m ih =>
    -- The count goes through the other levels, and then on from the next part of the level.
    obtain ⟨hstart, hstep, hstop⟩ := ih (k := k + 1) (by omega)
    rw [countFrom_succ choices k]
    refine ⟨by rw [List.head?_append, h.head?_map k, Option.some_or], ?_, fun c hc => hstop c ?_⟩
    · refine List.isChain_append.2 ⟨h.isChain_map k, hstep, fun c hc d hd => ?_⟩
      rw [hstart, Option.mem_some_iff] at hd
      rw [h.next?_last hlength hc, if_pos (by omega), hd]
    · rw [List.getLast?_append] at hc
      cases hmore : (CssPath.countFrom choices (k + 1) (m + 1)).getLast? with
      | none =>
        rw [List.getLast?_eq_none_iff] at hmore
        rw [hmore] at hstart
        cases hstart
      | some d => rwa [hmore, Option.some_or] at hc

end Level

/-- The choices at one more level, for each of its parts those at the other levels. -/
theorem map_fst_walks_cons (level : List String) (levels : List (List String)) :
    (walks (level :: levels)).map Prod.fst =
      countFrom ((walks levels).map Prod.fst) 0 level.length := by
  have hnumbers : List.range' 0 level.length = level.zipIdx.map Prod.snd :=
    (List.zipIdx_map_snd 0 level).symm
  rw [walks, countFrom, hnumbers, List.map_flatMap, List.flatMap_map]
  simp [extend, Function.comp_def]

/-- Where no level is without parts, the choices at all levels count through them. -/
theorem counts_walks {levels : List (List String)} (h : ∀ level ∈ levels, level ≠ []) :
    Counts levels ((walks levels).map Prod.fst) := by
  have hrange (levels : List (List String)) :
      ∀ c ∈ (walks levels).map Prod.fst, ∃ path, path? levels c = some path := by
    intro c hc
    obtain ⟨w, hw, rfl⟩ := List.mem_map.1 hc
    exact ⟨w.2, (mem_walks_iff.1 hw).2⟩
  induction levels with
  | nil =>
    refine ⟨rfl, .singleton _, fun c hc => ?_, hrange []⟩
    obtain rfl : [] = c := by simpa [walks] using hc
    rfl
  | cons level levels ih =>
    obtain ⟨hlevel, hlevels⟩ := List.forall_mem_cons.1 h
    have hlength : ∀ c ∈ (walks levels).map Prod.fst, c.length = levels.length := by
      intro c hc
      obtain ⟨w, hw, rfl⟩ := List.mem_map.1 hc
      exact length_of_mem_walks hw
    obtain ⟨m, hm⟩ := Nat.exists_eq_succ_of_ne_zero fun hzero =>
      hlevel (List.length_eq_zero_iff.1 hzero)
    have hall : 0 + m + 1 = level.length := by omega
    obtain ⟨hstart, hstep, hstop⟩ := (ih hlevels).countFrom hlength hall
    have hcounted : (walks (level :: levels)).map Prod.fst =
        countFrom ((walks levels).map Prod.fst) 0 (m + 1) := by
      rw [map_fst_walks_cons, hm]
    refine ⟨?_, ?_, ?_, hrange _⟩
    · rw [hcounted, hstart]
      rfl
    · rw [hcounted]
      exact hstep
    · rw [hcounted]
      exact hstop

end Recorder.CssPath
