import Mathlib.Tactic.Common
import Recorder.Proofs.CssPath.Choice
import Recorder.Proofs.CssPath.Parts
import Recorder.Proofs.Locator.Synthesis

/-!
# The search for a CSS path

The search tries the choices of parts in order, short ones first, and takes the first one whose path
matches the target alone (`search_eq`). As no path fails to be read, that is all it can end with,
and `find_searches` says so of the documents of snapshots.
-/

namespace Recorder.CssPath

/-- A search over the parts of a level that searches the levels around it for each of them takes the
path of the first choice at all of these levels, whose numbers at the level may begin anywhere. -/
theorem findSomeM?_parts {f : String → Except CssPathError (Option (List String))}
    {p : List String → Bool} {outer : List (List String)} {inner parts : List String} (k : Nat)
    (h : ∀ part ∈ parts, f part = .ok (((walks outer).find? fun w => p (w.2 ++ part :: inner)).map
      fun w => w.2 ++ part :: inner)) :
    parts.findSomeM? f =
      .ok ((((parts.zipIdx k).flatMap fun numbered => (walks outer).map (extend numbered)).find?
        fun w => p (w.2 ++ inner)).map fun w => w.2 ++ inner) := by
  induction parts generalizing k with
  | nil => rfl
  | cons part parts ih =>
    obtain ⟨hpart, hmore⟩ := List.forall_mem_cons.1 h
    have hcomp : ((fun w : List Nat × List String => p (w.2 ++ inner)) ∘ extend (part, k)) =
        fun w => p (w.2 ++ part :: inner) := by
      funext w
      simp [extend]
    rw [List.findSomeM?_cons, hpart, List.zipIdx_cons, List.flatMap_cons, List.find?_append,
      List.find?_map, hcomp]
    cases (walks outer).find? fun w => p (w.2 ++ part :: inner) with
    | some w => simp [extend, bind, Except.bind, pure, Except.pure]
    | none => exact ih (k + 1) hmore

/-- A choice at the levels around a level goes on with each part of it. -/
theorem exists_mem_walks_cons {level : List String} {outer : List (List String)} {part : String}
    (hpart : part ∈ level) {w : List Nat × List String} (hw : w ∈ walks outer) :
    ∃ i, (i :: w.1, w.2 ++ [part]) ∈ walks (level :: outer) := by
  obtain ⟨i, hi⟩ := List.getElem?_of_mem hpart
  refine ⟨i, mem_walks_iff.2 ⟨by simp [length_of_mem_walks hw], ?_⟩⟩
  simp [path?, hi, (mem_walks_iff.1 hw).2]

/-- Where the test gives an answer for every path, the search takes the path of the first choice at
all levels that passes it. -/
theorem firstChoice_eq {test : List String → Except CssPathError Bool} {p : List String → Bool}
    {levels : List (List String)} (inner : List String)
    (h : ∀ w ∈ walks levels, test (w.2 ++ inner) = .ok (p (w.2 ++ inner))) :
    firstChoice test inner levels =
      .ok (((walks levels).find? fun w => p (w.2 ++ inner)).map fun w => w.2 ++ inner) := by
  induction levels generalizing inner with
  | nil =>
    have htest : test inner = .ok (p inner) := h ([], []) (by simp [walks])
    rw [firstChoice, htest]
    cases hp : p inner <;> simp [walks, hp, bind, Except.bind, pure, Except.pure]
  | cons level outer ih =>
    refine findSomeM?_parts 0 fun part hpart => ih (part :: inner) fun w hw => ?_
    obtain ⟨i, hmem⟩ := exists_mem_walks_cons hpart hw
    simpa using h _ hmem

/-- Where the test gives an answer for every path, the search over several lengths takes the path of
the first choice of them that passes it. -/
theorem firstLength_eq {test : List String → Except CssPathError Bool} {p : List String → Bool}
    {levels : List (List String)} {lengths : List Nat}
    (h : ∀ n ∈ lengths, ∀ w ∈ walks (levels.take n), test w.2 = .ok (p w.2)) :
    firstLength test levels lengths =
      .ok (((lengths.flatMap fun n => walks (levels.take n)).find? fun w => p w.2).map (·.2)) := by
  induction lengths with
  | nil => rfl
  | cons n lengths ih =>
    obtain ⟨hn, hmore⟩ := List.forall_mem_cons.1 h
    rw [firstLength, firstChoice_eq [] (by simpa using hn), List.flatMap_cons, List.find?_append]
    simp only [List.append_nil]
    cases (walks (levels.take n)).find? fun w => p w.2 with
    | some w => rfl
    | none => exact ih hmore

/-- Whether a path matches the target, and nothing else inside of the root. -/
def matchesAlone (doc : Document) (root target : NodeId) (path : List String) : Bool :=
  match doc.selectAll root (join path) with
  | .ok found => found == [target]
  | .error _ => false

variable {doc : Document} {root target : NodeId}

/-- Where selecting with a path does not fail, the test gives an answer. -/
theorem isUnique_join {path : List String}
    (h : ∃ found, doc.selectAll root (join path) = .ok found) :
    isUnique doc root target (join path) = .ok (matchesAlone doc root target path) := by
  obtain ⟨found, hfound⟩ := h
  simp only [isUnique, matchesAlone, hfound]

/-- The parts at the levels between the target and the root. -/
def partLevels (doc : Document) (root target : NodeId) : List (List String) :=
  (levels doc root target).map (parts doc)

/-- The path of the first of the choices that matches the target alone. -/
def firstAlone (doc : Document) (root target : NodeId) (choices : List (List Nat × List String)) :
    Except CssPathError String :=
  match choices.find? fun w => matchesAlone doc root target w.2 with
  | some w => .ok (join w.2)
  | none => .error .notFound

/-- The search takes the first choice that is tried whose path matches the target alone. -/
theorem search_eq
    (h : ∀ w ∈ tried (partLevels doc root target),
      ∃ found, doc.selectAll root (join w.2) = .ok found) :
    search doc root target = firstAlone doc root target (tried (partLevels doc root target)) := by
  have hfirst : firstLength (fun path => isUnique doc root target (join path))
      (partLevels doc root target) ((List.range (partLevels doc root target).length).map (· + 1)) =
      .ok (((tried (partLevels doc root target)).find? fun w =>
        matchesAlone doc root target w.2).map (·.2)) :=
    firstLength_eq fun n hn w hw => isUnique_join (h w (List.mem_flatMap.2 ⟨n, hn, hw⟩))
  have hlevels : (levels doc root target).map (parts doc) = partLevels doc root target := rfl
  rw [search]
  simp only [hlevels, hfirst]
  rw [firstAlone]
  cases (tried (partLevels doc root target)).find? fun w => matchesAlone doc root target w.2 <;> rfl

/-! ## What is found -/

/-- A choice of one part at each of one or more of the innermost levels locates the target by a
selector: the selector is its path, and matches the target and nothing else inside of the root. -/
def Locates (doc : Document) (root target : NodeId) (choice : List Nat) (selector : String) :
    Prop :=
  choice ≠ [] ∧ ∃ path, path? (partLevels doc root target) choice = some path ∧
    selector = join path ∧ doc.selectAll root selector = .ok [target]

/-- A path matches the target alone if selecting with it gives the target. -/
theorem matchesAlone_iff {path : List String} :
    matchesAlone doc root target path = true ↔ doc.selectAll root (join path) = .ok [target] := by
  rw [matchesAlone]
  cases doc.selectAll root (join path) with
  | ok found => simp
  | error e => simp

/-- The choices that locate the target are those that are tried and match it alone. -/
theorem locates_iff {choice : List Nat} {selector : String} :
    Locates doc root target choice selector ↔
      ∃ path, (choice, path) ∈ tried (partLevels doc root target) ∧
        matchesAlone doc root target path = true ∧ selector = join path := by
  simp only [Locates, mem_tried_iff, matchesAlone_iff]
  constructor
  · rintro ⟨hne, path, hpath, rfl, hselect⟩
    exact ⟨path, ⟨hne, hpath⟩, hselect, rfl⟩
  · rintro ⟨path, ⟨hne, hpath⟩, hselect, rfl⟩
    exact ⟨hne, path, hpath, rfl, hselect⟩

/-- The first choice that matches the target alone is before all others that do. -/
theorem firstAlone_eq_ok {s : String}
    (h : firstAlone doc root target (tried (partLevels doc root target)) = .ok s) :
    ∃ choice, Locates doc root target choice s ∧
      ∀ other t, Locates doc root target other t → other = choice ∨ Before choice other := by
  rw [firstAlone] at h
  split at h
  · next w hfind =>
    obtain ⟨choice, path⟩ := w
    obtain rfl : join path = s := Except.ok.inj h
    obtain ⟨halone, before, after, hsplit, hbefore⟩ := List.find?_eq_some_iff_append.1 hfind
    have hmem : (choice, path) ∈ tried (partLevels doc root target) := by simp [hsplit]
    refine ⟨choice, locates_iff.2 ⟨path, hmem, halone, rfl⟩, fun other t hother => ?_⟩
    -- The other choice is tried too, so it stands before the first one, is it, or stands behind it.
    obtain ⟨q, hq, hqalone, -⟩ := locates_iff.1 hother
    have hsorted := pairwise_tried (partLevels doc root target)
    rw [hsplit] at hq hsorted
    rcases List.mem_append.1 hq with hq | hq
    · -- What is tried before does not match the target alone.
      have := hbefore _ hq
      simp [hqalone] at this
    · rcases List.mem_cons.1 hq with hq | hq
      · exact .inl (congrArg Prod.fst hq)
      · exact .inr ((List.pairwise_cons.1 (List.pairwise_append.1 hsorted).2.1).1 _ hq)
  · cases h

/-- Nothing is found if no choice locates the target. -/
theorem firstAlone_eq_error_iff {e : CssPathError} :
    firstAlone doc root target (tried (partLevels doc root target)) = .error e ↔
      e = .notFound ∧ ∀ choice s, ¬ Locates doc root target choice s := by
  rw [firstAlone]
  split
  · next w hfind =>
    obtain ⟨choice, path⟩ := w
    have halone := List.find?_some hfind
    have hlocates := locates_iff.2 ⟨path, List.mem_of_find?_eq_some hfind, halone, rfl⟩
    exact iff_of_false (by simp) fun h => h.2 _ _ hlocates
  · next hfind =>
    have hnone : ∀ choice s, ¬ Locates doc root target choice s := by
      intro choice s hlocates
      obtain ⟨path, hmem, halone, -⟩ := locates_iff.1 hlocates
      have hnot := List.find?_eq_none.1 hfind _ hmem
      exact hnot halone
    simp [hnone, eq_comm]

/-- A result is that of a search through all choices of parts. -/
structure Searches (doc : Document) (root target : NodeId) (result : Except CssPathError String) :
    Prop where
  /-- At each number of levels the choices that are tried count through the parts, so that none of
  their numbers is out of range. -/
  counts : ∀ n, 0 < n → n ≤ (partLevels doc root target).length →
    Counts ((partLevels doc root target).take n)
      ((walks ((partLevels doc root target).take n)).map Prod.fst)
  /-- The result is the path of the first choice tried that matches the target alone. -/
  tries : result = firstAlone doc root target (tried (partLevels doc root target))
  /-- A selector is found if some choice locates the target. -/
  found_iff : (∃ s, result = .ok s) ↔ ∃ choice s, Locates doc root target choice s
  /-- The selector found is that of a shortest choice, and of the lexicographically smallest one
  among those of its length. -/
  first : ∀ s, result = .ok s → ∃ choice, Locates doc root target choice s ∧
    ∀ other t, Locates doc root target other t → other = choice ∨ Before choice other
  /-- Nothing is found if no choice locates the target. -/
  notFound_iff : result = .error .notFound ↔ ∀ choice s, ¬ Locates doc root target choice s
  /-- Nothing else goes wrong. -/
  notFound_of_error : ∀ e, result = .error e → e = .notFound

/-- The levels between a target and a root are elements. -/
theorem isElement_of_mem_levels (hdoc : doc.Plain) (htarget : doc.isElement target = true)
    {n : NodeId} (hn : n ∈ levels doc root target) : doc.isElement n = true := by
  rcases List.mem_cons.1 hn with rfl | hn
  · exact htarget
  · exact hdoc.isElement_of_mem_ancestors (List.takeWhile_prefix _ |>.subset hn)

/-- An element has parts. -/
theorem parts_ne_nil {id : NodeId} (h : doc.isElement id = true) : parts doc id ≠ [] := by
  obtain ⟨e, he⟩ := Option.isSome_iff_exists.1 h
  simp [parts, he]

/-- The parts of a path are parts at the levels. -/
theorem exists_level_of_mem_path? {levels : List (List String)} {choice : List Nat}
    {path : List String} (h : path? levels choice = some path) {part : String}
    (hpart : part ∈ path) : ∃ level ∈ levels, part ∈ level := by
  induction choice generalizing levels path with
  | nil =>
    rw [path?] at h
    cases h
    simp at hpart
  | cons i choice ih =>
    cases levels with
    | nil => cases h
    | cons level levels =>
      obtain ⟨first, p, hfirst, hp, rfl⟩ := path?_cons_eq_some_iff.1 h
      rcases List.mem_append.1 hpart with hpart | hpart
      · obtain ⟨l, hl, hmem⟩ := ih hp hpart
        exact ⟨l, List.mem_cons_of_mem level hl, hmem⟩
      · obtain rfl := List.mem_singleton.1 hpart
        exact ⟨level, List.mem_cons_self, List.mem_of_getElem? hfirst⟩

/-- In a plain document no level between an element and a root is without parts. -/
theorem partLevels_ne_nil (hdoc : doc.Plain) (htarget : doc.isElement target = true) :
    ∀ level ∈ partLevels doc root target, level ≠ [] := by
  intro level hlevel
  obtain ⟨n, hn, rfl⟩ := List.mem_map.1 hlevel
  exact parts_ne_nil (isElement_of_mem_levels hdoc htarget hn)

/-- In a plain document selecting with a path that is tried does not fail. -/
theorem exists_selectAll_of_mem_tried (hdoc : doc.Plain) (hsize : doc.size < Text.wordBound)
    {w : List Nat × List String} (hw : w ∈ tried (partLevels doc root target)) :
    ∃ found, doc.selectAll root (join w.2) = .ok found := by
  obtain ⟨choice, path⟩ := w
  obtain ⟨hne, hpath⟩ := mem_tried_iff.1 hw
  have hpathne := path_ne_nil_of_path?_eq_some hne hpath
  refine exists_selectAll_join hpathne (fun part hpart => ?_) doc root
  obtain ⟨level, hlevel, hmem⟩ := exists_level_of_mem_path? hpath hpart
  obtain ⟨n, -, rfl⟩ := List.mem_map.1 hlevel
  exact isCompoundText_of_mem_parts hdoc hsize hmem

/-- In a plain document the search goes through all choices of parts. -/
theorem search_searches (hdoc : doc.Plain) (hsize : doc.size < Text.wordBound)
    (htarget : doc.isElement target = true) :
    Searches doc root target (search doc root target) := by
  have hlevels : ∀ level ∈ partLevels doc root target, level ≠ [] :=
    partLevels_ne_nil hdoc htarget
  have htries : search doc root target =
      firstAlone doc root target (tried (partLevels doc root target)) :=
    search_eq fun w hw => exists_selectAll_of_mem_tried hdoc hsize hw
  have hfirst : ∀ s, search doc root target = .ok s → ∃ choice, Locates doc root target choice s ∧
      ∀ other t, Locates doc root target other t → other = choice ∨ Before choice other :=
    fun s hs => firstAlone_eq_ok (htries ▸ hs)
  refine ⟨fun n _ _ => counts_walks fun level hlevel => hlevels level (List.mem_of_mem_take hlevel),
    htries, ⟨?_, ?_⟩, hfirst, ?_, fun e he => (firstAlone_eq_error_iff.1 (htries ▸ he)).1⟩
  · rintro ⟨s, hs⟩
    obtain ⟨choice, hchoice, -⟩ := hfirst s hs
    exact ⟨choice, s, hchoice⟩
  · rintro ⟨choice, s, hchoice⟩
    cases hresult : search doc root target with
    | ok t => exact ⟨t, rfl⟩
    | error e =>
      have hnone := (firstAlone_eq_error_iff.1 (htries ▸ hresult)).2
      exact absurd hchoice (hnone choice s)
  · rw [htries, firstAlone_eq_error_iff]
    simp

/-- The CSS path of an element inside of another one is searched for, or without any time the path
of all levels is taken. -/
theorem find_of_inside (milliseconds : Nat) (hroot : doc.isElement root = true)
    (htarget : doc.isElement target = true) (hne : target ≠ root)
    (hinside : doc.contains root target = true) :
    find milliseconds doc root target =
      if milliseconds = 0 then fallback doc root target else search doc root target := by
  have hrootlt := Document.lt_size_of_isElement hroot
  have htargetlt := Document.lt_size_of_isElement htarget
  rw [find, if_neg (Nat.not_le.2 hrootlt), if_neg (Nat.not_le.2 htargetlt),
    if_neg (by simp [hroot]), if_neg (by simp [hne, htarget, hinside])]

/-- The finder is asked for an element strictly inside of another one, or rejects the nodes before
any path is made. -/
theorem inside_or_rejected (milliseconds : Nat) (doc : Document) (root target : NodeId) :
    (doc.isElement root = true ∧ doc.isElement target = true ∧ target ≠ root ∧
      doc.contains root target = true) ∨
    ∃ e, find milliseconds doc root target = .error e ∧ ∀ selector, e ≠ .unevaluable selector := by
  rw [find]
  split_ifs with hroot htarget hdetached houtside
  · exact .inr ⟨_, rfl, by simp⟩
  · exact .inr ⟨_, rfl, by simp⟩
  · exact .inr ⟨_, rfl, by simp⟩
  · exact .inr ⟨_, rfl, by simp⟩
  · exact .inl (by simp_all)
  · exact .inl (by simp_all)

/-- The CSS path of an element strictly inside of another one is searched for among all choices of
parts, in the document of any snapshot with plain tags. The nodes of a document are numbered by
machine words, so there are fewer of them than `Text.wordBound`. -/
theorem find_searches {body : BodySnapshot}
    (hbody : Snapshot.AllOf Element.HasPlainTag body.children)
    (hsize : (Document.ofSnapshot body).size < Text.wordBound) {milliseconds : Nat}
    (hms : milliseconds ≠ 0) {root target : NodeId}
    (hroot : (Document.ofSnapshot body).isElement root = true)
    (htarget : (Document.ofSnapshot body).isElement target = true) (hne : target ≠ root)
    (hinside : (Document.ofSnapshot body).contains root target = true) :
    Searches (Document.ofSnapshot body) root target
      (find milliseconds (Document.ofSnapshot body) root target) := by
  rw [find_of_inside milliseconds hroot htarget hne hinside, if_neg hms]
  exact search_searches (Document.plain_ofSnapshot hbody) hsize htarget

/-- A page with a paragraph, and another one in a box. -/
def boxedParagraph : BodySnapshot :=
  ⟨{ tag := "body" }, [.element { tag := "p" } [],
    .element { tag := "div" } [.element { tag := "p" } []]]⟩

/-- Neither the tag of the paragraph in the box nor its position is enough, so the box comes in. -/
theorem find_searches_boxedParagraph :
    find 1000 (Document.ofSnapshot boxedParagraph) Document.body ⟨3⟩ = .ok "div > p" ∧
      Searches (Document.ofSnapshot boxedParagraph) Document.body ⟨3⟩
        (find 1000 (Document.ofSnapshot boxedParagraph) Document.body ⟨3⟩) := by
  constructor
  · exact eq_ok_of_toOption_eq_some (by decide +kernel)
  · exact find_searches (by decide) (by decide) (by decide) (by decide)
      (by decide +kernel) (by decide) (by decide +kernel)

end Recorder.CssPath
