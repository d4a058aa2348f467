import Mathlib.Data.List.Nodup
import Mathlib.Tactic.Common
import Recorder.Proofs.CssPath.Search
import Recorder.Proofs.Document.Order

/-!
# What CSS paths match

Whatever parts are chosen at the innermost levels, the path leads to the target (`LeadsTo`): it is
read as a chain with one compound for each part, and the chain matches the target, as each part
describes the element of its level and each level is the parent of the one inside of it. The path of
all levels with the positions is that of a choice too (`exists_choice_positionPath`). So a path is
rejected only where it matches something else as well (`Reaches`), and no path that the finder makes
fails to be read: `path_reaches_target` says so of the documents of snapshots.
-/

namespace Recorder

/-- The number of compounds of a chain. -/
def Selector.Complex.length : Selector.Complex → Nat
  | .compound _ => 1
  | .join left _ _ => left.length + 1

namespace CssPath

variable {doc : Document} {root target n p : NodeId}

/-! ## Levels -/

/-- A child of the root is the only level. -/
theorem levels_child (hdoc : doc.IsTree) (h : doc.parent? n = some root) :
    levels doc root n = [n] := by
  simp [levels, hdoc.ancestors_eq h]

/-- Further inside, the levels of the parent come behind the node. -/
theorem levels_inner (hdoc : doc.IsTree) (h : doc.parent? n = some p)
    (hp : root ∈ doc.ancestors p) : levels doc root n = n :: levels doc root p := by
  simp [levels, hdoc.ancestors_eq h, Document.ne_of_mem_ancestors hp]

/-! ## Paths that lead to a node -/

/-- A path leads to a node: it is what is written of a chain that has one compound for each part and
matches the node. -/
def LeadsTo (doc : Document) (path : List String) (n : NodeId) : Prop :=
  ∃ s : Selector.Complex, s.Printable ∧ (join path).toList = s.text ∧ s.length = path.length ∧
    s.holds doc n = true

/-- A part that describes a node leads to it. -/
theorem Describes.leadsTo {part : String} (h : Describes doc n part) : LeadsTo doc [part] n := by
  obtain ⟨c, hc, htext, hholds⟩ := h
  exact ⟨.compound c, hc, by simpa [join, Selector.Complex.text] using htext, rfl, hholds⟩

/-- A path to the parent of a node leads to the node together with a part that describes it. -/
theorem LeadsTo.concat {path : List String} {part : String} (h : LeadsTo doc path p)
    (hpath : path ≠ []) (hp : doc.parent? n = some p) (hpart : Describes doc n part) :
    LeadsTo doc (path ++ [part]) n := by
  obtain ⟨s, hs, htext, hlength, hholds⟩ := h
  obtain ⟨c, hc, hpartText, hcholds⟩ := hpart
  refine ⟨.join s .child c, ⟨hs, hc⟩, toList_join_concat hpath htext hpartText, ?_, ?_⟩
  · simp [Selector.Complex.length, hlength]
  · exact (Selector.holds_join doc n s .child c).2 ⟨hcholds, p, hp, hholds⟩

/-- The path of a choice of parts at the innermost levels leads to the target. -/
theorem leadsTo_of_path? (hplain : doc.Plain) (hsize : doc.size < Text.wordBound)
    (htree : doc.IsTree) (hroot : root ∈ doc.ancestors n) {choice : List Nat} {path : List String}
    (hne : choice ≠ []) (h : path? (partLevels doc root n) choice = some path) :
    LeadsTo doc path n := by
  have hdescribes {m : NodeId} {part : String} {i : Nat} (hi : (parts doc m)[i]? = some part) :
      Describes doc m part :=
    describes_of_mem_parts hplain hsize (List.mem_of_getElem? hi)
  -- The induction goes from the root inwards: each part stands behind those of the levels around.
  induction hroot using htree.inside_induction generalizing choice path with
  | @child n hp =>
    obtain ⟨i, outer, rfl⟩ := List.exists_cons_of_ne_nil hne
    rw [partLevels, levels_child htree hp, List.map_singleton] at h
    obtain ⟨part, path, hi, hpath, rfl⟩ := path?_cons_eq_some_iff.1 h
    obtain ⟨hlength, hle⟩ := length_of_path?_eq_some hpath
    obtain rfl : path = [] := List.length_eq_zero_iff.1 (hlength.trans (Nat.le_zero.1 hle))
    exact (hdescribes hi).leadsTo
  | @inner n p hp hroot ih =>
    obtain ⟨i, outer, rfl⟩ := List.exists_cons_of_ne_nil hne
    rw [partLevels, levels_inner htree hp hroot, List.map_cons] at h
    obtain ⟨part, path, hi, hpath, rfl⟩ := path?_cons_eq_some_iff.1 h
    by_cases houter : outer = []
    · subst houter
      obtain rfl : path = [] := List.length_eq_zero_iff.1 (length_of_path?_eq_some hpath).1
      exact (hdescribes hi).leadsTo
    · have hpathne := path_ne_nil_of_path?_eq_some houter hpath
      exact (ih houter hpath).concat hpathne hp (hdescribes hi)

/-! ## The path of all levels -/

/-- The parts of the path of all levels: the tags with the positions. -/
def positionPath (doc : Document) (root target : NodeId) : List String :=
  (levels doc root target).reverse.filterMap fun n => (doc.tag? n).map (positionPart doc n)

/-- The path of a child of the root is its tag with its position. -/
theorem positionPath_child (hdoc : doc.IsTree) (h : doc.parent? n = some root) {tag : String}
    (htag : doc.tag? n = some tag) : positionPath doc root n = [positionPart doc n tag] := by
  simp [positionPath, levels_child hdoc h, htag]

/-- Further inside, the tag with the position stands behind the path of the parent. -/
theorem positionPath_inner (hdoc : doc.IsTree) (h : doc.parent? n = some p)
    (hp : root ∈ doc.ancestors p) {tag : String} (htag : doc.tag? n = some tag) :
    positionPath doc root n = positionPath doc root p ++ [positionPart doc n tag] := by
  simp [positionPath, levels_inner hdoc h hp, htag, List.filterMap_append]

/-- The tag of an element with its position is the last one of its parts. -/
theorem exists_positionPart (hn : doc.isElement n = true) :
    ∃ (tag : String) (i : Nat),
      doc.tag? n = some tag ∧ (parts doc n)[i]? = some (positionPart doc n tag) := by
  obtain ⟨e, he⟩ := Option.isSome_iff_exists.1 hn
  have hmem : positionPart doc n e.tag ∈ parts doc n := by simp [parts, he]
  obtain ⟨i, hi⟩ := List.getElem?_of_mem hmem
  exact ⟨e.tag, i, by rw [Document.tag?, he, Option.map_some], hi⟩

/-- The path of all levels is that of a choice of parts. -/
theorem exists_choice_positionPath (htree : doc.IsTree) (hroot : root ∈ doc.ancestors n)
    (hn : doc.isElement n = true) : ∃ choice, choice ≠ [] ∧
      path? (partLevels doc root n) choice = some (positionPath doc root n) := by
  induction hroot using htree.inside_induction with
  | child hp =>
    obtain ⟨tag, i, htag, hi⟩ := exists_positionPart hn
    refine ⟨[i], List.cons_ne_nil _ _, ?_⟩
    rw [partLevels, levels_child htree hp, List.map_singleton, positionPath_child htree hp htag]
    exact path?_cons_eq_some_iff.2 ⟨_, [], hi, rfl, rfl⟩
  | inner hp hroot ih =>
    obtain ⟨tag, i, htag, hi⟩ := exists_positionPart hn
    obtain ⟨outer, -, houter⟩ := ih (htree.isElement_parent hp)
    refine ⟨i :: outer, List.cons_ne_nil _ _, ?_⟩
    rw [partLevels, levels_inner htree hp hroot, List.map_cons,
      positionPath_inner htree hp hroot htag]
    exact path?_cons_eq_some_iff.2 ⟨_, _, hi, houter, rfl⟩

/-! ## Paths that are selected with -/

/-- A selector reaches a target inside of a root: it is read, the target is among what it matches,
and the test rejects it only if it matches something else as well. -/
def Reaches (doc : Document) (root target : NodeId) (selector : String) : Prop :=
  ∃ found, doc.selectAll root selector = .ok found ∧ target ∈ found ∧
    isUnique doc root target selector = .ok (decide (∀ m ∈ found, m = target))

/-- A list with no repetition is a single node if it has this node and no other one. -/
theorem eq_singleton_iff {found : List NodeId} (hfound : found.Nodup) (h : target ∈ found) :
    found = [target] ↔ ∀ m ∈ found, m = target := by
  refine ⟨by rintro rfl; simp, fun hall => List.perm_singleton.1 ?_⟩
  refine (List.perm_ext_iff_of_nodup hfound (List.nodup_singleton target)).2 fun m => ?_
  rw [List.mem_singleton]
  exact ⟨hall m, by rintro rfl; exact h⟩

/-- A path that leads to a target reaches it inside of each node around it. -/
theorem LeadsTo.reaches (hdoc : doc.Linked) {path : List String} (h : LeadsTo doc path target)
    (htarget : target ∈ doc.descendants root) : Reaches doc root target (join path) := by
  obtain ⟨s, hs, htext, -, hholds⟩ := h
  have hselect := selectAll_join (parse_join hs htext) doc root
  have hmem : target ∈ (doc.descendants root).filter fun n => s.holds doc n :=
    List.mem_filter.2 ⟨htarget, hholds⟩
  have hnodup := (hdoc.nodup_descendants root).filter fun n => s.holds doc n
  refine ⟨_, hselect, hmem, ?_⟩
  rw [isUnique, hselect]
  exact congrArg Except.ok (by rw [Bool.eq_iff_iff, beq_iff_eq, decide_eq_true_iff,
    eq_singleton_iff hnodup hmem])

/-- Without any time the path of all levels is given, if the test accepts it. -/
theorem fallback_eq {b : Bool}
    (h : isUnique doc root target (fullPath doc root target) = .ok b) :
    fallback doc root target =
      if b = true then .ok (fullPath doc root target) else .error .notFound := by
  rw [fallback, h]
  cases b <;> rfl

/-- A path of all levels that reaches the target is given without any time, if it matches nothing
else. -/
theorem Reaches.fallback_eq (h : Reaches doc root target (fullPath doc root target)) :
    ∃ found, doc.selectAll root (fullPath doc root target) = .ok found ∧ target ∈ found ∧
      fallback doc root target = if ∀ m ∈ found, m = target then .ok (fullPath doc root target)
        else .error .notFound := by
  obtain ⟨found, hselect, hmem, hunique⟩ := h
  refine ⟨found, hselect, hmem, ?_⟩
  simpa only [decide_eq_true_eq] using CssPath.fallback_eq hunique

/-! ## What is found -/

/-- A CSS path is given that can be selected with, or there is none. -/
def Settled (doc : Document) (root : NodeId) (result : Except CssPathError String) : Prop :=
  result = .error .notFound ∨
    ∃ selector found, result = .ok selector ∧ doc.selectAll root selector = .ok found

/-- Without any time the path of all levels is given, or none. -/
theorem Reaches.settled_fallback (h : Reaches doc root target (fullPath doc root target)) :
    Settled doc root (fallback doc root target) := by
  obtain ⟨found, hselect, -, hfallback⟩ := h.fallback_eq
  rw [hfallback]
  split
  · exact .inr ⟨_, found, rfl, hselect⟩
  · exact .inl rfl

/-- A search gives a path that matches the target, or none. -/
theorem Searches.settled {result : Except CssPathError String}
    (h : Searches doc root target result) : Settled doc root result := by
  cases result with
  | error e => exact .inl (congrArg Except.error (h.notFound_of_error e rfl))
  | ok selector =>
    obtain ⟨_, ⟨-, _, -, -, hselect⟩, -⟩ := h.first selector rfl
    exact .inr ⟨selector, _, rfl, hselect⟩

section Plain

variable (hplain : doc.Plain) (hsize : doc.size < Text.wordBound) (htree : doc.IsTree)

include hplain hsize htree

/-- The path of a choice reaches an element inside of the root. -/
theorem reaches_of_path? (htarget : target ∈ doc.descendants root) {choice : List Nat}
    {path : List String} (hne : choice ≠ [])
    (h : path? (partLevels doc root target) choice = some path) :
    Reaches doc root target (join path) := by
  have hroot := (htree.mem_descendants_iff_mem_ancestors.1 htarget).2
  exact (leadsTo_of_path? hplain hsize htree hroot hne h).reaches htree.toLinked htarget

/-- The path of all levels reaches an element inside of the root. -/
theorem reaches_fullPath (htarget : target ∈ doc.descendants root) :
    Reaches doc root target (fullPath doc root target) := by
  obtain ⟨helement, hroot⟩ := htree.mem_descendants_iff_mem_ancestors.1 htarget
  obtain ⟨choice, hne, hpath⟩ := exists_choice_positionPath htree hroot helement
  exact reaches_of_path? hplain hsize htree htarget hne hpath

/-- The CSS path of an element inside of another one is given, or there is none, whatever the
time. -/
theorem settled_find (milliseconds : Nat) (hroot : doc.isElement root = true)
    (htarget : doc.isElement target = true) (hne : target ≠ root)
    (hinside : doc.contains root target = true) :
    Settled doc root (find milliseconds doc root target) := by
  have hmem := htree.mem_descendants_iff_contains.2 ⟨htarget, hne, hinside⟩
  rw [find_of_inside milliseconds hroot htarget hne hinside]
  split
  · exact (reaches_fullPath hplain hsize htree hmem).settled_fallback
  · exact (search_searches hplain hsize htarget).settled

/-- No path that the finder makes fails to be read. -/
theorem find_ne_unevaluable (milliseconds : Nat) (root target : NodeId) (selector : String) :
    find milliseconds doc root target ≠ .error (.unevaluable selector) := by
  rcases inside_or_rejected milliseconds doc root target with
    ⟨hroot, htarget, hne, hinside⟩ | ⟨e, hfind, he⟩
  · rcases settled_find hplain hsize htree milliseconds hroot htarget hne hinside with
      hfind | ⟨_, _, hfind, -⟩ <;> simp [hfind]
  · rw [hfind]
    exact fun h => he selector (Except.error.inj h)

end Plain

/-- In the document of a snapshot with plain tags every choice of parts at one or more of the
innermost levels makes a path that reaches the target, if this is an element strictly inside of the
root, and so does the path of all levels with the positions; whatever the nodes and the time, no
path of the finder fails to be read. The nodes of a document are numbered by machine words, so there
are fewer of them than `Text.wordBound`. -/
theorem path_reaches_target {body : BodySnapshot}
    (hbody : Snapshot.AllOf Element.HasPlainTag body.children)
    (hsize : (Document.ofSnapshot body).size < Text.wordBound) :
    (∀ root target, (Document.ofSnapshot body).isElement target = true → target ≠ root →
      (Document.ofSnapshot body).contains root target = true →
      (∀ choice path, choice ≠ [] →
        path? (partLevels (Document.ofSnapshot body) root target) choice = some path →
        Reaches (Document.ofSnapshot body) root target (join path)) ∧
      Reaches (Document.ofSnapshot body) root target
        (fullPath (Document.ofSnapshot body) root target)) ∧
    ∀ milliseconds root target selector,
      find milliseconds (Document.ofSnapshot body) root target ≠
        .error (.unevaluable selector) := by
  have hplain := Document.plain_ofSnapshot hbody
  have htree := Document.IsTree.ofSnapshot body
  refine ⟨fun root target htarget hne hinside => ?_, find_ne_unevaluable hplain hsize htree⟩
  have hmem := htree.mem_descendants_iff_contains.2 ⟨htarget, hne, hinside⟩
  exact ⟨fun choice path hchoice hpath =>
    reaches_of_path? hplain hsize htree hmem hchoice hpath,
    reaches_fullPath hplain hsize htree hmem⟩

/-- A page with a paragraph in a box whose id and class are no plain names. -/
def oddNames : BodySnapshot :=
  ⟨{ tag := "body" },
    [.element { tag := "div", attributes := .ofPairs [("id", "a b"), ("class", "2\"x")] }
      [.element { tag := "p" } []]]⟩

/-- The class is written with escapes and reaches the paragraph together with its tag, and so does
the path with the positions. -/
theorem path_reaches_target_oddNames :
    (path? (partLevels (Document.ofSnapshot oddNames) Document.body ⟨2⟩) [0, 1] =
        some [".\\2\\\"x", "p"] ∧
      Reaches (Document.ofSnapshot oddNames) Document.body ⟨2⟩ (join [".\\2\\\"x", "p"])) ∧
      Reaches (Document.ofSnapshot oddNames) Document.body ⟨2⟩
        (fullPath (Document.ofSnapshot oddNames) Document.body ⟨2⟩) := by
  have htags : Snapshot.AllOf Element.HasPlainTag oddNames.children := by decide
  have hpath : path? (partLevels (Document.ofSnapshot oddNames) Document.body ⟨2⟩) [0, 1] =
      some [".\\2\\\"x", "p"] := by
    decide +kernel
  obtain ⟨hchoices, hfull⟩ := (path_reaches_target htags (by decide)).1 Document.body ⟨2⟩
    (by decide +kernel) (by decide) (by decide +kernel)
  exact ⟨⟨hpath, hchoices _ _ (by decide) hpath⟩, hfull⟩

end CssPath

end Recorder
