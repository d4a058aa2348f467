import Mathlib.Tactic.Common
import Recorder.Proofs.CssPath.Matching

/-!
# The path of all levels

Without any time the finder takes the path of all levels, with the position at each. What such a
path matches at the depth of the target is the target alone: the levels of another match come from
the same child of the root, and go on through the same children, as an element is given by its
position in its parent (`IsTree.eq_of_elementIndex_eq`). So no path is found only where something at
another depth is matched too (`fullPath_matches_depths`). The path is also that of a choice that a
search tries, so a search finds one wherever there is one without any time, and its own does not
take more levels (`find_of_find_zero`).
-/

namespace Recorder

namespace Document

variable {doc : Document} {root m n p : NodeId}

/-! ## Depths and positions -/

/-- The depth of a node below a root around it: how many steps up lead to the root. -/
def depthBelow (doc : Document) (root n : NodeId) : Nat :=
  (doc.ancestors n).idxOf root + 1

/-- A child of the root is one step below it. -/
theorem IsTree.depthBelow_child (hdoc : doc.IsTree) (h : doc.parent? n = some root) :
    doc.depthBelow root n = 1 := by
  rw [depthBelow, hdoc.ancestors_eq h, List.idxOf_cons_self]

/-- Further inside, a node is one step below its parent. -/
theorem IsTree.depthBelow_inner (hdoc : doc.IsTree) (h : doc.parent? n = some p)
    (hp : root ∈ doc.ancestors p) : doc.depthBelow root n = doc.depthBelow root p + 1 := by
  rw [depthBelow, hdoc.ancestors_eq h, List.idxOf_cons_ne _ (ne_of_mem_ancestors hp), depthBelow]

/-- Every depth is one at least. -/
theorem depthBelow_pos (doc : Document) (root n : NodeId) : 0 < doc.depthBelow root n :=
  Nat.succ_pos _

/-- A node at depth one is a child of the root. -/
theorem IsTree.parent?_of_depthBelow_eq_one (hdoc : doc.IsTree) (h : root ∈ doc.ancestors n)
    (hdepth : doc.depthBelow root n = 1) : doc.parent? n = some root := by
  induction h using hdoc.inside_induction with
  | child hp => exact hp
  | @inner n p hp hroot =>
    have hpos := doc.depthBelow_pos root p
    have hinner := hdoc.depthBelow_inner hp hroot
    omega

/-- The position of an element tells where it stands among the elements in its parent. -/
theorem Linked.exists_elementIndex_eq (hdoc : doc.Linked) (h : doc.parent? n = some p)
    (hn : doc.isElement n = true) :
    ∃ i, doc.elementIndex n = i + 1 ∧ (doc.elementChildren p)[i]? = some n := by
  have hmem : n ∈ doc.elementChildren p :=
    List.mem_filter.2 ⟨(hdoc.mem_children p n).2 h, hn⟩
  cases hindex : (doc.elementChildren p).idxOf? n with
  | none => exact absurd hmem (List.idxOf?_eq_none_iff.1 hindex)
  | some i =>
    obtain ⟨hi, hget, -⟩ := List.idxOf?_eq_some_iff.1 hindex
    refine ⟨i, ?_, List.getElem?_eq_some_iff.2 ⟨hi, hget⟩⟩
    rw [elementIndex]
    simp [h, hindex]

/-- Two elements at one position in one parent are the same. -/
theorem Linked.eq_of_elementIndex_eq (hdoc : doc.Linked) (hm : doc.parent? m = some p)
    (hn : doc.parent? n = some p) (hmElement : doc.isElement m = true)
    (hnElement : doc.isElement n = true) (h : doc.elementIndex m = doc.elementIndex n) :
    m = n := by
  obtain ⟨i, hi, hmAt⟩ := hdoc.exists_elementIndex_eq hm hmElement
  obtain ⟨j, hj, hnAt⟩ := hdoc.exists_elementIndex_eq hn hnElement
  obtain rfl : i = j := by omega
  exact Option.some.inj (hmAt.symm.trans hnAt)

end Document

namespace CssPath

variable {doc : Document} {root target n p : NodeId}

/-! ## What the path of all levels matches -/

/-- An element has a tag with a position on its path. -/
theorem positionPath_ne_nil (root : NodeId) (hn : doc.isElement n = true) :
    positionPath doc root n ≠ [] := by
  obtain ⟨tag, -, htag, -⟩ := exists_positionPart hn
  have hmem : positionPart doc n tag ∈ positionPath doc root n :=
    List.mem_filterMap.2 ⟨n, by simp [levels], by simp [htag]⟩
  exact List.ne_nil_of_mem hmem

/-- What the part with the position of an element matches in the parent of the element is the
element. -/
theorem eq_of_holds_positionCompound (hdoc : doc.Linked) {m : NodeId} {tag : String}
    (hm : doc.parent? m = some p) (hn : doc.parent? n = some p) (hnElement : doc.isElement n = true)
    (h : (positionCompound doc n tag).holds doc m = true) : m = n := by
  obtain ⟨htag, hindex⟩ := holds_positionCompound.1 h
  have hmElement : doc.isElement m = true := by
    obtain ⟨e, he, -⟩ := Option.map_eq_some_iff.1 htag
    simp [Document.isElement, he]
  exact hdoc.eq_of_elementIndex_eq hm hn hmElement hnElement hindex

/-- The path of all levels is what is written of a chain, and what the chain matches at the depth of
the node is the node. -/
theorem exists_complex_positionPath (hplain : doc.Plain) (hsize : doc.size < Text.wordBound)
    (htree : doc.IsTree) (hroot : root ∈ doc.ancestors n) (hn : doc.isElement n = true) :
    ∃ s : Selector.Complex, s.Printable ∧ (join (positionPath doc root n)).toList = s.text ∧
      ∀ m, root ∈ doc.ancestors m → s.holds doc m = true →
        doc.depthBelow root m = doc.depthBelow root n → m = n := by
  induction hroot using htree.inside_induction with
  | @child n hp =>
    obtain ⟨e, he⟩ := Option.isSome_iff_exists.1 hn
    have htag : doc.tag? n = some e.tag := by rw [Document.tag?, he, Option.map_some]
    refine ⟨.compound (positionCompound doc n e.tag), printable_positionCompound hplain hsize he,
      ?_, fun m hm hholds hdepth => ?_⟩
    · rw [positionPath_child htree hp htag]
      simpa [join, Selector.Complex.text] using toList_positionPart doc n e.tag
    · rw [htree.depthBelow_child hp] at hdepth
      have hmp := htree.parent?_of_depthBelow_eq_one hm hdepth
      exact eq_of_holds_positionCompound htree.toLinked hmp hp hn hholds
  | @inner n p hp hroot ih =>
    obtain ⟨e, he⟩ := Option.isSome_iff_exists.1 hn
    have htag : doc.tag? n = some e.tag := by rw [Document.tag?, he, Option.map_some]
    have hpElement := htree.isElement_parent hp
    obtain ⟨s, hs, htext, halone⟩ := ih hpElement
    refine ⟨.join s .child (positionCompound doc n e.tag),
      ⟨hs, printable_positionCompound hplain hsize he⟩, ?_, fun m hm hholds hdepth => ?_⟩
    · rw [positionPath_inner htree hp hroot htag]
      exact toList_join_concat (positionPath_ne_nil root hpElement) htext
        (toList_positionPart doc n e.tag)
    · obtain ⟨hcompound, q, hq, hholds⟩ := (Selector.holds_join doc m s .child _).1 hholds
      have hq' : doc.parent? m = some q := hq
      rw [htree.depthBelow_inner hp hroot] at hdepth
      have hpos := doc.depthBelow_pos root p
      -- The parent is not the root, or the node would not be as deep.
      rcases (htree.mem_ancestors_iff hq').1 hm with rfl | hqroot
      · have hchild := htree.depthBelow_child hq'
        omega
      · have hinner := htree.depthBelow_inner hq' hqroot
        obtain rfl := halone q hqroot hholds (by omega)
        exact eq_of_holds_positionCompound htree.toLinked hq' hp hn hcompound

/-- What the path of all levels matches inside of the root apart from the target is at another
depth. -/
theorem depthBelow_ne_of_mem_found (hplain : doc.Plain) (hsize : doc.size < Text.wordBound)
    (htree : doc.IsTree) (htarget : target ∈ doc.descendants root) {found : List NodeId}
    (h : doc.selectAll root (fullPath doc root target) = .ok found) {m : NodeId} (hm : m ∈ found)
    (hne : m ≠ target) : doc.depthBelow root m ≠ doc.depthBelow root target := by
  obtain ⟨helement, hroot⟩ := htree.mem_descendants_iff_mem_ancestors.1 htarget
  obtain ⟨s, hs, htext, halone⟩ := exists_complex_positionPath hplain hsize htree hroot helement
  have hchain : doc.selectAll root (fullPath doc root target) =
      .ok ((doc.descendants root).filter fun n => s.holds doc n) :=
    selectAll_join (parse_join hs htext) doc root
  obtain rfl := Except.ok.inj (h.symm.trans hchain)
  obtain ⟨hinside, hholds⟩ := List.mem_filter.1 hm
  have hmroot := (htree.mem_descendants_iff_mem_ancestors.1 hinside).2
  exact fun hdepth => hne (halone m hmroot hholds hdepth)

/-- In the document of a snapshot with plain tags the path of all levels with the positions matches
the target, if this is an element strictly inside of the root, and whatever else it matches inside
of the root is at another depth below it. So without any time there is no path just where something
at another depth is matched as well. The nodes of a document are numbered by machine words, so there
are fewer of them than `Text.wordBound`. -/
theorem fullPath_matches_depths {body : BodySnapshot}
    (hbody : Snapshot.AllOf Element.HasPlainTag body.children)
    (hsize : (Document.ofSnapshot body).size < Text.wordBound) {root target : NodeId}
    (htarget : (Document.ofSnapshot body).isElement target = true) (hne : target ≠ root)
    (hinside : (Document.ofSnapshot body).contains root target = true) :
    ∃ found, (Document.ofSnapshot body).selectAll root
        (fullPath (Document.ofSnapshot body) root target) = .ok found ∧
      target ∈ found ∧
      (∀ m ∈ found, m ≠ target → (Document.ofSnapshot body).depthBelow root m ≠
        (Document.ofSnapshot body).depthBelow root target) ∧
      (find 0 (Document.ofSnapshot body) root target = .error .notFound ↔
        ∃ m ∈ found, m ≠ target ∧ (Document.ofSnapshot body).depthBelow root m ≠
          (Document.ofSnapshot body).depthBelow root target) := by
  have hplain := Document.plain_ofSnapshot hbody
  have htree := Document.IsTree.ofSnapshot body
  generalize Document.ofSnapshot body = doc at *
  have hmem := htree.mem_descendants_iff_contains.2 ⟨htarget, hne, hinside⟩
  have hroot := htree.isElement_of_contains htarget hinside
  obtain ⟨found, hselect, hfound, hfallback⟩ :=
    (reaches_fullPath hplain hsize htree hmem).fallback_eq
  have hdepths {m : NodeId} (hm : m ∈ found) (hmne : m ≠ target) :=
    depthBelow_ne_of_mem_found hplain hsize htree hmem hselect hm hmne
  refine ⟨found, hselect, hfound, fun m hm hmne => hdepths hm hmne, ?_⟩
  rw [find_of_inside 0 hroot htarget hne hinside, if_pos rfl, hfallback]
  by_cases hall : ∀ m ∈ found, m = target
  · rw [if_pos hall]
    refine iff_of_false (by simp) ?_
    rintro ⟨m, hm, hmne, -⟩
    exact hmne (hall m hm)
  · rw [if_neg hall]
    push Not at hall
    obtain ⟨m, hm, hmne⟩ := hall
    exact iff_of_true rfl ⟨m, hm, hmne, hdepths hm hmne⟩

/-- A page with a box inside of a box, in a section. -/
def boxInBox : BodySnapshot :=
  ⟨{ tag := "body" }, [.element { tag := "section" } [.element { tag := "div" }
    [.element { tag := "div" } []]]]⟩

/-- The path of the outer box matches the inner box too, which is one step further down. -/
theorem fullPath_matches_depths_boxInBox :
    ((Document.ofSnapshot boxInBox).selectAll ⟨1⟩
        (fullPath (Document.ofSnapshot boxInBox) ⟨1⟩ ⟨2⟩) = .ok [⟨2⟩, ⟨3⟩] ∧
      (Document.ofSnapshot boxInBox).depthBelow ⟨1⟩ ⟨3⟩ ≠
        (Document.ofSnapshot boxInBox).depthBelow ⟨1⟩ ⟨2⟩) ∧
      find 0 (Document.ofSnapshot boxInBox) ⟨1⟩ ⟨2⟩ = .error .notFound := by
  have htags : Snapshot.AllOf Element.HasPlainTag boxInBox.children := by decide
  have hboth : (Document.ofSnapshot boxInBox).selectAll ⟨1⟩
      (fullPath (Document.ofSnapshot boxInBox) ⟨1⟩ ⟨2⟩) = .ok [⟨2⟩, ⟨3⟩] :=
    eq_ok_of_toOption_eq_some (by decide +kernel)
  have hne : (⟨2⟩ : NodeId) ≠ ⟨1⟩ := by decide
  obtain ⟨found, hselect, -, hdepths, hiff⟩ := fullPath_matches_depths htags (by decide)
    (by decide +kernel) hne (by decide +kernel)
  obtain rfl := Except.ok.inj (hboth.symm.trans hselect)
  have hdepth := hdepths ⟨3⟩ (by simp) (by decide)
  exact ⟨⟨hboth, hdepth⟩, hiff.2 ⟨⟨3⟩, by simp, by decide, hdepth⟩⟩

/-! ## Any time finds what none does -/

/-- The path that is given without any time is that of all levels, and matches the target alone. -/
theorem eq_fullPath_of_fallback {s : String} (h : fallback doc root target = .ok s) :
    s = fullPath doc root target ∧ doc.selectAll root s = .ok [target] := by
  cases hselect : doc.selectAll root (fullPath doc root target) with
  | error e =>
    rw [fallback, isUnique, hselect] at h
    cases h
  | ok found =>
    have hunique : isUnique doc root target (fullPath doc root target) =
        .ok (found == [target]) := by
      rw [isUnique, hselect]
    rw [fallback_eq hunique] at h
    split at h
    · next hfound =>
      obtain rfl := Except.ok.inj h
      exact ⟨rfl, by rw [hselect, eq_of_beq hfound]⟩
    · cases h

/-- A selector that a choice locates the target by is a chain with one compound for each level of
the choice. -/
theorem Locates.exists_parse (hplain : doc.Plain) (hsize : doc.size < Text.wordBound)
    (htree : doc.IsTree) (hroot : root ∈ doc.ancestors target) {choice : List Nat} {s : String}
    (h : Locates doc root target choice s) :
    ∃ c : Selector.Complex, Selector.Group.parse s = .ok ⟨[c]⟩ ∧ c.length = choice.length := by
  obtain ⟨hne, path, hpath, rfl, -⟩ := h
  obtain ⟨c, hc, htext, hlength, -⟩ := leadsTo_of_path? hplain hsize htree hroot hne hpath
  exact ⟨c, parse_join hc htext, hlength.trans (length_of_path?_eq_some hpath).1⟩

/-- In the document of a snapshot with plain tags a path is found with any time if one is found
without: both match the target alone, and the one that is searched for takes no more levels. The
nodes of a document are numbered by machine words, so there are fewer of them than
`Text.wordBound`. -/
theorem find_of_find_zero {body : BodySnapshot}
    (hbody : Snapshot.AllOf Element.HasPlainTag body.children)
    (hsize : (Document.ofSnapshot body).size < Text.wordBound) {root target : NodeId} {s : String}
    (hs : find 0 (Document.ofSnapshot body) root target = .ok s) {milliseconds : Nat}
    (hms : milliseconds ≠ 0) :
    ∃ t, find milliseconds (Document.ofSnapshot body) root target = .ok t ∧
      (Document.ofSnapshot body).selectAll root s = .ok [target] ∧
      (Document.ofSnapshot body).selectAll root t = .ok [target] ∧
      ∃ long short : Selector.Complex, Selector.Group.parse s = .ok ⟨[long]⟩ ∧
        Selector.Group.parse t = .ok ⟨[short]⟩ ∧ short.length ≤ long.length := by
  have hplain := Document.plain_ofSnapshot hbody
  have htree := Document.IsTree.ofSnapshot body
  generalize Document.ofSnapshot body = doc at *
  rcases inside_or_rejected 0 doc root target with
    ⟨hroot, htarget, hne, hinside⟩ | ⟨e, hrejected, -⟩
  · rw [find_of_inside 0 hroot htarget hne hinside, if_pos rfl] at hs
    rw [find_of_inside milliseconds hroot htarget hne hinside, if_neg hms]
    obtain ⟨rfl, hselect⟩ := eq_fullPath_of_fallback hs
    have hmem := htree.mem_descendants_iff_contains.2 ⟨htarget, hne, hinside⟩
    have hancestor := (htree.mem_descendants_iff_mem_ancestors.1 hmem).2
    -- The path of all levels is that of a choice, so the first choice is not a longer one.
    obtain ⟨full, hfull, hpath⟩ := exists_choice_positionPath htree hancestor htarget
    have hlocates : Locates doc root target full (fullPath doc root target) :=
      ⟨hfull, _, hpath, rfl, hselect⟩
    have hsearch : Searches doc root target (search doc root target) :=
      search_searches hplain hsize htarget
    obtain ⟨t, ht⟩ := hsearch.found_iff.2 ⟨full, _, hlocates⟩
    obtain ⟨choice, hchoice, hfirst⟩ := hsearch.first t ht
    have hle : choice.length ≤ full.length := by
      rcases hfirst full _ hlocates with rfl | hlt | ⟨heq, -⟩ <;> omega
    obtain ⟨long, hlong, hlongLength⟩ := hlocates.exists_parse hplain hsize htree hancestor
    obtain ⟨short, hshort, hshortLength⟩ := hchoice.exists_parse hplain hsize htree hancestor
    obtain ⟨-, _, -, -, hselectShort⟩ := hchoice
    exact ⟨t, ht, hselect, hselectShort, long, short, hlong, hshort, by omega⟩
  · cases hs.symm.trans hrejected

/-- Without any time the paragraph in the box is found through the box, and with any time by its tag
alone. -/
theorem find_of_find_zero_oddNames :
    find 0 (Document.ofSnapshot oddNames) Document.body ⟨2⟩ =
        .ok "div:nth-child(1) > p:nth-child(1)" ∧
      ∃ t, find 1000 (Document.ofSnapshot oddNames) Document.body ⟨2⟩ = .ok t ∧
        (Document.ofSnapshot oddNames).selectAll Document.body t = .ok [⟨2⟩] := by
  have hfind : find 0 (Document.ofSnapshot oddNames) Document.body ⟨2⟩ =
      .ok "div:nth-child(1) > p:nth-child(1)" :=
    eq_ok_of_toOption_eq_some (by decide +kernel)
  have hms : 1000 ≠ 0 := by decide
  obtain ⟨t, ht, -, hselect, -⟩ :=
    find_of_find_zero (by decide) (by decide) hfind hms
  exact ⟨hfind, t, ht, hselect⟩

end CssPath

end Recorder
