import Mathlib.Data.List.Nodup
import Mathlib.Tactic.Common
import Recorder.Proofs.Document.Order
import Recorder.Proofs.Locator.Replay

/-!
# Queries in a narrower container

What a query finds is a part of the elements inside of the container, chosen by a test that does not
know the container: labels, ids, ancestors and positions are looked up in the whole document. And in
a tree the elements inside of a container are those inside of any container around it that lie in
the narrower one, in one order (`IsTree.descendants_eq_filter`). So a narrower container only leaves
out what lies outside of it.
-/

namespace Recorder.Document

variable {doc : Document}

/-- A part of a list without repeats is what is left of the list when everything else is taken
away. -/
theorem eq_filter_of_sublist {part all : List NodeId} (h : part.Sublist all) (hall : all.Nodup) :
    part = all.filter fun n => part.contains n := by
  induction h with
  | slnil => rfl
  | @cons part all n h ih =>
    obtain ⟨hn, hall⟩ := List.nodup_cons.1 hall
    have hnot : part.contains n = false := by simpa using fun hmem => hn (h.subset hmem)
    rw [List.filter_cons, hnot]
    exact ih hall
  | @cons_cons part all n h ih =>
    obtain ⟨hn, hall⟩ := List.nodup_cons.1 hall
    have hrest : all.filter (fun m => (n :: part).contains m) =
        all.filter fun m => part.contains m :=
      List.filter_congr fun m hm => by
        have hne : m ≠ n := fun heq => hn (heq ▸ hm)
        simp [hne]
    rw [List.filter_cons, hrest, ← ih hall]
    simp

namespace IsTree

/-- In a tree there is nothing inside of a node that is no element. -/
theorem descendants_eq_nil (hdoc : doc.IsTree) {a : NodeId} (h : doc.isElement a = false) :
    doc.descendants a = [] := by
  refine List.eq_nil_iff_forall_not_mem.2 fun n hn => ?_
  have ha := (hdoc.mem_descendants_iff_mem_ancestors.1 hn).2
  have helement := isElement_of_mem_ancestors hdoc.isElement_parent ha
  simp [h] at helement

/-- In a tree the elements inside of a container are a part of those inside of a container around
it. -/
theorem sublist_descendants (hdoc : doc.IsTree) {outer inner : NodeId}
    (h : doc.contains outer inner = true) :
    (doc.descendants inner).Sublist (doc.descendants outer) := by
  cases helement : doc.isElement inner with
  | false =>
    -- A text can be the narrower container, but nothing is inside of it.
    rw [hdoc.descendants_eq_nil helement]
    exact List.nil_sublist _
  | true =>
    rcases List.mem_cons.1 (hdoc.mem_cons_descendants helement h) with rfl | hmem
    · exact .refl _
    · -- An element stands in front of what is inside of it, in one piece with it.
      exact (List.sublist_cons_self inner _).trans (infix_descendants hmem).sublist

/-- In a tree the elements inside of a container are those inside of a container around it that it
contains apart from itself, in the same order. -/
theorem descendants_eq_filter (hdoc : doc.IsTree) {outer inner : NodeId}
    (h : doc.contains outer inner = true) :
    doc.descendants inner =
      (doc.descendants outer).filter fun n => n != inner && doc.contains inner n := by
  have hpart := eq_filter_of_sublist (hdoc.sublist_descendants h) (hdoc.nodup_descendants outer)
  rw [hpart]
  refine List.filter_congr fun n hn => ?_
  have hinside := hdoc.mem_descendants_iff_contains (a := inner) (n := n)
  rw [Bool.eq_iff_iff, List.contains_iff_mem, hinside]
  simp [isElement_of_mem_descendants hn]

end IsTree

/-- A query whose selector is one, if it has one, is answered. -/
theorem exists_queryAll (testIdAttribute : String) {container : NodeId}
    (hcontainer : container.index < doc.size) {query : Query}
    (hquery : ∀ selector, query = .css selector → ∃ g, Selector.Group.parse selector = .ok g) :
    ∃ found, doc.queryAll testIdAttribute container query = .ok found := by
  by_cases hcss : ∃ selector, query = .css selector
  · obtain ⟨selector, rfl⟩ := hcss
    obtain ⟨g, hg⟩ := hquery selector rfl
    rw [queryAll_css testIdAttribute selector hcontainer, selectAll, hg]
    exact ⟨_, rfl⟩
  · exact ⟨_, queryAll_eq_ok testIdAttribute hcontainer fun selector hselector =>
      hcss ⟨selector, hselector⟩⟩

/-- In a document that is built step by step a narrower container only leaves out: a query finds
inside of it what it finds inside of a container around it, less the narrower one itself and what
this one does not contain, in the same order. No query finds its container, and none finds an
element twice. -/
theorem queryAll_narrow (hdoc : Built doc) {outer inner : NodeId} (hinner : inner.index < doc.size)
    (hcontains : doc.contains outer inner = true) (testIdAttribute : String) {query : Query}
    (hquery : ∀ selector, query = .css selector → ∃ g, Selector.Group.parse selector = .ok g) :
    (∃ found, doc.queryAll testIdAttribute outer query = .ok found ∧
      doc.queryAll testIdAttribute inner query =
        .ok (found.filter fun n => n != inner && doc.contains inner n)) ∧
      ∀ container found, doc.queryAll testIdAttribute container query = .ok found →
        container ∉ found ∧ found.Nodup := by
  have htree := hdoc.isTree
  -- One test decides in all containers.
  obtain ⟨answer, hanswer⟩ := exists_queryAll testIdAttribute hinner hquery
  obtain ⟨p, hp⟩ := exists_queryAll_eq_filter hanswer
  constructor
  · have houter : outer.index < doc.size := by
      rcases List.mem_cons.1 (contains_iff.1 hcontains) with rfl | hmem
      · exact hinner
      · exact Nat.lt_trans (index_lt_of_mem_ancestors hmem) hinner
    refine ⟨_, hp outer houter, ?_⟩
    rw [hp inner hinner, htree.descendants_eq_filter hcontains, List.filter_filter,
      List.filter_filter]
    simp only [Bool.and_comm]
  · intro container found hfound
    obtain rfl : found = (doc.descendants container).filter p :=
      Except.ok.inj (hfound.symm.trans (hp container (lt_size_of_queryAll hfound)))
    exact ⟨fun h => htree.notMem_descendants container (List.mem_of_mem_filter h),
      (htree.nodup_descendants container).filter p⟩

/-- Of the box and the two spans that are found inside of the body, the span in the box is found
inside of the box. -/
theorem queryAll_narrow_boxedSpan :
    Built Config.boxedSpan ∧ (⟨2⟩ : NodeId).index < Config.boxedSpan.size ∧
      Config.boxedSpan.contains body ⟨2⟩ = true ∧
      (∀ selector, Query.css "div, body span" = .css selector →
        ∃ g, Selector.Group.parse selector = .ok g) ∧
      Config.boxedSpan.queryAll "data-testid" body (.css "div, body span") = .ok [⟨1⟩, ⟨2⟩, ⟨3⟩] ∧
      (∃ found, Config.boxedSpan.queryAll "data-testid" body (.css "div, body span") = .ok found ∧
        Config.boxedSpan.queryAll "data-testid" ⟨2⟩ (.css "div, body span") =
          .ok (found.filter fun n => n != ⟨2⟩ && Config.boxedSpan.contains ⟨2⟩ n)) ∧
      ∀ container found,
        Config.boxedSpan.queryAll "data-testid" container (.css "div, body span") = .ok found →
        container ∉ found ∧ found.Nodup := by
  have hbuilt : Built Config.boxedSpan := .ofSnapshot _
  have hsize : (⟨2⟩ : NodeId).index < Config.boxedSpan.size := by decide
  have hcontains : Config.boxedSpan.contains body ⟨2⟩ = true := by decide +kernel
  have hquery : ∀ selector, Query.css "div, body span" = .css selector →
      ∃ g, Selector.Group.parse selector = .ok g := by
    rintro selector ⟨⟩
    have hsome : (Selector.Group.parse "div, body span").toOption.isSome = true := by decide +kernel
    obtain ⟨g, hg⟩ := Option.isSome_iff_exists.1 hsome
    exact ⟨g, eq_ok_of_toOption_eq_some hg⟩
  have hfound : Config.boxedSpan.queryAll "data-testid" body (.css "div, body span") =
      .ok [⟨1⟩, ⟨2⟩, ⟨3⟩] :=
    eq_ok_of_toOption_eq_some (by decide +kernel)
  exact ⟨hbuilt, hsize, hcontains, hquery, hfound,
    queryAll_narrow hbuilt hsize hcontains "data-testid" hquery⟩

end Recorder.Document
