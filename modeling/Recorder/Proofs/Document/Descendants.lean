import Mathlib.Data.List.Nodup
import Mathlib.Tactic.Common
import Recorder.Proofs.Document.Links

/-!
# The elements inside of a node

The elements inside of a node stand in one piece among the elements inside of any node around it
(`exists_descendants_eq_append`). Where the links agree, a node is an ancestor of the elements
inside of it, its children share none of them, and so no element stands there twice
(`Linked.nodup_descendants`).
-/

namespace Recorder.Document

variable {doc : Document}

/-- The children that the elements inside of a node are found at. -/
def innerChildren (doc : Document) (id : NodeId) : List NodeId :=
  (doc.children id).filter fun c => id.index < c.index && doc.isElement c

/-- The elements inside of a node are its children that are elements, each in front of the elements
inside of it. -/
theorem descendants_eq_flatMap (doc : Document) (id : NodeId) :
    doc.descendants id = (doc.innerChildren id).flatMap fun c => c :: doc.descendants c := by
  rw [descendants, descendantsThen, innerChildren]
  induction doc.children id with
  | nil => rfl
  | cons c cs ih =>
    rw [List.foldr_cons, ih, List.filter_cons]
    by_cases hc : doc.isElement c = true
    · have hlt := lt_size_of_isElement hc
      by_cases hi : id.index < c.index
      · simp [hi, hlt, hc, descendantsThen_eq_append doc c]
      · simp [hi]
    · simp [hc]

/-- The children that the elements inside of a node are found at come behind it. -/
theorem mem_innerChildren {id c : NodeId} :
    c ∈ doc.innerChildren id ↔
      c ∈ doc.children id ∧ id.index < c.index ∧ doc.isElement c = true := by
  simp [innerChildren]

/-- What is inside of a node is inside of one of its children or one of them. -/
theorem mem_descendants_iff {id n : NodeId} :
    n ∈ doc.descendants id ↔ ∃ c ∈ doc.innerChildren id, n = c ∨ n ∈ doc.descendants c := by
  rw [descendants_eq_flatMap]
  simp

/-- The elements inside of an element stand in one piece behind it, among the elements inside of any
node around it. -/
theorem exists_descendants_eq_append {id n : NodeId} (h : n ∈ doc.descendants id) :
    ∃ before after, doc.descendants id = before ++ n :: doc.descendants n ++ after := by
  -- The piece lies in that of one child, and what comes first and last is that of the others.
  obtain ⟨c, hc, hn⟩ := mem_descendants_iff.1 h
  obtain ⟨left, right, hsplit⟩ := List.append_of_mem hc
  have hpiece : ∃ before after,
      c :: doc.descendants c = before ++ n :: doc.descendants n ++ after := by
    obtain ⟨-, hlt, helement⟩ := mem_innerChildren.1 hc
    have := lt_size_of_isElement helement
    obtain rfl | hn := hn
    · exact ⟨[], [], by simp⟩
    · obtain ⟨before, after, heq⟩ := exists_descendants_eq_append hn
      exact ⟨c :: before, after, by simp [heq]⟩
  obtain ⟨before, after, hpiece⟩ := hpiece
  refine ⟨left.flatMap (fun c => c :: doc.descendants c) ++ before,
    after ++ right.flatMap fun c => c :: doc.descendants c, ?_⟩
  rw [descendants_eq_flatMap doc id, hsplit, List.flatMap_append, List.flatMap_cons, hpiece]
  simp
termination_by doc.size - id.index
decreasing_by omega

/-! ## Ancestors -/

/-- Ancestors have smaller numbers. -/
theorem index_lt_of_mem_ancestors {a n : NodeId} (h : a ∈ doc.ancestors n) : a.index < n.index := by
  rw [ancestors] at h
  split at h
  · split at h
    · next p _ hlt =>
      obtain rfl | h := List.mem_cons.1 h
      · exact hlt
      · exact Nat.lt_trans (index_lt_of_mem_ancestors h) hlt
    · simp at h
  · simp at h
termination_by n.index

/-- No node is an ancestor of itself. -/
theorem ne_of_mem_ancestors {a n : NodeId} (h : a ∈ doc.ancestors n) : n ≠ a := by
  rintro rfl
  exact Nat.lt_irrefl _ (index_lt_of_mem_ancestors h)

/-- The ancestors of a node are its parent and those of its parent. -/
theorem ancestors_eq_cons {c p : NodeId} (h : doc.parent? c = some p) (hlt : p.index < c.index) :
    doc.ancestors c = p :: doc.ancestors p := by
  rw [ancestors]
  simp only [h, if_pos hlt]

/-- The ancestors of an ancestor are the last ones. -/
theorem ancestors_suffix {a n : NodeId} (h : a ∈ doc.ancestors n) :
    a :: doc.ancestors a <:+ doc.ancestors n := by
  rw [ancestors] at h
  split at h
  · next p hp =>
    split at h
    · next hlt =>
      rw [ancestors_eq_cons hp hlt]
      obtain rfl | h := List.mem_cons.1 h
      · exact List.suffix_rfl
      · exact (ancestors_suffix h).trans (List.suffix_cons _ _)
    · simp at h
  · simp at h
termination_by n.index

/-- If every parent is an element, all ancestors are. -/
theorem isElement_of_mem_ancestors
    (hdoc : ∀ {c p}, doc.parent? c = some p → doc.isElement p = true) {a n : NodeId}
    (h : a ∈ doc.ancestors n) : doc.isElement a = true := by
  rw [ancestors] at h
  split at h
  · next p hp =>
    split at h
    · obtain rfl | h := List.mem_cons.1 h
      · exact hdoc hp
      · exact isElement_of_mem_ancestors hdoc h
    · simp at h
  · simp at h
termination_by n.index

namespace Linked

/-- The ancestors of a child that elements are found at. -/
theorem ancestors_of_mem_innerChildren (hdoc : doc.Linked) {id c : NodeId}
    (hc : c ∈ doc.innerChildren id) : doc.ancestors c = id :: doc.ancestors id :=
  have ⟨hchild, hlt, _⟩ := mem_innerChildren.1 hc
  ancestors_eq_cons ((hdoc.mem_children id c).1 hchild) hlt

/-- A node is an ancestor of the elements inside of it. -/
theorem mem_ancestors_of_mem_descendants (hdoc : doc.Linked) {id n : NodeId}
    (h : n ∈ doc.descendants id) : id ∈ doc.ancestors n := by
  obtain ⟨c, hc, hn⟩ := mem_descendants_iff.1 h
  have hid : id ∈ doc.ancestors c := by simp [hdoc.ancestors_of_mem_innerChildren hc]
  obtain ⟨-, hlt, helement⟩ := mem_innerChildren.1 hc
  have := lt_size_of_isElement helement
  obtain rfl | hn := hn
  · exact hid
  · have hsuffix := ancestors_suffix (hdoc.mem_ancestors_of_mem_descendants hn)
    exact hsuffix.subset (List.mem_cons_of_mem c hid)
termination_by doc.size - id.index
decreasing_by omega

/-- No element is inside of itself. -/
theorem notMem_descendants (hdoc : doc.Linked) (id : NodeId) : id ∉ doc.descendants id := fun h =>
  ne_of_mem_ancestors (hdoc.mem_ancestors_of_mem_descendants h) rfl

/-- An element lies in one child of a node only. -/
theorem innerChildren_disjoint (hdoc : doc.Linked) {id c d n : NodeId}
    (hc : c ∈ doc.innerChildren id) (hd : d ∈ doc.innerChildren id)
    (hnc : n ∈ c :: doc.descendants c) (hnd : n ∈ d :: doc.descendants d) : c = d := by
  have hsuffix {e : NodeId} (he : e ∈ doc.innerChildren id) (hne : n ∈ e :: doc.descendants e) :
      e :: id :: doc.ancestors id <:+ n :: doc.ancestors n := by
    rw [← hdoc.ancestors_of_mem_innerChildren he]
    obtain rfl | hne := List.mem_cons.1 hne
    · exact List.suffix_rfl
    · exact (ancestors_suffix (hdoc.mem_ancestors_of_mem_descendants hne)).trans
        (List.suffix_cons _ _)
  -- Both suffixes have one length.
  have heq := List.suffix_of_suffix_length_le (hsuffix hc hnc) (hsuffix hd hnd) (by simp)
  exact (List.cons.inj (heq.eq_of_length (by simp))).1

/-- No element stands twice among those inside of a node. -/
theorem nodup_descendants (hdoc : doc.Linked) (id : NodeId) : (doc.descendants id).Nodup := by
  rw [descendants_eq_flatMap, List.nodup_flatMap]
  constructor
  · intro c hc
    have ⟨_, hlt, helement⟩ := mem_innerChildren.1 hc
    have := lt_size_of_isElement helement
    exact List.nodup_cons.2 ⟨hdoc.notMem_descendants c, hdoc.nodup_descendants c⟩
  · have hnodup : (doc.innerChildren id).Nodup := (hdoc.nodup_children id).filter _
    refine hnodup.pairwise_of_forall_ne fun c hc d hd hne => ?_
    exact fun n hnc hnd => hne (hdoc.innerChildren_disjoint hc hd hnc hnd)
termination_by doc.size - id.index
decreasing_by omega

/-- An element inside of a node has no place among the elements in front of that node, nor among
those behind all elements inside of it. -/
theorem exists_elements_eq_append (hdoc : doc.Linked) {container : NodeId}
    (h : container ∈ doc.elements) :
    ∃ before after, doc.descendants body = before ++ doc.descendants container ++ after ∧
      ∀ n ∈ doc.descendants container, n ∉ before ∧ n ∉ after := by
  have hnodup := hdoc.nodup_descendants body
  obtain rfl | h := List.mem_cons.1 h
  · exact ⟨[], [], by simp, by simp⟩
  · obtain ⟨before, after, heq⟩ := exists_descendants_eq_append h
    refine ⟨before ++ [container], after, by simp [heq], fun n hn => ?_⟩
    rw [heq] at hnodup
    have := hdoc.notMem_descendants container
    simp only [List.append_assoc, List.cons_append, List.nodup_append, List.nodup_cons] at hnodup
    grind

end Linked

end Recorder.Document
