import Mathlib.Data.List.Flatten
import Mathlib.Tactic.Common
import Recorder.Proofs.Document.Descendants

/-!
# Document order

A document is built from the body by new nodes in its elements and by changes of its elements
(`Built`). Every step keeps the nodes a tree: the links agree, and a parent is an element in front
of its children (`IsTree`). In a tree the walk down from a node and the walk up from the others tell
the same: the elements inside of a node are the elements that have it for an ancestor
(`IsTree.mem_descendants_iff_mem_ancestors`). As the elements inside of a child stand in one piece
behind it, and the pieces in the order of the children, they are listed in document order
(`IsTree.inDocumentOrder`). A walk that keeps the nodes yet to be visited on a stack ends with the
same list (`IsTree.visits_descendants`).
-/

namespace Recorder.Document

variable {doc : Document}

/-! ## How documents are built -/

/-- The documents that are built step by step: an empty body or a snapshot comes first, new nodes
are put into elements that are there, and elements are changed, be it in their attributes, their
value, whether they are checked or selected, or their files. -/
inductive Built : Document → Prop where
  /-- The empty body. -/
  | empty : Built .empty
  /-- The document of a snapshot. -/
  | ofSnapshot (body : BodySnapshot) : Built (.ofSnapshot body)
  /-- A new element, which may come with a text inside. -/
  | appendElement {doc grown : Document} {parent id : NodeId} {e : Element} {text : Option String}
      (hdoc : Built doc) (hparent : doc.isElement parent = true)
      (h : doc.appendElement? parent e text = some (id, grown)) : Built grown
  /-- A new text. -/
  | appendText {doc grown : Document} {parent id : NodeId} {text : String} (hdoc : Built doc)
      (hparent : doc.isElement parent = true)
      (h : doc.appendText? parent text = some (id, grown)) : Built grown
  /-- A change of an element. -/
  | update {doc changed : Document} {id : NodeId} {f : Element → Element} (hdoc : Built doc)
      (h : doc.update id f = .ok changed) : Built changed

/-- The nodes of a document are a tree: the links agree, and every parent is an element in front of
its children. -/
structure IsTree (doc : Document) : Prop extends Linked doc where
  /-- Every parent is an element. -/
  isElement_parent : ∀ {c p}, doc.parent? c = some p → doc.isElement p = true
  /-- Parents come before their children. -/
  parent_lt : ∀ {c p}, doc.parent? c = some p → p.index < c.index

/-- A new node has the next number and is put into the parent. -/
theorem eq_push_of_append? {parent id : NodeId} {data : NodeData} {grown : Document}
    (h : doc.append? parent data = some (id, grown)) :
    id = ⟨doc.size⟩ ∧ grown = doc.push parent data := by
  rw [append?] at h
  split at h
  · cases h
    exact ⟨rfl, rfl⟩
  · cases h

/-- A new element is put into the parent, and the text that comes with it into the element. -/
theorem eq_push_of_appendElement? {parent id : NodeId} {e : Element} {text : Option String}
    {grown : Document} (h : doc.appendElement? parent e text = some (id, grown)) :
    grown = text.elim (doc.push parent (.element e.lowered)) fun t =>
      (doc.push parent (.element e.lowered)).push ⟨doc.size⟩ (.text t) := by
  obtain ⟨⟨n, between⟩, hpush, h⟩ := Option.bind_eq_some_iff.1 h
  obtain ⟨rfl, rfl⟩ := eq_push_of_append? hpush
  cases text with
  | none => exact (congrArg Prod.snd (Option.some.inj h)).symm
  | some t => exact (congrArg Prod.snd (Option.some.inj h)).symm

namespace IsTree

/-- A new node in an element keeps the tree. -/
theorem push (hdoc : doc.IsTree) {parent : NodeId} (hparent : doc.isElement parent = true)
    (data : NodeData) : (doc.push parent data).IsTree where
  toLinked := hdoc.toLinked.push (Nat.le_of_lt (lt_size_of_isElement hparent)) data
  isElement_parent := isElement_parent_push hdoc.isElement_parent hparent data
  parent_lt {c p} h := by
    rw [parent?_push] at h
    split at h
    · next hc =>
      obtain rfl := Option.some.inj h
      rw [hc]
      exact lt_size_of_isElement hparent
    · exact hdoc.parent_lt h

/-- A change of an element keeps the tree. -/
theorem update (hdoc : doc.IsTree) {id : NodeId} {f : Element → Element} {changed : Document}
    (h : doc.update id f = .ok changed) : changed.IsTree := by
  have hparent := (links_update h).2
  refine ⟨hdoc.toLinked.update h, fun {c p} hc => ?_, fun {c p} hc => ?_⟩
  · rw [hparent] at hc
    rw [isElement_update h]
    exact hdoc.isElement_parent hc
  · rw [hparent] at hc
    exact hdoc.parent_lt hc

/-- The nodes of a snapshot are a tree. -/
theorem ofSnapshot (body : BodySnapshot) : (Document.ofSnapshot body).IsTree := by
  refine ofSnapshot_induction (p := fun _ => True) body (Snapshot.allOf_of_forall (by simp) _) ?_
    (fun doc parent t hdoc hparent => hdoc.push hparent _)
    (fun doc parent e hdoc hparent _ => hdoc.push hparent _)
  have hparent (c : NodeId) : (Document.ofSnapshot ⟨body.element, []⟩).parent? c = none :=
    parent?_ofSnapshot_nil body.element c
  exact ⟨linked_ofSnapshot _, by simp [hparent], by simp [hparent]⟩

end IsTree

/-- A new element is a step. -/
theorem Built.push_element (hdoc : Built doc) {parent : NodeId}
    (hparent : doc.isElement parent = true) (e : Element) :
    Built (doc.push parent (.element e.lowered)) := by
  have hsize : parent.index ≤ doc.size := Nat.le_of_lt (lt_size_of_isElement hparent)
  have happend : doc.appendElement? parent e none =
      some (⟨doc.size⟩, doc.push parent (.element e.lowered)) := by
    rw [appendElement?, append?, if_pos hsize]
    rfl
  exact hdoc.appendElement hparent happend

/-- A new text is a step. -/
theorem Built.push_text (hdoc : Built doc) {parent : NodeId}
    (hparent : doc.isElement parent = true) (t : String) : Built (doc.push parent (.text t)) := by
  have hsize : parent.index ≤ doc.size := Nat.le_of_lt (lt_size_of_isElement hparent)
  exact hdoc.appendText hparent (if_pos hsize)

/-- The nodes of a document that is built step by step are a tree. -/
theorem Built.isTree (h : Built doc) : doc.IsTree := by
  induction h with
  | empty => exact IsTree.ofSnapshot .empty
  | ofSnapshot body => exact IsTree.ofSnapshot body
  | @appendElement doc _ parent _ e text _ hparent h ih =>
    have htree := ih.push hparent (.element e.lowered)
    rw [eq_push_of_appendElement? h]
    cases text with
    | none => exact htree
    | some t => exact htree.push (isElement_push_size doc parent e.lowered) (.text t)
  | appendText hdoc hparent h ih =>
    obtain ⟨rfl, rfl⟩ := eq_push_of_append? h
    exact ih.push hparent _
  | update hdoc h ih => exact ih.update h

/-! ## Up and down -/

/-- A node contains another one if it is the node itself or one of its ancestors. -/
theorem contains_iff {a n : NodeId} : doc.contains a n = true ↔ a ∈ n :: doc.ancestors n := by
  rw [contains, Bool.or_eq_true, beq_iff_eq, List.contains_iff_mem, List.mem_cons, eq_comm]

/-- A node that contains another one comes with its ancestors at the end of the ancestors of that
one. -/
theorem suffix_of_contains {a n : NodeId} (h : doc.contains a n = true) :
    a :: doc.ancestors a <:+ n :: doc.ancestors n := by
  rcases List.mem_cons.1 (contains_iff.1 h) with rfl | h
  · exact List.suffix_rfl
  · exact (ancestors_suffix h).trans (List.suffix_cons _ _)

/-- What is inside of a node is an element. -/
theorem isElement_of_mem_descendants {a n : NodeId} (h : n ∈ doc.descendants a) :
    doc.isElement n = true := by
  obtain ⟨c, hc, hn⟩ := mem_descendants_iff.1 h
  obtain ⟨-, hlt, helement⟩ := mem_innerChildren.1 hc
  have := lt_size_of_isElement helement
  obtain rfl | hn := hn
  · exact helement
  · exact isElement_of_mem_descendants hn
termination_by doc.size - a.index
decreasing_by omega

/-- The elements inside of an element inside of a node are inside of the node, in one piece behind
the element. -/
theorem infix_descendants {a m : NodeId} (h : m ∈ doc.descendants a) :
    m :: doc.descendants m <:+: doc.descendants a := by
  obtain ⟨before, after, hsplit⟩ := exists_descendants_eq_append h
  exact ⟨before, after, hsplit.symm⟩

namespace IsTree

/-- In a tree the ancestors of a child are its parent and those of its parent. -/
theorem ancestors_eq (hdoc : doc.IsTree) {c p : NodeId} (h : doc.parent? c = some p) :
    doc.ancestors c = p :: doc.ancestors p :=
  ancestors_eq_cons h (hdoc.parent_lt h)

/-- In a tree a node is inside of its parent and of what its parent is inside of. -/
theorem mem_ancestors_iff (hdoc : doc.IsTree) {root n p : NodeId} (h : doc.parent? n = some p) :
    root ∈ doc.ancestors n ↔ root = p ∨ root ∈ doc.ancestors p := by
  rw [hdoc.ancestors_eq h, List.mem_cons]

/-- In a tree what holds of the children of a root, and of a child of each node inside of the root
that it holds of, holds of every node inside of the root. -/
@[elab_as_elim]
theorem inside_induction (hdoc : doc.IsTree) {root : NodeId}
    {motive : (n : NodeId) → root ∈ doc.ancestors n → Prop}
    (child : ∀ {n} (hp : doc.parent? n = some root),
      motive n ((hdoc.mem_ancestors_iff hp).2 (.inl rfl)))
    (inner : ∀ {n p} (hp : doc.parent? n = some p) (h : root ∈ doc.ancestors p), motive p h →
      motive n ((hdoc.mem_ancestors_iff hp).2 (.inr h)))
    {n : NodeId} (h : root ∈ doc.ancestors n) : motive n h := by
  cases hp : doc.parent? n with
  | none =>
    rw [ancestors] at h
    simp [hp] at h
  | some p =>
    have hlt := hdoc.parent_lt hp
    rcases (hdoc.mem_ancestors_iff hp).1 h with rfl | hroot
    · exact child hp
    · exact inner hp hroot (hdoc.inside_induction child inner hroot)
termination_by n.index

/-- In a tree all children of a node that are elements are found. -/
theorem mem_innerChildren_iff (hdoc : doc.IsTree) {p c : NodeId} :
    c ∈ doc.innerChildren p ↔ doc.parent? c = some p ∧ doc.isElement c = true := by
  rw [mem_innerChildren, hdoc.mem_children p c]
  constructor
  · rintro ⟨hc, -, helement⟩
    exact ⟨hc, helement⟩
  · rintro ⟨hc, helement⟩
    exact ⟨hc, hdoc.parent_lt hc, helement⟩

/-- In a tree the elements inside of a node are the elements that have it for an ancestor. -/
theorem mem_descendants_iff_mem_ancestors (hdoc : doc.IsTree) {a n : NodeId} :
    n ∈ doc.descendants a ↔ doc.isElement n = true ∧ a ∈ doc.ancestors n := by
  refine ⟨fun h => ⟨isElement_of_mem_descendants h, hdoc.mem_ancestors_of_mem_descendants h⟩, ?_⟩
  have hchild {n p : NodeId} (hp : doc.parent? n = some p) (hn : doc.isElement n = true) :
      n ∈ doc.descendants p :=
    mem_descendants_iff.2 ⟨n, hdoc.mem_innerChildren_iff.2 ⟨hp, hn⟩, .inl rfl⟩
  rintro ⟨helement, ha⟩
  induction ha using hdoc.inside_induction with
  | child hp => exact hchild hp helement
  | inner hp _ ih =>
    have hinside := ih (hdoc.isElement_parent hp)
    exact (infix_descendants hinside).subset (List.mem_cons_of_mem _ (hchild hp helement))

/-- In a tree the elements inside of a node are those that it contains apart from itself. -/
theorem mem_descendants_iff_contains (hdoc : doc.IsTree) {a n : NodeId} :
    n ∈ doc.descendants a ↔ doc.isElement n = true ∧ n ≠ a ∧ doc.contains a n = true := by
  rw [hdoc.mem_descendants_iff_mem_ancestors, contains_iff, List.mem_cons]
  exact and_congr_right fun _ => ⟨fun ha => ⟨ne_of_mem_ancestors ha, .inr ha⟩,
    fun ⟨hne, ha⟩ => ha.resolve_left (Ne.symm hne)⟩

/-- In a tree an element that a node contains is the node itself or inside of it. -/
theorem mem_cons_descendants (hdoc : doc.IsTree) {c n : NodeId} (hn : doc.isElement n = true)
    (h : doc.contains c n = true) : n ∈ c :: doc.descendants c := by
  rcases List.mem_cons.1 (contains_iff.1 h) with rfl | h
  · exact List.mem_cons_self
  · exact List.mem_cons_of_mem c (hdoc.mem_descendants_iff_mem_ancestors.2 ⟨hn, h⟩)

/-- In a tree a node that contains an element is one. -/
theorem isElement_of_contains (hdoc : doc.IsTree) {c n : NodeId} (hn : doc.isElement n = true)
    (h : doc.contains c n = true) : doc.isElement c = true := by
  rcases List.mem_cons.1 (contains_iff.1 h) with rfl | h
  · exact hn
  · exact isElement_of_mem_ancestors hdoc.isElement_parent h

end IsTree

/-! ## The order of the elements inside of a node -/

/-- Of two nodes that contain a third one, one contains the other. -/
theorem contains_or_contains {a b n : NodeId} (ha : doc.contains a n = true)
    (hb : doc.contains b n = true) : doc.contains a b = true ∨ doc.contains b a = true := by
  rw [contains_iff, contains_iff]
  rcases List.suffix_or_suffix_of_suffix (suffix_of_contains ha) (suffix_of_contains hb) with h | h
  · exact .inl (h.subset List.mem_cons_self)
  · exact .inr (h.subset List.mem_cons_self)

/-- The nodes of a list stand in document order: those around a node come before it, and nodes in
different children of a node come in the order of the children. -/
structure InDocumentOrder (doc : Document) (nodes : List NodeId) : Prop where
  /-- The nodes around a node come before it. -/
  ancestor : ∀ {m n}, m ∈ nodes → n ∈ nodes → m ∈ doc.ancestors n → [m, n].Sublist nodes
  /-- What is in one child comes before what is in a later one. -/
  children : ∀ {p c d m n}, [c, d].Sublist (doc.children p) → m ∈ nodes → n ∈ nodes →
    doc.contains c m = true → doc.contains d n = true → [m, n].Sublist nodes

namespace IsTree

/-- In a tree the child of a node around a container that contains an element inside of the
container contains the container. -/
theorem contains_of_child (hdoc : doc.IsTree) {a p c n : NodeId} (hp : p ∈ doc.ancestors a)
    (hc : doc.parent? c = some p) (hcn : doc.contains c n = true)
    (han : doc.contains a n = true) : doc.contains c a = true := by
  have hchild := suffix_of_contains hcn
  have hcontainer := suffix_of_contains han
  -- Of the two ends of the ancestors, that of the child is not the longer one.
  have hlength : (c :: doc.ancestors c).length ≤ (a :: doc.ancestors a).length := by
    have hparent := (ancestors_suffix hp).length_le
    rw [hdoc.ancestors_eq hc]
    simpa using hparent
  have hsuffix := List.suffix_of_suffix_length_le hchild hcontainer hlength
  exact contains_iff.2 (hsuffix.subset List.mem_cons_self)

/-- In a tree no two children of a node contain one node. -/
theorem eq_of_contains (hdoc : doc.IsTree) {p c d n : NodeId} (hc : doc.parent? c = some p)
    (hd : doc.parent? d = some p) (hcn : doc.contains c n = true)
    (hdn : doc.contains d n = true) : c = d := by
  have hlength : (c :: doc.ancestors c).length = (d :: doc.ancestors d).length := by
    rw [hdoc.ancestors_eq hc, hdoc.ancestors_eq hd]
    rfl
  have hsuffix := List.suffix_of_suffix_length_le (suffix_of_contains hcn) (suffix_of_contains hdn)
    (Nat.le_of_eq hlength)
  exact (List.cons.inj (hsuffix.eq_of_length hlength)).1

/-- In a tree what is in one child of a node comes before what is in a later one, among the elements
inside of the node. -/
theorem sublist_of_children (hdoc : doc.IsTree) {p c d m n : NodeId}
    (hcd : [c, d].Sublist (doc.children p)) (hm : doc.isElement m = true)
    (hn : doc.isElement n = true) (hcm : doc.contains c m = true)
    (hdn : doc.contains d n = true) : [m, n].Sublist (doc.descendants p) := by
  have hinner {b x : NodeId} (hb : b ∈ [c, d]) (hx : doc.isElement x = true)
      (hbx : doc.contains b x = true) : p.index < b.index ∧ doc.isElement b = true :=
    ⟨hdoc.parent_lt ((hdoc.mem_children p b).1 (hcd.subset hb)), hdoc.isElement_of_contains hx hbx⟩
  have hc := hinner (by simp) hm hcm
  have hd := hinner (by simp) hn hdn
  have hboth : [c, d].Sublist (doc.innerChildren p) := by
    have hfilter := hcd.filter fun b => p.index < b.index && doc.isElement b
    simpa [hc, hd, innerChildren] using hfilter
  -- Each of the two is in the piece of its child, and the pieces come in the order of the children.
  have hpieces := hboth.flatMap fun b => b :: doc.descendants b
  rw [← descendants_eq_flatMap] at hpieces
  have hfirst : [m].Sublist (c :: doc.descendants c) :=
    List.singleton_sublist.2 (hdoc.mem_cons_descendants hm hcm)
  have hsecond : [n].Sublist (d :: doc.descendants d) :=
    List.singleton_sublist.2 (hdoc.mem_cons_descendants hn hdn)
  refine .trans ?_ hpieces
  simpa using hfirst.append hsecond

/-- In a tree the elements inside of a node are listed in document order. -/
theorem inDocumentOrder (hdoc : doc.IsTree) (a : NodeId) :
    doc.InDocumentOrder (doc.descendants a) where
  ancestor {m n} hm hn hmn := by
    have hinside : n ∈ doc.descendants m :=
      hdoc.mem_descendants_iff_mem_ancestors.2 ⟨isElement_of_mem_descendants hn, hmn⟩
    have hpiece : [m, n].Sublist (m :: doc.descendants m) :=
      (List.singleton_sublist.2 hinside).cons_cons m
    exact hpiece.trans (infix_descendants hm).sublist
  children {p c d m n} hcd hm hn hcm hdn := by
    have hc : doc.parent? c = some p := (hdoc.mem_children p c).1 (hcd.subset (by simp))
    have hd : doc.parent? d = some p := (hdoc.mem_children p d).1 (hcd.subset (by simp))
    have hne : c ≠ d := by
      have hnodup := (hdoc.nodup_children p).sublist hcd
      simpa using hnodup
    have ham : doc.contains a m = true := (hdoc.mem_descendants_iff_contains.1 hm).2.2
    have han : doc.contains a n = true := (hdoc.mem_descendants_iff_contains.1 hn).2.2
    have hpm : doc.contains p m = true := by
      have hp : p ∈ c :: doc.ancestors c := by simp [hdoc.ancestors_eq hc]
      exact contains_iff.2 ((suffix_of_contains hcm).subset hp)
    have hpiece : [m, n].Sublist (doc.descendants p) :=
      hdoc.sublist_of_children hcd (isElement_of_mem_descendants hm)
        (isElement_of_mem_descendants hn) hcm hdn
    -- The parent is not around `a`, since only one of its children can be.
    have houtside : p ∉ doc.ancestors a := fun hp =>
      hne (hdoc.eq_of_contains hc hd (hdoc.contains_of_child hp hc hcm ham)
        (hdoc.contains_of_child hp hd hdn han))
    have hap : doc.contains a p = true := by
      rcases contains_or_contains ham hpm with h | h
      · exact h
      · have heq := (List.mem_cons.1 (contains_iff.1 h)).resolve_right houtside
        exact contains_iff.2 (by simp [heq])
    rcases List.mem_cons.1 (hdoc.mem_cons_descendants (hdoc.isElement_parent hc) hap) with h | h
    · exact h ▸ hpiece
    · exact hpiece.trans ((List.sublist_cons_self p _).trans (infix_descendants h).sublist)

end IsTree

/-! ## Walking with a stack -/

/-- A walk that keeps the nodes yet to be visited on a stack, the next one first: it takes each node
away, and of an element it notes the node and puts its children in front. -/
inductive Visits (doc : Document) : List NodeId → List NodeId → Prop where
  /-- The walk ends where nothing is left. -/
  | done : Visits doc [] []
  /-- An element is noted, and its children are visited next. -/
  | element {n : NodeId} {stack found : List NodeId} (hn : doc.isElement n = true)
      (h : Visits doc (doc.children n ++ stack) found) : Visits doc (n :: stack) (n :: found)
  /-- A text is passed over. -/
  | text {n : NodeId} {stack found : List NodeId} (hn : doc.isElement n = false)
      (h : Visits doc stack found) : Visits doc (n :: stack) found

namespace IsTree

/-- In a tree the children on top of a stack are walked through before what is below them. -/
theorem visits_append (hdoc : doc.IsTree) (a : NodeId) {stack found : List NodeId}
    (h : doc.Visits stack found) :
    doc.Visits (doc.children a ++ stack) (doc.descendants a ++ found) := by
  rw [descendants_eq_flatMap, innerChildren]
  have hchildren : ∀ c ∈ doc.children a, a.index < c.index := fun c hc =>
    hdoc.parent_lt ((hdoc.mem_children a c).1 hc)
  -- The walk goes through the children one by one, and through each of them by induction downwards.
  generalize doc.children a = children at hchildren ⊢
  induction children with
  | nil => exact h
  | cons c cs ih =>
    obtain ⟨hc, hcs⟩ := List.forall_mem_cons.1 hchildren
    have hrest := ih hcs
    cases helement : doc.isElement c with
    | true =>
      have := lt_size_of_isElement helement
      have hinside := hdoc.visits_append c hrest
      simp only [List.filter_cons, helement, hc, decide_true, Bool.and_self, if_true,
        List.flatMap_cons, List.cons_append, List.append_assoc]
      exact .element helement hinside
    | false =>
      simp only [List.filter_cons, helement, Bool.and_false, Bool.false_eq_true, if_false]
      exact .text helement hrest
termination_by doc.size - a.index
decreasing_by omega

/-- In a tree a walk from the children of a node ends with the elements inside of it. -/
theorem visits_descendants (hdoc : doc.IsTree) (a : NodeId) :
    doc.Visits (doc.children a) (doc.descendants a) := by
  simpa using hdoc.visits_append a .done

end IsTree

/-! ## Documents that are built step by step -/

/-- In a document that is built step by step the elements inside of a node are listed once each:
they are those that the node contains apart from itself, they stand in document order, and a walk
with a stack from the children of the node ends with them. -/
theorem descendants_in_order (h : Built doc) (a : NodeId) :
    (doc.descendants a).Nodup ∧
      (∀ n, n ∈ doc.descendants a ↔
        doc.isElement n = true ∧ n ≠ a ∧ doc.contains a n = true) ∧
      doc.InDocumentOrder (doc.descendants a) ∧
      doc.Visits (doc.children a) (doc.descendants a) :=
  have hdoc := h.isTree
  ⟨hdoc.nodup_descendants a, fun _ => hdoc.mem_descendants_iff_contains, hdoc.inDocumentOrder a,
    hdoc.visits_descendants a⟩

/-- A page with a box and a paragraph with a text, in which a span is put into the box last. -/
def lateSpan : Document :=
  let box := Document.empty.push body (.element (Element.lowered { tag := "div" }))
  let paragraph := box.push body (.element (Element.lowered { tag := "p" }))
  let text := paragraph.push ⟨2⟩ (.text "text")
  text.push ⟨1⟩ (.element (Element.lowered { tag := "span" }))

/-- The span has the last number, and is listed behind its box and in front of the paragraph. -/
theorem descendants_in_order_lateSpan :
    Built lateSpan ∧ lateSpan.descendants body = [⟨1⟩, ⟨4⟩, ⟨2⟩] ∧
      (lateSpan.descendants body).Nodup ∧
      (∀ n, n ∈ lateSpan.descendants body ↔
        lateSpan.isElement n = true ∧ n ≠ body ∧ lateSpan.contains body n = true) ∧
      lateSpan.InDocumentOrder (lateSpan.descendants body) ∧
      lateSpan.Visits (lateSpan.children body) (lateSpan.descendants body) := by
  have hbody : Document.empty.isElement body = true := by decide +kernel
  have hbox := Built.empty.push_element hbody { tag := "div" }
  have hparagraph := hbox.push_element (isElement_push body _ hbody) { tag := "p" }
  have htext := hparagraph.push_text (isElement_push_size _ body _) "text"
  have hspan : Built lateSpan := htext.push_element (by decide +kernel) { tag := "span" }
  exact ⟨hspan, by decide +kernel, descendants_in_order hspan body⟩

end Recorder.Document
