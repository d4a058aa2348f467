import Mathlib.Data.List.Nodup
import Mathlib.Tactic.Common
import Recorder.Document.Snapshot

/-!
# The links of a document

What a new node changes of a document is said once, for the nodes (`node?_push`), and read off for
parents, children and elements. In a document the links agree (`Linked`): the children of a node are
the nodes that have it for a parent. New nodes and changed elements keep them so, and what every new
node keeps holds of the document of a snapshot (`ofSnapshot_induction`).
-/

namespace Recorder

/-- The element that a node is, if it is one. -/
def NodeData.element? : NodeData → Option Element
  | .element e => some e
  | .text _ => none

mutual

/-- All elements of a snapshot satisfy a predicate. -/
def Snapshot.All (p : Element → Prop) : Snapshot → Prop
  | .text _ => True
  | .element e children => p e ∧ Snapshot.AllOf p children

/-- All elements of snapshots satisfy a predicate. -/
def Snapshot.AllOf (p : Element → Prop) : List Snapshot → Prop
  | [] => True
  | s :: rest => s.All p ∧ Snapshot.AllOf p rest

end

mutual

/-- Whether all elements of a snapshot satisfy a predicate can be decided. -/
def Snapshot.decideAll (p : Element → Prop) [DecidablePred p] : (s : Snapshot) → Decidable (s.All p)
  | .text _ => isTrue trivial
  | .element e children =>
    have := Snapshot.decideAllOf p children
    inferInstanceAs (Decidable (p e ∧ Snapshot.AllOf p children))

/-- Whether all elements of snapshots satisfy a predicate can be decided. -/
def Snapshot.decideAllOf (p : Element → Prop) [DecidablePred p] :
    (snapshots : List Snapshot) → Decidable (Snapshot.AllOf p snapshots)
  | [] => isTrue trivial
  | s :: rest =>
    have := s.decideAll p
    have := Snapshot.decideAllOf p rest
    inferInstanceAs (Decidable (s.All p ∧ Snapshot.AllOf p rest))

end

instance (p : Element → Prop) [DecidablePred p] : DecidablePred (Snapshot.AllOf p) :=
  Snapshot.decideAllOf p

mutual

/-- What holds of every element holds of those of a snapshot. -/
theorem Snapshot.all_of_forall {p : Element → Prop} (h : ∀ e, p e) (s : Snapshot) : s.All p := by
  match s with
  | .text _ => trivial
  | .element e children => exact ⟨h e, Snapshot.allOf_of_forall h children⟩

/-- What holds of every element holds of those of snapshots. -/
theorem Snapshot.allOf_of_forall {p : Element → Prop} (h : ∀ e, p e) (snapshots : List Snapshot) :
    Snapshot.AllOf p snapshots := by
  match snapshots with
  | [] => trivial
  | s :: rest => exact ⟨s.all_of_forall h, Snapshot.allOf_of_forall h rest⟩

end

namespace Document

variable {doc : Document}

/-! ## A new node -/

/-- A node has a number of the document. -/
theorem lt_size_of_node? {id : NodeId} {n : Node} (h : doc.node? id = some n) :
    id.index < doc.size :=
  (Array.getElem?_eq_some_iff.1 h).1

/-- The element of a node. -/
theorem element?_eq (doc : Document) (id : NodeId) :
    doc.element? id = (doc.node? id).bind (·.data.element?) := by
  unfold element?
  split
  · next h => rw [h]; rfl
  · next h =>
    cases hn : doc.node? id with
    | none => rfl
    | some n =>
      obtain ⟨p, cs, data⟩ := n
      cases data with
      | element e => exact absurd hn (h p cs e)
      | text t => rfl

/-- A new node makes one more. -/
theorem size_push (doc : Document) (parent : NodeId) (data : NodeData) :
    (doc.push parent data).size = doc.size + 1 := by
  simp [push, size]

/-- Numbers behind those of the nodes are free. -/
theorem node?_eq_none {id : NodeId} (h : doc.size ≤ id.index) : doc.node? id = none :=
  Array.getElem?_eq_none h

/-- A new node takes the next number; its parent, which may be the node itself, gets one more
child. -/
theorem node?_push (doc : Document) (parent : NodeId) (data : NodeData) (id : NodeId) :
    (doc.push parent data).node? id =
      (if id.index = doc.size then some ⟨some parent, [], data⟩ else doc.node? id).map fun n =>
        if id = parent then { n with children := n.children ++ [⟨doc.size⟩] } else n := by
  have hid : parent.index = id.index ↔ id = parent := by
    obtain ⟨i⟩ := id
    obtain ⟨j⟩ := parent
    simp [eq_comm]
  simp only [push, node?, Array.getElem?_modify, Array.getElem?_push, Array.size_push,
    Nat.add_sub_cancel, hid, size]
  by_cases hparent : id = parent
  · simp [hparent]
  · simp only [hparent, if_false, Option.map_id']
    rfl

/-- Nothing but its children changes of a node that gets a new one. -/
theorem bind_node?_push {β : Type} {f : Node → Option β}
    (hf : ∀ (n : Node) cs, f { n with children := cs } = f n) (doc : Document) (parent : NodeId)
    (data : NodeData) (id : NodeId) :
    ((doc.push parent data).node? id).bind f =
      if id.index = doc.size then f ⟨some parent, [], data⟩ else (doc.node? id).bind f := by
  have hkeep : (f ∘ fun n : Node =>
      if id = parent then { n with children := n.children ++ [⟨doc.size⟩] } else n) = f := by
    funext n
    simp only [Function.comp_apply]
    split
    · exact hf n _
    · rfl
  rw [node?_push, Option.bind_map, hkeep]
  split <;> rfl

/-- The parent of a new node is the one it is added to, the others keep theirs. -/
theorem parent?_push (doc : Document) (parent : NodeId) (data : NodeData) (id : NodeId) :
    (doc.push parent data).parent? id =
      if id.index = doc.size then some parent else doc.parent? id :=
  bind_node?_push (fun _ _ => rfl) doc parent data id

/-- A new node is what is added, the others stay what they are. -/
theorem element?_push (doc : Document) (parent : NodeId) (data : NodeData) (id : NodeId) :
    (doc.push parent data).element? id =
      if id.index = doc.size then data.element? else doc.element? id := by
  rw [element?_eq, element?_eq]
  exact bind_node?_push (fun _ _ => rfl) doc parent data id

/-- A new node comes behind the other children of its parent; it has no children but itself. -/
theorem children_push {parent : NodeId} (h : parent.index ≤ doc.size) (data : NodeData)
    (id : NodeId) :
    (doc.push parent data).children id =
      doc.children id ++ if id = parent then [⟨doc.size⟩] else [] := by
  rw [children, node?_push, children]
  cases hnode : doc.node? id with
  | some n =>
    have hne : id.index ≠ doc.size := Nat.ne_of_lt (lt_size_of_node? hnode)
    simp only [if_neg hne, Option.map_some, Option.getD_some]
    split <;> simp
  | none =>
    have hsize : doc.size ≤ id.index := Array.getElem?_eq_none_iff.1 hnode
    by_cases hnew : id.index = doc.size
    · simp only [if_pos hnew, Option.map_some, Option.map_none, Option.getD_some, Option.getD_none]
      split <;> rfl
    · -- The parent is a node of the document, or the new one itself.
      have hne : id ≠ parent := fun heq => hnew (Nat.le_antisymm (heq ▸ h) hsize)
      simp [hnew, hne]

/-- An element has a number of the document. -/
theorem lt_size_of_isElement {id : NodeId} (h : doc.isElement id = true) : id.index < doc.size := by
  rw [isElement, element?_eq] at h
  obtain ⟨e, he⟩ := Option.isSome_iff_exists.1 h
  obtain ⟨n, hn, -⟩ := Option.bind_eq_some_iff.1 he
  exact lt_size_of_node? hn

/-- A node with a parent has a number of the document. -/
theorem lt_size_of_parent? {id p : NodeId} (h : doc.parent? id = some p) : id.index < doc.size := by
  obtain ⟨n, hn, -⟩ := Option.bind_eq_some_iff.1 h
  exact lt_size_of_node? hn

/-- Elements stay elements. -/
theorem isElement_push (parent : NodeId) (data : NodeData) {id : NodeId}
    (hid : doc.isElement id = true) : (doc.push parent data).isElement id = true := by
  rw [isElement, element?_push, if_neg (Nat.ne_of_lt (lt_size_of_isElement hid))]
  exact hid

/-- If every parent is an element, a new node in an element keeps it so. -/
theorem isElement_parent_push (hdoc : ∀ {c p}, doc.parent? c = some p → doc.isElement p = true)
    {parent : NodeId} (hparent : doc.isElement parent = true) (data : NodeData) {c p : NodeId}
    (h : (doc.push parent data).parent? c = some p) :
    (doc.push parent data).isElement p = true := by
  rw [parent?_push] at h
  split at h
  · obtain rfl := Option.some.inj h
    exact isElement_push _ data hparent
  · exact isElement_push _ data (hdoc h)

/-- A new element is one. -/
theorem isElement_push_size (doc : Document) (parent : NodeId) (e : Element) :
    (doc.push parent (.element e)).isElement ⟨doc.size⟩ = true := by
  rw [isElement, element?_push, if_pos rfl]
  rfl

/-- Where an element is changed, all of its node but the element stays, and so do the other nodes. -/
theorem node?_update {id : NodeId} {f : Element → Element} {changed : Document}
    (h : doc.update id f = .ok changed) :
    ∃ e, doc.element? id = some e ∧ ∀ n, changed.node? n = (doc.node? n).map fun m =>
      if id.index = n.index then { m with data := .element (f e) } else m := by
  rw [update] at h
  split at h
  · next e he =>
    obtain rfl := Except.ok.inj h
    refine ⟨e, he, fun n => ?_⟩
    rw [node?, Array.getElem?_modify, node?]
    split <;> simp
  · cases h

/-- The parents and the children stay what they are where an element is changed. -/
theorem links_update {id : NodeId} {f : Element → Element} {changed : Document}
    (h : doc.update id f = .ok changed) :
    changed.children = doc.children ∧ changed.parent? = doc.parent? := by
  obtain ⟨e, -, hnode⟩ := node?_update h
  constructor <;> funext n
  · rw [children, hnode, children]
    cases doc.node? n with
    | none => rfl
    | some m => simp only [Option.map_some, Option.getD_some]; split <;> rfl
  · rw [parent?, hnode, parent?]
    cases doc.node? n with
    | none => rfl
    | some m => simp only [Option.map_some, Option.bind_some]; split <;> rfl

/-- A change of an element makes no nodes. -/
theorem size_update {id : NodeId} {f : Element → Element} {changed : Document}
    (h : doc.update id f = .ok changed) : changed.size = doc.size := by
  rw [update] at h
  split at h
  · obtain rfl := Except.ok.inj h
    exact Array.size_modify
  · cases h

/-- Of the elements only the one is changed. -/
theorem element?_update {id : NodeId} {f : Element → Element} {changed : Document}
    (h : doc.update id f = .ok changed) (n : NodeId) :
    changed.element? n = if n = id then (doc.element? n).map f else doc.element? n := by
  obtain ⟨e, he, hnode⟩ := node?_update h
  by_cases hid : n = id
  · obtain ⟨m, hm, hdata⟩ := Option.bind_eq_some_iff.1 ((element?_eq doc id).symm.trans he)
    rw [hid, if_pos rfl, he, element?_eq, hnode, hm]
    simp [NodeData.element?]
  · have hindex : id.index ≠ n.index := fun heq => hid (congrArg NodeId.mk heq.symm)
    rw [if_neg hid, element?_eq, element?_eq, hnode]
    simp [hindex]

/-- The elements stay elements where one of them is changed, and no text becomes one. -/
theorem isElement_update {id : NodeId} {f : Element → Element} {changed : Document}
    (h : doc.update id f = .ok changed) (n : NodeId) : changed.isElement n = doc.isElement n := by
  rw [isElement, isElement, element?_update h]
  split
  · rw [Option.isSome_map]
  · rfl

/-! ## Links that agree -/

/-- The links of a document agree: the children of a node are those nodes that have it for a parent,
each of them once. No parent comes behind its children; only a node apart from the body can be its
own parent. -/
structure Linked (doc : Document) : Prop where
  /-- A node is a child of its parent, and of no other node. -/
  mem_children : ∀ p c, c ∈ doc.children p ↔ doc.parent? c = some p
  /-- No node is a child twice. -/
  nodup_children : ∀ p, (doc.children p).Nodup
  /-- Parents do not come behind their children. -/
  parent_le : ∀ {c p}, doc.parent? c = some p → p.index ≤ c.index

namespace Linked

/-- The number that is next is no child. -/
theorem size_notMem_children (hdoc : doc.Linked) (p : NodeId) :
    (⟨doc.size⟩ : NodeId) ∉ doc.children p := fun hc =>
  absurd (lt_size_of_parent? ((hdoc.mem_children p _).1 hc)) (Nat.lt_irrefl _)

/-- A new node keeps the links. -/
theorem push (hdoc : doc.Linked) {parent : NodeId} (h : parent.index ≤ doc.size)
    (data : NodeData) : (doc.push parent data).Linked where
  mem_children p c := by
    rw [children_push h, parent?_push, List.mem_append, hdoc.mem_children p c]
    by_cases hc : c = ⟨doc.size⟩
    · -- Before it is added, the new node has no parent.
      have hnot : doc.parent? ⟨doc.size⟩ ≠ some p := fun hp =>
        Nat.lt_irrefl _ (lt_size_of_parent? hp)
      by_cases hp : p = parent
      · simp [hc, hp]
      · simp [hc, hp, hnot, Ne.symm hp]
    · have hi : c.index ≠ doc.size := fun hi => hc (congrArg NodeId.mk hi)
      by_cases hp : p = parent <;> simp [hi, hc, hp]
  nodup_children p := by
    rw [children_push h]
    split
    · refine List.nodup_append.2 ⟨hdoc.nodup_children p, List.nodup_singleton _, ?_⟩
      rintro c hc d hd rfl
      exact hdoc.size_notMem_children p (List.mem_singleton.1 hd ▸ hc)
    · rw [List.append_nil]
      exact hdoc.nodup_children p
  parent_le {c p} hc := by
    rw [parent?_push] at hc
    split at hc
    · next hi => cases hc; omega
    · exact hdoc.parent_le hc

/-- A change of an element keeps the links. -/
theorem update (hdoc : doc.Linked) {id : NodeId} {f : Element → Element} {changed : Document}
    (h : doc.update id f = .ok changed) : changed.Linked := by
  obtain ⟨hchildren, hparent⟩ := links_update h
  refine ⟨fun p c => ?_, fun p => ?_, fun {c p} hc => ?_⟩
  · rw [hchildren, hparent]; exact hdoc.mem_children p c
  · rw [hchildren]; exact hdoc.nodup_children p
  · rw [hparent] at hc; exact hdoc.parent_le hc

end Linked

/-! ## Documents of snapshots -/

mutual

/-- What every new node in an element keeps is kept by the nodes of a snapshot. -/
theorem pushSnapshot_keeps {p : Element → Prop} {motive : Document → Prop}
    (text : ∀ doc parent t, motive doc → doc.isElement parent = true →
      motive (doc.push parent (.text t)))
    (element : ∀ doc parent e, motive doc → doc.isElement parent = true → p e →
      motive (doc.push parent (.element e.lowered)))
    (doc : Document) (parent : NodeId) (s : Snapshot) (hs : s.All p) (hdoc : motive doc)
    (hparent : doc.isElement parent = true) :
    motive (doc.pushSnapshot parent s) ∧
      ∀ id, doc.isElement id = true → (doc.pushSnapshot parent s).isElement id = true := by
  match s with
  | .text t =>
    rw [pushSnapshot]
    exact ⟨text doc parent t hdoc hparent, fun _ hid => isElement_push parent _ hid⟩
  | .element e children =>
    obtain ⟨he, hchildren⟩ := hs
    rw [pushSnapshot]
    have hkeep := pushSnapshots_keeps text element (doc.push parent (.element e.lowered)) ⟨doc.size⟩
      children hchildren (element doc parent e hdoc hparent he) (isElement_push_size doc parent _)
    exact ⟨hkeep.1, fun id hid => hkeep.2 id (isElement_push parent _ hid)⟩

/-- What every new node in an element keeps is kept by the nodes of snapshots. -/
theorem pushSnapshots_keeps {p : Element → Prop} {motive : Document → Prop}
    (text : ∀ doc parent t, motive doc → doc.isElement parent = true →
      motive (doc.push parent (.text t)))
    (element : ∀ doc parent e, motive doc → doc.isElement parent = true → p e →
      motive (doc.push parent (.element e.lowered)))
    (doc : Document) (parent : NodeId) (snapshots : List Snapshot)
    (hsnapshots : Snapshot.AllOf p snapshots) (hdoc : motive doc)
    (hparent : doc.isElement parent = true) :
    motive (doc.pushSnapshots parent snapshots) ∧
      ∀ id, doc.isElement id = true → (doc.pushSnapshots parent snapshots).isElement id = true := by
  match snapshots with
  | [] =>
    rw [pushSnapshots]
    exact ⟨hdoc, fun _ hid => hid⟩
  | s :: rest =>
    obtain ⟨hs, hrest⟩ := hsnapshots
    rw [pushSnapshots]
    have hfirst := pushSnapshot_keeps text element doc parent s hs hdoc hparent
    have hmore := pushSnapshots_keeps text element (doc.pushSnapshot parent s) parent rest hrest
      hfirst.1 (hfirst.2 parent hparent)
    exact ⟨hmore.1, fun id hid => hmore.2 id (hfirst.2 id hid)⟩

end

/-- What holds of a body without children, and what every new node in an element keeps, holds of the
document of a snapshot. -/
theorem ofSnapshot_induction {p : Element → Prop} {motive : Document → Prop} (body : BodySnapshot)
    (hbody : Snapshot.AllOf p body.children) (start : motive (ofSnapshot ⟨body.element, []⟩))
    (text : ∀ doc parent t, motive doc → doc.isElement parent = true →
      motive (doc.push parent (.text t)))
    (element : ∀ doc parent e, motive doc → doc.isElement parent = true → p e →
      motive (doc.push parent (.element e.lowered))) :
    motive (ofSnapshot body) := by
  have hstart : (ofSnapshot ⟨body.element, []⟩).isElement Document.body = true := by
    rw [ofSnapshot, pushSnapshots]
    rfl
  rw [ofSnapshot, pushSnapshots] at start hstart
  exact (pushSnapshots_keeps text element _ Document.body body.children hbody start hstart).1

/-- A body without children is the only node of its document. -/
theorem eq_of_node?_ofSnapshot_nil {e : Element} {id : NodeId} {n : Node}
    (h : (ofSnapshot ⟨e, []⟩).node? id = some n) :
    n = ⟨none, [], .element { tag := "body", attributes := e.attributes }⟩ := by
  rw [ofSnapshot, pushSnapshots, node?] at h
  obtain ⟨i⟩ := id
  cases i with
  | zero => exact (Option.some.inj h).symm
  | succ i => simp at h

/-- In a body without children no node has a parent. -/
theorem parent?_ofSnapshot_nil (e : Element) (c : NodeId) :
    (ofSnapshot ⟨e, []⟩).parent? c = none := by
  rw [parent?]
  cases hn : (ofSnapshot ⟨e, []⟩).node? c with
  | none => rfl
  | some n => rw [eq_of_node?_ofSnapshot_nil hn]; rfl

/-- In the document of a snapshot the links agree. -/
theorem linked_ofSnapshot (body : BodySnapshot) : (ofSnapshot body).Linked := by
  refine ofSnapshot_induction (p := fun _ => True) body (Snapshot.allOf_of_forall (by simp) _) ?_
    (fun doc parent t hdoc hparent => hdoc.push (Nat.le_of_lt (lt_size_of_isElement hparent)) _)
    (fun doc parent e hdoc hparent _ => hdoc.push (Nat.le_of_lt (lt_size_of_isElement hparent)) _)
  have hchildren (p : NodeId) : (ofSnapshot ⟨body.element, []⟩).children p = [] := by
    rw [children]
    cases hn : (ofSnapshot ⟨body.element, []⟩).node? p with
    | none => rfl
    | some n => rw [eq_of_node?_ofSnapshot_nil hn]; rfl
  have hparent := parent?_ofSnapshot_nil body.element
  exact ⟨by simp [hchildren, hparent], by simp [hchildren], by simp [hparent]⟩

end Document

end Recorder
