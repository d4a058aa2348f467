import Mathlib.Tactic.Common
import Recorder.Proofs.Document.Descendants

/-!
# Numbering in pre-order

A document of a snapshot holds the nodes of the snapshot in pre-order and nothing else. What the
nodes are and where they stand is said without a document (`Snapshot.layout`): each node in front of
what is in it, with the numbers of its children worked out from their sizes. Adding snapshots to a
node changes nothing of a document but the children of this node, and puts the layout of the
snapshots behind the other nodes (`toList_pushSnapshots`). In a layout every node begins the layout
of what is in it (`Holds.exists_layout`), so that each of them can be read back (`Holds.snapshot?`),
and the elements inside of it are those with the numbers that follow (`Holds.descendants`).
-/

namespace Recorder

namespace Snapshot

mutual

/-- The number of nodes of a snapshot. -/
def count : Snapshot → Nat
  | .text _ => 1
  | .element _ children => countOf children + 1

/-- The number of nodes of snapshots. -/
def countOf : List Snapshot → Nat
  | [] => 0
  | s :: rest => s.count + countOf rest

end

mutual

/-- The nodes of a snapshot in pre-order, each of them with all that is in it. -/
def preorder : Snapshot → List Snapshot
  | .text t => [.text t]
  | .element e children => .element e children :: preorderOf children

/-- The nodes of snapshots in pre-order, each of them with all that is in it. -/
def preorderOf : List Snapshot → List Snapshot
  | [] => []
  | s :: rest => s.preorder ++ preorderOf rest

end

mutual

/-- The snapshot with all tags in lower case. -/
def lowered : Snapshot → Snapshot
  | .text t => .text t
  | .element e children => .element { e with tag := Text.asciiLower e.tag } (loweredOf children)

/-- The snapshots with all tags in lower case. -/
def loweredOf : List Snapshot → List Snapshot
  | [] => []
  | s :: rest => s.lowered :: loweredOf rest

end

/-- The numbers of snapshots that stand one behind the other, where the first one has this
number. -/
def roots (first : Nat) : List Snapshot → List NodeId
  | [] => []
  | s :: rest => ⟨first⟩ :: roots (first + s.count) rest

mutual

/-- The nodes that a snapshot becomes, where its own one has this number. -/
def layout (parent : Option NodeId) (first : Nat) : Snapshot → List Node
  | .text t => [⟨parent, [], .text t⟩]
  | .element e children =>
    ⟨parent, roots (first + 1) children, .element e⟩ ::
      layoutOf (some ⟨first⟩) (first + 1) children

/-- The nodes that snapshots become, where the first one has this number. -/
def layoutOf (parent : Option NodeId) (first : Nat) : List Snapshot → List Node
  | [] => []
  | s :: rest => s.layout parent first ++ layoutOf parent (first + s.count) rest

end

end Snapshot

/-- The body as it is in its document: of the element itself only the attributes are taken. -/
def BodySnapshot.lowered (body : BodySnapshot) : Snapshot :=
  .element { tag := "body", attributes := body.element.attributes }
    (Snapshot.loweredOf body.children)

/-- The snapshot that a document shows at a node: a text, or an element and what its children show.
There is none if a child is missing. -/
def Document.snapshot? (doc : Document) (id : NodeId) : Option Snapshot :=
  match doc.node? id with
  | some ⟨_, _, .text t⟩ => some (.text t)
  | some ⟨_, children, .element e⟩ =>
    (children.mapM fun c =>
      if _h : id.index < c.index ∧ c.index < doc.size then doc.snapshot? c else none).map
        (.element e)
  | none => none
termination_by doc.size - id.index
decreasing_by omega

/-! ## Sizes -/

namespace Snapshot

mutual

/-- A snapshot becomes as many nodes as it has. -/
theorem length_layout (parent : Option NodeId) (first : Nat) (s : Snapshot) :
    (s.layout parent first).length = s.count := by
  match s with
  | .text _ => rfl
  | .element _ children =>
    rw [layout, count, List.length_cons, length_layoutOf (some ⟨first⟩) (first + 1) children]

/-- Snapshots become as many nodes as they have. -/
theorem length_layoutOf (parent : Option NodeId) (first : Nat) (snapshots : List Snapshot) :
    (layoutOf parent first snapshots).length = countOf snapshots := by
  match snapshots with
  | [] => rfl
  | s :: rest =>
    rw [layoutOf, countOf, List.length_append, s.length_layout parent first,
      length_layoutOf parent (first + s.count) rest]

end

mutual

/-- All nodes of a snapshot stand in its pre-order. -/
theorem length_preorder (s : Snapshot) : s.preorder.length = s.count := by
  match s with
  | .text _ => rfl
  | .element _ children => rw [preorder, count, List.length_cons, length_preorderOf children]

/-- All nodes of snapshots stand in their pre-order. -/
theorem length_preorderOf (snapshots : List Snapshot) :
    (preorderOf snapshots).length = countOf snapshots := by
  match snapshots with
  | [] => rfl
  | s :: rest =>
    rw [preorderOf, countOf, List.length_append, s.length_preorder, length_preorderOf rest]

end

mutual

/-- Lower case does not change how many nodes there are. -/
theorem count_lowered (s : Snapshot) : s.lowered.count = s.count := by
  match s with
  | .text _ => rfl
  | .element _ children => rw [lowered, count, count, countOf_loweredOf children]

/-- Lower case does not change how many nodes there are. -/
theorem countOf_loweredOf (snapshots : List Snapshot) :
    countOf (loweredOf snapshots) = countOf snapshots := by
  match snapshots with
  | [] => rfl
  | s :: rest => rw [loweredOf, countOf, countOf, s.count_lowered, countOf_loweredOf rest]

end

end Snapshot

/-- A node with more children behind those that it has. -/
def Node.addChildren (n : Node) (ids : List NodeId) : Node :=
  { n with children := n.children ++ ids }

namespace Document

open Snapshot

variable {doc : Document}

/-! ## Adding snapshots -/

/-- A new node comes last, and nothing else changes but the children of its parent. -/
theorem toList_push {before after : List Node} {n : Node}
    (h : doc.nodes.toList = before ++ n :: after) (data : NodeData) :
    (doc.push ⟨before.length⟩ data).nodes.toList =
      before ++ n.addChildren [⟨doc.size⟩] :: (after ++ [⟨some ⟨before.length⟩, [], data⟩]) := by
  have hsize : (doc.nodes.push ⟨some ⟨before.length⟩, [], data⟩).size - 1 = doc.size := by
    simp [size]
  have hmodify := List.modifyTailIdx_add
    (List.modifyHead fun m : Node => m.addChildren [⟨doc.size⟩]) 0 before
    (n :: (after ++ [⟨some ⟨before.length⟩, [], data⟩]))
  rw [push, Array.toList_modify, Array.toList_push, h, hsize, List.append_assoc, List.cons_append]
  exact hmodify

mutual

/-- A snapshot that is added to a node stands behind the others, and nothing else changes but the
children of that node. -/
theorem toList_pushSnapshot {doc : Document} {before after : List Node} {n : Node}
    (h : doc.nodes.toList = before ++ n :: after) (s : Snapshot) :
    (doc.pushSnapshot ⟨before.length⟩ s).nodes.toList =
      before ++ n.addChildren [⟨doc.size⟩] ::
        (after ++ s.lowered.layout (some ⟨before.length⟩) doc.size) := by
  match s with
  | .text t => rw [pushSnapshot, toList_push h, lowered, layout]
  | .element e children =>
    -- The new element is the last node, and its children go to it.
    have hpush := toList_push h (.element e.lowered)
    rw [← List.cons_append, ← List.append_assoc] at hpush
    have hlength : (before ++ n.addChildren [⟨doc.size⟩] :: after).length = doc.size := by
      rw [size, ← Array.length_toList, h]
      simp
    have hchildren := toList_pushSnapshots hpush children
    rw [hlength, size_push] at hchildren
    rw [pushSnapshot, hchildren, lowered, layout]
    simp [Node.addChildren, Element.lowered]

/-- Snapshots that are added to a node stand behind the others, and nothing else changes but the
children of that node. -/
theorem toList_pushSnapshots {doc : Document} {before after : List Node} {n : Node}
    (h : doc.nodes.toList = before ++ n :: after) (snapshots : List Snapshot) :
    (doc.pushSnapshots ⟨before.length⟩ snapshots).nodes.toList =
      before ++ n.addChildren (roots doc.size (loweredOf snapshots)) ::
        (after ++ layoutOf (some ⟨before.length⟩) doc.size (loweredOf snapshots)) := by
  match snapshots with
  | [] => simpa [pushSnapshots, loweredOf, roots, layoutOf, Node.addChildren] using h
  | s :: rest =>
    -- The parent has one child more, and the rest starts behind the nodes of the first snapshot.
    have hfirst := toList_pushSnapshot h s
    have hsize : (doc.pushSnapshot ⟨before.length⟩ s).size = doc.size + s.lowered.count := by
      rw [size, ← Array.length_toList, hfirst, size, ← Array.length_toList, h]
      simp [length_layout]
      omega
    have hrest := toList_pushSnapshots hfirst rest
    rw [hsize] at hrest
    rw [pushSnapshots, hrest, loweredOf, roots, layoutOf]
    simp [Node.addChildren]

end

/-- The nodes of the document of a snapshot are its layout. -/
theorem toList_ofSnapshot (body : BodySnapshot) :
    (ofSnapshot body).nodes.toList = body.lowered.layout none 0 := by
  have hbody : (⟨#[⟨none, [], .element { tag := "body", attributes := body.element.attributes }⟩]⟩ :
      Document).nodes.toList =
      [] ++ ⟨none, [], .element { tag := "body", attributes := body.element.attributes }⟩ :: [] :=
    rfl
  rw [ofSnapshot, BodySnapshot.lowered, layout]
  exact toList_pushSnapshots hbody body.children

/-! ## What stands in a document -/

/-- These nodes stand in a document one behind the other, where the first one has this number. -/
def Holds (doc : Document) (first : Nat) (nodes : List Node) : Prop :=
  ∀ i < nodes.length, doc.node? ⟨first + i⟩ = nodes[i]?

/-- A document holds its nodes. -/
theorem holds_toList (doc : Document) : doc.Holds 0 doc.nodes.toList := by
  intro i _
  rw [node?, Nat.zero_add, Array.getElem?_toList]

namespace Holds

variable {first : Nat}

/-- The first of the nodes has the number given. -/
theorem head {n : Node} {nodes : List Node} (h : doc.Holds first (n :: nodes)) :
    doc.node? ⟨first⟩ = some n :=
  h 0 (by simp)

/-- The nodes behind the first ones have the numbers that follow. -/
theorem right {xs ys : List Node} (h : doc.Holds first (xs ++ ys)) :
    doc.Holds (first + xs.length) ys := by
  intro i hi
  have hnode := h (xs.length + i) (by simpa using hi)
  rw [List.getElem?_append_right (Nat.le_add_right _ _), Nat.add_sub_cancel_left] at hnode
  rw [Nat.add_assoc]
  exact hnode

/-- The first nodes stand there. -/
theorem left {xs ys : List Node} (h : doc.Holds first (xs ++ ys)) : doc.Holds first xs := by
  intro i hi
  rw [h i (by rw [List.length_append]; omega), List.getElem?_append_left hi]

/-- The nodes behind the first one have the numbers that follow. -/
theorem tail {n : Node} {nodes : List Node} (h : doc.Holds first (n :: nodes)) :
    doc.Holds (first + 1) nodes :=
  right (show doc.Holds first ([n] ++ nodes) from h)

/-- A node that stands in a document has a number of it. -/
theorem lt_size {n : Node} {nodes : List Node} (h : doc.Holds first (n :: nodes)) :
    first < doc.size :=
  lt_size_of_node? h.head

/-- The layout of the second of two snapshots starts behind the nodes of the first one. -/
theorem rest {parent : Option NodeId} {s : Snapshot} {snapshots : List Snapshot}
    (h : doc.Holds first (layoutOf parent first (s :: snapshots))) :
    doc.Holds (first + s.count) (layoutOf parent (first + s.count) snapshots) := by
  rw [layoutOf] at h
  simpa only [length_layout] using h.right

end Holds

mutual

/-- In the layout of a snapshot each node begins the layout of what is in it. -/
theorem Holds.exists_layout {parent : Option NodeId} {first i : Nat} {s : Snapshot}
    (h : doc.Holds first (s.layout parent first)) (hi : i < s.count) :
    ∃ t p, s.preorder[i]? = some t ∧ doc.Holds (first + i) (t.layout p (first + i)) := by
  match s with
  | .text t =>
    obtain rfl : i = 0 := by simpa [count] using hi
    exact ⟨.text t, parent, rfl, h⟩
  | .element e children =>
    cases i with
    | zero => exact ⟨.element e children, parent, rfl, h⟩
    | succ i =>
      rw [layout] at h
      have hi : i < countOf children := by simpa [count] using hi
      obtain ⟨t, p, ht, hlayout⟩ := Holds.exists_layoutOf h.tail hi
      rw [Nat.add_assoc, Nat.add_comm 1 i] at hlayout
      exact ⟨t, p, by rw [preorder, List.getElem?_cons_succ, ht], hlayout⟩

/-- In the layout of snapshots each node begins the layout of what is in it. -/
theorem Holds.exists_layoutOf {parent : Option NodeId} {first i : Nat} {snapshots : List Snapshot}
    (h : doc.Holds first (layoutOf parent first snapshots)) (hi : i < countOf snapshots) :
    ∃ t p, (preorderOf snapshots)[i]? = some t ∧
      doc.Holds (first + i) (t.layout p (first + i)) := by
  match snapshots with
  | [] => exact absurd hi (Nat.not_lt_zero i)
  | s :: rest =>
    rw [preorderOf]
    -- The number is one of the first snapshot, or is counted on from behind it.
    by_cases his : i < s.count
    · obtain ⟨t, p, ht, hlayout⟩ := Holds.exists_layout (by rw [layoutOf] at h; exact h.left) his
      exact ⟨t, p, by rw [List.getElem?_append_left (by rwa [length_preorder]), ht], hlayout⟩
    · have hirest : i - s.count < countOf rest := by
        rw [countOf] at hi
        omega
      obtain ⟨t, p, ht, hlayout⟩ := Holds.exists_layoutOf h.rest hirest
      have hsum : first + s.count + (i - s.count) = first + i := by omega
      rw [hsum] at hlayout
      refine ⟨t, p, ?_, hlayout⟩
      rw [List.getElem?_append_right (by rw [length_preorder]; omega), length_preorder, ht]

end

/-! ## Reading back -/

mutual

/-- A snapshot that stands in a document is read back from its first node. -/
theorem Holds.snapshot? {parent : Option NodeId} {first : Nat} {s : Snapshot}
    (h : doc.Holds first (s.layout parent first)) : doc.snapshot? ⟨first⟩ = some s := by
  match s with
  | .text t => rw [Document.snapshot?, Holds.head (n := ⟨parent, [], .text t⟩) h]
  | .element e children =>
    rw [layout] at h
    have hchildren := h.tail.mapM_roots (Nat.lt_succ_self first)
    rw [Document.snapshot?, h.head]
    simp only [hchildren, Option.map_some]

/-- Snapshots that stand in a document are read back from their first nodes. -/
theorem Holds.mapM_roots {parent : Option NodeId} {first : Nat} {snapshots : List Snapshot}
    (h : doc.Holds first (layoutOf parent first snapshots)) {n : Nat} (hn : n < first) :
    ((roots first snapshots).mapM fun c =>
      if _h : n < c.index ∧ c.index < doc.size then doc.snapshot? c else none) =
      some snapshots := by
  match snapshots with
  | [] => rfl
  | s :: rest =>
    have hfirst : doc.Holds first (s.layout parent first) := by rw [layoutOf] at h; exact h.left
    -- A child that is read back comes behind its parent and is a node of the document.
    have hsize : first < doc.size := by cases s <;> exact hfirst.lt_size
    have hrest := h.rest.mapM_roots (Nat.lt_of_lt_of_le hn (Nat.le_add_right _ _))
    rw [roots, List.mapM_cons, dif_pos ⟨hn, hsize⟩, hfirst.snapshot?, hrest]
    rfl

end

/-! ## The elements inside of a node -/

/-- Numbers of nodes, one after the other. -/
def numbers (first n : Nat) : List NodeId :=
  (List.range' first n).map NodeId.mk

/-- The numbers of a first and a second part, one after the other. -/
theorem numbers_add (first m n : Nat) :
    numbers first (m + n) = numbers first m ++ numbers (first + m) n := by
  have hrange : List.range' first (m + n) = List.range' first m ++ List.range' (first + m) n :=
    List.range'_append_1.symm
  rw [numbers, hrange, List.map_append]
  rfl

/-- Numbers that stand one after the other grow. -/
theorem pairwise_numbers (first n : Nat) :
    (numbers first n).Pairwise fun a b => a.index < b.index :=
  List.pairwise_map.2 (List.pairwise_lt_range' 1)

/-- Snapshots that stand one behind the other have no smaller number than the first one. -/
theorem le_of_mem_roots {first : Nat} {snapshots : List Snapshot} {c : NodeId}
    (h : c ∈ roots first snapshots) : first ≤ c.index := by
  induction snapshots generalizing first with
  | nil => simp [roots] at h
  | cons s rest ih =>
    rw [roots] at h
    rcases List.mem_cons.1 h with rfl | h
    · exact Nat.le_refl first
    · exact Nat.le_trans (Nat.le_add_right _ _) (ih h)

/-- The children of a node that elements are found at, where all of them come behind the node. -/
theorem innerChildren_of_forall_lt {id : NodeId} {children : List NodeId}
    (h : doc.children id = children) (hlt : ∀ c ∈ children, id.index < c.index) :
    doc.innerChildren id = children.filter doc.isElement := by
  rw [innerChildren, h]
  exact List.filter_congr fun c hc => by simp [hlt c hc]

mutual

/-- The elements inside of a snapshot that stands in a document have the numbers that follow. -/
theorem Holds.descendants {doc : Document} {parent : Option NodeId} {first : Nat} {s : Snapshot}
    (h : doc.Holds first (s.layout parent first)) :
    doc.descendants ⟨first⟩ = (numbers (first + 1) (s.count - 1)).filter doc.isElement := by
  match s with
  | .text t =>
    have hchildren : doc.children ⟨first⟩ = [] := by
      rw [children, Holds.head (n := ⟨parent, [], .text t⟩) h]
      rfl
    rw [descendants_eq_flatMap, innerChildren, hchildren]
    rfl
  | .element e children =>
    rw [layout] at h
    have hchildren : doc.children ⟨first⟩ = roots (first + 1) children := by
      rw [Document.children, h.head]
      rfl
    rw [descendants_eq_flatMap, innerChildren_of_forall_lt hchildren fun c => le_of_mem_roots,
      h.tail.flatMap_roots]
    rfl

/-- Snapshots that stand in a document give the elements with their numbers. -/
theorem Holds.flatMap_roots {doc : Document} {parent : Option NodeId} {first : Nat}
    {snapshots : List Snapshot} (h : doc.Holds first (layoutOf parent first snapshots)) :
    ((roots first snapshots).filter doc.isElement).flatMap (fun c => c :: doc.descendants c) =
      (numbers first (countOf snapshots)).filter doc.isElement := by
  match snapshots with
  | [] => rfl
  | s :: rest =>
    have hfirst : doc.Holds first (s.layout parent first) := by rw [layoutOf] at h; exact h.left
    have hrest := h.rest.flatMap_roots
    rw [roots, countOf, numbers_add, List.filter_append, ← hrest]
    -- A text is left out with its number; an element comes with the elements inside of it.
    cases s with
    | text t =>
      have htext : doc.isElement ⟨first⟩ = false := by
        rw [isElement, element?_eq, Holds.head (n := ⟨parent, [], .text t⟩) hfirst]
        rfl
      simp [numbers, count, htext]
    | element e children =>
      have hinside := hfirst.descendants
      have helement : doc.isElement ⟨first⟩ = true := by
        rw [layout] at hfirst
        rw [isElement, element?_eq, hfirst.head]
        rfl
      have hnumbers : numbers first (count (.element e children)) =
          ⟨first⟩ :: numbers (first + 1) (count (.element e children) - 1) := rfl
      rw [hnumbers, List.filter_cons_of_pos helement, List.filter_cons_of_pos helement, ← hinside,
        List.flatMap_cons]

end

/-! ## Documents of snapshots -/

/-- The document of a snapshot holds its layout. -/
theorem holds_ofSnapshot (body : BodySnapshot) :
    (ofSnapshot body).Holds 0 (body.lowered.layout none 0) :=
  toList_ofSnapshot body ▸ (ofSnapshot body).holds_toList

/-- In the document of a snapshot each node begins the layout of what is in it. -/
theorem exists_layout_ofSnapshot (body : BodySnapshot) {i : Nat} (hi : i < (ofSnapshot body).size) :
    ∃ t p, body.lowered.preorder[i]? = some t ∧ (ofSnapshot body).Holds i (t.layout p i) := by
  rw [size, ← Array.length_toList, toList_ofSnapshot, length_layout] at hi
  simpa using (holds_ofSnapshot body).exists_layout hi

/-- The document of a snapshot has a node for the body and one for each node below it. -/
theorem size_ofSnapshot (body : BodySnapshot) :
    (ofSnapshot body).size = countOf body.children + 1 := by
  rw [size, ← Array.length_toList, toList_ofSnapshot, length_layout, BodySnapshot.lowered, count,
    countOf_loweredOf]

/-- The elements inside of a node of the document of a snapshot stand in the order of their numbers.
-/
theorem pairwise_descendants_ofSnapshot (body : BodySnapshot) (id : NodeId) :
    ((ofSnapshot body).descendants id).Pairwise fun a b => a.index < b.index := by
  by_cases hi : id.index < (ofSnapshot body).size
  · obtain ⟨t, p, -, hlayout⟩ := exists_layout_ofSnapshot body hi
    have hinside := hlayout.descendants
    rw [hinside]
    exact (pairwise_numbers _ _).filter _
  · have hchildren : (ofSnapshot body).children id = [] := by
      rw [children, node?_eq_none (Nat.le_of_not_lt hi)]
      rfl
    rw [descendants_eq_flatMap, innerChildren, hchildren]
    exact .nil

/-- The document of a snapshot loses nothing: from each number the node at this place of the
pre-order is read back with all that is in it, where tags are in lower case and of the body itself
the attributes are left. There are no other nodes, and the elements inside of a node are listed in
the order of their numbers. -/
theorem ofSnapshot_preorder (body : BodySnapshot) :
    (ofSnapshot body).snapshot? Document.body = some body.lowered ∧
      (ofSnapshot body).size = countOf body.children + 1 ∧
      (∀ i, (ofSnapshot body).snapshot? ⟨i⟩ = body.lowered.preorder[i]?) ∧
      ∀ id, ((ofSnapshot body).descendants id).Pairwise fun a b => a.index < b.index := by
  refine ⟨?_, size_ofSnapshot body, fun i => ?_, fun id => ?_⟩
  · exact (holds_ofSnapshot body).snapshot?
  · by_cases hi : i < (ofSnapshot body).size
    · obtain ⟨t, p, ht, hlayout⟩ := exists_layout_ofSnapshot body hi
      rw [hlayout.snapshot?, ht]
    · have hnode : (ofSnapshot body).node? ⟨i⟩ = none := node?_eq_none (Nat.le_of_not_lt hi)
      have hlength : body.lowered.preorder.length ≤ i := by
        rw [length_preorder, ← length_layout none 0, ← toList_ofSnapshot]
        exact Nat.le_of_not_lt hi
      rw [snapshot?, hnode, List.getElem?_eq_none hlength]
  · exact pairwise_descendants_ofSnapshot body id

end Document

end Recorder
