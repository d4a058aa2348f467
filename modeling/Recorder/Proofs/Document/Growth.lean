import Mathlib.Tactic.Common
import Recorder.Proofs.Document.Edits

/-!
# Growing a document

Every node of a document leads up to the body: from parent to parent the numbers get smaller, and
the walk ends at the one node without a parent (`Rooted.climbs_ancestors`). A new node in a node
that is there keeps it so (`Rooted.push`), be it an element or a text.

A new node has its place before its parent is looked up, so the number that it is about to get is
taken for a parent as well, and no larger one. The node that is put in there is its own parent, and
no walk from it ends (`not_climbs_of_parent?_eq_self`). These are all cases (`climbs_add?`).
-/

namespace Recorder.Document

variable {doc : Document}

/-! ## Walks from parent to parent -/

/-- The walk from a node to its parent, on to the parent of this one and so on comes to an end, and
these are the nodes that it comes to, in order. -/
inductive Climbs (doc : Document) : NodeId → List NodeId → Prop where
  /-- The walk ends at a node without a parent. -/
  | top {id : NodeId} (h : doc.parent? id = none) : Climbs doc id []
  /-- The walk goes on from the parent. -/
  | up {id p : NodeId} {above : List NodeId} (h : doc.parent? id = some p)
    (hp : Climbs doc p above) : Climbs doc id (p :: above)

/-- From a node that is its own parent no walk comes to an end. -/
theorem not_climbs_of_parent?_eq_self {id : NodeId} (h : doc.parent? id = some id)
    (above : List NodeId) : ¬ doc.Climbs id above := by
  intro hclimbs
  induction above with
  | nil =>
    obtain ⟨hnone⟩ := hclimbs
    rw [h] at hnone
    cases hnone
  | cons p above ih =>
    -- One step further the walk is at the same node.
    obtain - | ⟨hp, hrest⟩ := hclimbs
    have hsame : id = p := Option.some.inj (h.symm.trans hp)
    exact ih (hsame ▸ hrest)

/-- The body has no parent, and every other node has one with a smaller number. -/
structure Rooted (doc : Document) : Prop where
  /-- The body has no parent. -/
  parent?_body : doc.parent? body = none
  /-- Every other node comes behind its parent. -/
  exists_parent : ∀ {id : NodeId}, id.index < doc.size → id ≠ body →
    ∃ p, doc.parent? id = some p ∧ p.index < id.index

/-- A well-formed document is rooted. -/
theorem WellFormed.rooted (hdoc : doc.WellFormed) : doc.Rooted where
  parent?_body := by
    have hsize : body.index < doc.size := lt_size_of_isElement hdoc.isElement_body
    exact (hdoc.parent?_eq_none_iff hsize).2 rfl
  exists_parent {id} hid hbody := by
    obtain ⟨p, hp⟩ := Option.ne_none_iff_exists'.1 (mt (hdoc.parent?_eq_none_iff hid).1 hbody)
    exact ⟨p, hp, hdoc.parent_lt hp⟩

namespace Rooted

/-- The ancestors of a node are all that the walk from it comes to, and it ends at the body. -/
theorem climbs_ancestors (hdoc : doc.Rooted) {id : NodeId} (hid : id.index < doc.size) :
    doc.Climbs id (doc.ancestors id) ∧ (id :: doc.ancestors id).getLast? = some body := by
  by_cases hbody : id = body
  · have hnone : doc.parent? id = none := hbody ▸ hdoc.parent?_body
    have habove : doc.ancestors id = [] := by
      rw [ancestors, hnone]
    rw [habove, hbody]
    exact ⟨.top hdoc.parent?_body, rfl⟩
  · obtain ⟨p, hp, hlt⟩ := hdoc.exists_parent hid hbody
    -- The rest of the walk starts from a smaller number.
    obtain ⟨hclimbs, hlast⟩ := hdoc.climbs_ancestors (Nat.lt_trans hlt hid)
    rw [ancestors_eq_cons hp hlt]
    exact ⟨.up hp hclimbs, by rw [List.getLast?_cons_cons, hlast]⟩
termination_by id.index

/-- A new node in a node of the document keeps it rooted. -/
theorem push (hdoc : doc.Rooted) {parent : NodeId} (hparent : parent.index < doc.size)
    (data : NodeData) : (doc.push parent data).Rooted where
  parent?_body := by
    have hsize : body.index ≠ doc.size :=
      Nat.ne_of_lt (Nat.lt_of_le_of_lt (Nat.zero_le _) hparent)
    rw [parent?_push, if_neg hsize]
    exact hdoc.parent?_body
  exists_parent {id} hid hbody := by
    rw [size_push] at hid
    rw [parent?_push]
    by_cases hnew : id.index = doc.size
    · rw [if_pos hnew]
      exact ⟨parent, rfl, by omega⟩
    · rw [if_neg hnew]
      exact hdoc.exists_parent (by omega) hbody

end Rooted

/-! ## Additions -/

/-- What may be added to a document. -/
inductive Addition where
  /-- An element, with a text inside if one is given. -/
  | element (element : Element) (text : Option String)
  /-- A text. -/
  | text (text : String)

/-- Adds an element or a text behind the other children of a node, and gives it. -/
def add? (doc : Document) (parent : NodeId) : Addition → Option (NodeId × Document)
  | .element e text => doc.appendElement? parent e text
  | .text t => doc.appendText? parent t

/-- What an addition puts into its parent itself. -/
def Addition.data : Addition → NodeData
  | .element e _ => .element e.lowered
  | .text t => .text t

/-- The text that an addition brings along inside of its element. -/
def Addition.inside : Addition → Option String
  | .element _ inner => inner
  | .text _ => none

/-- An addition is made up to the next number. It is one new node, with another one in it if it
brings a text along. -/
theorem add?_eq (doc : Document) (parent : NodeId) (a : Addition) :
    doc.add? parent a = if parent.index ≤ doc.size then
      some (⟨doc.size⟩, a.inside.elim (doc.push parent a.data) fun t =>
        (doc.push parent a.data).push ⟨doc.size⟩ (.text t)) else none := by
  cases a with
  | element e text =>
    rw [add?, appendElement?, append?]
    split
    · cases text <;> rfl
    · rfl
  | text t => rw [add?, appendText?, append?]; rfl

/-- The node that is added has the next number, and the parent that it is added to. -/
theorem parent?_of_add? {parent new : NodeId} {a : Addition} {grown : Document}
    (h : doc.add? parent a = some (new, grown)) :
    new = ⟨doc.size⟩ ∧ grown.parent? new = some parent := by
  rw [add?_eq] at h
  split at h
  · obtain ⟨rfl, rfl⟩ := Prod.mk.inj (Option.some.inj h)
    refine ⟨rfl, ?_⟩
    have hpush : (doc.push parent a.data).parent? ⟨doc.size⟩ = some parent := by
      rw [parent?_push, if_pos rfl]
    cases a.inside with
    | none => exact hpush
    | some t =>
      have hne : doc.size ≠ (doc.push parent a.data).size := by
        rw [size_push]
        omega
      rw [Option.elim_some, parent?_push, if_neg hne]
      exact hpush
  · cases h

/-- An addition to a node of the document keeps it rooted. -/
theorem Rooted.add? (hdoc : doc.Rooted) {parent new : NodeId} {a : Addition} {grown : Document}
    (hparent : parent.index < doc.size) (h : doc.add? parent a = some (new, grown)) :
    grown.Rooted := by
  rw [add?_eq, if_pos (Nat.le_of_lt hparent)] at h
  obtain ⟨-, rfl⟩ := Prod.mk.inj (Option.some.inj h)
  have hpush : (doc.push parent a.data).Rooted := hdoc.push hparent a.data
  cases a.inside with
  | none => exact hpush
  | some t =>
    -- The text goes into the element that has just been put in.
    have hnew : (⟨doc.size⟩ : NodeId).index < (doc.push parent a.data).size := by
      rw [size_push]
      exact Nat.lt_succ_self _
    exact hpush.push hnew (.text t)

/-- An addition to a rooted document is refused exactly if the number of the parent is larger than
the next one. In a node of the document it leaves every node with a walk to the body, over its
ancestors. With the next number for the parent, the new node is its own parent, and no walk from it
ends. -/
theorem climbs_add? (hdoc : doc.Rooted) (parent : NodeId) (a : Addition) :
    (doc.add? parent a = none ↔ doc.size < parent.index) ∧
      ∀ new grown, doc.add? parent a = some (new, grown) →
        (parent.index < doc.size → ∀ id, id.index < grown.size →
          grown.Climbs id (grown.ancestors id) ∧
            (id :: grown.ancestors id).getLast? = some body) ∧
        (parent.index = doc.size → parent = new ∧ grown.parent? new = some new ∧
          ∀ above, ¬ grown.Climbs new above) := by
  refine ⟨?_, fun new grown h => ⟨fun hparent id hid => ?_, fun hparent => ?_⟩⟩
  · rw [add?_eq]
    split
    · simp; omega
    · simp; omega
  · exact (hdoc.add? hparent h).climbs_ancestors hid
  · obtain ⟨rfl, hnew⟩ := parent?_of_add? h
    obtain rfl : parent = ⟨doc.size⟩ := congrArg NodeId.mk hparent
    exact ⟨rfl, hnew, not_climbs_of_parent?_eq_self hnew⟩

/-- A page with a text in its body. -/
def textPage : Document :=
  .ofSnapshot ⟨{ tag := "body" }, [.text "text"]⟩

/-- An element that is put into the text, with another text in it, leads up to the body as well. -/
theorem climbs_add?_textPage :
    textPage.Rooted ∧
      ∃ new grown, textPage.add? ⟨1⟩ (.element { tag := "b" } (some "inner")) = some (new, grown) ∧
        ∀ id, id.index < grown.size →
          grown.Climbs id (grown.ancestors id) ∧
            (id :: grown.ancestors id).getLast? = some body := by
  have hpage : textPage.Rooted := (WellFormed.ofSnapshot _).rooted
  have hparent : (⟨1⟩ : NodeId).index < textPage.size := by decide
  obtain ⟨hrefused, hadded⟩ := climbs_add? hpage ⟨1⟩ (.element { tag := "b" } (some "inner"))
  have hsome : textPage.add? ⟨1⟩ (.element { tag := "b" } (some "inner")) ≠ none := fun hnone =>
    Nat.lt_asymm hparent (hrefused.1 hnone)
  obtain ⟨⟨new, grown⟩, hgrown⟩ := Option.ne_none_iff_exists'.1 hsome
  exact ⟨hpage, new, grown, hgrown, (hadded new grown hgrown).1 hparent⟩

/-- A text that is put into the number it is about to get, in an empty body, is added, though there
was no such node; from it the walk to the body does not end. -/
theorem not_climbs_ownParent :
    Document.empty.Rooted ∧ ¬ (⟨1⟩ : NodeId).index < Document.empty.size ∧
      ∃ grown, Document.empty.appendText? ⟨1⟩ "x" = some (⟨1⟩, grown) ∧
        ∀ above, ¬ grown.Climbs ⟨1⟩ above := by
  have hrooted : Document.empty.Rooted := (WellFormed.ofSnapshot .empty).rooted
  have hadded : Document.empty.appendText? ⟨1⟩ "x" =
      some (⟨1⟩, Document.empty.push ⟨1⟩ (.text "x")) := rfl
  have hself : (Document.empty.push ⟨1⟩ (.text "x")).parent? ⟨1⟩ = some ⟨1⟩ := rfl
  exact ⟨hrooted, by decide, _, hadded, not_climbs_of_parent?_eq_self hself⟩

end Recorder.Document
