import Mathlib.Tactic.Common
import Recorder.Command.Action
import Recorder.Proofs.Document.Edits
import Recorder.Proofs.Document.Preorder
import Recorder.Proofs.Locator.Synthesis

/-!
# The element that a selector names

A command names an element of a page by a selector, and takes the first one that matches. The body
is tried by itself, and then the elements inside of it; together these are the elements of the page,
each of them once (`Document.WellFormed.mem_elements_iff`). In the page of a snapshot they stand in
the order of their numbers (`Document.pairwise_elements_ofSnapshot`), so that the first one is the
one with the smallest number (`resolve_ofSnapshot`).
-/

namespace Recorder

open Selector (Group)

namespace Document

/-- The elements of a snapshot's document stand in the order of their numbers, the body first. -/
theorem pairwise_elements_ofSnapshot (page : BodySnapshot) :
    (ofSnapshot page).elements.Pairwise fun a b => a.index < b.index := by
  have hinside : ∀ n ∈ (ofSnapshot page).descendants body, body.index < n.index := fun n hn =>
    index_lt_of_mem_ancestors ((linked_ofSnapshot page).mem_ancestors_of_mem_descendants hn)
  exact List.pairwise_cons.2 ⟨hinside, pairwise_descendants_ofSnapshot page body⟩

/-- Among nodes in the order of their numbers, the first one with a property has the smallest number
of those that have it. -/
theorem find?_eq_some_iff_of_pairwise {nodes : List NodeId}
    (hnodes : nodes.Pairwise fun a b => a.index < b.index) {p : NodeId → Bool} {n : NodeId} :
    nodes.find? p = some n ↔
      n ∈ nodes ∧ p n = true ∧ ∀ m ∈ nodes, p m = true → n.index ≤ m.index := by
  induction nodes with
  | nil => simp
  | cons a nodes ih =>
    obtain ⟨ha, hnodes⟩ := List.pairwise_cons.1 hnodes
    cases hp : p a with
    | true =>
      -- The first node has the smallest number of all.
      have hfirst : ∀ m ∈ a :: nodes, a.index ≤ m.index :=
        List.forall_mem_cons.2 ⟨Nat.le_refl _, fun m hm => Nat.le_of_lt (ha m hm)⟩
      rw [List.find?_cons_of_pos hp, Option.some.injEq]
      constructor
      · rintro rfl
        exact ⟨List.mem_cons_self, hp, fun m hm _ => hfirst m hm⟩
      · rintro ⟨hn, -, hleast⟩
        have hle : n.index ≤ a.index := hleast a List.mem_cons_self hp
        exact congrArg NodeId.mk (Nat.le_antisymm (hfirst n hn) hle)
    | false =>
      have hnot : ¬ p a = true := by simp [hp]
      rw [List.find?_cons_of_neg hnot, ih hnodes]
      constructor
      · rintro ⟨hn, hpn, hleast⟩
        exact ⟨List.mem_cons_of_mem a hn, hpn,
          List.forall_mem_cons.2 ⟨fun hpa => absurd hpa hnot, hleast⟩⟩
      · rintro ⟨hn, hpn, hleast⟩
        have hne : n ≠ a := fun heq => hnot (heq ▸ hpn)
        exact ⟨(List.mem_cons.1 hn).resolve_left hne, hpn, (List.forall_mem_cons.1 hleast).2⟩

/-- The node is the element with the smallest number of those that a group matches. -/
def IsLeastMatch (doc : Document) (g : Group) (n : NodeId) : Prop :=
  doc.isElement n = true ∧ g.holds doc n = true ∧
    ∀ m, doc.isElement m = true → g.holds doc m = true → n.index ≤ m.index

end Document

namespace Command

open Document (ofSnapshot)

/-- A selector that can be read names the first element of the page that it matches. -/
theorem resolve_of_parse (doc : Document) {selector : String} {g : Group}
    (hg : Group.parse selector = .ok g) :
    resolve doc selector =
      (doc.elements.find? fun n => g.holds doc n).elim (.error (.noMatch selector)) .ok := by
  rw [resolve, hg, Document.elements]
  cases hbody : g.holds doc Document.body with
  | true => simp [hbody]
  | false =>
    rw [List.find?_cons_of_neg (by simp [hbody])]
    simp only [hbody]
    cases (doc.descendants Document.body).find? fun n => g.holds doc n <;> rfl

/-- In the page of a snapshot, a selector that can be read names the element with the smallest
number of all that it matches, the body included; it names none exactly if it matches none. Another
text is refused for the fault in it. -/
theorem resolve_ofSnapshot (page : BodySnapshot) (selector : String) :
    (∀ g, Group.parse selector = .ok g →
      (∀ n, resolve (ofSnapshot page) selector = .ok n ↔ (ofSnapshot page).IsLeastMatch g n) ∧
      (resolve (ofSnapshot page) selector = .error (.noMatch selector) ↔
        ∀ n, (ofSnapshot page).isElement n = true → g.holds (ofSnapshot page) n = false) ∧
      ∀ failure, resolve (ofSnapshot page) selector = .error failure →
        failure = .noMatch selector) ∧
    ∀ fault, Group.ofChars selector.toList = .error fault →
      resolve (ofSnapshot page) selector =
        .error (.recorder (.invalidSelector selector fault)) := by
  have hdoc := Document.WellFormed.ofSnapshot page
  refine ⟨fun g hg => ?_, fun fault hfault => ?_⟩
  · have hresolve := resolve_of_parse (ofSnapshot page) hg
    have hnone : (ofSnapshot page).elements.find? (fun n => g.holds (ofSnapshot page) n) = none ↔
        ∀ n, (ofSnapshot page).isElement n = true → g.holds (ofSnapshot page) n = false := by
      simp [List.find?_eq_none, hdoc.mem_elements_iff]
    have hsome (n : NodeId) :
        (ofSnapshot page).elements.find? (fun n => g.holds (ofSnapshot page) n) = some n ↔
          (ofSnapshot page).IsLeastMatch g n := by
      rw [Document.find?_eq_some_iff_of_pairwise (Document.pairwise_elements_ofSnapshot page)]
      simp only [hdoc.mem_elements_iff, Document.IsLeastMatch]
    refine ⟨fun n => ?_, ?_, fun failure hfailure => ?_⟩
    · rw [← hsome, hresolve]
      cases (ofSnapshot page).elements.find? fun n => g.holds (ofSnapshot page) n <;> simp
    · rw [← hnone, hresolve]
      cases (ofSnapshot page).elements.find? fun n => g.holds (ofSnapshot page) n <;> simp
    · rw [hresolve] at hfailure
      cases hfind : (ofSnapshot page).elements.find? fun n => g.holds (ofSnapshot page) n with
      | none =>
        rw [hfind] at hfailure
        exact (Except.error.inj hfailure).symm
      | some n =>
        rw [hfind] at hfailure
        cases hfailure
  · have hparse : Group.parse selector = .error (.invalidSelector selector fault) := by
      rw [Group.parse, hfault]
    rw [resolve, hparse]

/-- A page with a text, a box with a paragraph in it, and another paragraph. -/
def boxAndParagraphs : BodySnapshot :=
  ⟨{ tag := "body" }, [.text "text", .element { tag := "div" } [.element { tag := "p" } []],
    .element { tag := "p" } []]⟩

/-- The box has the smallest number of what the selector matches, though its alternative is the
second one, and a selector that breaks off is refused at its end. -/
theorem resolve_ofSnapshot_boxAndParagraphs :
    (∃ g, Group.parse "p, body > div" = .ok g ∧
      (ofSnapshot boxAndParagraphs).IsLeastMatch g ⟨2⟩) ∧
    resolve (ofSnapshot boxAndParagraphs) "div >" =
      .error (.recorder (.invalidSelector "div >" ⟨.expectedSelector, 5⟩)) := by
  have hfault : Group.ofChars "div >".toList = .error ⟨.expectedSelector, 5⟩ := by decide +kernel
  refine ⟨?_, (resolve_ofSnapshot boxAndParagraphs "div >").2 _ hfault⟩
  obtain ⟨g, hg⟩ : ∃ g, (Group.parse "p, body > div").toOption = some g :=
    Option.isSome_iff_exists.1 (by decide +kernel)
  have hparse : Group.parse "p, body > div" = .ok g := eq_ok_of_toOption_eq_some hg
  have hbox : resolve (ofSnapshot boxAndParagraphs) "p, body > div" = .ok ⟨2⟩ :=
    eq_ok_of_toOption_eq_some (by decide +kernel)
  have hspec := (resolve_ofSnapshot boxAndParagraphs "p, body > div").1 g hparse
  exact ⟨g, hparse, (hspec.1 ⟨2⟩).1 hbox⟩

end Command

end Recorder
