import Mathlib.Tactic.Common
import Recorder.Proofs.Locator.Completeness
import Recorder.Proofs.Text.Whitespace

/-!
# Finding an element by its labels, its placeholder and its title

The candidates by label, placeholder and title ask for a text as a whole, and they ask for it as it
stands in the document (`Document.AsksFor`). The query compares what is collapsed with what is asked
for, and collapsing is a projection: so all texts that such a query finds are collapsed to what it
asks for, and this is collapsed already (`collapsed_of_answers`). Hence a text that is collapsed is
found where it comes from, and any other text is found nowhere (`answers_askedFor_iff`).
-/

namespace Recorder

open Text (collapse collapseWhitespace)

namespace TextMatch

/-- A text is the one that is asked for as a whole exactly if it is collapsed to this. -/
theorem whole_holds_iff {cs wanted : List Char} :
    whole.holds cs wanted = true ↔ collapse cs = wanted :=
  beq_iff_eq

end TextMatch

/-- The rank of a candidate that asks for a text as a whole. -/
def TextSource.rank : TextSource → Rank
  | .label => .label
  | .placeholder => .placeholder
  | .content => .textExact
  | .title => .title

namespace Document

variable {doc : Document} {id : NodeId} {source : TextSource} {text : String}

/-- The texts of an element that are asked for as a whole, whatever white space is in them. None of
them is empty. -/
inductive AsksFor (doc : Document) (id : NodeId) : TextSource → String → Prop where
  /-- A text that labels the element. -/
  | label {text : String} (h : text.toList ∈ doc.labelTexts id) : AsksFor doc id .label text
  /-- The placeholder of an input or a text area. -/
  | placeholder {text : String} (htag : doc.tag? id = some "input" ∨ doc.tag? id = some "textarea")
      (h : doc.attribute? id "placeholder" = some text) (hne : text ≠ "") :
      AsksFor doc id .placeholder text
  /-- The title. -/
  | title {text : String} (h : doc.attribute? id "title" = some text) (hne : text ≠ "") :
      AsksFor doc id .title text

/-- Appending only new items adds these items. -/
theorem mem_appendNew {α : Type} [BEq α] [LawfulBEq α] {a : α} {seen more : List α} :
    a ∈ appendNew seen more ↔ a ∈ seen ∨ a ∈ more := by
  induction more generalizing seen with
  | nil => simp [appendNew]
  | cons b more ih =>
    -- An item that is there already is left out, which does not matter to what is there.
    rw [appendNew, ih]
    split <;> grind

/-- No label is empty. -/
theorem ne_nil_of_mem_labelTexts {t : List Char} (h : t ∈ doc.labelTexts id) : t ≠ [] := by
  have hmem := (mem_appendNew.1 h).resolve_left List.not_mem_nil
  simpa using (List.mem_filter.1 hmem).2

/-- What is asked for is not empty. -/
theorem AsksFor.ne_empty (h : doc.AsksFor id source text) : text ≠ "" := by
  cases h with
  | label ht =>
    rintro rfl
    exact ne_nil_of_mem_labelTexts ht rfl
  | placeholder _ _ hne => exact hne
  | title _ hne => exact hne

/-- What is asked for is among the texts of the element that the query looks at. -/
theorem AsksFor.mem_sourceTexts (h : doc.AsksFor id source text) :
    text.toList ∈ doc.sourceTexts id source := by
  cases h with
  | label ht => exact ht
  | placeholder _ ht hne => simp [sourceTexts, attributeText?, ht]
  | title ht _ => simp [sourceTexts, attributeText?, ht]

/-- The candidate that asks for the text is among those that are collected. -/
theorem AsksFor.mem_collected {s : Synthesizer} {container : NodeId} {all : List Candidate}
    (h : doc.AsksFor id source text) (hall : s.collected doc container id = .ok all) :
    ⟨source.rank, .text source text .whole⟩ ∈ all := by
  rw [Synthesizer.mem_collected_iff hall]
  cases h with
  | label ht =>
    have hc : ⟨.label, .text .label text .whole⟩ ∈ doc.labelCandidates id :=
      List.mem_map.2 ⟨_, ht, by rw [String.ofList_toList]⟩
    exact .inr (.inl hc)
  | placeholder htag ht hne =>
    have hc : doc.placeholderCandidate? id =
        some ⟨.placeholder, .text .placeholder text .whole⟩ := by
      simp [placeholderCandidate?, htag, ht, nonEmpty?, hne]
    exact .inr (.inr (.inl hc))
  | title ht hne =>
    have hc : doc.titleCandidate? id = some ⟨.title, .text .title text .whole⟩ := by
      simp [titleCandidate?, ht, nonEmpty?, hne]
    exact .inr (.inr (.inr (.inr (.inl hc))))

/-- A text that is asked for as a whole and found is collapsed. -/
theorem collapsed_of_answers {testIdAttribute : String}
    (h : doc.answers testIdAttribute id (.text source text .whole) = true) :
    collapseWhitespace text = text := by
  obtain ⟨t, -, ht⟩ := List.any_eq_true.1 h
  have heq : collapse t = text.toList := TextMatch.whole_holds_iff.1 ht
  have htwice : collapse text.toList = text.toList := by
    rw [← heq]
    exact Text.collapse_collapse t
  rw [collapseWhitespace, htwice, String.ofList_toList]

/-- The candidate that asks for a label, a placeholder or a title is answered with its own element
exactly if the text is collapsed, and with no element of any document if it is not. -/
theorem answers_askedFor_iff (h : doc.AsksFor id source text) :
    text ≠ "" ∧
      (∀ (s : Synthesizer) (container : NodeId) (all : List Candidate),
        s.collected doc container id = .ok all →
        ⟨source.rank, .text source text .whole⟩ ∈ all) ∧
      (∀ testIdAttribute, doc.answers testIdAttribute id (.text source text .whole) = true ↔
        collapseWhitespace text = text) ∧
      (collapseWhitespace text ≠ text → ∀ (testIdAttribute : String) (other : Document),
        (∀ n, other.answers testIdAttribute n (.text source text .whole) = false) ∧
        ∀ container, container.index < other.size →
          other.queryAll testIdAttribute container (.text source text .whole) = .ok []) := by
  refine ⟨h.ne_empty, fun s container all => h.mem_collected, fun testIdAttribute => ?_,
    fun hcollapsed testIdAttribute other => ?_⟩
  · constructor
    · exact collapsed_of_answers
    · intro hcollapsed
      have hself : collapse text.toList = text.toList := by
        simpa [collapseWhitespace] using congrArg String.toList hcollapsed
      exact List.any_eq_true.2
        ⟨text.toList, h.mem_sourceTexts, TextMatch.whole_holds_iff.2 hself⟩
  · have hnone : ∀ n, other.answers testIdAttribute n (.text source text .whole) = false :=
      fun n => Bool.eq_false_iff.2 fun hn => hcollapsed (collapsed_of_answers hn)
    refine ⟨hnone, fun container hcontainer => ?_⟩
    rw [queryAll_eq_ok testIdAttribute hcontainer (by simp)]
    simp [hnone]

/-- A page with a text field. Its label has two spaces between the words, its placeholder one, and
its title a space that does not break. -/
def nameField : Document :=
  .ofSnapshot ⟨{ tag := "body" },
    [.element { tag := "label", attributes := .ofPairs [("for", "name")] } [.text " First  name "],
      .element { tag := "input", attributes := .ofPairs [("id", "name"),
        ("placeholder", "Your name"), ("title", "no\u00A0nickname")] } []]⟩

/-- The field is found by its placeholder; by its label and by its title nothing is found. -/
theorem answers_askedFor_nameField :
    (nameField.AsksFor ⟨3⟩ .placeholder "Your name" ∧
      nameField.answers "data-testid" ⟨3⟩ (.text .placeholder "Your name" .whole) = true) ∧
      (nameField.AsksFor ⟨3⟩ .label "First  name" ∧
        nameField.queryAll "data-testid" body (.text .label "First  name" .whole) = .ok []) ∧
      (nameField.AsksFor ⟨3⟩ .title "no\u00A0nickname" ∧
        nameField.queryAll "data-testid" body (.text .title "no\u00A0nickname" .whole) =
          .ok []) := by
  have hplaceholder : nameField.AsksFor ⟨3⟩ .placeholder "Your name" :=
    .placeholder (by decide +kernel) (by decide +kernel) (by decide)
  have hlabel : nameField.AsksFor ⟨3⟩ .label "First  name" := .label (by decide +kernel)
  have htitle : nameField.AsksFor ⟨3⟩ .title "no\u00A0nickname" :=
    .title (by decide +kernel) (by decide)
  obtain ⟨-, -, hfound, -⟩ := answers_askedFor_iff hplaceholder
  obtain ⟨-, -, -, hnoLabel⟩ := answers_askedFor_iff hlabel
  obtain ⟨-, -, -, hnoTitle⟩ := answers_askedFor_iff htitle
  have hbody : body.index < nameField.size := by decide +kernel
  refine ⟨⟨hplaceholder, (hfound _).2 (by decide +kernel)⟩, ⟨hlabel, ?_⟩, htitle, ?_⟩
  · exact (hnoLabel (by decide +kernel) _ _).2 body hbody
  · exact (hnoTitle (by decide +kernel) _ _).2 body hbody

end Document

end Recorder
