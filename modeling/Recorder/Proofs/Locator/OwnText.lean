import Mathlib.Tactic.Common
import Recorder.Proofs.Document.Order
import Recorder.Proofs.Locator.Synthesis
import Recorder.Proofs.Text.Case

/-!
# Finding an element by its own text

The candidate by text asks for the trimmed text of an element, or for the start of a long one, as it
stands in the document. What it is compared with depends on the text: of several lines only the ends
are trimmed, and they are compared in lower case; else all white space is collapsed, and unless the
text is long it has to be the same.

So several lines are always found by their start. A text of one line is found only if what is asked
for is collapsed already: if it is single-spaced (`holds_whole_iff`, `singleSpaced_of_holds_part`).
Lower case adds one exception, for long texts: no start is found that is cut behind a capital sigma
inside of a word, unless it occurs elsewhere. `mem_queryAll_textCandidate` puts this together.
-/

namespace Recorder

open Text (trim collapse lower SingleSpaced SplitsSigma hasPiece_iff lower_prefix)

/-! ## A text and its start -/

namespace TextMatch

variable {cs : List Char}

/-- A text of several lines has its start, unless this is cut behind a sigma. -/
theorem holds_lines_take {n : Nat} (h : ¬ SplitsSigma ((trim cs).take n) ((trim cs).drop n)) :
    lines.holds cs ((trim cs).take n) = true := by
  have hprefix := lower_prefix h
  rw [List.take_append_drop] at hprefix
  exact hasPiece_iff.2 hprefix.isInfix

/-- A text is found as a whole exactly if it is single-spaced between its ends. -/
theorem holds_whole_iff (h : trim cs ≠ []) :
    whole.holds cs (trim cs) = true ↔ SingleSpaced (trim cs) := by
  show (collapse cs == trim cs) = true ↔ SingleSpaced (trim cs)
  rw [beq_iff_eq, ← Text.collapse_trim]
  exact Text.collapse_eq_self_iff (Text.startsWord_trim h) (Text.endsWord_trim cs)

/-- A part of a text with white space collapsed is single-spaced, whatever its letter case. -/
theorem singleSpaced_of_holds_part {wanted : List Char} (h : part.holds cs wanted = true) :
    SingleSpaced wanted := by
  have hpiece : lower wanted <:+: lower (collapse cs) := hasPiece_iff.1 h
  have hlower : SingleSpaced (lower (collapse cs)) :=
    Text.singleSpaced_lower_iff.2 (Text.singleSpaced_collapse cs)
  exact Text.singleSpaced_lower_iff.1 (hlower.of_isInfix hpiece)

/-- A text with white space collapsed has its single-spaced start, unless this is cut behind a
sigma. -/
theorem holds_part_take (htext : trim cs ≠ []) {n : Nat} (hstart : SingleSpaced ((trim cs).take n))
    (h : ¬ SplitsSigma ((trim cs).take n) ((trim cs).drop n)) :
    part.holds cs ((trim cs).take n) = true := by
  have hword := Text.startsWord_trim htext
  have hend := Text.endsWord_trim cs
  rw [← List.take_append_drop n (trim cs)] at hword hend
  obtain ⟨rest, hcollapse, hsplits⟩ := Text.exists_collapse_eq_append hword hend hstart
  rw [List.take_append_drop, Text.collapse_trim] at hcollapse
  have hprefix : lower ((trim cs).take n) <+: lower (collapse cs) := by
    rw [hcollapse]
    exact lower_prefix fun hrest => h (hsplits hrest)
  exact hasPiece_iff.2 hprefix.isInfix

end TextMatch

namespace Document

/-! ## The candidate by text -/

/-- How a text is compared with what is asked for. -/
def ownTextOptions (text : List Char) : TextMatch :=
  if '\n' ∈ text then .lines else if text.length ≤ maxTextLength then .whole else .part

/-- The candidate of a text asks for as much of it as is looked for at most. -/
theorem candidateOfText?_eq {text : List Char} (h : text ≠ []) :
    candidateOfText? text = some
      ⟨if text.length ≤ maxTextLength then .textExact else .textPartial,
        .text .content (String.ofList (text.take maxTextLength)) (ownTextOptions text)⟩ := by
  have hempty : ¬ text.isEmpty = true := fun hempty => h (List.isEmpty_iff.1 hempty)
  rw [candidateOfText?, if_neg hempty, ownTextOptions]
  by_cases hlength : text.length ≤ maxTextLength
  · rw [if_pos hlength, if_pos hlength, if_pos hlength, List.take_of_length_le hlength]
  · rw [if_neg hlength, if_neg hlength, if_neg hlength]

/-- What the candidate asks for is in the text only if that has several lines, or is single-spaced
as far as it is looked for. -/
theorem of_holds_ownTextOptions {cs : List Char} (htext : trim cs ≠ [])
    (h : (ownTextOptions (trim cs)).holds cs ((trim cs).take maxTextLength) = true) :
    '\n' ∈ trim cs ∨ SingleSpaced ((trim cs).take maxTextLength) := by
  rw [ownTextOptions] at h
  split_ifs at h with hlines hlength
  · exact .inl hlines
  · rw [List.take_of_length_le hlength] at h ⊢
    exact .inr ((TextMatch.holds_whole_iff htext).1 h)
  · exact .inr (TextMatch.singleSpaced_of_holds_part h)

/-- What the candidate asks for is in a text of several lines, and in one that is single-spaced as
far as it is looked for, unless the text is cut behind a sigma. -/
theorem holds_ownTextOptions {cs : List Char} (htext : trim cs ≠ [])
    (h : '\n' ∈ trim cs ∨ SingleSpaced ((trim cs).take maxTextLength))
    (hcut : ¬ SplitsSigma ((trim cs).take maxTextLength) ((trim cs).drop maxTextLength)) :
    (ownTextOptions (trim cs)).holds cs ((trim cs).take maxTextLength) = true := by
  rw [ownTextOptions]
  split_ifs with hlines hlength
  · exact TextMatch.holds_lines_take hcut
  · have hspaced := h.resolve_left hlines
    rw [List.take_of_length_le hlength] at hspaced ⊢
    exact (TextMatch.holds_whole_iff htext).2 hspaced
  · exact TextMatch.holds_part_take htext (h.resolve_left hlines) hcut

variable {doc : Document} {container id : NodeId}

/-- An element inside of a container that has a text of its own, and a tag whose texts are read. -/
structure HasOwnText (doc : Document) (container id : NodeId) : Prop where
  /-- The node is an element. -/
  element : doc.isElement id = true
  /-- It is not the container itself. -/
  ne : id ≠ container
  /-- The container is around it. -/
  inside : doc.contains container id = true
  /-- It is no script and no style. -/
  read : ∀ tag ∈ unreadTags, doc.tag? id ≠ some tag
  /-- The text in it is not blank. -/
  text : trim (doc.nodeText id) ≠ []

/-- A query by text asks such an element for its own text. -/
theorem HasOwnText.mem_queryAll_iff (h : doc.HasOwnText container id) (hdoc : Built doc)
    (testIdAttribute wanted : String) (options : TextMatch) :
    ∃ found, doc.queryAll testIdAttribute container (.text .content wanted options) = .ok found ∧
      (id ∈ found ↔ options.holds (doc.nodeText id) wanted.toList = true) := by
  have hcontainer : container.index < doc.size := by
    rcases List.mem_cons.1 (contains_iff.1 h.inside) with heq | hmem
    · exact absurd heq.symm h.ne
    · exact Nat.lt_trans (index_lt_of_mem_ancestors hmem) (lt_size_of_isElement h.element)
  have hdescendant : id ∈ doc.descendants container :=
    hdoc.isTree.mem_descendants_iff_contains.2 ⟨h.element, h.ne, h.inside⟩
  have htexts : doc.sourceTexts id .content = [doc.nodeText id] := by
    rw [sourceTexts]
    refine if_neg fun hunread => ?_
    obtain ⟨tag, htag, hmem⟩ := (Option.any_eq_true _ _).1 hunread
    exact h.read tag (List.contains_iff_mem.1 hmem) htag
  refine ⟨_, queryAll_eq_ok testIdAttribute hcontainer (by simp), ?_⟩
  rw [List.mem_filter, answers, htexts]
  simp [hdescendant]

/-- The candidate by text of an element inside of a container finds the element: only if the text
has several lines or is single-spaced as far as it is looked for, and then always, unless the text
is cut behind a capital sigma inside of a word. -/
theorem mem_queryAll_textCandidate (hdoc : Built doc) (h : doc.HasOwnText container id)
    (testIdAttribute : String) :
    ∃ c found, doc.textCandidate? id = some c ∧
      doc.queryAll testIdAttribute container c.query = .ok found ∧
      (id ∈ found → '\n' ∈ trim (doc.nodeText id) ∨
        SingleSpaced ((trim (doc.nodeText id)).take 80)) ∧
      ('\n' ∈ trim (doc.nodeText id) ∨
          SingleSpaced ((trim (doc.nodeText id)).take 80) →
        ¬ SplitsSigma ((trim (doc.nodeText id)).take 80)
          ((trim (doc.nodeText id)).drop 80) →
        id ∈ found) := by
  obtain ⟨found, hquery, hfound⟩ := h.mem_queryAll_iff hdoc testIdAttribute
    (String.ofList ((trim (doc.nodeText id)).take maxTextLength))
    (ownTextOptions (trim (doc.nodeText id)))
  rw [String.toList_ofList] at hfound
  refine ⟨_, found, candidateOfText?_eq h.text, hquery, fun hmem => ?_, fun hspaced hcut => ?_⟩
  · exact of_holds_ownTextOptions h.text (hfound.1 hmem)
  · exact hfound.2 (holds_ownTextOptions h.text hspaced hcut)

/-- A word as long as texts are looked for, with a capital sigma at its end. -/
def sigmaWord : List Char :=
  List.replicate 78 'x' ++ ['Α', 'Σ']

/-- A page with three paragraphs: two words with two spaces between them, a word that goes on behind
the capital sigma that is the last to be looked for, and one that ends there, with two spaces and
another word behind it. -/
def paragraphs : Document :=
  .ofSnapshot ⟨{ tag := "body" }, [.element { tag := "p" } [.text "a  b"],
    .element { tag := "p" } [.text (String.ofList (sigmaWord ++ ['Α']))],
    .element { tag := "p" } [.text (String.ofList (' ' :: sigmaWord ++ [' ', ' ', 'Α']))]]⟩

/-- All three paragraphs have a text of their own. -/
theorem hasOwnText_paragraphs :
    ∀ id ∈ [(⟨1⟩ : NodeId), ⟨3⟩, ⟨5⟩], paragraphs.HasOwnText body id := by
  have hfields : ∀ id ∈ [(⟨1⟩ : NodeId), ⟨3⟩, ⟨5⟩],
      paragraphs.isElement id = true ∧ id ≠ body ∧ paragraphs.contains body id = true ∧
        (∀ tag ∈ unreadTags, paragraphs.tag? id ≠ some tag) ∧
        trim (paragraphs.nodeText id) ≠ [] := by
    decide +kernel
  intro id hid
  obtain ⟨element, ne, inside, read, text⟩ := hfields id hid
  exact ⟨element, ne, inside, read, text⟩

/-- The paragraph with the word that ends at the sigma is found by its candidate. -/
theorem mem_queryAll_textCandidate_paragraphs :
    Built paragraphs ∧ paragraphs.HasOwnText body ⟨5⟩ ∧
      trim (paragraphs.nodeText ⟨5⟩) = sigmaWord ++ [' ', ' ', 'Α'] ∧
      ∃ c found, paragraphs.textCandidate? ⟨5⟩ = some c ∧
        paragraphs.queryAll "data-testid" body c.query = .ok found ∧ (⟨5⟩ : NodeId) ∈ found := by
  have hbuilt : Built paragraphs := .ofSnapshot _
  have hown := hasOwnText_paragraphs ⟨5⟩ (by decide)
  have htext : trim (paragraphs.nodeText ⟨5⟩) = sigmaWord ++ [' ', ' ', 'Α'] := by decide +kernel
  have hlength : sigmaWord.length = 80 := by decide
  obtain ⟨c, found, hc, hquery, -, hfound⟩ := mem_queryAll_textCandidate hbuilt hown "data-testid"
  rw [htext, List.take_left' hlength, List.drop_left' hlength] at hfound
  have hspaced : SingleSpaced sigmaWord := by
    have hword : sigmaWord.all (fun c => !Text.isWhiteSpace c) = true := by decide
    rw [← List.append_nil sigmaWord]
    exact .append (by simpa using hword) .nil
  have hcut : ¬ SplitsSigma sigmaWord [' ', ' ', 'Α'] := by
    rintro ⟨-, -, -, -, -, hahead⟩
    rw [Text.casedAhead_cons_white (by decide)] at hahead
    cases hahead
  exact ⟨hbuilt, hown, htext, c, found, hc, hquery, hfound (.inr hspaced) hcut⟩

/-- The other two paragraphs are not found by their candidates: the two spaces are not found at all,
and of the words with the sigma only the one that ends with it is. -/
theorem notMem_queryAll_textCandidate_paragraphs :
    Built paragraphs ∧
      (paragraphs.HasOwnText body ⟨1⟩ ∧
        paragraphs.textCandidate? ⟨1⟩ = some ⟨.textExact, .text .content "a  b" .whole⟩ ∧
        paragraphs.queryAll "data-testid" body (.text .content "a  b" .whole) = .ok []) ∧
      (paragraphs.HasOwnText body ⟨3⟩ ∧
        paragraphs.textCandidate? ⟨3⟩ =
          some ⟨.textPartial, .text .content (String.ofList sigmaWord) .part⟩ ∧
        paragraphs.queryAll "data-testid" body (.text .content (String.ofList sigmaWord) .part) =
          .ok [⟨5⟩]) := by
  refine ⟨.ofSnapshot _, ⟨hasOwnText_paragraphs ⟨1⟩ (by decide), ?_, ?_⟩,
    hasOwnText_paragraphs ⟨3⟩ (by decide), ?_, ?_⟩
  · decide +kernel
  · exact eq_ok_of_toOption_eq_some (by decide +kernel)
  · decide +kernel
  · exact eq_ok_of_toOption_eq_some (by decide +kernel)

end Document

end Recorder
