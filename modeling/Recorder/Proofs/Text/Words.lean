import Mathlib.Tactic.Common
import Recorder.Proofs.Text.Whitespace

/-!
# The words of a text

A word of a text is a run of characters that are not white space, as long as it can be. `HasWords`
says which words a text has without a scan: the text is cut behind white space and behind each word,
and a cut behind a word is at white space or at the end. A text can be cut in one way only, which is
what `words` finds (`hasWords_iff`): the word that is cut off first is the first one that the scan
finds (`words_append`), and a character that comes in front of a text that has been cut becomes part
of its first gap or of its first word, or a word of its own.

Collapsed texts are a normal form for this. `collapse_eq_iff` is the whole of it: collapsing a text
gives the one collapsed text that has the same words. That collapsing keeps the words, that it
changes nothing the second time, and that it tells two texts apart exactly if their words do, is
read off from there (`collapseWhitespace_normalizes`).
-/

namespace Recorder.Text

/-! ## Cutting a text into words -/

/-- Characters that can be a word: there are some, and none of them is white space. -/
structure IsWord (w : List Char) : Prop where
  /-- There is a character. -/
  ne_nil : w ≠ []
  /-- No character is white space. -/
  notWhite : ∀ c ∈ w, isWhiteSpace c = false

/-- A text has these words, in this order. -/
inductive HasWords : List Char → List (List Char) → Prop where
  /-- White space has no words. -/
  | blank {gap : List Char} (hgap : ∀ c ∈ gap, isWhiteSpace c = true) : HasWords gap []
  /-- Behind white space, if there is any, comes a word. It goes on until there is white space again
  or the text is over, and behind it come the words of the rest. -/
  | word {gap w rest : List Char} {ws : List (List Char)}
      (hgap : ∀ c ∈ gap, isWhiteSpace c = true) (hw : IsWord w)
      (hstop : ∀ c ∈ rest.head?, isWhiteSpace c = true) (hrest : HasWords rest ws) :
      HasWords (gap ++ (w ++ rest)) (w :: ws)

/-- No word starts where white space begins or the text is over. -/
theorem startsWord_eq_false_iff {cs : List Char} :
    startsWord cs = false ↔ ∀ c ∈ cs.head?, isWhiteSpace c = true := by
  cases cs <;> simp [startsWord]

/-- A word that goes on until there is white space, or the text is over, is the first one. -/
theorem words_append {w rest : List Char} (hw : IsWord w)
    (hstop : ∀ c ∈ rest.head?, isWhiteSpace c = true) : words (w ++ rest) = w :: words rest := by
  induction w with
  | nil => exact absurd rfl hw.ne_nil
  | cons c w ih =>
    obtain ⟨hc, hnotWhite⟩ := List.forall_mem_cons.1 hw.notWhite
    rw [List.cons_append, words_cons hc]
    cases w with
    | nil => rw [List.nil_append, startsWord_eq_false_iff.2 hstop, if_neg Bool.false_ne_true]
    | cons d w =>
      have hstart : startsWord (d :: w ++ rest) = true := by simp [startsWord, hnotWhite d]
      rw [if_pos hstart, ih ⟨List.cons_ne_nil d w, hnotWhite⟩, extendFirst]

/-- A text that starts with a word has no white space in front of it. -/
theorem gap_eq_nil {gap rest : List Char} (h : ∀ c ∈ gap, isWhiteSpace c = true)
    (hstart : startsWord (gap ++ rest) = true) : gap = [] := by
  cases gap with
  | nil => rfl
  | cons c gap => simp [startsWord, h c] at hstart

namespace HasWords

variable {cs w : List Char} {ws : List (List Char)}

/-- What a text has are words. -/
theorem isWord_of_mem (h : HasWords cs ws) (hmem : w ∈ ws) : IsWord w := by
  induction h with
  | blank => cases hmem
  | word _ hw _ _ ih =>
    rcases List.mem_cons.1 hmem with rfl | hmem
    · exact hw
    · exact ih hmem

/-- The words that a text has are those that the scan finds. -/
theorem words_eq (h : HasWords cs ws) : words cs = ws := by
  induction h with
  | blank hgap => exact words_eq_nil_iff.2 hgap
  | @word gap w rest ws hgap hw hstop _ ih =>
    calc words (gap ++ (w ++ rest)) = words (w ++ rest) := words_white_append hgap _
      _ = w :: words rest := words_append hw hstop
      _ = w :: ws := by rw [ih]

/-- White space in front of a text becomes part of its first gap. -/
theorem cons_white {c : Char} (hc : isWhiteSpace c = true) (h : HasWords cs ws) :
    HasWords (c :: cs) ws := by
  cases h with
  | blank hgap => exact .blank (List.forall_mem_cons.2 ⟨hc, hgap⟩)
  | word hgap hw hstop hrest => exact .word (List.forall_mem_cons.2 ⟨hc, hgap⟩) hw hstop hrest

/-- Any other character in front of white space is a word of its own. -/
theorem cons_single {c : Char} (hc : isWhiteSpace c = false) (hstop : startsWord cs = false)
    (h : HasWords cs ws) : HasWords (c :: cs) ([c] :: ws) := by
  have hgap : ∀ d ∈ ([] : List Char), isWhiteSpace d = true := fun _ hd => nomatch hd
  have hw : IsWord [c] := ⟨List.cons_ne_nil c [], by simpa using hc⟩
  exact .word hgap hw (startsWord_eq_false_iff.1 hstop) h

/-- In front of a word it becomes part of that word. -/
theorem cons_first {c : Char} (hc : isWhiteSpace c = false) (hstart : startsWord cs = true)
    (h : HasWords cs ws) : HasWords (c :: cs) (extendFirst c ws) := by
  cases h with
  | blank hgap =>
    -- There is no word in white space that the character could be a part of.
    obtain rfl : cs = [] := gap_eq_nil hgap (show startsWord (cs ++ []) = true by simpa)
    cases hstart
  | @word gap w rest ws hgap hw hstop hrest =>
    obtain rfl := gap_eq_nil hgap hstart
    have hlonger : IsWord (c :: w) :=
      ⟨List.cons_ne_nil c w, List.forall_mem_cons.2 ⟨hc, hw.notWhite⟩⟩
    exact .word hgap hlonger hstop hrest

end HasWords

/-- The scan cuts the text into its words. -/
theorem hasWords_words (cs : List Char) : HasWords cs (words cs) := by
  induction cs with
  | nil => exact .blank fun _ hc => nomatch hc
  | cons c cs ih =>
    cases hc : isWhiteSpace c with
    | true =>
      rw [words_cons_white hc]
      exact ih.cons_white hc
    | false =>
      rw [words_cons hc]
      cases hstart : startsWord cs with
      | true => exact ih.cons_first hc hstart
      | false => exact ih.cons_single hc hstart

/-- A text has the words that the scan finds, and no others. -/
theorem hasWords_iff {cs : List Char} {ws : List (List Char)} : HasWords cs ws ↔ words cs = ws :=
  ⟨HasWords.words_eq, fun h => h ▸ hasWords_words cs⟩

/-! ## A normal form for texts with the same words -/

/-- Two texts have the same words, in the same order. -/
def SameWords (cs ds : List Char) : Prop :=
  ∃ ws, HasWords cs ws ∧ HasWords ds ws

/-- Texts have the same words exactly if the scan finds the same. -/
theorem sameWords_iff {cs ds : List Char} : SameWords cs ds ↔ words cs = words ds := by
  simp only [SameWords, hasWords_iff, exists_eq_left']
  exact eq_comm

/-- What a text is collapsed to is the one collapsed text that has the same words. -/
theorem collapse_eq_iff {cs ds : List Char} :
    collapse cs = ds ↔ Collapsed ds ∧ SameWords cs ds := by
  constructor
  · rintro rfl
    exact ⟨collapsed_collapse cs, sameWords_iff.2 (words_collapse cs).symm⟩
  · rintro ⟨hds, hsame⟩
    calc collapse cs = collapse ds := by rw [collapse, collapse, sameWords_iff.1 hsame]
      _ = ds := hds.collapse_eq

/-- Two texts are collapsed to the same exactly if they have the same words. -/
theorem collapse_eq_collapse_iff {cs ds : List Char} :
    collapse cs = collapse ds ↔ SameWords cs ds := by
  rw [collapse_eq_iff, sameWords_iff, sameWords_iff, words_collapse]
  exact and_iff_right (collapsed_collapse ds)

/-- The characters of a collapsed string. -/
theorem toList_collapseWhitespace (s : String) :
    (collapseWhitespace s).toList = collapse s.toList :=
  String.toList_ofList

/-- Collapsing brings a text, which is cut at `White_Space` into words in one way, to a normal form:
collapsed, with the same words, and kept when it is collapsed again. Two texts have the same normal
form exactly if they have the same words. -/
theorem collapseWhitespace_normalizes (a b : String) :
    (∀ c, isWhiteSpace c = true ↔ ∃ r ∈ whiteSpaceRanges, r.1 ≤ c.toNat ∧ c.toNat ≤ r.2) ∧
      (∃! ws, HasWords a.toList ws) ∧
      Collapsed (collapseWhitespace a).toList ∧
      SameWords a.toList (collapseWhitespace a).toList ∧
      collapseWhitespace (collapseWhitespace a) = collapseWhitespace a ∧
      (collapseWhitespace a = collapseWhitespace b ↔ SameWords a.toList b.toList) := by
  -- On the lists of characters, `collapse_eq_iff` says what the normal form is.
  obtain ⟨hcollapsed, hsame⟩ := collapse_eq_iff.1 (toList_collapseWhitespace a).symm
  refine ⟨fun c => isWhiteSpace_iff, ?_, hcollapsed, hsame, ?_, ?_⟩
  · exact ⟨words a.toList, hasWords_words _, fun ws h => h.words_eq.symm⟩
  · rw [← String.toList_inj, toList_collapseWhitespace]
    exact hcollapsed.collapse_eq
  · rw [← String.toList_inj, toList_collapseWhitespace, toList_collapseWhitespace]
    exact collapse_eq_collapse_iff

/-- White space of any kind and number between words is one space. -/
example : collapseWhitespace "\u00A0two \u2003\t words\n" = "two words" := by decide

end Recorder.Text
