import Mathlib.Data.List.Infix
import Mathlib.Data.List.TakeWhile
import Mathlib.Tactic.Common
import Recorder.Text.Whitespace

/-!
# Collapsed texts

A text is collapsed as soon as it has no white space at its ends (`startsWord`, `EndsWord`), and
inside of it only spaces, none next to another (`SingleSpaced`); `Collapsed` puts this together.
`collapse_eq_self_iff` says so for trimmed texts, and `spaced_append` is the statement behind it
that goes through an induction: as far as a text is single-spaced it stays as it is, whatever
follows. White space in front of what follows makes a difference there, so the induction is about
`spaced`, which keeps one space for it. The words of a text are those of the collapsed text
(`words_collapse`), so collapsing twice is collapsing once.
-/

namespace Recorder.Text

/-! ## White space -/

/-- A character of a class is in one of its ranges. -/
theorem CharClass.exists_mem_of_hasCode {n : Nat} {ranges : CharClass}
    (h : ranges.hasCode n = true) : ∃ r ∈ ranges, r.1 ≤ n ∧ n ≤ r.2 := by
  induction ranges with
  | nil => cases h
  | cons r ranges ih =>
    obtain ⟨first, last⟩ := r
    rw [hasCode] at h
    split at h
    · cases h
    · rename_i hfirst
      rcases Bool.or_eq_true_iff.1 h with hlast | hrest
      · exact ⟨(first, last), List.mem_cons_self, Nat.le_of_not_lt hfirst, of_decide_eq_true hlast⟩
      · obtain ⟨r, hr, hn⟩ := ih hrest
        exact ⟨r, List.mem_cons_of_mem _ hr, hn⟩

/-- A class whose ranges are in increasing order has the code points of all its ranges, although a
test stops at the first range that begins beyond the code point. -/
theorem CharClass.hasCode_iff {n : Nat} {ranges : CharClass} (h : ranges.Pairwise (·.1 ≤ ·.1)) :
    ranges.hasCode n = true ↔ ∃ r ∈ ranges, r.1 ≤ n ∧ n ≤ r.2 := by
  refine ⟨exists_mem_of_hasCode, ?_⟩
  rintro ⟨r, hr, hfirst, hlast⟩
  induction ranges with
  | nil => cases hr
  | cons s ranges ih =>
    obtain ⟨hbehind, hrest⟩ := List.pairwise_cons.1 h
    rcases List.mem_cons.1 hr with rfl | hr
    · rw [hasCode, if_neg (Nat.not_lt.2 hfirst), decide_eq_true hlast, Bool.true_or]
    · -- The first range begins no later than the one that has the code point.
      have hbegins : s.1 ≤ n := (hbehind r hr).trans hfirst
      rw [hasCode, if_neg (Nat.not_lt.2 hbegins), ih hrest hr, Bool.or_true]

/-- A character is white space exactly if it is in one of the ranges. -/
theorem isWhiteSpace_iff {c : Char} :
    isWhiteSpace c = true ↔ ∃ r ∈ whiteSpaceRanges, r.1 ≤ c.toNat ∧ c.toNat ≤ r.2 :=
  CharClass.hasCode_iff (by decide)

/-! ## Words -/

/-- White space in front of a text adds no word. -/
theorem words_cons_white {c : Char} (h : isWhiteSpace c = true) (cs : List Char) :
    words (c :: cs) = words cs := by
  rw [words, if_pos h]

/-- Any other character is part of the first word. -/
theorem words_cons {c : Char} (h : isWhiteSpace c = false) (cs : List Char) :
    words (c :: cs) = if startsWord cs then extendFirst c (words cs) else [c] :: words cs := by
  rw [words, if_neg (by simp [h])]

/-- A text without words is white space. -/
theorem words_eq_nil_iff {cs : List Char} : words cs = [] ↔ ∀ c ∈ cs, isWhiteSpace c = true := by
  induction cs with
  | nil => simp [words]
  | cons c cs ih =>
    cases hc : isWhiteSpace c with
    | true => simp [words_cons_white hc, ih, hc]
    | false =>
      have hwords : words (c :: cs) ≠ [] := by
        rw [words_cons hc]
        split
        · cases words cs <;> simp [extendFirst]
        · simp
      exact iff_of_false hwords fun h => by simp [hc] at h

/-- White space behind a text adds no word. -/
theorem words_append_white (cs : List Char) {ds : List Char}
    (h : ∀ d ∈ ds, isWhiteSpace d = true) : words (cs ++ ds) = words cs := by
  have hstart : ∀ es : List Char, startsWord (es ++ ds) = startsWord es
    | [] => by
      cases ds with
      | nil => rfl
      | cons d ds => simp [startsWord, h d List.mem_cons_self]
    | e :: es => rfl
  induction cs with
  | nil => exact words_eq_nil_iff.2 h
  | cons c cs ih => rw [List.cons_append, words, words, ih, hstart]

/-- White space in front of a text adds no word, however much of it there is. -/
theorem words_white_append {gap : List Char} (h : ∀ c ∈ gap, isWhiteSpace c = true)
    (cs : List Char) : words (gap ++ cs) = words cs := by
  induction gap with
  | nil => rfl
  | cons c gap ih =>
    obtain ⟨hc, hgap⟩ := List.forall_mem_cons.1 h
    rw [List.cons_append, words_cons_white hc, ih hgap]

/-- Without the white space at its start a text has the same words. -/
theorem words_trimStart (cs : List Char) : words (trimStart cs) = words cs := by
  have hwhite : ∀ c ∈ cs.takeWhile isWhiteSpace, isWhiteSpace c = true :=
    fun _ hc => List.mem_takeWhile_imp hc
  calc words (trimStart cs) = words (cs.takeWhile isWhiteSpace ++ trimStart cs) :=
        (words_white_append hwhite _).symm
    _ = words cs := by rw [trimStart, List.takeWhile_append_dropWhile]

/-- What is left at the start of a text, and the white space that is taken off its end. -/
theorem exists_eq_trimEnd_append (cs : List Char) :
    ∃ ds, cs = trimEnd cs ++ ds ∧ ∀ d ∈ ds, isWhiteSpace d = true := by
  refine ⟨(cs.reverse.takeWhile isWhiteSpace).reverse, ?_, fun d hd => ?_⟩
  · calc cs = (cs.reverse.takeWhile isWhiteSpace ++ cs.reverse.dropWhile isWhiteSpace).reverse := by
          rw [List.takeWhile_append_dropWhile, List.reverse_reverse]
      _ = trimEnd cs ++ (cs.reverse.takeWhile isWhiteSpace).reverse := List.reverse_append
  · exact List.mem_takeWhile_imp (List.mem_reverse.1 hd)

/-- A trimmed text has the words that the text has. -/
theorem words_trim (cs : List Char) : words (trim cs) = words cs := by
  obtain ⟨ds, hds, hwhite⟩ := exists_eq_trimEnd_append (trimStart cs)
  calc words (trim cs) = words (trimEnd (trimStart cs) ++ ds) := (words_append_white _ hwhite).symm
    _ = words (trimStart cs) := by rw [← hds]
    _ = words cs := words_trimStart cs

/-- A text is collapsed as it is when it has been trimmed. -/
theorem collapse_trim (cs : List Char) : collapse (trim cs) = collapse cs := by
  rw [collapse, words_trim, collapse]

/-! ## Trimmed texts -/

/-- A text does not end with white space. -/
def EndsWord (cs : List Char) : Prop :=
  ∀ c ∈ cs.getLast?, isWhiteSpace c = false

/-- What ends with a word does so without its first character. -/
theorem EndsWord.of_cons {c : Char} {cs : List Char} (h : EndsWord (c :: cs)) : EndsWord cs := by
  cases cs with
  | nil => exact fun _ hd => nomatch hd
  | cons d cs => exact fun e he => h e (by rwa [List.getLast?_cons_cons])

/-- A text in front of which a character stands ends as before, if it is not empty. -/
theorem EndsWord.cons {c : Char} {cs : List Char} (h : EndsWord cs)
    (hc : cs = [] → isWhiteSpace c = false) : EndsWord (c :: cs) := by
  cases cs with
  | nil =>
    rintro _ ⟨⟩
    exact hc rfl
  | cons d cs => exact fun e he => h e (by rwa [List.getLast?_cons_cons] at he)

/-- Where a text ends with a word, there is one behind white space at its start. -/
theorem EndsWord.words_ne_nil {c : Char} {cs : List Char} (hc : isWhiteSpace c = true)
    (h : EndsWord (c :: cs)) : words cs ≠ [] := by
  intro hwords
  have hwhite : ∀ d ∈ c :: cs, isWhiteSpace d = true :=
    List.forall_mem_cons.2 ⟨hc, words_eq_nil_iff.1 hwords⟩
  have hlast : isWhiteSpace ((c :: cs).getLast (by simp)) = false :=
    h _ (List.getLast?_eq_some_getLast (by simp))
  rw [hwhite _ (List.getLast_mem _)] at hlast
  cases hlast

/-- A trimmed text ends with a word. -/
theorem endsWord_trim (cs : List Char) : EndsWord (trim cs) := by
  intro c hc
  rw [trim, trimEnd, List.getLast?_reverse] at hc
  have hhead := List.head?_dropWhile_not isWhiteSpace (trimStart cs).reverse
  rw [hc] at hhead
  simpa using hhead

/-- A trimmed text that is not empty starts with a word. -/
theorem startsWord_trim {cs : List Char} (h : trim cs ≠ []) : startsWord (trim cs) = true := by
  obtain ⟨ds, hds, -⟩ := exists_eq_trimEnd_append (trimStart cs)
  have hhead := List.head?_dropWhile_not isWhiteSpace cs
  cases htrim : trim cs with
  | nil => exact absurd htrim h
  | cons c rest =>
    have hstart : cs.dropWhile isWhiteSpace = c :: (rest ++ ds) := by
      rw [← List.cons_append, ← htrim]
      exact hds
    rw [hstart, List.head?_cons] at hhead
    simpa [startsWord] using hhead

/-- A text stays as it is when it is trimmed if no white space is at its ends. -/
theorem trim_eq_self {cs : List Char} (hstart : ∀ c ∈ cs.head?, isWhiteSpace c = false)
    (hend : EndsWord cs) : trim cs = cs := by
  have hkept {ds : List Char} (h : ∀ d ∈ ds.head?, isWhiteSpace d = false) :
      ds.dropWhile isWhiteSpace = ds := by
    cases ds with
    | nil => rfl
    | cons d ds => exact List.dropWhile_cons_of_neg (by simp [h d rfl])
  have hreverse : ∀ c ∈ cs.reverse.head?, isWhiteSpace c = false := by
    rw [List.head?_reverse]
    exact hend
  rw [trim, trimStart, hkept hstart, trimEnd, hkept hreverse, List.reverse_reverse]

/-! ## Single spaces -/

/-- All white space in a text is spaces, and no two of them are next to each other. -/
structure SingleSpaced (cs : List Char) : Prop where
  /-- All white space is spaces. -/
  spaces : ∀ c ∈ cs, isWhiteSpace c = true → c = ' '
  /-- No space is next to another. -/
  apart : ¬ [' ', ' '] <:+: cs

namespace SingleSpaced

/-- A piece of a single-spaced text is single-spaced. -/
theorem of_isInfix {cs ds : List Char} (h : SingleSpaced ds) (hpiece : cs <:+: ds) :
    SingleSpaced cs where
  spaces c hc := h.spaces c (hpiece.subset hc)
  apart hspaces := h.apart (hspaces.trans hpiece)

/-- No spaces are next to each other where nothing is. -/
theorem nil : SingleSpaced [] where
  spaces _ hc := nomatch hc
  apart h := by simp at h

/-- A character that is not white space may stand in front. -/
theorem cons {c : Char} (hc : isWhiteSpace c = false) {cs : List Char} (h : SingleSpaced cs) :
    SingleSpaced (c :: cs) where
  spaces := List.forall_mem_cons.2 ⟨fun hwhite => by simp [hc] at hwhite, h.spaces⟩
  apart hspaces := by
    rcases List.infix_cons_iff.1 hspaces with hstart | hinside
    · obtain ⟨rfl, -⟩ := List.cons_prefix_cons.1 hstart
      exact absurd hc (by decide)
    · exact h.apart hinside

/-- Characters that are not white space may stand in front. -/
theorem append {cs ds : List Char} (hcs : ∀ c ∈ cs, isWhiteSpace c = false) (h : SingleSpaced ds) :
    SingleSpaced (cs ++ ds) := by
  induction cs with
  | nil => exact h
  | cons c cs ih =>
    obtain ⟨hc, hcs⟩ := List.forall_mem_cons.1 hcs
    exact (ih hcs).cons hc

/-- A space may stand in front of anything but white space. -/
theorem space_cons {cs : List Char} (hword : ∀ c ∈ cs.head?, isWhiteSpace c = false)
    (h : SingleSpaced cs) : SingleSpaced (' ' :: cs) where
  spaces := List.forall_mem_cons.2 ⟨fun _ => rfl, h.spaces⟩
  apart hspaces := by
    rcases List.infix_cons_iff.1 hspaces with hstart | hinside
    · obtain ⟨-, rest, rfl⟩ := List.cons_prefix_cons.1 hstart
      exact absurd (hword ' ' rfl) (by decide)
    · exact h.apart hinside

/-- A word follows a space. -/
theorem isWhiteSpace_of_space_cons {c : Char} {cs : List Char} (h : SingleSpaced (' ' :: c :: cs)) :
    isWhiteSpace c = false := by
  cases hc : isWhiteSpace c with
  | false => rfl
  | true =>
    obtain rfl := h.spaces c (by simp) hc
    exact absurd ⟨[], cs, rfl⟩ h.apart

end SingleSpaced

/-! ## Collapsing -/

/-- The words of a text with one space between each two, and one in front of them where the text
starts with white space. -/
def spaced (cs : List Char) : List Char :=
  if startsWord cs || (words cs).isEmpty then collapse cs else ' ' :: collapse cs

/-- What is collapsed is there behind the space as well. -/
theorem collapse_infix_spaced (cs : List Char) : collapse cs <:+: spaced cs := by
  rw [spaced]
  split
  · exact List.infix_refl _
  · exact List.infix_cons (List.infix_refl _)

/-- A word at the start keeps its first character. -/
theorem collapse_cons {c : Char} (h : isWhiteSpace c = false) (cs : List Char) :
    collapse (c :: cs) = c :: spaced cs := by
  rw [collapse, words_cons h, spaced, collapse]
  cases hstart : startsWord cs <;> cases hwords : words cs <;>
    simp [extendFirst, List.intercalate_cons_cons]

/-- White space at the start is left out. -/
theorem collapse_cons_white {c : Char} (h : isWhiteSpace c = true) (cs : List Char) :
    collapse (c :: cs) = collapse cs := by
  rw [collapse, words_cons_white h, collapse]

/-- No space is in front of a word at the start. -/
theorem spaced_of_startsWord {cs : List Char} (h : startsWord cs = true) :
    spaced cs = collapse cs := by
  rw [spaced, h, Bool.true_or, if_pos rfl]

/-- A word at the start keeps its first character, as it does where the text is collapsed. -/
theorem spaced_cons {c : Char} (h : isWhiteSpace c = false) (cs : List Char) :
    spaced (c :: cs) = c :: spaced cs := by
  have hword : startsWord (c :: cs) = true := by simp [startsWord, h]
  rw [spaced_of_startsWord hword, collapse_cons h]

/-- White space at the start is one space if there is a word behind it. -/
theorem spaced_cons_white {c : Char} (h : isWhiteSpace c = true) {cs : List Char}
    (hwords : words cs ≠ []) : spaced (c :: cs) = ' ' :: collapse cs := by
  have hword : startsWord (c :: cs) = false := by simp [startsWord, h]
  rw [spaced, hword, words_cons_white h, List.isEmpty_eq_false_iff.2 hwords, collapse_cons_white h]
  rfl

/-- White space alone is left out. -/
theorem spaced_of_words_eq_nil {cs : List Char} (h : words cs = []) : spaced cs = [] := by
  rw [spaced, h, List.isEmpty_nil, Bool.or_true, if_pos rfl, collapse, h]
  rfl

/-- What is collapsed does not start with white space. -/
theorem isWhiteSpace_head?_collapse (cs : List Char) :
    ∀ c ∈ (collapse cs).head?, isWhiteSpace c = false := by
  induction cs with
  | nil => exact fun _ hc => nomatch hc
  | cons c cs ih =>
    cases hc : isWhiteSpace c with
    | true =>
      rw [collapse_cons_white hc]
      exact ih
    | false =>
      rw [collapse_cons hc]
      rintro _ ⟨⟩
      exact hc

/-- What is collapsed is single-spaced, and so it is with the space in front of it. -/
theorem singleSpaced_spaced (cs : List Char) : SingleSpaced (spaced cs) := by
  induction cs with
  | nil => exact .nil
  | cons c cs ih =>
    cases hc : isWhiteSpace c with
    | false =>
      rw [spaced_cons hc]
      exact ih.cons hc
    | true =>
      by_cases hwords : words cs = []
      · rw [spaced_of_words_eq_nil (by rwa [words_cons_white hc])]
        exact .nil
      · -- The rest with the space in front of it, and the rest alone, is collapsed to one text.
        have hrest : SingleSpaced (collapse cs) := ih.of_isInfix (collapse_infix_spaced cs)
        rw [spaced_cons_white hc hwords]
        exact hrest.space_cons (isWhiteSpace_head?_collapse cs)

/-- What is collapsed is single-spaced. -/
theorem singleSpaced_collapse (cs : List Char) : SingleSpaced (collapse cs) :=
  (singleSpaced_spaced cs).of_isInfix (collapse_infix_spaced cs)

/-- The space in front of what is collapsed adds no word. -/
theorem words_spaced (cs : List Char) : words (spaced cs) = words (collapse cs) := by
  rw [spaced]
  split
  · rfl
  · exact words_cons_white rfl _

/-- A word at the start stays there, and white space at the start stays in front of the words. -/
theorem startsWord_spaced (cs : List Char) : startsWord (spaced cs) = startsWord cs := by
  cases cs with
  | nil => rfl
  | cons c cs =>
    cases hc : isWhiteSpace c with
    | false => rw [spaced_cons hc, startsWord, startsWord]
    | true =>
      have hword : startsWord (c :: cs) = false := by simp [startsWord, hc]
      rw [hword]
      by_cases hwords : words cs = []
      · rw [spaced_of_words_eq_nil (by rwa [words_cons_white hc])]
        rfl
      · rw [spaced_cons_white hc hwords]
        rfl

/-- What is collapsed has the words that the text has. -/
theorem words_collapse (cs : List Char) : words (collapse cs) = words cs := by
  induction cs with
  | nil => rfl
  | cons c cs ih =>
    cases hc : isWhiteSpace c with
    | true => rw [collapse_cons_white hc, ih, words_cons_white hc]
    | false =>
      -- Whether the first word goes on behind its first character is seen by the space kept there.
      have hrest : words (spaced cs) = words cs := (words_spaced cs).trans ih
      rw [collapse_cons hc, words_cons hc, words_cons hc, startsWord_spaced, hrest]

/-- Collapsing is a projection: what is collapsed stays as it is. -/
theorem collapse_collapse (cs : List Char) : collapse (collapse cs) = collapse cs := by
  rw [collapse, words_collapse, collapse]

/-- What is collapsed is not empty where there is a word. -/
theorem collapse_ne_nil {cs : List Char} (h : words cs ≠ []) : collapse cs ≠ [] := by
  intro hnil
  rw [← words_collapse, hnil] at h
  exact h rfl

/-- Without the space in front of it, what is collapsed ends as before. -/
theorem EndsWord.of_spaced {cs : List Char} (h : EndsWord (spaced cs)) :
    EndsWord (collapse cs) := by
  rw [spaced] at h
  split at h
  · exact h
  · exact h.of_cons

/-- What is collapsed does not end with white space, and so it is with the space in front of it. -/
theorem endsWord_spaced (cs : List Char) : EndsWord (spaced cs) := by
  induction cs with
  | nil => exact fun _ hc => nomatch hc
  | cons c cs ih =>
    cases hc : isWhiteSpace c with
    | false =>
      rw [spaced_cons hc]
      exact ih.cons fun _ => hc
    | true =>
      by_cases hwords : words cs = []
      · rw [spaced_of_words_eq_nil (by rwa [words_cons_white hc])]
        exact fun _ hd => nomatch hd
      · rw [spaced_cons_white hc hwords]
        exact ih.of_spaced.cons fun hnil => absurd hnil (collapse_ne_nil hwords)

/-- As far as a text is single-spaced it stays as it is, and what follows is collapsed; white space
in front of that is one space, unless there is a space already. -/
theorem spaced_append {cs ds : List Char} (h : SingleSpaced cs) (hend : EndsWord (cs ++ ds)) :
    spaced (cs ++ ds) = cs ++ if cs.getLast? = some ' ' then collapse ds else spaced ds := by
  induction cs with
  | nil => rfl
  | cons c cs ih =>
    have hrest : SingleSpaced cs := h.of_isInfix (List.suffix_cons c cs).isInfix
    have htail := ih hrest hend.of_cons
    rw [List.cons_append] at hend ⊢
    cases hc : isWhiteSpace c with
    | false =>
      have hlast : (c :: cs).getLast? = some ' ' ↔ cs.getLast? = some ' ' := by
        cases cs with
        | nil =>
          have hne : c ≠ ' ' := by
            rintro rfl
            exact absurd hc (by decide)
          simp [hne]
        | cons d cs => rw [List.getLast?_cons_cons]
      simp only [spaced_cons hc, htail, hlast, List.cons_append]
    | true =>
      obtain rfl := h.spaces c List.mem_cons_self hc
      rw [spaced_cons_white hc (hend.words_ne_nil hc), List.cons_append]
      cases cs with
      | nil => rfl
      | cons d cs =>
        -- A word follows the space, so no space is put in front of the rest.
        have hword : startsWord ((d :: cs) ++ ds) = true := by
          simp [startsWord, h.isWhiteSpace_of_space_cons]
        rw [← spaced_of_startsWord hword, htail, List.getLast?_cons_cons]

/-- A text that starts and ends with words is collapsed to itself exactly if it is single-spaced. -/
theorem collapse_eq_self_iff {cs : List Char} (hstart : startsWord cs = true) (hend : EndsWord cs) :
    collapse cs = cs ↔ SingleSpaced cs := by
  constructor
  · intro h
    rw [← h]
    exact singleSpaced_collapse cs
  · intro h
    have hspaced : spaced (cs ++ []) = _ := spaced_append h (by rwa [List.append_nil])
    rw [List.append_nil, spaced_of_startsWord hstart] at hspaced
    simpa [collapse, spaced, words] using hspaced

/-- A text in which white space only sets words apart, and does so with one space between each two.
-/
structure Collapsed (cs : List Char) : Prop where
  /-- No white space is at the start. -/
  starts : ∀ c ∈ cs.head?, isWhiteSpace c = false
  /-- No white space is at the end. -/
  ends : EndsWord cs
  /-- All white space inside of the text is spaces, and none is next to another. -/
  single : SingleSpaced cs

/-- What is collapsed has single spaces between words, and no white space at its ends. -/
theorem collapsed_collapse (cs : List Char) : Collapsed (collapse cs) where
  starts := isWhiteSpace_head?_collapse cs
  ends := (endsWord_spaced cs).of_spaced
  single := singleSpaced_collapse cs

/-- A text with single spaces between words, and no white space at its ends, stays as it is. -/
theorem Collapsed.collapse_eq {cs : List Char} (h : Collapsed cs) : collapse cs = cs := by
  cases cs with
  | nil => rfl
  | cons c cs =>
    have hstart : startsWord (c :: cs) = true := by simp [startsWord, h.starts c rfl]
    exact (collapse_eq_self_iff hstart h.ends).2 h.single

end Recorder.Text
