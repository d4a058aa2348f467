import Mathlib.Data.List.Infix
import Mathlib.Tactic.Common
import Recorder.Proofs.Text.Whitespace
import Recorder.Text.Basic
import Recorder.Text.Case

/-!
# Lower-case forms of pieces

A piece of a text is looked for in lower case. White space is its own lower-case form, and it is
neither cased nor ignorable for case; and no other character has white space in its lower-case form,
or an empty one. So a text is single-spaced exactly if its lower-case form is
(`singleSpaced_lower_iff`), and no word looks at the case of the next one (`casedAhead_spaced`).

Where a text is cut, the lower-case form of the start is the start of that of the whole text
(`lower_prefix`), with one exception: a capital sigma becomes the final form at the end of the
start, if a letter is in front of it, even where the word goes on behind the cut (`SplitsSigma`).
-/

namespace Recorder.Text

/-! ## Pieces -/

/-- A text occurs in another one that it is a piece of. -/
theorem hasPiece_iff {needle cs : List Char} : hasPiece needle cs = true ↔ needle <:+: cs := by
  induction cs with
  | nil => simp [hasPiece]
  | cons c cs ih =>
    rw [hasPiece, Bool.or_eq_true, ih, List.isPrefixOf_iff_prefix, List.infix_cons_iff]

/-! ## White space -/

/-- What holds of the characters in all ranges holds of white space. -/
theorem of_isWhiteSpace {p : Char → Prop}
    (h : ∀ r ∈ whiteSpaceRanges, ∀ k ≤ r.2 - r.1, p (Char.ofNat (r.1 + k))) {c : Char}
    (hc : isWhiteSpace c = true) : p c := by
  obtain ⟨r, hr, hfirst, hlast⟩ := CharClass.exists_mem_of_hasCode hc
  have hcode : r.1 + (c.toNat - r.1) = c.toNat := by omega
  have hp := h r hr (c.toNat - r.1) (by omega)
  rwa [hcode, Char.ofNat_toNat] at hp

/-- The character of number zero is no white space. -/
theorem whiteSpaceRanges_pos : ∀ w ∈ whiteSpaceRanges, 0 < w.1 := by
  decide

/-- A character that is given by its code point is white space only if this is in one of the
ranges. -/
theorem exists_mem_of_isWhiteSpace_ofNat {n : Nat} (h : isWhiteSpace (Char.ofNat n) = true) :
    ∃ w ∈ whiteSpaceRanges, w.1 ≤ n ∧ n ≤ w.2 := by
  obtain ⟨w, hw, hfirst, hlast⟩ := CharClass.exists_mem_of_hasCode h
  have hpos := whiteSpaceRanges_pos w hw
  refine ⟨w, hw, ?_⟩
  by_cases hvalid : n.isValidChar
  · have hcode : (Char.ofNat n).toNat = n := by
      rw [Char.ofNat, dif_pos hvalid]
      rfl
    omega
  · -- Anything that is no code point stands for the character of number zero.
    have hcode : (Char.ofNat n).toNat = 0 := by
      rw [Char.ofNat, dif_neg hvalid]
      rfl
    omega

/-- White space is its own lower-case form. -/
theorem lowerChar_of_isWhiteSpace {c : Char} (h : isWhiteSpace c = true) :
    c ≠ 'Σ' ∧ lowerChar c = [c] :=
  of_isWhiteSpace (p := fun c => c ≠ 'Σ' ∧ lowerChar c = [c]) (by decide +kernel) h

/-- The image of a code point is at the distance that its run gives. -/
theorem CaseRun.exists_mem_of_image? {n m : Nat} {runs : List CaseRun}
    (h : CaseRun.image? n runs = some m) :
    ∃ r ∈ runs, r.first ≤ n ∧ n ≤ r.last ∧ (n + r.offset).toNat = m := by
  induction runs with
  | nil => cases h
  | cons r runs ih =>
    rw [image?] at h
    split_ifs at h with hfirst hmember
    · obtain ⟨hlast, -⟩ := Bool.and_eq_true_iff.1 hmember
      exact ⟨r, List.mem_cons_self, Nat.le_of_not_lt hfirst, of_decide_eq_true hlast,
        Option.some.inj h⟩
    · obtain ⟨r, hr, hn⟩ := ih h
      exact ⟨r, List.mem_cons_of_mem _ hr, hn⟩

/-- The images of the runs are away from white space. -/
theorem lowerRuns_apart : ∀ r ∈ lowerRuns, ∀ w ∈ whiteSpaceRanges,
    (r.last + r.offset < w.1 ∨ w.2 < r.first + r.offset) := by
  decide +kernel

/-- No other character has white space in its lower-case form, and each has a lower-case form. -/
theorem isWhiteSpace_of_mem_lowerChar {c : Char} (h : isWhiteSpace c = false) :
    lowerChar c ≠ [] ∧ ∀ d ∈ lowerChar c, isWhiteSpace d = false := by
  have hexpansions : ∀ e ∈ lowerExpansions,
      e.2 ≠ [] ∧ ∀ n ∈ e.2, isWhiteSpace (Char.ofNat n) = false := by decide
  rw [lowerChar, mapCase]
  split
  · next m himage =>
    refine ⟨List.cons_ne_nil _ _, fun d hd => ?_⟩
    obtain rfl := List.mem_singleton.1 hd
    cases hwhite : isWhiteSpace (Char.ofNat m) with
    | false => rfl
    | true =>
      obtain ⟨w, hw, hfirst, hlast⟩ := exists_mem_of_isWhiteSpace_ofNat hwhite
      obtain ⟨r, hr, hrun, hrun', rfl⟩ := CaseRun.exists_mem_of_image? himage
      have hapart := lowerRuns_apart r hr w hw
      have hpos := whiteSpaceRanges_pos w hw
      omega
  · split
    · next image hlookup =>
      obtain ⟨before, after, hmem, -⟩ := List.lookup_eq_some_iff.1 hlookup
      obtain ⟨hne, hall⟩ := hexpansions (c.toNat, image) (by simp [hmem])
      exact ⟨by simpa using hne, by simpa using hall⟩
    · exact ⟨List.cons_ne_nil _ _, by simpa using h⟩

/-- White space is not passed over in the search for a cased character, and ends it. -/
theorem uncased_of_isWhiteSpace {c : Char} (h : isWhiteSpace c = true) :
    caseIgnorableRanges.has c = false ∧ casedRanges.has c = false :=
  of_isWhiteSpace (p := fun c => caseIgnorableRanges.has c = false ∧ casedRanges.has c = false)
    (by decide +kernel) h

/-! ## The search for a cased character -/

/-- The search passes over what is ignorable for case. -/
theorem casedAhead_cons (c : Char) (cs : List Char) :
    casedAhead (c :: cs) =
      if caseIgnorableRanges.has c then casedAhead cs else casedRanges.has c := by
  cases h : caseIgnorableRanges.has c with
  | true => rw [casedAhead, List.dropWhile_cons_of_pos h, casedAhead, if_pos rfl]
  | false => rw [casedAhead, List.dropWhile_cons_of_neg (by simp [h]), if_neg (by simp)]

/-- White space ends the search. -/
theorem casedAhead_cons_white {c : Char} (h : isWhiteSpace c = true) (cs : List Char) :
    casedAhead (c :: cs) = false := by
  obtain ⟨hignorable, hcased⟩ := uncased_of_isWhiteSpace h
  rw [casedAhead_cons, hignorable, hcased]
  rfl

/-- The search goes on into what follows exactly if all of the text is ignorable. -/
theorem casedAhead_append (cs ds : List Char) :
    casedAhead (cs ++ ds) =
      if cs.all caseIgnorableRanges.has then casedAhead ds else casedAhead cs := by
  induction cs with
  | nil => rfl
  | cons c cs ih =>
    rw [List.cons_append, casedAhead_cons, casedAhead_cons, ih, List.all_cons]
    cases caseIgnorableRanges.has c <;> rfl

/-- White space that is collapsed does not change what the search finds. -/
theorem casedAhead_spaced (cs : List Char) : casedAhead (spaced cs) = casedAhead cs := by
  induction cs with
  | nil => rfl
  | cons c cs ih =>
    cases hc : isWhiteSpace c with
    | false => rw [spaced_cons hc, casedAhead_cons, casedAhead_cons, ih]
    | true =>
      rw [casedAhead_cons_white hc]
      by_cases hwords : words cs = []
      · rw [spaced_of_words_eq_nil (by rwa [words_cons_white hc])]
        rfl
      · rw [spaced_cons_white hc hwords, casedAhead_cons_white (by decide)]

/-! ## Lower-case forms -/

/-- White space stays as it is, and the next word starts anew. -/
theorem lowerFrom_cons_white {c : Char} (h : isWhiteSpace c = true) (casedBehind : Bool)
    (cs : List Char) : lowerFrom casedBehind (c :: cs) = c :: lowerFrom false cs := by
  obtain ⟨hsigma, hlower⟩ := lowerChar_of_isWhiteSpace h
  obtain ⟨hignorable, hcased⟩ := uncased_of_isWhiteSpace h
  rw [lowerFrom, if_neg hsigma, hlower, hignorable, hcased]
  rfl

/-- White space of a text is in its lower-case form. -/
theorem mem_lowerFrom_of_isWhiteSpace {c : Char} (h : isWhiteSpace c = true) {cs : List Char}
    (hc : c ∈ cs) (casedBehind : Bool) : c ∈ lowerFrom casedBehind cs := by
  induction cs generalizing casedBehind with
  | nil => cases hc
  | cons d cs ih =>
    rcases List.mem_cons.1 hc with rfl | hc
    · rw [lowerFrom_cons_white h]
      exact List.mem_cons_self
    · rw [lowerFrom]
      exact List.mem_append_right _ (ih hc _)

/-- Two spaces next to each other are next to each other in the lower-case form. -/
theorem spaces_infix_lowerFrom {cs : List Char} (h : [' ', ' '] <:+: cs) (casedBehind : Bool) :
    [' ', ' '] <:+: lowerFrom casedBehind cs := by
  induction cs generalizing casedBehind with
  | nil => simp at h
  | cons c cs ih =>
    rcases List.infix_cons_iff.1 h with ⟨rest, hstart⟩ | hinside
    · have hspace : isWhiteSpace ' ' = true := by decide
      rw [← hstart, List.cons_append, List.singleton_append, lowerFrom_cons_white hspace,
        lowerFrom_cons_white hspace]
      exact ⟨[], _, rfl⟩
    · rw [lowerFrom]
      exact (ih hinside _).trans (List.suffix_append _ _).isInfix

/-- Of any other character there is something in front of the lower-case form of the rest, and no
white space. -/
theorem exists_lowerFrom_cons {c : Char} (h : isWhiteSpace c = false) (casedBehind : Bool)
    (cs : List Char) : ∃ first casedBehind', first ≠ [] ∧ (∀ d ∈ first, isWhiteSpace d = false) ∧
      lowerFrom casedBehind (c :: cs) = first ++ lowerFrom casedBehind' cs := by
  rw [lowerFrom]
  split
  · refine ⟨_, _, List.cons_ne_nil _ _, fun d hd => ?_, rfl⟩
    obtain rfl := List.mem_singleton.1 hd
    split <;> decide
  · obtain ⟨hne, hwhite⟩ := isWhiteSpace_of_mem_lowerChar h
    exact ⟨_, _, hne, hwhite, rfl⟩

/-- The lower-case form of a single-spaced text is single-spaced. -/
theorem SingleSpaced.lowerFrom {cs : List Char} (h : SingleSpaced cs) (casedBehind : Bool) :
    SingleSpaced (lowerFrom casedBehind cs) := by
  induction cs generalizing casedBehind with
  | nil => exact .nil
  | cons c cs ih =>
    have hrest : SingleSpaced cs := h.of_isInfix (List.suffix_cons c cs).isInfix
    cases hc : isWhiteSpace c with
    | false =>
      obtain ⟨first, casedBehind', -, hfirst, hlower⟩ := exists_lowerFrom_cons hc casedBehind cs
      rw [hlower]
      exact (ih hrest casedBehind').append hfirst
    | true =>
      obtain rfl := h.spaces c List.mem_cons_self hc
      rw [lowerFrom_cons_white hc]
      refine (ih hrest false).space_cons ?_
      cases cs with
      | nil => exact fun _ hd => nomatch hd
      | cons d cs =>
        -- The next character is part of a word, so its lower-case form is.
        obtain ⟨first, casedBehind', hne, hfirst, hlower⟩ :=
          exists_lowerFrom_cons h.isWhiteSpace_of_space_cons false cs
        obtain ⟨e, first, rfl⟩ := List.exists_cons_of_ne_nil hne
        rw [hlower]
        rintro _ ⟨⟩
        exact hfirst e List.mem_cons_self

/-- A text is single-spaced exactly if its lower-case form is. -/
theorem singleSpaced_lower_iff {cs : List Char} : SingleSpaced (lower cs) ↔ SingleSpaced cs := by
  constructor
  · intro h
    exact
      { spaces := fun c hc hwhite =>
          h.spaces c (mem_lowerFrom_of_isWhiteSpace hwhite hc false) hwhite
        apart := fun hspaces => h.apart (spaces_infix_lowerFrom hspaces false) }
  · exact fun h => h.lowerFrom false

/-- A text is cut inside of a word and behind a capital sigma in it: a cased character is in front
of the sigma and one is behind the cut, with only ignorable ones between these and the sigma. -/
def SplitsSigma (start rest : List Char) : Prop :=
  ∃ cs ds, start = cs ++ 'Σ' :: ds ∧ casedAhead cs.reverse = true ∧
    ds.all caseIgnorableRanges.has = true ∧ casedAhead rest = true

/-- A character is lowered in the same way in front of what follows in the text and in front of the
text up to where it is cut, unless it is a sigma that the text is cut behind. -/
theorem finalSigma_append {before cs rest : List Char}
    (h : ¬ SplitsSigma (before ++ 'Σ' :: cs) rest) :
    (casedAhead before.reverse && !casedAhead (cs ++ rest)) =
      (casedAhead before.reverse && !casedAhead cs) := by
  rw [casedAhead_append]
  split
  case isTrue hall =>
    -- There is nothing but ignorable characters up to the cut.
    have hcs : casedAhead cs = false := by
      rw [← List.append_nil cs, casedAhead_append, if_pos hall]
      rfl
    cases hbefore : casedAhead before.reverse with
    | false => rfl
    | true =>
      have hrest : casedAhead rest = false :=
        Bool.eq_false_iff.2 fun hrest => h ⟨before, cs, rfl, hbefore, hall, hrest⟩
      rw [hcs, hrest]
  case isFalse => rfl

/-- The lower-case form of what follows some characters starts in the same way if the text is cut
somewhere, unless it is cut behind a sigma. -/
theorem lowerFrom_prefix (before cs rest : List Char) (h : ¬ SplitsSigma (before ++ cs) rest) :
    lowerFrom (casedAhead before.reverse) cs <+:
      lowerFrom (casedAhead before.reverse) (cs ++ rest) := by
  induction cs generalizing before with
  | nil => exact List.nil_prefix
  | cons c cs ih =>
    -- The character in front is the first one that is searched from the end.
    have hbehind : (if caseIgnorableRanges.has c then casedAhead before.reverse
        else casedRanges.has c) = casedAhead (before ++ [c]).reverse := by
      rw [List.reverse_append, List.reverse_singleton, List.singleton_append, casedAhead_cons]
    have hrest := ih (before ++ [c]) (by rwa [List.append_assoc, List.singleton_append])
    rw [List.cons_append, lowerFrom, lowerFrom, hbehind]
    split
    case isTrue hsigma =>
      subst hsigma
      rw [finalSigma_append h]
      exact (List.prefix_append_right_inj _).2 hrest
    case isFalse => exact (List.prefix_append_right_inj _).2 hrest

/-- The lower-case form of the start of a text is the start of its lower-case form, unless the text
is cut behind a sigma. -/
theorem lower_prefix {cs rest : List Char} (h : ¬ SplitsSigma cs rest) :
    lower cs <+: lower (cs ++ rest) :=
  lowerFrom_prefix [] cs rest h

/-- No text is cut behind a sigma where it is cut behind a space. -/
theorem SplitsSigma.getLast?_ne {start rest : List Char} (h : SplitsSigma start rest) :
    start.getLast? ≠ some ' ' := by
  obtain ⟨cs, ds, rfl, -, hignorable, -⟩ := h
  rw [List.getLast?_append_of_ne_nil _ (List.cons_ne_nil _ _)]
  intro hlast
  rcases List.mem_cons.1 (List.mem_of_getLast? hlast) with hsigma | hmem
  · exact absurd hsigma (by decide)
  · have hspace := List.all_eq_true.1 hignorable ' ' hmem
    exact absurd hspace (by decide +kernel)

/-- As far as a text is single-spaced, what it is collapsed to starts as it does. What follows may
have changed, but not so that it is cut behind a sigma only now. -/
theorem exists_collapse_eq_append {cs ds : List Char} (hstart : startsWord (cs ++ ds) = true)
    (hend : EndsWord (cs ++ ds)) (h : SingleSpaced cs) :
    ∃ rest, collapse (cs ++ ds) = cs ++ rest ∧ (SplitsSigma cs rest → SplitsSigma cs ds) := by
  have hspaced := spaced_append h hend
  rw [spaced_of_startsWord hstart] at hspaced
  refine ⟨_, hspaced, fun hsplits => ?_⟩
  rw [if_neg hsplits.getLast?_ne] at hsplits
  obtain ⟨before, behind, hcs, hbefore, hbehind, hrest⟩ := hsplits
  rw [casedAhead_spaced] at hrest
  exact ⟨before, behind, hcs, hbefore, hbehind, hrest⟩

end Recorder.Text
