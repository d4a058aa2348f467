import Mathlib.Data.List.Infix
import Mathlib.Tactic.Common
import Recorder.Proofs.Story
import Recorder.Proofs.Text.Whitespace

/-!
# Names of stories to show

The name to show of a name in ASCII is in start case: single blanks stand between its words, no word
changes from small letters to capitals or between letters and digits, and each begins with a capital
if with a letter. Showing it once more changes nothing (`displayName_startCase`).

Each step that sets characters apart only puts blanks in (`Spaces`), so what it has set apart no
later step joins: what a text with more blanks avoids next to each other is what the text avoids,
for characters that are no blanks (`Avoids.of_spaces`). So it does no harm that a step does not look
at the characters of a match again. The first step misses nothing but what begins with a small
letter for that reason, and there the second step puts the blank.

The first word is no exception once a blank is put in front of the text: the name to show with that
blank is a start of what the last steps make of the text with the blank (`space_cons_isPrefix`), and
its pieces are read there.
-/

namespace Recorder.Story

open Text (isWhiteSpace isWordChar upperChar trim trimStart trimEnd)

/-! ## Plain characters -/

/-- Whether the character stands between words in an export name. -/
def isBreak (c : Char) : Bool :=
  c = '_' || c = '-' || c = '.' || c = ' '

/-- Whether the character is an ASCII letter or digit or the blank. -/
def isPlain (c : Char) : Bool :=
  c.isAlphanum || c = ' '

/-- What holds of all ASCII letters and digits and of the blank holds of the plain characters. -/
theorem of_isPlain {p : Char → Prop}
    (h : ∀ n < 0x80, isPlain (Char.ofNat n) = true → p (Char.ofNat n)) {c : Char}
    (hc : isPlain c = true) : p c := by
  have hascii : c.toNat < 0x80 := by
    rcases Bool.or_eq_true_iff.1 hc with halnum | hblank
    · exact Selector.toNat_lt_of_isAlphanum halnum
    · obtain rfl := of_decide_eq_true hblank
      decide
  exact Selector.of_ascii (p := fun c => isPlain c = true → p c) h hascii hc

/-- Among the plain characters, the blank is the white space, the others are the word characters,
and the letters are those of ASCII. -/
theorem plain_spec {c : Char} (h : isPlain c = true) :
    isWhiteSpace c = decide (c = ' ') ∧ isWordChar c = !decide (c = ' ') ∧ isLetter c = c.isAlpha :=
  of_isPlain (p := fun c => isWhiteSpace c = decide (c = ' ') ∧
    isWordChar c = !decide (c = ' ') ∧ isLetter c = c.isAlpha) (by decide +kernel) h

/-- A plain character as it is written, in upper case at the start of a word. -/
def capitalAt (boundary : Bool) (c : Char) : Char :=
  bif boundary then capital c else c

/-- A plain character is written as a character of the same kind, and differs from it in case
only. -/
theorem capitalAt_spec (boundary : Bool) {c : Char} (h : isPlain c = true) :
    isPlain (capitalAt boundary c) = true ∧ (capitalAt boundary c = ' ' ↔ c = ' ') ∧
      isLetter (capitalAt boundary c) = isLetter c ∧
      (capitalAt boundary c).isDigit = c.isDigit ∧ (capitalAt boundary c).toLower = c.toLower := by
  cases boundary with
  | false => exact ⟨h, Iff.rfl, rfl, rfl, rfl⟩
  | true =>
    exact of_isPlain (p := fun c => isPlain (capital c) = true ∧ (capital c = ' ' ↔ c = ' ') ∧
      isLetter (capital c) = isLetter c ∧ (capital c).isDigit = c.isDigit ∧
      (capital c).toLower = c.toLower) (by decide +kernel) h

/-- The upper-case form of a plain character is one character, and no small letter. -/
theorem capital_plain {c : Char} (h : isPlain c = true) :
    upperChar c = [capital c] ∧ (capital c).isLower = false :=
  of_isPlain (p := fun c => upperChar c = [capital c] ∧ (capital c).isLower = false)
    (by decide +kernel) h

/-- A plain character that is no small letter is its own upper-case form. -/
theorem capital_eq_self {c : Char} (h : isPlain c = true) (hlower : c.isLower = false) :
    capital c = c :=
  of_isPlain (p := fun c => c.isLower = false → capital c = c) (by decide +kernel) h hlower

/-- No small letter is a capital. -/
theorem isUpper_of_isLower {c : Char} (h : c.isLower = true) : c.isUpper = false := by
  have hascii : c.toNat < 0x80 :=
    Selector.toNat_lt_of_isAlphanum (by simp [Char.isAlphanum, Selector.isAlpha_eq, h])
  exact Selector.of_ascii (p := fun c => c.isLower = true → c.isUpper = false) (by decide +kernel)
    hascii h

/-- What satisfies a predicate that the blank does not satisfy is none. -/
theorem ne_blank {p : Char → Bool} {c : Char} (hp : p ' ' = false) (hc : p c = true) : c ≠ ' ' := by
  rintro rfl
  rw [hp] at hc
  cases hc

/-! ## Blanks put in -/

/-- The second text is the first one with blanks put in. -/
inductive Spaces : List Char → List Char → Prop where
  /-- At the end both texts are over. -/
  | nil : Spaces [] []
  /-- A character stays where it is. -/
  | cons (c : Char) {cs ds : List Char} : Spaces cs ds → Spaces (c :: cs) (c :: ds)
  /-- A blank is put in. -/
  | blank {cs ds : List Char} : Spaces cs ds → Spaces cs (' ' :: ds)

namespace Spaces

/-- No blank need be put in. -/
theorem refl : ∀ cs : List Char, Spaces cs cs
  | [] => .nil
  | c :: cs => .cons c (refl cs)

/-- Blanks may be put in more than once. -/
theorem trans {cs ds es : List Char} (h : Spaces cs ds) (h' : Spaces ds es) : Spaces cs es := by
  induction h' generalizing cs with
  | nil => exact h
  | blank _ ih => exact .blank (ih h)
  | cons c _ ih =>
    cases h with
    | cons _ h => exact .cons c (ih h)
    | blank h => exact .blank (ih h)

/-- There are the characters of the text and blanks. -/
theorem mem {cs ds : List Char} (h : Spaces cs ds) {c : Char} (hc : c ∈ ds) : c ∈ cs ∨ c = ' ' := by
  induction h with
  | nil => exact .inl hc
  | cons d _ ih =>
    rcases List.mem_cons.1 hc with rfl | hc
    · exact .inl List.mem_cons_self
    · exact (ih hc).imp_left (List.mem_cons_of_mem _)
  | blank _ ih =>
    rcases List.mem_cons.1 hc with rfl | hc
    · exact .inr rfl
    · exact ih hc

/-- The characters of the text stay. -/
theorem subset {cs ds : List Char} (h : Spaces cs ds) : cs ⊆ ds := by
  induction h with
  | nil => exact List.Subset.refl _
  | cons c _ ih => exact List.cons_subset_cons c ih
  | blank _ ih => exact List.subset_cons_of_subset _ ih

/-- The other characters are the same. -/
theorem filter_eq {cs ds : List Char} (h : Spaces cs ds) :
    ds.filter (· != ' ') = cs.filter (· != ' ') := by
  induction h with
  | nil => rfl
  | cons c _ ih => rw [List.filter_cons, ih, List.filter_cons]
  | blank _ ih => rw [List.filter_cons_of_neg (by decide), ih]

/-- Blanks at the end are put in. -/
theorem append_blanks (cs : List Char) {ds : List Char} (h : ∀ d ∈ ds, d = ' ') :
    Spaces cs (cs ++ ds) := by
  induction cs with
  | nil =>
    induction ds with
    | nil => exact .nil
    | cons d ds ih =>
      obtain ⟨rfl, hds⟩ := List.forall_mem_cons.1 h
      exact .blank (ih hds)
  | cons c cs ih => exact .cons c ih

end Spaces

/-! ## Patterns -/

/-- The text starts with characters that satisfy the predicates one by one. -/
def Matches : List (Char → Bool) → List Char → Prop
  | [], _ => True
  | _ :: _, [] => False
  | p :: ps, c :: cs => p c = true ∧ Matches ps cs

/-- The text has no piece whose characters satisfy the predicates one by one. -/
def Avoids (ps : List (Char → Bool)) : List Char → Prop
  | [] => ¬ Matches ps []
  | c :: cs => ¬ Matches ps (c :: cs) ∧ Avoids ps cs

/-- Blanks put in make no match of predicates that the blank does not satisfy. -/
theorem Matches.of_spaces {ps : List (Char → Bool)} (hps : ∀ p ∈ ps, p ' ' = false)
    {cs ds : List Char} (hspaces : Spaces cs ds) (h : Matches ps ds) : Matches ps cs := by
  induction hspaces generalizing ps with
  | nil => exact h
  | cons c _ ih =>
    cases ps with
    | nil => trivial
    | cons p ps => exact ⟨h.1, ih (List.forall_mem_cons.1 hps).2 h.2⟩
  | blank _ _ =>
    cases ps with
    | nil => trivial
    | cons p ps => exact absurd rfl (ne_blank (hps p List.mem_cons_self) h.1)

/-- What the start of a text matches the text does. -/
theorem Matches.of_isPrefix {ps : List (Char → Bool)} {cs ds : List Char} (hfront : cs <+: ds)
    (h : Matches ps cs) : Matches ps ds := by
  induction ps generalizing cs ds with
  | nil => trivial
  | cons p ps ih =>
    cases cs with
    | nil => exact h.elim
    | cons c cs =>
      obtain ⟨rest, rfl⟩ := hfront
      exact ⟨h.1, ih (List.prefix_append cs rest) h.2⟩

namespace Avoids

variable {p q : Char → Bool} {ps : List (Char → Bool)} {cs ds : List Char}

/-- No two characters next to each other match a pattern of two that is avoided. -/
theorem pair (h : Avoids [p, q] cs) {a b : Char} (hab : [a, b] <:+: cs) (ha : p a = true) :
    q b = false := by
  induction cs with
  | nil => simp at hab
  | cons c cs ih =>
    rcases List.infix_cons_iff.1 hab with ⟨rest, hstart⟩ | hinside
    · by_contra hb
      refine h.1 ?_
      rw [← hstart]
      exact ⟨ha, by simpa using hb, trivial⟩
    · exact ih h.2 hinside

/-- A text does not start with a pattern that it avoids. -/
theorem not_matches (h : Avoids ps cs) : ¬ Matches ps cs := by
  cases cs with
  | nil => exact h
  | cons c cs => exact h.1

/-- Blanks put in make no pattern of predicates that the blank does not satisfy. -/
theorem of_spaces (hps : ∀ p ∈ ps, p ' ' = false) (h : Avoids ps cs) (hspaces : Spaces cs ds) :
    Avoids ps ds := by
  induction hspaces with
  | nil => exact h
  | cons c htail ih => exact ⟨fun hmatch => h.1 (hmatch.of_spaces hps (htail.cons c)), ih h.2⟩
  | blank htail ih =>
    exact ⟨fun hmatch => h.not_matches (hmatch.of_spaces hps htail.blank), ih h⟩

/-- The start of a text avoids what the text does. -/
theorem of_isPrefix (hfront : cs <+: ds) (h : Avoids ps ds) : Avoids ps cs := by
  induction cs generalizing ds with
  | nil => exact fun hmatch => h.not_matches (hmatch.of_isPrefix hfront)
  | cons c cs ih =>
    obtain ⟨rest, rfl⟩ := hfront
    exact ⟨fun hmatch => h.1 (hmatch.of_isPrefix (List.prefix_append _ rest)),
      ih (List.prefix_append cs rest) h.2⟩

end Avoids

/-! ## Setting characters apart -/

/-- Setting two characters apart puts blanks in. -/
theorem spaces_splitBetween (p q : Char → Bool) (cs : List Char) :
    Spaces cs (splitBetween p q cs) := by
  fun_induction splitBetween p q cs with
  | case1 a b cs _ ih => exact .cons a (.blank (.cons b ih))
  | case2 a b cs _ ih => exact .cons a ih
  | case3 cs => exact .refl cs

/-- Setting capitals apart puts blanks in. -/
theorem spaces_splitCapitalized (cs : List Char) : Spaces cs (splitCapitalized cs) := by
  fun_induction splitCapitalized cs with
  | case1 a b c cs _ ih => exact .cons a (.blank (.cons b (.cons c ih)))
  | case2 a b c cs _ ih => exact .cons a ih
  | case3 cs => exact .refl cs

/-- Where two characters have been set apart, they are nowhere next to each other: what ends a match
begins none, so no match is missed. -/
theorem avoids_splitBetween {p q : Char → Bool} (hp : p ' ' = false) (hq : q ' ' = false)
    (hpq : ∀ c, q c = true → p c = false) (cs : List Char) :
    Avoids [p, q] (splitBetween p q cs) := by
  fun_induction splitBetween p q cs with
  | case1 a b cs hmatch ih =>
    have hb : p b = false := hpq b (Bool.and_eq_true_iff.1 hmatch).2
    simp [Avoids, Matches, hp, hq, hb, ih]
  | case2 a b cs hmatch ih =>
    refine ⟨fun ⟨ha, hrest⟩ => hmatch ?_, ih⟩
    have hb : Matches [q] (b :: cs) :=
      hrest.of_spaces (by simpa using hq) (spaces_splitBetween p q (b :: cs))
    exact Bool.and_eq_true_iff.2 ⟨ha, hb.1⟩
  | case3 cs hshort =>
    match cs, hshort with
    | [], _ => simp [Avoids, Matches]
    | [_], _ => simp [Avoids, Matches]
    | a :: b :: ds, hshort => exact (hshort a b ds rfl).elim

/-- Where two characters are nowhere next to each other, nothing is set apart. -/
theorem splitBetween_eq_self {p q : Char → Bool} {cs : List Char} (h : Avoids [p, q] cs) :
    splitBetween p q cs = cs := by
  fun_induction splitBetween p q cs with
  | case1 a b cs hmatch _ =>
    obtain ⟨ha, hb⟩ := Bool.and_eq_true_iff.1 hmatch
    exact absurd ⟨ha, hb, trivial⟩ h.1
  | case2 a b cs _ ih => rw [ih h.2]
  | case3 cs => rfl

/-- Where capitals have been set apart, no two of them have a small letter behind them: a match ends
with a small letter, so none is missed that begins with a capital. -/
theorem avoids_splitCapitalized (cs : List Char) :
    Avoids [Char.isUpper, Char.isUpper, Char.isLower] (splitCapitalized cs) := by
  fun_induction splitCapitalized cs with
  | case1 a b c cs hmatch ih =>
    simp only [Bool.and_eq_true] at hmatch
    have hc : c.isUpper = false := isUpper_of_isLower hmatch.2
    have hblank : ' '.isUpper = false := by decide
    simp [Avoids, Matches, hc, hblank, ih]
  | case2 a b c cs hmatch ih =>
    refine ⟨fun ⟨ha, hrest⟩ => hmatch ?_, ih⟩
    have hline : a ≠ '\n' := by
      rintro rfl
      exact absurd ha (by decide)
    have hbc : Matches [Char.isUpper, Char.isLower] (b :: c :: cs) :=
      hrest.of_spaces (by decide) (spaces_splitCapitalized (b :: c :: cs))
    simp [hline, hbc.1, hbc.2.1]
  | case3 cs hshort =>
    match cs, hshort with
    | [], _ => simp [Avoids, Matches]
    | [_], _ => simp [Avoids, Matches]
    | [_, _], _ => simp [Avoids, Matches]
    | a :: b :: c :: ds, hshort => exact (hshort a b c ds rfl).elim

/-- Nowhere in the text does a word change from small letters to capitals, from capitals to a
capitalized word, or between letters and digits. -/
structure WordsApart (cs : List Char) : Prop where
  /-- No capital stands behind a small letter. -/
  smallCapital : Avoids [Char.isLower, Char.isUpper] cs
  /-- No capital with a small letter behind it stands behind another capital. -/
  capitals : Avoids [Char.isUpper, Char.isUpper, Char.isLower] cs
  /-- No digit stands behind a letter. -/
  letterDigit : Avoids [isLetter, Char.isDigit] cs
  /-- No letter stands behind a digit. -/
  digitLetter : Avoids [Char.isDigit, isLetter] cs

namespace WordsApart

/-- Blanks put in leave words apart. -/
theorem of_spaces {cs ds : List Char} (h : WordsApart cs) (hspaces : Spaces cs ds) :
    WordsApart ds where
  smallCapital := h.smallCapital.of_spaces (by decide) hspaces
  capitals := h.capitals.of_spaces (by decide) hspaces
  letterDigit := h.letterDigit.of_spaces (by decide) hspaces
  digitLetter := h.digitLetter.of_spaces (by decide) hspaces

/-- Words stay apart without the first character. -/
theorem of_cons {c : Char} {cs : List Char} (h : WordsApart (c :: cs)) : WordsApart cs :=
  ⟨h.smallCapital.2, h.capitals.2, h.letterDigit.2, h.digitLetter.2⟩

/-- Words are apart in the start of a text where they are in the text. -/
theorem of_isPrefix {cs ds : List Char} (hfront : cs <+: ds) (h : WordsApart ds) :
    WordsApart cs where
  smallCapital := h.smallCapital.of_isPrefix hfront
  capitals := h.capitals.of_isPrefix hfront
  letterDigit := h.letterDigit.of_isPrefix hfront
  digitLetter := h.digitLetter.of_isPrefix hfront

end WordsApart

/-- The text with the words of a name set apart, before they get their capitals. -/
def spacedName (name : List Char) : List Char :=
  splitBetween Char.isDigit isLetter <| splitBetween isLetter Char.isDigit <|
    splitBetween Char.isLower Char.isUpper <| splitCapitalized <| blankSeparators name

/-- Setting the words of a name apart puts blanks in, once its separators are blanks. -/
theorem spaces_spacedName (name : List Char) :
    Spaces (blankSeparators name) (spacedName name) :=
  (((spaces_splitCapitalized _).trans (spaces_splitBetween ..)).trans
    (spaces_splitBetween ..)).trans (spaces_splitBetween ..)

/-- No digit is a letter. -/
theorem isLetter_of_isDigit {c : Char} (h : c.isDigit = true) : isLetter c = false :=
  of_isIdentifierChar (p := fun c => c.isDigit = true → isLetter c = false) (by decide +kernel)
    (by decide +kernel) (by decide +kernel) (by simp [isIdentifierChar, h]) h

/-- The words of a name are set apart. What one step sets apart stays so, since the steps behind it
put blanks in. -/
theorem wordsApart_spacedName (name : List Char) : WordsApart (spacedName name) := by
  have hdigit : ∀ c, isLetter c = true → c.isDigit = false := fun c hletter => by
    by_contra hdigit
    rw [isLetter_of_isDigit (by simpa using hdigit)] at hletter
    cases hletter
  have hupper : ∀ c : Char, c.isUpper = true → c.isLower = false := fun c hupper => by
    by_contra hlower
    rw [isUpper_of_isLower (by simpa using hlower)] at hupper
    cases hupper
  let capitalized := splitCapitalized (blankSeparators name)
  let cased := splitBetween Char.isLower Char.isUpper capitalized
  let numbered := splitBetween isLetter Char.isDigit cased
  have hnumbered : Spaces numbered (spacedName name) := spaces_splitBetween _ _ numbered
  have hcased : Spaces cased (spacedName name) := (spaces_splitBetween _ _ cased).trans hnumbered
  have hcapitalized : Spaces capitalized (spacedName name) :=
    (spaces_splitBetween _ _ capitalized).trans hcased
  exact
    { smallCapital := .of_spaces (by decide)
        (avoids_splitBetween (by decide) (by decide) hupper capitalized) hcased
      capitals := .of_spaces (by decide) (avoids_splitCapitalized _) hcapitalized
      letterDigit := .of_spaces (by decide)
        (avoids_splitBetween (by decide) (by decide) (fun _ => isLetter_of_isDigit) cased) hnumbered
      digitLetter := avoids_splitBetween (by decide) (by decide) hdigit numbered }

/-! ## Capitals -/

/-- Behind a blank, and nowhere else, a plain character is written in upper case. -/
theorem capitalize_cons {c : Char} (hc : isPlain c = true) (boundary : Bool) (cs : List Char) :
    capitalize boundary (c :: cs) =
      capitalAt boundary c :: capitalize (decide (c = ' ')) cs := by
  obtain ⟨hwhite, hword, -⟩ := plain_spec hc
  have hupper : upperChar c = [capital c] := (capital_plain hc).1
  rw [capitalize, hword, hwhite, hupper, capitalAt]
  by_cases hblank : c = ' '
  · subst hblank
    cases boundary <;> rfl
  · cases boundary <;> simp [hblank]

/-- What is written of plain characters is plain. -/
theorem isPlain_capitalize {cs : List Char} (hcs : ∀ c ∈ cs, isPlain c = true) (boundary : Bool) :
    ∀ c ∈ capitalize boundary cs, isPlain c = true := by
  induction cs generalizing boundary with
  | nil => exact fun _ h => nomatch h
  | cons c cs ih =>
    obtain ⟨hc, hcs⟩ := List.forall_mem_cons.1 hcs
    rw [capitalize_cons hc]
    exact List.forall_mem_cons.2 ⟨(capitalAt_spec boundary hc).1, ih hcs _⟩

/-- In capitals a text has the same characters up to case, and blanks where it has them. -/
theorem toLower_capitalize {cs : List Char} (hcs : ∀ c ∈ cs, isPlain c = true) (boundary : Bool) :
    ((capitalize boundary cs).filter (· != ' ')).map Char.toLower =
      (cs.filter (· != ' ')).map Char.toLower := by
  induction cs generalizing boundary with
  | nil => rfl
  | cons c cs ih =>
    obtain ⟨hc, hcs⟩ := List.forall_mem_cons.1 hcs
    obtain ⟨-, hblank, -, -, hlower⟩ := capitalAt_spec boundary hc
    have hkeep : (capitalAt boundary c != ' ') = (c != ' ') := by simp [bne, hblank]
    rw [capitalize_cons hc, List.filter_cons, List.filter_cons, hkeep]
    split
    · rw [List.map_cons, List.map_cons, hlower, ih hcs]
    · exact ih hcs _

/-- Inside a word nothing is written in upper case, so what is matched there was matched before. -/
theorem Matches.of_capitalize {ps : List (Char → Bool)} (hps : ∀ p ∈ ps, p ' ' = false)
    {cs : List Char} (hcs : ∀ c ∈ cs, isPlain c = true) (h : Matches ps (capitalize false cs)) :
    Matches ps cs := by
  induction ps generalizing cs with
  | nil => trivial
  | cons p ps ih =>
    cases cs with
    | nil => exact h.elim
    | cons c cs =>
      obtain ⟨hp, hps⟩ := List.forall_mem_cons.1 hps
      obtain ⟨hc, hcs⟩ := List.forall_mem_cons.1 hcs
      rw [capitalize_cons hc] at h
      have hblank : c ≠ ' ' := ne_blank hp h.1
      have hrest : Matches ps (capitalize false cs) := by simpa [hblank] using h.2
      exact ⟨h.1, ih hps hcs hrest⟩

/-- A match in capitals is one in the text up to the case of the first character. -/
theorem Matches.of_capitalize_cons {p : Char → Bool} {ps : List (Char → Bool)}
    (hps : ∀ q ∈ p :: ps, q ' ' = false) {c : Char} {cs : List Char}
    (hcs : ∀ d ∈ c :: cs, isPlain d = true) {boundary : Bool}
    (h : Matches (p :: ps) (capitalize boundary (c :: cs))) :
    p (capitalAt boundary c) = true ∧ Matches ps cs := by
  obtain ⟨hp, hps⟩ := List.forall_mem_cons.1 hps
  obtain ⟨hc, hcs⟩ := List.forall_mem_cons.1 hcs
  rw [capitalize_cons hc] at h
  have hblank : c ≠ ' ' := mt (capitalAt_spec boundary hc).2.1.2 (ne_blank hp h.1)
  have hrest : Matches ps (capitalize false cs) := by simpa [hblank] using h.2
  exact ⟨h.1, hrest.of_capitalize hps hcs⟩

/-- Capitals at the start of words leave them apart: two capitals with a small letter behind them
were there before, unless the first was a small letter before a capital. -/
theorem WordsApart.capitalize {cs : List Char} (hcs : ∀ c ∈ cs, isPlain c = true)
    (h : WordsApart cs) (boundary : Bool) : WordsApart (capitalize boundary cs) := by
  induction cs generalizing boundary with
  | nil => exact h
  | cons c cs ih =>
    obtain ⟨hc, hrest⟩ := List.forall_mem_cons.1 hcs
    obtain ⟨-, -, hletter, hdigit, -⟩ := capitalAt_spec boundary hc
    have htail : WordsApart (Story.capitalize (decide (c = ' ')) cs) := ih hrest h.of_cons _
    have hsmall (hlower : (capitalAt boundary c).isLower = true) : c.isLower = true := by
      cases boundary with
      | false => exact hlower
      | true => exact absurd hlower (by simp [capitalAt, (capital_plain hc).2])
    rw [capitalize_cons hc]
    refine ⟨⟨fun hmatch => ?_, htail.smallCapital⟩, ⟨fun hmatch => ?_, htail.capitals⟩,
      ⟨fun hmatch => ?_, htail.letterDigit⟩, ⟨fun hmatch => ?_, htail.digitLetter⟩⟩ <;>
      rw [← capitalize_cons hc] at hmatch
    · obtain ⟨hlower, hmore⟩ := hmatch.of_capitalize_cons (by decide) hcs
      exact h.smallCapital.1 ⟨hsmall hlower, hmore⟩
    · obtain ⟨hupper, hmore⟩ := hmatch.of_capitalize_cons (by decide) hcs
      have hkind : (c.isUpper || c.isLower) = true := by
        calc (c.isUpper || c.isLower)
            = isLetter c := (plain_spec hc).2.2.symm
          _ = isLetter (capitalAt boundary c) := hletter.symm
          _ = true := by simp [isLetter, Selector.isAlpha_eq, hupper]
      rcases Bool.or_eq_true_iff.1 hkind with hwas | hwas
      · exact h.capitals.1 ⟨hwas, hmore⟩
      · cases cs with
        | nil => exact hmore
        | cons d ds => exact h.smallCapital.1 ⟨hwas, hmore.1, trivial⟩
    · obtain ⟨hfirst, hmore⟩ := hmatch.of_capitalize_cons (by decide) hcs
      exact h.letterDigit.1 ⟨hletter ▸ hfirst, hmore⟩
    · obtain ⟨hfirst, hmore⟩ := hmatch.of_capitalize_cons (by decide) hcs
      exact h.digitLetter.1 ⟨hdigit ▸ hfirst, hmore⟩

/-- No small letter stands behind a blank where words have their capitals. -/
theorem avoids_capitalize {cs : List Char} (hcs : ∀ c ∈ cs, isPlain c = true) (boundary : Bool) :
    Avoids [(· == ' '), Char.isLower] (capitalize boundary cs) := by
  induction cs generalizing boundary with
  | nil => exact id
  | cons c cs ih =>
    obtain ⟨hc, hrest⟩ := List.forall_mem_cons.1 hcs
    rw [capitalize_cons hc]
    refine ⟨fun ⟨hblank, hmore⟩ => ?_, ih hrest _⟩
    have hboundary : c = ' ' := (capitalAt_spec boundary hc).2.1.1 (by simpa using hblank)
    cases cs with
    | nil => exact hmore
    | cons d ds =>
      have hd : isPlain d = true := hrest d List.mem_cons_self
      rw [capitalize_cons hd] at hmore
      have hlower : (capital d).isLower = true := by simpa [hboundary, capitalAt] using hmore.1
      rw [(capital_plain hd).2] at hlower
      cases hlower

/-- Where no small letter stands behind a blank, words have their capitals. -/
theorem capitalize_eq_self (first : Char) {cs : List Char} (hcs : ∀ c ∈ cs, isPlain c = true)
    (h : Avoids [(· == ' '), Char.isLower] (first :: cs)) :
    capitalize (decide (first = ' ')) cs = cs := by
  induction cs generalizing first with
  | nil => rfl
  | cons c cs ih =>
    obtain ⟨hc, hcs⟩ := List.forall_mem_cons.1 hcs
    have hfirst : capitalAt (decide (first = ' ')) c = c := by
      by_cases hblank : first = ' '
      · have hlower : c.isLower = false := by
          by_contra hlower
          exact h.1 ⟨by simp [hblank], by simpa using hlower, trivial⟩
        simp [capitalAt, hblank, capital_eq_self hc hlower]
      · simp [capitalAt, hblank]
    rw [capitalize_cons hc, hfirst, ih c hcs h.2]

/-! ## Single blanks -/

/-- A character stays unless it is a blank in front of another. -/
theorem squeezeBlanks_cons {c : Char} {cs : List Char} (h : c = ' ' → cs.head? ≠ some ' ') :
    squeezeBlanks (c :: cs) = c :: squeezeBlanks cs := by
  rw [squeezeBlanks]
  rintro ds hc rfl
  exact h hc rfl

/-- A text without two blanks next to each other stays as it is. -/
theorem squeezeBlanks_eq_self {cs : List Char} (h : Avoids [(· == ' '), (· == ' ')] cs) :
    squeezeBlanks cs = cs := by
  fun_induction squeezeBlanks cs with
  | case1 cs _ => exact absurd ⟨rfl, rfl, trivial⟩ h.1
  | case2 c cs _ ih => rw [ih h.2]
  | case3 => rfl

/-- The first character stays where blanks are squeezed. -/
theorem head?_squeezeBlanks (cs : List Char) : (squeezeBlanks cs).head? = cs.head? := by
  fun_induction squeezeBlanks cs with
  | case1 cs ih => exact ih
  | case2 c cs _ _ => rfl
  | case3 => rfl

/-- A text is what is left of it with blanks put in. -/
theorem spaces_squeezeBlanks (cs : List Char) : Spaces (squeezeBlanks cs) cs := by
  fun_induction squeezeBlanks cs with
  | case1 cs ih => exact .blank ih
  | case2 c cs _ ih => exact .cons c ih
  | case3 => exact .nil

/-- No blank is next to another where blanks are squeezed. -/
theorem avoids_squeezeBlanks (cs : List Char) :
    Avoids [(· == ' '), (· == ' ')] (squeezeBlanks cs) := by
  fun_induction squeezeBlanks cs with
  | case1 cs ih => exact ih
  | case2 c cs hsingle ih =>
    refine ⟨fun ⟨hc, hmore⟩ => ?_, ih⟩
    have hhead := head?_squeezeBlanks cs
    cases hsqueezed : squeezeBlanks cs with
    | nil => rwa [hsqueezed] at hmore
    | cons d ds =>
      rw [hsqueezed] at hmore hhead
      have hd : d = ' ' := by simpa using hmore.1
      obtain ⟨rest, rfl⟩ : ∃ rest, cs = d :: rest := List.head?_eq_some_iff.1 hhead.symm
      exact hsingle rest (by simpa using hc) (by rw [hd])
  | case3 => exact id

/-- Squeezing blanks makes no match of predicates that the blank does not satisfy. -/
theorem Matches.of_squeezeBlanks {ps : List (Char → Bool)} (hps : ∀ p ∈ ps, p ' ' = false)
    {cs : List Char} (h : Matches ps (squeezeBlanks cs)) : Matches ps cs := by
  fun_induction squeezeBlanks cs generalizing ps with
  | case1 cs ih =>
    cases ps with
    | nil => trivial
    | cons p ps => exact absurd rfl (ne_blank (hps p List.mem_cons_self) (ih hps h).1)
  | case2 c cs _ ih =>
    cases ps with
    | nil => trivial
    | cons p ps => exact ⟨h.1, ih (List.forall_mem_cons.1 hps).2 h.2⟩
  | case3 => exact h

/-- Squeezing blanks makes no pattern in which the blank can stand at the first place only. -/
theorem Avoids.squeezeBlanks {p : Char → Bool} {ps : List (Char → Bool)}
    (hps : ∀ q ∈ ps, q ' ' = false) {cs : List Char} (h : Avoids (p :: ps) cs) :
    Avoids (p :: ps) (squeezeBlanks cs) := by
  fun_induction Story.squeezeBlanks cs with
  | case1 cs ih => exact ih h.2
  | case2 c cs _ ih =>
    exact ⟨fun ⟨hc, hmore⟩ => h.1 ⟨hc, hmore.of_squeezeBlanks hps⟩, ih h.2⟩
  | case3 => exact h

/-- Words stay apart where blanks are squeezed. -/
theorem WordsApart.squeezeBlanks {cs : List Char} (h : WordsApart cs) :
    WordsApart (squeezeBlanks cs) where
  smallCapital := h.smallCapital.squeezeBlanks (by decide)
  capitals := h.capitals.squeezeBlanks (by decide)
  letterDigit := h.letterDigit.squeezeBlanks (by decide)
  digitLetter := h.digitLetter.squeezeBlanks (by decide)

/-- One blank in front is all that a blank in front of plain characters leaves of those there. -/
theorem squeezeBlanks_blank {cs : List Char} (hcs : ∀ c ∈ cs, isPlain c = true) :
    squeezeBlanks (' ' :: cs) = ' ' :: trimStart (squeezeBlanks cs) := by
  induction cs with
  | nil => rfl
  | cons c cs ih =>
    obtain ⟨hc, hrest⟩ := List.forall_mem_cons.1 hcs
    by_cases hblank : c = ' '
    · subst hblank
      have htwice :
          trimStart (' ' :: trimStart (squeezeBlanks cs)) = trimStart (squeezeBlanks cs) :=
        (List.dropWhile_cons_of_pos (by decide)).trans (List.dropWhile_idempotent _ _)
      rw [squeezeBlanks, ih hrest, htwice]
    · have hword : isWhiteSpace c = false := by simp [(plain_spec hc).1, hblank]
      rw [squeezeBlanks_cons (by simpa using hblank), squeezeBlanks_cons (by simp [hblank]),
        trimStart, List.dropWhile_cons_of_neg (by simp [hword])]

/-- Single blanks, with one more in front, are a start of what a blank in front gives. -/
theorem space_cons_isPrefix {cs : List Char} (hcs : ∀ c ∈ cs, isPlain c = true) :
    ' ' :: trim (squeezeBlanks cs) <+: squeezeBlanks (' ' :: cs) := by
  obtain ⟨ds, hds, -⟩ := Text.exists_eq_trimEnd_append (trimStart (squeezeBlanks cs))
  rw [squeezeBlanks_blank hcs]
  exact (List.prefix_cons_inj ' ').2 ⟨ds, hds.symm⟩

/-- A text of plain characters is what is left of it without the white space at its ends, with
blanks put in. -/
theorem spaces_trim {cs : List Char} (hcs : ∀ c ∈ cs, isPlain c = true) : Spaces (trim cs) cs := by
  have hblank {c : Char} (hc : isPlain c = true) (hwhite : isWhiteSpace c = true) : c = ' ' := by
    simpa [(plain_spec hc).1] using hwhite
  have hstart {ds : List Char} (hds : ∀ d ∈ ds, isPlain d = true) : Spaces (trimStart ds) ds := by
    unfold trimStart
    induction ds with
    | nil => exact .nil
    | cons d ds ih =>
      obtain ⟨hd, hrest⟩ := List.forall_mem_cons.1 hds
      rw [List.dropWhile_cons]
      split
      · next hwhite =>
        obtain rfl := hblank hd hwhite
        exact .blank (ih hrest)
      · exact .refl _
  obtain ⟨ds, hends, hwhite⟩ := Text.exists_eq_trimEnd_append (trimStart cs)
  have hblanks : ∀ d ∈ ds, d = ' ' := fun d hd => by
    have hmem : d ∈ trimStart cs := by
      rw [hends]
      exact List.mem_append_right _ hd
    exact hblank (hcs d ((List.dropWhile_sublist _).subset hmem)) (hwhite d hd)
  have hend : Spaces (trimEnd (trimStart cs)) (trimStart cs) := by
    have happend := Spaces.append_blanks (trimEnd (trimStart cs)) hblanks
    rwa [← hends] at happend
  exact hend.trans (hstart hcs)

/-! ## Names to show -/

/-- A name to show is the name with its words set apart and capitalized, in single blanks. -/
theorem displayName_eq (name : List Char) :
    displayName name = trim (squeezeBlanks (capitalize true (spacedName name))) :=
  rfl

/-- Separators are blanks, and other characters stay. -/
theorem blankSeparators_spec {name : List Char}
    (hname : ∀ c ∈ name, c.isAlphanum = true ∨ isBreak c = true) :
    (∀ c ∈ blankSeparators name, isPlain c = true) ∧
      (blankSeparators name).filter (· != ' ') = name.filter (!isBreak ·) := by
  induction name with
  | nil => simp [blankSeparators]
  | cons c name ih =>
    obtain ⟨hc, hname⟩ := List.forall_mem_cons.1 hname
    obtain ⟨hplain, hfilter⟩ := ih hname
    have hwritten : blankSeparators (c :: name) =
        (if c = '_' || c = '-' || c = '.' then ' ' else c) :: blankSeparators name := rfl
    rw [hwritten]
    cases hbreak : isBreak c with
    | true =>
      have hblank : (if c = '_' || c = '-' || c = '.' then ' ' else c) = ' ' := by
        split
        · rfl
        · simp_all [isBreak]
      rw [hblank]
      exact ⟨List.forall_mem_cons.2 ⟨rfl, hplain⟩, by simp [hbreak, hfilter]⟩
    | false =>
      have hkept : (if c = '_' || c = '-' || c = '.' then ' ' else c) = c := by
        simp_all [isBreak]
      have hblank : c ≠ ' ' := by
        rintro rfl
        cases hbreak
      have halnum : isPlain c = true := by simpa [isPlain, hbreak, hblank] using hc
      rw [hkept]
      exact ⟨List.forall_mem_cons.2 ⟨halnum, hplain⟩, by simp [hbreak, hblank, hfilter]⟩

/-- A text in start case: plain characters, with words apart, each with a capital if it starts with
a letter, and single blanks between them. -/
structure StartCase (cs : List Char) : Prop where
  /-- All characters are plain: letters and digits of ASCII, and blanks. -/
  plain : ∀ c ∈ cs, isPlain c = true
  /-- Words and numbers do not run into each other. -/
  apart : WordsApart cs
  /-- With a blank in front, the first word is behind one too. -/
  capitals : Avoids [(· == ' '), Char.isLower] (' ' :: cs)
  /-- With a blank in front, the text may not start with one. -/
  single : Avoids [(· == ' '), (· == ' ')] (' ' :: cs)
  /-- No blank is at the end. -/
  ends : Text.EndsWord cs

/-- The words of a name in ASCII are plain, and the characters that are no separators are in them.
-/
theorem spacedName_spec {name : List Char}
    (hname : ∀ c ∈ name, c.isAlphanum = true ∨ isBreak c = true) :
    (∀ c ∈ spacedName name, isPlain c = true) ∧
      (spacedName name).filter (· != ' ') = name.filter (!isBreak ·) := by
  have hspaces := spaces_spacedName name
  obtain ⟨hplain, hfilter⟩ := blankSeparators_spec hname
  refine ⟨fun c hc => ?_, hspaces.filter_eq.trans hfilter⟩
  rcases hspaces.mem hc with hc | rfl
  · exact hplain c hc
  · rfl

/-- The words of a name with their capitals are what is left of them in the name to show, with
blanks put in. -/
theorem spaces_displayName {name : List Char}
    (hname : ∀ c ∈ name, c.isAlphanum = true ∨ isBreak c = true) :
    Spaces (displayName name) (capitalize true (spacedName name)) := by
  have hsqueezed := spaces_squeezeBlanks (capitalize true (spacedName name))
  have hplain := isPlain_capitalize (spacedName_spec hname).1 true
  exact (spaces_trim fun c hc => hplain c (hsqueezed.subset hc)).trans hsqueezed

/-- The name to show of a name in ASCII is in start case. -/
theorem startCase_displayName {name : List Char}
    (hname : ∀ c ∈ name, c.isAlphanum = true ∨ isBreak c = true) :
    StartCase (displayName name) := by
  have hspaced := (spacedName_spec hname).1
  have hwritten := isPlain_capitalize hspaced true
  -- With a blank in front, the first word gets its capital as the others do.
  have hframed : ∀ c ∈ ' ' :: spacedName name, isPlain c = true :=
    List.forall_mem_cons.2 ⟨rfl, hspaced⟩
  have hcapital : capitalize false (' ' :: spacedName name) =
      ' ' :: capitalize true (spacedName name) := capitalize_cons rfl false _
  have hfront : ' ' :: displayName name <+:
      squeezeBlanks (capitalize false (' ' :: spacedName name)) := by
    rw [displayName_eq, hcapital]
    exact space_cons_isPrefix hwritten
  have hapart : WordsApart (capitalize false (' ' :: spacedName name)) :=
    .capitalize hframed ((wordsApart_spacedName name).of_spaces (.blank (.refl _))) false
  exact
    { plain := fun c hc => hwritten c ((spaces_displayName hname).subset hc)
      apart := (hapart.squeezeBlanks.of_isPrefix hfront).of_cons
      capitals := .of_isPrefix hfront ((avoids_capitalize hframed false).squeezeBlanks (by decide))
      single := .of_isPrefix hfront (avoids_squeezeBlanks _)
      ends := Text.endsWord_trim _ }

/-! ## Showing a name twice -/

/-- The first character stays where capitals are set apart. -/
theorem head?_splitCapitalized (cs : List Char) : (splitCapitalized cs).head? = cs.head? := by
  fun_cases splitCapitalized cs <;> rfl

/-- Blanks in front of capitals put no small letter behind a blank. -/
theorem avoids_splitCapitalized_of_avoids {cs : List Char} {first : Char}
    (h : Avoids [(· == ' '), Char.isLower] (first :: cs)) :
    Avoids [(· == ' '), Char.isLower] (first :: splitCapitalized cs) := by
  fun_induction splitCapitalized cs generalizing first with
  | case1 a b c cs hmatch ih =>
    have hb : b.isUpper = true := (Bool.and_eq_true_iff.1 (Bool.and_eq_true_iff.1 hmatch).1).2
    -- Behind the new blank a capital stands, so no small letter has come behind one.
    refine ⟨fun ⟨hfirst, ha, _⟩ => h.1 ⟨hfirst, ha, trivial⟩, fun ⟨_, hblank, _⟩ => ?_,
      fun ⟨_, hlower, _⟩ => ?_, fun ⟨hblank, _⟩ => ?_, ih h.2.2.2⟩
    · exact absurd hblank (by decide)
    · rw [isUpper_of_isLower hlower] at hb
      cases hb
    · exact ne_blank (by decide) hb (by simpa using hblank)
  | case2 a b c cs _ ih =>
    exact ⟨fun ⟨hblank, ha, _⟩ => h.1 ⟨hblank, ha, trivial⟩, ih h.2⟩
  | case3 cs => exact h

/-- In start case, capitals are set apart at blanks only, which are squeezed. -/
theorem squeezeBlanks_splitCapitalized {cs : List Char} (hcs : ∀ c ∈ cs, isPlain c = true)
    (hapart : WordsApart cs) (hsingle : Avoids [(· == ' '), (· == ' ')] cs) :
    squeezeBlanks (splitCapitalized cs) = cs := by
  fun_induction splitCapitalized cs with
  | case1 a b c cs hmatch ih =>
    simp only [Bool.and_eq_true] at hmatch
    obtain ⟨⟨-, hb⟩, hc⟩ := hmatch
    have hrest : squeezeBlanks (splitCapitalized cs) = cs :=
      ih (fun d hd => hcs d (by simp [hd])) hapart.of_cons.of_cons.of_cons hsingle.2.2.2
    -- A letter or a digit in front of the capital would not be apart from it.
    have ha : a = ' ' := by
      have hlower : a.isLower = false := by
        by_contra hsmall
        exact hapart.smallCapital.1 ⟨by simpa using hsmall, hb, trivial⟩
      have hupper : a.isUpper = false := by
        by_contra hcapital
        exact hapart.capitals.1 ⟨by simpa using hcapital, hb, hc, trivial⟩
      have hdigit : a.isDigit = false := by
        by_contra hnumber
        have hletter : isLetter b = true := by simp [isLetter, Selector.isAlpha_eq, hb]
        exact hapart.digitLetter.1 ⟨by simpa using hnumber, hletter, trivial⟩
      simpa [isPlain, Char.isAlphanum, Selector.isAlpha_eq, hlower, hupper, hdigit] using
        hcs a List.mem_cons_self
    subst ha
    have hfirst : b ≠ ' ' := ne_blank (by decide) hb
    have hsecond : c ≠ ' ' := ne_blank (by decide) hc
    rw [squeezeBlanks, squeezeBlanks_cons (by simpa using hfirst),
      squeezeBlanks_cons (by simp [hfirst]), squeezeBlanks_cons (by simp [hsecond]), hrest]
  | case2 a b c cs _ ih =>
    have hrest := ih (List.forall_mem_cons.1 hcs).2 hapart.of_cons hsingle.2
    have hblank : a = ' ' → (splitCapitalized (b :: c :: cs)).head? ≠ some ' ' := by
      rintro rfl
      rw [head?_splitCapitalized]
      rintro ⟨⟩
      exact hsingle.1 ⟨rfl, rfl, trivial⟩
    rw [squeezeBlanks_cons hblank, hrest]
  | case3 cs => exact squeezeBlanks_eq_self hsingle

/-- A name in start case is its own name to show. -/
theorem StartCase.displayName_eq_self {cs : List Char} (h : StartCase cs) :
    displayName cs = cs := by
  have hseparators : blankSeparators cs = cs := by
    have hkept : ∀ c ∈ cs, (if c = '_' || c = '-' || c = '.' then ' ' else c) = c := fun c hc =>
      of_isPlain (p := fun c => (if c = '_' || c = '-' || c = '.' then ' ' else c) = c)
        (by decide +kernel) (h.plain c hc)
    exact (List.map_congr_left hkept).trans (List.map_id' _)
  have hspaces := spaces_splitCapitalized cs
  have hapart : WordsApart (splitCapitalized cs) := h.apart.of_spaces hspaces
  have hspaced : spacedName cs = splitCapitalized cs := by
    rw [spacedName, hseparators, splitBetween_eq_self hapart.smallCapital,
      splitBetween_eq_self hapart.letterDigit, splitBetween_eq_self hapart.digitLetter]
  have hplain : ∀ c ∈ splitCapitalized cs, isPlain c = true := fun c hc => by
    rcases hspaces.mem hc with hc | rfl
    · exact h.plain c hc
    · rfl
  have hcapital : capitalize true (splitCapitalized cs) = splitCapitalized cs :=
    capitalize_eq_self ' ' hplain (avoids_splitCapitalized_of_avoids h.capitals)
  have hstart : ∀ c ∈ cs.head?, isWhiteSpace c = false := fun c hc => by
    obtain ⟨rest, rfl⟩ := List.head?_eq_some_iff.1 hc
    have hblank : c ≠ ' ' := by
      rintro rfl
      exact h.single.1 ⟨rfl, rfl, trivial⟩
    simp [(plain_spec (h.plain c List.mem_cons_self)).1, hblank]
  calc displayName cs = trim (squeezeBlanks (capitalize true (spacedName cs))) := rfl
    _ = trim (squeezeBlanks (splitCapitalized cs)) := by rw [hspaced, hcapital]
    _ = trim cs := by rw [squeezeBlanks_splitCapitalized h.plain h.apart h.single.2]
    _ = cs := Text.trim_eq_self hstart h.ends

/-- The name to show of a name in ASCII has the letters and digits of the name, up to case. No blank
is at its ends or next to another, no small letter is followed by a capital, no letter is next to a
digit, and no word starts with a small letter. Shown once more, the name is the same. -/
theorem displayName_startCase {name : List Char}
    (hname : ∀ c ∈ name, c.isAlphanum = true ∨ isBreak c = true) :
    ((displayName name).filter (· != ' ')).map Char.toLower =
      (name.filter (!isBreak ·)).map Char.toLower ∧
    ((displayName name).head? ≠ some ' ' ∧ (displayName name).getLast? ≠ some ' ') ∧
    (∀ a b, [a, b] <:+: displayName name →
      ¬ (a = ' ' ∧ b = ' ') ∧ ¬ (a.isLower = true ∧ b.isUpper = true) ∧
        ¬ (a.isAlpha = true ∧ b.isDigit = true) ∧ ¬ (a.isDigit = true ∧ b.isAlpha = true)) ∧
    (∀ a b, [a, b] <:+: ' ' :: displayName name → a = ' ' → b.isAlpha = true → b.isUpper = true) ∧
    displayName (displayName name) = displayName name := by
  obtain ⟨hspaced, hfilter⟩ := spacedName_spec hname
  have hcase : StartCase (displayName name) := startCase_displayName hname
  have hletter {c : Char} (h : c.isAlpha = true) : isLetter c = true := by simp [isLetter, h]
  refine ⟨?_, ⟨fun hhead => ?_, fun hlast => ?_⟩, fun a b hab => ⟨?_, ?_, ?_, ?_⟩, ?_, ?_⟩
  · calc ((displayName name).filter (· != ' ')).map Char.toLower
        = ((capitalize true (spacedName name)).filter (· != ' ')).map Char.toLower := by
          rw [(spaces_displayName hname).filter_eq]
      _ = ((spacedName name).filter (· != ' ')).map Char.toLower := toLower_capitalize hspaced true
      _ = (name.filter (!isBreak ·)).map Char.toLower := by rw [hfilter]
  · obtain ⟨rest, hrest⟩ := List.head?_eq_some_iff.1 hhead
    have hsingle := hcase.single.1
    rw [hrest] at hsingle
    exact hsingle ⟨rfl, rfl, trivial⟩
  · exact absurd (hcase.ends ' ' hlast) (by decide)
  · rintro ⟨rfl, rfl⟩
    exact absurd (Avoids.pair hcase.single.2 hab rfl) (by decide)
  · rintro ⟨ha, hb⟩
    rw [hcase.apart.smallCapital.pair hab ha] at hb
    cases hb
  · rintro ⟨ha, hb⟩
    rw [hcase.apart.letterDigit.pair hab (hletter ha)] at hb
    cases hb
  · rintro ⟨ha, hb⟩
    have hno := hcase.apart.digitLetter.pair hab ha
    rw [hletter hb] at hno
    cases hno
  · rintro a b hab rfl hb
    have hlower : b.isLower = false := hcase.capitals.pair hab rfl
    simpa [Selector.isAlpha_eq, hlower] using hb
  · exact hcase.displayName_eq_self

/-- A name with each kind of boundary keeps its letters and digits, and is shown the same twice. -/
theorem displayName_startCase_htmlButton :
    (∀ c ∈ "HTMLButton2_largeX-y".toList, c.isAlphanum = true ∨ isBreak c = true) ∧
      ((displayName "HTMLButton2_largeX-y".toList).filter (· != ' ')).map Char.toLower =
        "htmlbutton2largexy".toList ∧
      displayName (displayName "HTMLButton2_largeX-y".toList) =
        displayName "HTMLButton2_largeX-y".toList := by
  have hall : "HTMLButton2_largeX-y".toList.all (fun c => c.isAlphanum || isBreak c) = true := by
    decide +kernel
  have hname : ∀ c ∈ "HTMLButton2_largeX-y".toList, c.isAlphanum = true ∨ isBreak c = true :=
    fun c hc => Bool.or_eq_true_iff.1 (List.all_eq_true.1 hall c hc)
  obtain ⟨hletters, -, -, -, htwice⟩ := displayName_startCase hname
  exact ⟨hname, hletters.trans (by decide +kernel), htwice⟩

end Recorder.Story
