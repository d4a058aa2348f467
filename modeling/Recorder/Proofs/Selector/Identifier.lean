import Mathlib.Tactic.Common
import Recorder.Proofs.Selector.Condition

/-!
# Names as identifiers of style sheets

What a text is worth as an identifier by the rules of CSS Syntax Level 3. First the ends of lines
become line feeds, and the character of number zero is replaced (`filter`). An identifier starts
with a letter, an underscore, a character beyond ASCII or an escape, and there may be a hyphen in
front of these; two hyphens start one as well (`starts`). It goes on with such characters, digits
and hyphens (`chars`). Behind a backslash, up to six hexadecimal digits and one blank denote the
character of that number, no line may end, and any other character denotes itself (`escaped`).

A name is written with a backslash in front of each character that no name holds, and of a digit at
the start. Readers of selectors here take any character behind a backslash as it is, so they read
the name back (`name_nameText`). By the rules above a digit behind a backslash is a number, and a
hyphen that stands alone or in front of a digit starts no identifier. `denotes_escapeName_iff` says
which names are written so that they are read back by these rules as well.
-/

namespace Recorder.Selector.Identifier

open Text (hexDigit?)

/-! ## The rules -/

/-- The character that stands for those that a style sheet cannot hold. -/
def replacement : Char := '\uFFFD'

/-- The character that is read in the place of a character. -/
def filterChar (c : Char) : Char :=
  if c = '\r' ∨ c = '\x0c' then '\n' else if c = '\x00' then replacement else c

/-- The characters that are read: a carriage return with a line feed behind it is one line feed. -/
def filter : List Char → List Char
  | [] => []
  | c :: cs =>
    if c = '\r' ∧ cs.head? = some '\n' then filter cs else filterChar c :: filter cs

/-- Whether a character is a hexadecimal digit. -/
def isHexDigit (c : Char) : Bool :=
  (hexDigit? c).isSome

/-- The hexadecimal digits at the start of a text, at most so many, and what is behind them. -/
def hexDigits : Nat → List Char → List Char × List Char
  | 0, cs => ([], cs)
  | _ + 1, [] => ([], [])
  | n + 1, c :: cs =>
    if isHexDigit c then (c :: (hexDigits n cs).1, (hexDigits n cs).2) else ([], c :: cs)

/-- The character of the number that hexadecimal digits denote; a number that is none of a character
or zero stands for the replacement. -/
def numbered (digits : List Char) : Char :=
  let n := digits.foldl (fun n d => 16 * n + (hexDigit? d).getD 0) 0
  if n ≠ 0 ∧ n.isValidChar then Char.ofNat n else replacement

/-- A text without the blank at its start, if there is one. -/
def skipBlank : List Char → List Char
  | [] => []
  | c :: cs => if c = '\n' ∨ c = '\t' ∨ c = ' ' then cs else c :: cs

/-- The character that an escape denotes, and what is behind it. The text is the one behind the
backslash. -/
def escaped : List Char → Char × List Char
  | [] => (replacement, [])
  | c :: cs =>
    if isHexDigit c then (numbered (c :: (hexDigits 5 cs).1), skipBlank (hexDigits 5 cs).2)
    else (c, cs)

/-- Whether a text starts with an escape: a backslash at which no line ends. -/
def startsEscape : List Char → Bool
  | [] => false
  | c :: cs => c = '\\' && cs.head? != some '\n'

/-- Whether an identifier may start with a character. -/
def isStart (c : Char) : Bool :=
  c.isAlpha || c = '_' || 0x80 ≤ c.toNat

/-- Whether a character may be part of an identifier. -/
def isPart (c : Char) : Bool :=
  isStart c || c.isDigit || c = '-'

/-- Whether a text starts with an identifier. -/
def starts : List Char → Bool
  | [] => false
  | c :: cs =>
    if c = '-' then cs.head?.any (fun d => isStart d || d = '-') || startsEscape cs
    else isStart c || startsEscape (c :: cs)

/-- Digits take no negative room. -/
theorem length_hexDigits_le (n : Nat) (cs : List Char) : (hexDigits n cs).2.length ≤ cs.length := by
  fun_induction hexDigits n cs with
  | case1 | case2 | case4 => exact Nat.le_refl _
  | case3 n c cs _ ih => exact Nat.le_succ_of_le ih

/-- An escape takes no negative room. -/
theorem length_escaped_le (cs : List Char) : (escaped cs).2.length ≤ cs.length := by
  have hblank (ds : List Char) : (skipBlank ds).length ≤ ds.length := by
    unfold skipBlank
    split
    · exact Nat.le_refl _
    · split <;> simp
  cases cs with
  | nil => exact Nat.le_refl _
  | cons c cs =>
    rw [escaped]
    split
    · have := hblank (hexDigits 5 cs).2
      have := length_hexDigits_le 5 cs
      simp only [List.length_cons]
      omega
    · simp

/-- The characters that the longest identifier at the start of a text denotes, and what is behind
it. -/
def chars : List Char → List Char × List Char
  | [] => ([], [])
  | c :: cs =>
    if isPart c then (c :: (chars cs).1, (chars cs).2)
    else if startsEscape (c :: cs) then
      ((escaped cs).1 :: (chars (escaped cs).2).1, (chars (escaped cs).2).2)
    else ([], c :: cs)
termination_by cs => cs.length
decreasing_by
  · simp
  · have := length_escaped_le cs
    simp only [List.length_cons]
    omega

/-- The name that an identifier at the start of a text denotes, and what is behind it. -/
def read? (cs : List Char) : Option (List Char × List Char) :=
  if starts (filter cs) then some (chars (filter cs)) else none

/-- A text is an identifier from its first to its last character, and denotes a name. -/
def Denotes (text name : String) : Prop :=
  read? text.toList = some (name.toList, [])

/-! ## What is written of a name -/

/-- What is read of a character of a name. -/
def shown (c : Char) : List Char :=
  escapeIf (needsEscape c) (filterChar c)

/-- A character stays as it is and ends no line exactly if it is none of four. -/
theorem filterChar_eq_self_iff {c : Char} :
    filterChar c = c ∧ c ≠ '\n' ↔ c ≠ '\n' ∧ c ≠ '\r' ∧ c ≠ '\x0c' ∧ c ≠ '\x00' := by
  unfold filterChar
  split_ifs with hline hzero
  · constructor
    · rintro ⟨rfl, h⟩
      exact absurd rfl h
    · rintro ⟨-, hreturn, hfeed, -⟩
      exact absurd hline (by simp [hreturn, hfeed])
  · subst hzero
    decide
  · simp_all

/-- A character that a name holds without a backslash is another one than one that needs it. -/
theorem ne_of_isNameChar {c d : Char} (hc : isNameChar c = true) (hd : isNameChar d = false) :
    c ≠ d := by
  rintro rfl
  simp [hd] at hc

/-- Characters that a name holds without a backslash stay as they are. -/
theorem filterChar_of_isNameChar {c : Char} (h : isNameChar c = true) : filterChar c = c := by
  have hreturn : c ≠ '\r' := ne_of_isNameChar h (by decide)
  have hfeed : c ≠ '\x0c' := ne_of_isNameChar h (by decide)
  have hzero : c ≠ '\x00' := ne_of_isNameChar h (by decide)
  simp [filterChar, hreturn, hfeed, hzero]

/-- Characters that a name holds without a backslash are shown as they are. -/
theorem shown_of_isNameChar {c : Char} (h : isNameChar c = true) : shown c = [c] := by
  rw [shown, needsEscape_eq, h, filterChar_of_isNameChar h]
  rfl

/-- Other characters are shown behind a backslash. -/
theorem shown_of_not_isNameChar {c : Char} (h : isNameChar c = false) :
    shown c = ['\\', filterChar c] := by
  rw [shown, needsEscape_eq, h]
  rfl

/-- The characters that a name holds without a backslash are those that an identifier does. -/
theorem isPart_eq (c : Char) : isPart c = isNameChar c := by
  rw [Bool.eq_iff_iff]
  simp only [isPart, isStart, isNameChar, Char.isAlphanum, Bool.or_eq_true, decide_eq_true_eq]
  tauto

/-- A hexadecimal digit is an ASCII character. -/
theorem toNat_lt_of_isHexDigit {c : Char} (h : isHexDigit c = true) : c.toNat < 0x80 := by
  have hrange : ('0' ≤ c ∧ c ≤ '9') ∨ ('a' ≤ c ∧ c ≤ 'f') ∨ ('A' ≤ c ∧ c ≤ 'F') := by
    unfold isHexDigit hexDigit? at h
    split_ifs at h with hdigit hlower hupper
    · exact .inl hdigit
    · exact .inr (.inl hlower)
    · exact .inr (.inr hupper)
    · cases h
  have hle {d : Char} (hd : c ≤ d) : c.toNat ≤ d.toNat := hd
  rcases hrange with ⟨-, hc⟩ | ⟨-, hc⟩ | ⟨-, hc⟩ <;>
    exact Nat.lt_of_le_of_lt (hle hc) (by decide)

/-- A hexadecimal digit is a character that a name holds without a backslash. -/
theorem isNameChar_of_isHexDigit {c : Char} (h : isHexDigit c = true) : isNameChar c = true := by
  have hall : isHexDigit c = true → isNameChar c = true :=
    of_ascii (p := fun c => isHexDigit c = true → isNameChar c = true) (by decide)
      (toNat_lt_of_isHexDigit h)
  exact hall h

/-- What is read of a character that needs a backslash is no hexadecimal digit. -/
theorem isHexDigit_filterChar {c : Char} (h : isNameChar c = false) :
    isHexDigit (filterChar c) = false := by
  have hc : isHexDigit c = false := by
    cases hhex : isHexDigit c with
    | false => rfl
    | true => exact absurd (isNameChar_of_isHexDigit hhex) (by simp [h])
  unfold filterChar
  split_ifs
  · decide
  · decide
  · exact hc

/-- What is shown of characters does not start with an end of line or a blank. -/
theorem skipBlank_flatMap_shown (cs : List Char) :
    skipBlank (cs.flatMap shown) = cs.flatMap shown := by
  cases cs with
  | nil => rfl
  | cons c cs =>
    rw [List.flatMap_cons]
    cases hc : isNameChar c with
    | false =>
      have hslash : ¬ ('\\' = '\n' ∨ '\\' = '\t' ∨ '\\' = ' ') := by decide
      rw [shown_of_not_isNameChar hc, List.cons_append, skipBlank, if_neg hslash]
    | true =>
      have hblank : ¬ (c = '\n' ∨ c = '\t' ∨ c = ' ') := by
        rintro (rfl | rfl | rfl) <;> exact absurd hc (by decide)
      rw [shown_of_isNameChar hc, List.singleton_append, skipBlank, if_neg hblank]

/-- The digits at the start of what is shown of a name are those of the name. -/
theorem hexDigits_flatMap_shown (n : Nat) (cs : List Char) :
    ∃ k ≤ cs.length,
      hexDigits n (cs.flatMap shown) = (cs.take k, (cs.drop k).flatMap shown) := by
  induction n generalizing cs with
  | zero => exact ⟨0, Nat.zero_le _, rfl⟩
  | succ n ih =>
    cases cs with
    | nil => exact ⟨0, Nat.zero_le _, rfl⟩
    | cons c cs =>
      cases hc : isHexDigit c with
      | true =>
        obtain ⟨k, hk, hdigits⟩ := ih cs
        refine ⟨k + 1, Nat.succ_le_succ hk, ?_⟩
        rw [List.flatMap_cons, shown_of_isNameChar (isNameChar_of_isHexDigit hc),
          List.singleton_append, hexDigits, if_pos hc, hdigits, List.take_succ_cons,
          List.drop_succ_cons]
      | false =>
        -- What is shown of another character starts with itself or a backslash.
        obtain ⟨d, ds, hshown, hd⟩ : ∃ d ds, shown c = d :: ds ∧ isHexDigit d = false := by
          cases hname : isNameChar c with
          | true => exact ⟨c, [], shown_of_isNameChar hname, hc⟩
          | false => exact ⟨'\\', [filterChar c], shown_of_not_isNameChar hname, by decide⟩
        refine ⟨0, Nat.zero_le _, ?_⟩
        rw [List.take_zero, List.drop_zero, List.flatMap_cons, hshown, List.cons_append, hexDigits,
          hd]
        rfl

/-! ## Reading what is shown -/

/-- A character of a name is read if no line ends at it, as the one it is shown by. -/
theorem chars_shown_append (c : Char) (rest : List Char) :
    chars (shown c ++ rest) =
      if filterChar c = '\n' then ([], shown c ++ rest)
      else (filterChar c :: (chars rest).1, (chars rest).2) := by
  cases hc : isNameChar c with
  | true =>
    have hfeed : c ≠ '\n' := ne_of_isNameChar hc (by decide)
    rw [shown_of_isNameChar hc, filterChar_of_isNameChar hc, if_neg hfeed, List.singleton_append,
      chars, isPart_eq, hc, if_pos rfl]
  | false =>
    rw [shown_of_not_isNameChar hc, List.cons_append, List.singleton_append, chars,
      if_neg (by decide)]
    by_cases hfeed : filterChar c = '\n'
    · rw [if_pos hfeed, if_neg (by simp [startsEscape, hfeed])]
    · rw [if_neg hfeed, if_pos (by simp [startsEscape, hfeed]), escaped, isHexDigit_filterChar hc]
      rfl

/-- Characters are read back to the last one exactly if each of them is shown as it is and ends no
line. -/
theorem chars_flatMap_shown_iff (cs : List Char) :
    chars (cs.flatMap shown) = (cs, []) ↔ ∀ c ∈ cs, filterChar c = c ∧ c ≠ '\n' := by
  induction cs with
  | nil => simp [chars]
  | cons c cs ih =>
    rw [List.flatMap_cons, chars_shown_append, List.forall_mem_cons, ← ih]
    by_cases hfeed : filterChar c = '\n'
    · have hc : ¬ (filterChar c = c ∧ c ≠ '\n') := fun h => h.2 (h.1 ▸ hfeed)
      rw [if_pos hfeed]
      exact iff_of_false (by simp) fun h => hc h.1
    · rw [if_neg hfeed]
      constructor
      · intro h
        obtain ⟨hhead, hrest⟩ := Prod.mk.inj h
        obtain ⟨hself, htail⟩ := List.cons.inj hhead
        exact ⟨⟨hself, fun hc => hfeed (hself.trans hc)⟩, Prod.ext htail hrest⟩
      · rintro ⟨⟨hself, -⟩, h⟩
        rw [h, hself]

/-- No more characters are read than there are. -/
theorem length_chars_flatMap_shown_le (cs : List Char) :
    (chars (cs.flatMap shown)).1.length ≤ cs.length := by
  induction cs with
  | nil => simp [chars]
  | cons c cs ih =>
    rw [List.flatMap_cons, chars_shown_append]
    split
    · exact Nat.zero_le _
    · exact Nat.succ_le_succ ih

/-- What holds of the digits among the ASCII characters holds of every digit. -/
theorem of_isDigit {p : Char → Prop}
    (h : ∀ n < 0x80, (Char.ofNat n).isDigit = true → p (Char.ofNat n)) {c : Char}
    (hc : c.isDigit = true) : p c := by
  have hascii : c.toNat < 0x80 := toNat_lt_of_isAlphanum (by simp [Char.isAlphanum, hc])
  exact of_ascii (p := fun c => c.isDigit = true → p c) h hascii hc

/-- A digit behind a backslash is a number, and no number of one digit is that of the digit. -/
theorem numbered_ne {c : Char} (h : c.isDigit = true) : numbered [c] ≠ c :=
  of_isDigit (p := fun c => numbered [c] ≠ c) (by decide) h

/-- A digit behind a backslash and what is shown of more characters are not read back: either more
digits belong to the number, and then there are too few characters, or the digit is another
character. -/
theorem chars_digit_ne {c : Char} (h : c.isDigit = true) (cs : List Char) :
    chars ('\\' :: c :: cs.flatMap shown) ≠ (c :: cs, []) := by
  have hhex : isHexDigit c = true := of_isDigit (p := fun c => isHexDigit c = true) (by decide) h
  have hfeed : c ≠ '\n' := of_isDigit (p := fun c => c ≠ '\n') (by decide) h
  obtain ⟨k, hk, hdigits⟩ := hexDigits_flatMap_shown 5 cs
  intro heq
  rw [chars, if_neg (by decide), if_pos (by simp [startsEscape, hfeed]), escaped, if_pos hhex,
    hdigits, skipBlank_flatMap_shown] at heq
  obtain ⟨hfirst, hmore⟩ := List.cons.inj (Prod.mk.inj heq).1
  -- All that is behind the digit has to be read from what is behind the digits of the number.
  have hlength : cs.length ≤ cs.length - k := by
    calc cs.length = (chars ((cs.drop k).flatMap shown)).1.length := by rw [hmore]
      _ ≤ (cs.drop k).length := length_chars_flatMap_shown_le _
      _ = cs.length - k := List.length_drop
  obtain rfl : k = 0 := by omega
  exact numbered_ne h hfirst

/-! ## Names that are read back -/

/-- A text that starts with what is shown of a character starts with an identifier, unless it is a
digit or a hyphen. -/
theorem starts_shown_append {c : Char} (hdigit : c.isDigit = false) (hhyphen : c ≠ '-')
    (hfeed : filterChar c ≠ '\n') (rest : List Char) : starts (shown c ++ rest) = true := by
  cases hc : isNameChar c with
  | true =>
    have hstart : isStart c = true := by
      rw [← isPart_eq, isPart, hdigit] at hc
      simpa [hhyphen] using hc
    rw [shown_of_isNameChar hc, List.singleton_append, starts, if_neg hhyphen, hstart,
      Bool.true_or]
  | false =>
    rw [shown_of_not_isNameChar hc, List.cons_append, starts, if_neg (by decide)]
    simp [startsEscape, hfeed]

/-- No identifier starts with a digit, and a digit is no hyphen. -/
theorem isStart_of_isDigit {c : Char} (h : c.isDigit = true) : isStart c = false ∧ c ≠ '-' :=
  of_isDigit (p := fun c => isStart c = false ∧ c ≠ '-') (by decide) h

/-- A hyphen starts an identifier in front of any character but a digit. -/
theorem starts_hyphen {d : Char} (hfeed : filterChar d ≠ '\n') (rest : List Char) :
    starts ('-' :: (shown d ++ rest)) = !d.isDigit := by
  rw [starts, if_pos rfl]
  cases hd : isNameChar d with
  | true =>
    have hslash : d ≠ '\\' := ne_of_isNameChar hd (by decide)
    rw [shown_of_isNameChar hd, List.singleton_append, List.head?_cons, Option.any_some,
      startsEscape, decide_eq_false hslash, Bool.false_and, Bool.or_false]
    cases hdigit : d.isDigit with
    | true =>
      obtain ⟨hstart, hhyphen⟩ := isStart_of_isDigit hdigit
      rw [hstart, decide_eq_false hhyphen]
      rfl
    | false =>
      rw [← isPart_eq, isPart, hdigit, Bool.or_false] at hd
      exact hd
  | false =>
    have hdigit : d.isDigit = false := by
      rw [← isPart_eq, isPart] at hd
      simp only [Bool.or_eq_false_iff] at hd
      exact hd.1.2
    rw [shown_of_not_isNameChar hd, hdigit]
    simp [startsEscape, hfeed]

/-- What is written of the characters of a name does not start with a line feed. -/
theorem head?_flatMap_escapeIf (cs : List Char) :
    (cs.flatMap fun c => escapeIf (needsEscape c) c).head? ≠ some '\n' := by
  cases cs with
  | nil => exact fun h => nomatch h
  | cons c cs =>
    rw [List.flatMap_cons, needsEscape_eq]
    cases hc : isNameChar c with
    | true =>
      have hfeed : c ≠ '\n' := ne_of_isNameChar hc (by decide)
      exact fun h => hfeed (Option.some.inj h)
    | false => exact fun h => absurd (Option.some.inj h) (by decide)

/-- Of a character that is written, with or without a backslash, its own one is read where no line
feed is behind it. -/
theorem filter_escapeIf (escaped : Bool) (c : Char) {rest : List Char}
    (h : rest.head? ≠ some '\n') :
    filter (escapeIf escaped c ++ rest) = escapeIf escaped (filterChar c) ++ filter rest := by
  have hc : filter (c :: rest) = filterChar c :: filter rest := by
    rw [filter, if_neg fun hline => h hline.2]
  cases escaped with
  | false => exact hc
  | true =>
    show filter ('\\' :: c :: rest) = '\\' :: filterChar c :: filter rest
    rw [filter, if_neg (by simp), hc]
    rfl

/-- What is read of the characters of a name. -/
theorem filter_flatMap_escapeIf (cs : List Char) :
    filter (cs.flatMap fun c => escapeIf (needsEscape c) c) = cs.flatMap shown := by
  induction cs with
  | nil => rfl
  | cons c cs ih =>
    rw [List.flatMap_cons, filter_escapeIf _ _ (head?_flatMap_escapeIf cs), ih, List.flatMap_cons,
      shown]

/-- What is read of a name that starts with a digit. -/
theorem filter_nameText_digit {c : Char} (h : c.isDigit = true) (cs : List Char) :
    filter (nameText (c :: cs)) = '\\' :: c :: cs.flatMap shown := by
  have hname : isNameChar c = true := by
    rw [← isPart_eq, isPart, h]
    simp
  rw [nameText, h, Bool.or_true, filter_escapeIf _ _ (head?_flatMap_escapeIf cs),
    filter_flatMap_escapeIf, filterChar_of_isNameChar hname]
  rfl

/-- What is read of a name that starts with any other character. -/
theorem filter_nameText {c : Char} (h : c.isDigit = false) (cs : List Char) :
    filter (nameText (c :: cs)) = (c :: cs).flatMap shown := by
  rw [nameText, h, Bool.or_false, ← filter_flatMap_escapeIf, List.flatMap_cons]

/-- The names that are written as identifiers: those that do not start with a digit, also not behind
a hyphen, are more than a hyphen, and hold no end of a line and no character of number zero. -/
structure IsFaithful (cs : List Char) : Prop where
  /-- There is a first character, and it is no digit. -/
  start : ∃ c, cs.head? = some c ∧ c.isDigit = false
  /-- Behind a hyphen at the start there is a character, and it is no digit. -/
  hyphen : cs.head? = some '-' → ∃ d, cs.tail.head? = some d ∧ d.isDigit = false
  /-- No character ends a line, and none has the number zero. -/
  chars : ∀ c ∈ cs, c ≠ '\n' ∧ c ≠ '\r' ∧ c ≠ '\x0c' ∧ c ≠ '\x00'

/-- What is shown of characters that are read back starts with an identifier exactly if what is
behind a hyphen at the start is there and no digit. -/
theorem starts_flatMap_shown_iff {c : Char} {cs : List Char} (hdigit : c.isDigit = false)
    (h : ∀ d ∈ c :: cs, filterChar d = d ∧ d ≠ '\n') :
    starts ((c :: cs).flatMap shown) = true ↔
      (c = '-' → ∃ d, cs.head? = some d ∧ d.isDigit = false) := by
  have hfeed (d : Char) (hd : d ∈ c :: cs) : filterChar d ≠ '\n' := by
    obtain ⟨hself, hne⟩ := h d hd
    rwa [hself]
  by_cases hc : c = '-'
  · subst hc
    cases cs with
    | nil =>
      have hstarts : starts (shown '-') = false := by decide
      simp [hstarts]
    | cons d cs =>
      have hd : filterChar d ≠ '\n' := hfeed d (List.mem_cons_of_mem _ List.mem_cons_self)
      rw [List.flatMap_cons, List.flatMap_cons, shown_of_isNameChar (by decide),
        List.singleton_append, starts_hyphen hd]
      simp
  · rw [List.flatMap_cons, starts_shown_append hdigit hc (hfeed c List.mem_cons_self)]
    exact iff_of_true rfl fun hhyphen => absurd hhyphen hc

/-- A name is written as an identifier that denotes it, by the rules of style sheets, exactly if it
does not start with a digit or with a hyphen and a digit, is not a hyphen alone and not empty, and
holds no end of a line and no character of number zero. -/
theorem denotes_escapeName_iff (s : String) : Denotes (escapeName s) s ↔ IsFaithful s.toList := by
  have hread : Denotes (escapeName s) s ↔ starts (filter (nameText s.toList)) = true ∧
      chars (filter (nameText s.toList)) = (s.toList, []) := by
    rw [Denotes, escapeName, String.toList_ofList, read?]
    split <;> simp_all
  rw [hread]
  cases s.toList with
  | nil =>
    refine iff_of_false (fun h => ?_) fun h => ?_
    · exact absurd h.1 (by simp [nameText, filter, starts])
    · obtain ⟨c, hc, -⟩ := h.start
      cases hc
  | cons c cs =>
    cases hdigit : c.isDigit with
    | true =>
      -- A digit at the start is the only character with a backslash in front that names hold.
      rw [filter_nameText_digit hdigit]
      refine iff_of_false (fun h => chars_digit_ne hdigit cs h.2) fun h => ?_
      obtain ⟨d, hd, hnot⟩ := h.start
      obtain rfl : c = d := Option.some.inj hd
      exact absurd hdigit (by simp [hnot])
    | false =>
      rw [filter_nameText hdigit, chars_flatMap_shown_iff]
      constructor
      · rintro ⟨hstarts, hchars⟩
        have hhyphen := (starts_flatMap_shown_iff hdigit hchars).1 hstarts
        exact
          { start := ⟨c, rfl, hdigit⟩
            hyphen := fun h => hhyphen (Option.some.inj h)
            chars := fun d hd => filterChar_eq_self_iff.1 (hchars d hd) }
      · intro h
        have hchars (d : Char) (hd : d ∈ c :: cs) : filterChar d = d ∧ d ≠ '\n' :=
          filterChar_eq_self_iff.2 (h.chars d hd)
        refine ⟨(starts_flatMap_shown_iff hdigit hchars).2 fun hc => ?_, hchars⟩
        exact h.hyphen (congrArg some hc)

/-- The name of one digit: it is written behind a backslash, readers of selectors here read it back,
and style sheets read the character of number one. -/
theorem not_denotes_escapeName_digit :
    ¬ Denotes (escapeName "1") "1" ∧ read? (escapeName "1").toList = some (['\x01'], []) ∧
      name (escapeName "1").toList = .ok ("1", []) := by
  have hread : read? (escapeName "1").toList = some (['\x01'], []) := by
    have hfilter : filter (escapeName "1").toList = ['\\', '1'] := by decide
    rw [read?, hfilter, if_pos (by decide), chars, if_neg (by decide), if_pos (by decide)]
    have hescaped : escaped ['1'] = ('\x01', []) := by decide
    rw [hescaped, chars]
  refine ⟨fun h => ?_, hread, ?_⟩
  · rw [Denotes, hread] at h
    exact absurd h (by decide)
  · have hname : name (nameText "1".toList ++ []) = .ok ("1", []) :=
      name_nameText (by decide) (by simp [EndsName])
    rwa [escapeName, String.toList_ofList, ← List.append_nil (nameText "1".toList)]

end Recorder.Selector.Identifier
