import Mathlib.Tactic.Common
import Recorder.Selector.Parser
import Recorder.Selector.Printer

/-!
# Reading conditions back

What is written of a condition is read as that condition (`part?_text`). A name goes on up to the
first character that no name holds (`EndsName`), a value up to its quote, and a position up to its
parenthesis; so each function reads its part from the start of any text that goes on in such a way,
and returns the rest.
-/

namespace Recorder.Selector

open Text (isAlphabetic isWhiteSpace asciiLower)

/-! ## Names and values -/

/-- The characters that need a backslash are those that no name holds without one. -/
theorem needsEscape_eq (c : Char) : needsEscape c = !isNameChar c :=
  rfl

/-- No name goes on at the start of a text. -/
def EndsName (cs : List Char) : Prop :=
  ∀ c ∈ cs.head?, isNameChar c = false ∧ c ≠ '\\'

/-- Where no name goes on, none is read. -/
theorem nameChars_of_endsName {cs : List Char} (h : EndsName cs) : nameChars cs = .ok ([], cs) := by
  cases cs with
  | nil => rfl
  | cons c cs =>
    obtain ⟨hname, hslash⟩ := h c rfl
    rw [nameChars.eq_def]
    simp [hslash, hname]

/-- A character with a backslash in front is read as it is, and so is a character of names. -/
theorem nameChars_escapeIf {escaped : Bool} {c : Char} {cs name rest : List Char}
    (hc : escaped = false → isNameChar c = true) (h : nameChars cs = .ok (name, rest)) :
    nameChars (escapeIf escaped c ++ cs) = .ok (c :: name, rest) := by
  cases escaped with
  | true =>
    show nameChars ('\\' :: c :: cs) = _
    rw [nameChars.eq_def]
    simp [h]
  | false =>
    have hname := hc rfl
    have hslash : c ≠ '\\' := fun heq => by
      rw [heq] at hname
      exact absurd hname (by decide)
    show nameChars (c :: cs) = _
    rw [nameChars.eq_def]
    simp [hslash, hname, h]

/-- The characters of a name are read back. -/
theorem nameChars_flatMap (cs : List Char) {rest : List Char} (h : EndsName rest) :
    nameChars (cs.flatMap (fun c => escapeIf (needsEscape c) c) ++ rest) = .ok (cs, rest) := by
  induction cs with
  | nil => exact nameChars_of_endsName h
  | cons c cs ih =>
    rw [List.flatMap_cons, List.append_assoc]
    exact nameChars_escapeIf (fun hc => by simpa [needsEscape_eq] using hc) ih

/-- A name is read back. -/
theorem name_nameText {s : String} (hs : s ≠ "") {rest : List Char} (h : EndsName rest) :
    name (nameText s.toList ++ rest) = .ok (s, rest) := by
  cases hchars : s.toList with
  | nil => exact absurd (by simpa using hchars) hs
  | cons c cs =>
    have hread : nameChars (nameText (c :: cs) ++ rest) = .ok (c :: cs, rest) := by
      rw [nameText, List.append_assoc]
      refine nameChars_escapeIf (fun hc => ?_) (nameChars_flatMap cs h)
      rw [Bool.or_eq_false_iff] at hc
      simpa [needsEscape_eq] using hc.1
    have hstring : String.ofList (c :: cs) = s := by rw [← hchars, String.ofList_toList]
    rw [name, hread]
    simp only [hstring]

/-- A name of characters that names may hold stands as it is, unless it starts with a digit. -/
theorem nameText_eq_self {c : Char} {cs : List Char} (hdigit : c.isDigit = false)
    (h : ∀ d ∈ c :: cs, isNameChar d = true) : nameText (c :: cs) = c :: cs := by
  have hescape (d : Char) (hd : d ∈ c :: cs) : needsEscape d = false := by
    simp [needsEscape_eq, h d hd]
  have htail : cs.flatMap (fun d => escapeIf (needsEscape d) d) = cs := by
    have hsingle : cs.map (fun d => escapeIf (needsEscape d) d) = cs.map fun d => [d] :=
      List.map_congr_left fun d hd => by rw [hescape d (List.mem_cons_of_mem c hd)]; rfl
    rw [List.flatMap_def, hsingle, ← List.flatMap_def, List.flatMap_singleton']
  rw [nameText, htail, hescape c List.mem_cons_self, hdigit]
  rfl

/-- The characters between double quotes are read back. -/
theorem quotedChars_flatMap (cs rest : List Char) :
    quotedChars '"' (cs.flatMap (fun c => escapeIf (c = '\\' || c = '"') c) ++ '"' :: rest) =
      .ok (cs, rest) := by
  induction cs with
  | nil =>
    rw [List.flatMap_nil, List.nil_append, quotedChars.eq_def]
    rfl
  | cons c cs ih =>
    rw [List.flatMap_cons, List.append_assoc]
    by_cases hc : c = '\\' ∨ c = '"'
    · -- The reader leaves the backslash out and keeps the character behind it.
      rw [show (c = '\\' || c = '"' : Bool) = true by simpa using hc]
      show quotedChars '"' ('\\' :: c :: _) = _
      rw [quotedChars.eq_def]
      simp [ih]
    · rw [show (c = '\\' || c = '"' : Bool) = false by simpa using hc]
      show quotedChars '"' (c :: _) = _
      rw [not_or] at hc
      rw [quotedChars.eq_def]
      simp [hc, ih]

/-- A value between double quotes is read back. -/
theorem attributeValue_valueText (s : String) (rest : List Char) :
    attributeValue (valueText s.toList ++ rest) = .ok (s, rest) := by
  rw [valueText]
  simp only [List.cons_append, List.append_assoc, List.nil_append]
  rw [attributeValue, if_pos (Or.inl rfl), quotedChars_flatMap]
  simp

/-! ## White space -/

/-- A text that does not start with white space stays as it is. -/
theorem skipSpace_cons {c : Char} (h : isWhiteSpace c = false) (cs : List Char) :
    skipSpace (c :: cs) = c :: cs := by
  simp [skipSpace, h]

/-- A space is skipped. -/
theorem skipSpace_space (cs : List Char) : skipSpace (' ' :: cs) = skipSpace cs :=
  List.dropWhile_cons_of_pos (by decide)

/-- What can be checked of the ASCII characters one by one holds of them all. -/
theorem of_ascii {p : Char → Prop} (h : ∀ n < 0x80, p (Char.ofNat n)) {c : Char}
    (hc : c.toNat < 0x80) : p c :=
  Char.ofNat_toNat c ▸ h c.toNat hc

/-- Letters and digits are ASCII characters. -/
theorem toNat_lt_of_isAlphanum {c : Char} (h : c.isAlphanum = true) : c.toNat < 0x80 := by
  have hkind : ((c.isUpper || c.isLower) || c.isDigit) = true := h
  rw [Bool.or_eq_true, Bool.or_eq_true] at hkind
  rcases hkind with (hupper | hlower) | hdigit
  · have hrange : c.val ≥ 'A'.val ∧ c.val ≤ 'Z'.val := of_decide_eq_true hupper
    exact Nat.lt_of_le_of_lt hrange.2 (by decide)
  · have hrange := Bool.and_eq_true_iff.1 hlower
    exact Nat.lt_of_le_of_lt (of_decide_eq_true hrange.2) (by decide)
  · have hrange := Bool.and_eq_true_iff.1 hdigit
    exact Nat.lt_of_le_of_lt (of_decide_eq_true hrange.2) (by decide)

/-- A letter is a capital or a small letter. -/
theorem isAlpha_eq (c : Char) : c.isAlpha = (c.isUpper || c.isLower) :=
  rfl

/-- The white space among the ASCII characters is no part of a name. -/
theorem isWhiteSpace_of_isNameChar {c : Char} (hascii : c.toNat < 0x80)
    (h : isNameChar c = true) : isWhiteSpace c = false := by
  have hall : isNameChar c = true → isWhiteSpace c = false :=
    of_ascii (p := fun c => isNameChar c = true → isWhiteSpace c = false) (by decide) hascii
  exact hall h

/-- What is written of a name of ASCII characters does not start with white space. -/
theorem skipSpace_nameText {s : String} (hs : s ≠ "")
    (hascii : ∀ c ∈ s.toList, c.toNat < 0x80) (rest : List Char) :
    skipSpace (nameText s.toList ++ rest) = nameText s.toList ++ rest := by
  cases hchars : s.toList with
  | nil => exact absurd (by simpa using hchars) hs
  | cons c cs =>
    rw [nameText]
    cases hescaped : needsEscape c || c.isDigit with
    | true => exact skipSpace_cons (by decide) _
    | false =>
      rw [Bool.or_eq_false_iff] at hescaped
      have hname : isNameChar c = true := by
        simpa [needsEscape_eq] using hescaped.1
      exact skipSpace_cons (isWhiteSpace_of_isNameChar (hascii c (by simp [hchars])) hname) _

/-! ## Conditions -/

/-- A character that is no capital letter is its own lower case. -/
theorem toLower_of_not_isUpper {c : Char} (h : c.isUpper = false) : c.toLower = c := by
  have hupper : ¬ (c.val ≥ 'A'.val ∧ c.val ≤ 'Z'.val) := of_decide_eq_false h
  exact dif_neg hupper

/-- No lower case of a character is a capital letter. -/
theorem isUpper_toLower (c : Char) : c.toLower.isUpper = false := by
  cases hupper : c.isUpper with
  | true =>
    have hascii : c.toNat < 0x80 :=
      toNat_lt_of_isAlphanum (by simp [Char.isAlphanum, isAlpha_eq, hupper])
    exact of_ascii (p := fun c => c.toLower.isUpper = false) (by decide) hascii
  | false => rw [toLower_of_not_isUpper hupper, hupper]

/-- A string without capital letters is its own lower case. -/
theorem asciiLower_eq_self {s : String} (h : ∀ c ∈ s.toList, c.isUpper = false) :
    asciiLower s = s := by
  have hmap : s.toList.map Char.toLower = s.toList :=
    (List.map_congr_left fun c hc => toLower_of_not_isUpper (h c hc)).trans (List.map_id _)
  rw [asciiLower, hmap, String.ofList_toList]

/-- The test of an attribute that is read back: its name has a character, and only ASCII characters
other than capital letters. -/
structure AttributeTest.Printable (t : AttributeTest) : Prop where
  /-- The name is not empty. -/
  name_ne : t.name ≠ ""
  /-- The name is in lower case. -/
  name_lower : ∀ c ∈ t.name.toList, c.toNat < 0x80 ∧ c.isUpper = false

instance (t : AttributeTest) : Decidable t.Printable :=
  -- Only the characters of the name are looked at, not whether each character there is is one.
  decidable_of_iff
    (t.name ≠ "" ∧ t.name.toList.all (fun c => c.toNat < 0x80 ∧ c.isUpper = false) = true)
    ⟨fun h => ⟨h.1, by simpa using h.2⟩, fun h => ⟨h.name_ne, by simpa using h.name_lower⟩⟩

/-- The test of an attribute is read back, behind its opening bracket. -/
theorem attributeTest_text {t : AttributeTest} (ht : t.Printable) (rest : List Char) :
    ∃ cs, t.text = '[' :: cs ∧ attributeTest (cs ++ rest) = .ok (t, rest) := by
  have hlower : asciiLower t.name = t.name :=
    asciiLower_eq_self fun c hc => (ht.name_lower c hc).2
  have hskip := skipSpace_nameText ht.name_ne fun c hc => (ht.name_lower c hc).1
  obtain ⟨n, value⟩ := t
  cases value with
  | none =>
    have hends : EndsName (']' :: rest) := by
      rintro c ⟨⟩
      decide
    refine ⟨nameText n.toList ++ [']'], rfl, ?_⟩
    rw [List.append_assoc, List.singleton_append, attributeTest, hskip,
      name_nameText ht.name_ne hends]
    simp only [skipSpace_cons (show isWhiteSpace ']' = false by decide), hlower]
    rfl
  | some v =>
    have hends : EndsName ('=' :: (valueText v.toList ++ ']' :: rest)) := by
      rintro c ⟨⟩
      decide
    refine ⟨nameText n.toList ++ '=' :: valueText v.toList ++ [']'], rfl, ?_⟩
    have hassoc : nameText n.toList ++ '=' :: valueText v.toList ++ [']'] ++ rest =
        nameText n.toList ++ '=' :: (valueText v.toList ++ ']' :: rest) := by simp
    have hvalue : skipSpace (valueText v.toList ++ ']' :: rest) =
        valueText v.toList ++ ']' :: rest := skipSpace_cons (by decide) _
    rw [hassoc, attributeTest, hskip, name_nameText ht.name_ne hends]
    simp only [skipSpace_cons (show isWhiteSpace '=' = false by decide), hvalue,
      attributeValue_valueText, skipSpace_cons (show isWhiteSpace ']' = false by decide), hlower]
    rfl

/-- The number that digits denote is read back. -/
theorem index?_toDigits {n : Nat} (hn : n < Text.wordBound) :
    index? (Nat.toDigits 10 n) = some n := by
  have hvalue : (Nat.toDigits 10 n).foldl (fun n c => 10 * n + (c.toNat - '0'.toNat)) 0 = n := by
    rw [← Nat.ofDigitChars_eq_foldl, Nat.ofDigitChars_ten_toDigits]
  rw [index?, hvalue]
  simp [Nat.not_le.2 hn]

/-- A position is read back. -/
theorem position_toDigits {n : Nat} (hn : n < Text.wordBound) (rest : List Char) :
    position (Nat.toDigits 10 n ++ ')' :: rest) = .ok (n, rest) := by
  have hdigit (c : Char) (hc : c ∈ Nat.toDigits 10 n) : c.isDigit = true :=
    Nat.isDigit_of_mem_toDigits (by decide) (by decide) hc
  have hskip : skipSpace (Nat.toDigits 10 n ++ ')' :: rest) =
      Nat.toDigits 10 n ++ ')' :: rest := by
    -- A number has a first digit, and no digit is white space.
    cases hdigits : Nat.toDigits 10 n with
    | nil => exact absurd hdigits Nat.toDigits_ne_nil
    | cons d ds =>
      have hd := hdigit d (by simp [hdigits])
      have hname : isNameChar d = true := by simp [isNameChar, Char.isAlphanum, hd]
      have hascii := toNat_lt_of_isAlphanum (c := d) (by simp [Char.isAlphanum, hd])
      exact skipSpace_cons (isWhiteSpace_of_isNameChar hascii hname) _
  have htake : (Nat.toDigits 10 n ++ ')' :: rest).takeWhile Char.isDigit = Nat.toDigits 10 n := by
    rw [List.takeWhile_append_of_pos hdigit, List.takeWhile_cons_of_neg (by decide),
      List.append_nil]
  have hdrop : (Nat.toDigits 10 n ++ ')' :: rest).dropWhile Char.isDigit = ')' :: rest := by
    rw [List.dropWhile_append_of_pos hdigit, List.dropWhile_cons_of_neg (by decide)]
  rw [position]
  simp only [hskip, htake, hdrop, index?_toDigits hn,
    skipSpace_cons (show isWhiteSpace ')' = false by decide)]

/-- A pseudo-class is read back, behind its colon. -/
theorem nthChild_toDigits {n : Nat} (hn : n < Text.wordBound) (rest : List Char) :
    nthChild ("nth-child(".toList ++ Nat.toDigits 10 n ++ ')' :: rest) = .ok (n, rest) := by
  have hends : EndsName ('(' :: (Nat.toDigits 10 n ++ ')' :: rest)) := by
    rintro c ⟨⟩
    decide
  have hname := name_nameText (show "nth-child" ≠ "" by decide) hends
  have hassoc : "nth-child(".toList ++ Nat.toDigits 10 n ++ ')' :: rest =
      nameText "nth-child".toList ++ '(' :: (Nat.toDigits 10 n ++ ')' :: rest) := by
    rw [List.append_assoc]
    rfl
  rw [hassoc, nthChild, hname]
  simp only [if_true]
  exact position_toDigits hn rest

/-- The text of a condition. -/
def Part.text : Part → List Char
  | .id s => '#' :: nameText s.toList
  | .className s => '.' :: nameText s.toList
  | .test t => t.text
  | .nthChild n => ':' :: ("nth-child(".toList ++ Nat.toDigits 10 n ++ [')'])

/-- A condition that is read back: its names are not empty, and a word holds its position. -/
def Part.Printable : Part → Prop
  | .id s => s ≠ ""
  | .className s => s ≠ ""
  | .test t => t.Printable
  | .nthChild n => n < Text.wordBound

instance (p : Part) : Decidable p.Printable :=
  match p with
  | .id s => inferInstanceAs (Decidable (s ≠ ""))
  | .className s => inferInstanceAs (Decidable (s ≠ ""))
  | .test t => inferInstanceAs (Decidable t.Printable)
  | .nthChild n => inferInstanceAs (Decidable (n < Text.wordBound))

/-- The text of a condition starts as conditions do. -/
theorem Part.exists_text_eq_cons (p : Part) :
    ∃ c cs, p.text = c :: cs ∧ startsPart c = true := by
  cases p with
  | id s => exact ⟨_, _, rfl, by decide⟩
  | className s => exact ⟨_, _, rfl, by decide⟩
  | test t =>
    obtain ⟨n, value⟩ := t
    cases value with
    | none => exact ⟨_, _, rfl, by decide⟩
    | some v => exact ⟨_, _, rfl, by decide⟩
  | nthChild n => exact ⟨_, _, rfl, by decide⟩

/-- A condition is read back. -/
theorem part?_text {p : Part} (hp : p.Printable) {rest : List Char} (h : EndsName rest) :
    part? (p.text ++ rest) = .ok (some p, rest) := by
  cases p with
  | id s =>
    have hread : name (nameText s.toList ++ rest) = .ok (s, rest) := name_nameText hp h
    rw [Part.text, List.cons_append, part?, hread]
    rfl
  | className s =>
    have hread : name (nameText s.toList ++ rest) = .ok (s, rest) := name_nameText hp h
    rw [Part.text, List.cons_append, part?, hread]
    rfl
  | test t =>
    obtain ⟨cs, htext, hread⟩ := attributeTest_text hp rest
    rw [Part.text, htext, List.cons_append, part?, hread]
    rfl
  | nthChild n =>
    rw [Part.text, List.cons_append, part?, List.append_assoc, List.singleton_append,
      nthChild_toDigits hp rest]
    rfl

end Recorder.Selector
