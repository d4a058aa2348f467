import Recorder.Error
import Recorder.Text.Alphabetic
import Recorder.Text.Basic
import Recorder.Text.Whitespace

/-!
# Reading selectors

Each function reads one part of a selector from the start of a text and returns it with what is left
of the text, or stops with the cause and the number of characters left. A part is never empty, which
the lemmas on lengths say, so the loops over parts, compounds and chains end.
-/

namespace Recorder.Selector

open Text (isAlphabetic isWhiteSpace asciiLower)

/-- Where the reading stops, and why. -/
structure Stop where
  /-- What is wrong. -/
  cause : Cause
  /-- The number of characters left of the text. -/
  left : Nat
deriving DecidableEq

/-- What is read from the start of a text, with the rest of it. -/
abbrev Reading (α : Type) := Except Stop (α × List Char)

/-- The text behind the white space at its start. -/
def skipSpace (cs : List Char) : List Char :=
  cs.dropWhile isWhiteSpace

/-- White space takes room. -/
theorem length_skipSpace_le (cs : List Char) : (skipSpace cs).length ≤ cs.length :=
  (List.dropWhile_suffix _).length_le

/-- The characters that a name may hold without a backslash in front. -/
def isNameChar (c : Char) : Bool :=
  c.isAlphanum || c = '-' || c = '_' || 0x80 ≤ c.toNat

/-- The characters of a name at the start of a text, which may be none. -/
def nameChars : List Char → Reading (List Char)
  | [] => .ok ([], [])
  | c :: cs =>
    if c = '\\' then
      match cs with
      | [] => .error ⟨.danglingEscape, 0⟩
      | e :: rest =>
        match nameChars rest with
        | .ok (name, rest) => .ok (e :: name, rest)
        | .error stop => .error stop
    else if isNameChar c then
      match nameChars cs with
      | .ok (name, rest) => .ok (c :: name, rest)
      | .error stop => .error stop
    else .ok ([], c :: cs)

/-- A name takes at least as much room as it has characters. -/
theorem length_nameChars {cs name rest : List Char} (h : nameChars cs = .ok (name, rest)) :
    rest.length + name.length ≤ cs.length := by
  fun_induction nameChars cs generalizing name rest with
  | case1 => simp_all
  | case2 => simp at h
  | case3 e r name' rest' hr ih =>
    obtain ⟨rfl, rfl⟩ : e :: name' = name ∧ rest' = rest := by simpa using h
    have := ih hr
    simp only [List.length_cons]; omega
  | case4 => simp at h
  | case5 c cs _ _ name' rest' hr ih =>
    obtain ⟨rfl, rfl⟩ : c :: name' = name ∧ rest' = rest := by simpa using h
    have := ih hr
    simp only [List.length_cons]; omega
  | case6 => simp at h
  | case7 c cs =>
    obtain ⟨rfl, rfl⟩ : [] = name ∧ c :: cs = rest := by simpa using h
    simp

/-- A name of at least one character. -/
def name (cs : List Char) : Reading String :=
  match nameChars cs with
  | .error stop => .error stop
  | .ok ([], rest) => .error ⟨.expectedIdentifier, rest.length⟩
  | .ok (c :: name, rest) => .ok (String.ofList (c :: name), rest)

/-- A name takes room. -/
theorem length_name {cs rest : List Char} {s : String} (h : name cs = .ok (s, rest)) :
    rest.length < cs.length := by
  unfold name at h
  split at h
  · simp at h
  · simp at h
  · rename_i c name' rest' hn
    obtain ⟨-, rfl⟩ : _ ∧ rest' = rest := by simpa using h
    have := length_nameChars hn
    simp only [List.length_cons] at this; omega

/-- The characters up to the end of a quoted string. -/
def quotedChars (quote : Char) : List Char → Reading (List Char)
  | [] => .error ⟨.unterminatedString, 0⟩
  | c :: cs =>
    if c = '\\' then
      match cs with
      | [] => .error ⟨.danglingEscape, 0⟩
      | e :: rest =>
        match quotedChars quote rest with
        | .ok (text, rest) => .ok (e :: text, rest)
        | .error stop => .error stop
    else if c = quote then .ok ([], cs)
    else
      match quotedChars quote cs with
      | .ok (text, rest) => .ok (c :: text, rest)
      | .error stop => .error stop

/-- A quoted string takes room. -/
theorem length_quotedChars {quote : Char} {cs text rest : List Char}
    (h : quotedChars quote cs = .ok (text, rest)) : rest.length < cs.length := by
  fun_induction quotedChars quote cs generalizing text rest with
  | case1 => simp at h
  | case2 => simp at h
  | case3 e r text' rest' hr ih =>
    obtain ⟨-, rfl⟩ : e :: text' = text ∧ rest' = rest := by simpa using h
    have := ih hr
    simp only [List.length_cons]; omega
  | case4 => simp at h
  | case5 cs =>
    obtain ⟨-, rfl⟩ : [] = text ∧ cs = rest := by simpa using h
    simp
  | case6 c cs _ _ text' rest' hr ih =>
    obtain ⟨-, rfl⟩ : c :: text' = text ∧ rest' = rest := by simpa using h
    have := ih hr
    simp only [List.length_cons]; omega
  | case7 => simp at h

/-- The value that an attribute is compared with: a quoted string or a name. -/
def attributeValue (cs : List Char) : Reading String :=
  match cs with
  | [] => name []
  | c :: rest =>
    if c = '"' ∨ c = '\'' then
      match quotedChars c rest with
      | .ok (text, rest) => .ok (String.ofList text, rest)
      | .error stop => .error stop
    else name (c :: rest)

/-- A value takes room. -/
theorem length_attributeValue {cs rest : List Char} {s : String}
    (h : attributeValue cs = .ok (s, rest)) : rest.length < cs.length := by
  unfold attributeValue at h
  split at h
  · exact length_name h
  · split at h
    · split at h
      · rename_i text rest' hq
        obtain ⟨-, rfl⟩ : _ ∧ rest' = rest := by simpa using h
        have := length_quotedChars hq
        simp only [List.length_cons]; omega
      · simp at h
    · exact length_name h

/-- The bracket that ends the test of an attribute. -/
def closeAttribute (test : AttributeTest) (cs : List Char) : Reading AttributeTest :=
  match cs with
  | ']' :: rest => .ok (test, rest)
  | _ => .error ⟨.expectedBracket, cs.length⟩

/-- The bracket takes room. -/
theorem length_closeAttribute {test t : AttributeTest} {cs rest : List Char}
    (h : closeAttribute test cs = .ok (t, rest)) : rest.length < cs.length := by
  unfold closeAttribute at h
  split at h
  · rename_i rest'
    obtain ⟨-, rfl⟩ : test = t ∧ rest' = rest := by simpa using h
    simp
  · simp at h

/-- The test of an attribute, behind its opening bracket. -/
def attributeTest (cs : List Char) : Reading AttributeTest :=
  match name (skipSpace cs) with
  | .error stop => .error stop
  | .ok (n, rest) =>
    match skipSpace rest with
    | '=' :: rest =>
      match attributeValue (skipSpace rest) with
      | .error stop => .error stop
      | .ok (v, rest) => closeAttribute ⟨asciiLower n, some v⟩ (skipSpace rest)
    | rest => closeAttribute ⟨asciiLower n, none⟩ rest

/-- The test of an attribute takes room. -/
theorem length_attributeTest {cs rest : List Char} {t : AttributeTest}
    (h : attributeTest cs = .ok (t, rest)) : rest.length < cs.length := by
  unfold attributeTest at h
  have h0 := length_skipSpace_le cs
  split at h
  · simp at h
  · rename_i n r hn
    have h1 := length_name hn
    have h2 := length_skipSpace_le r
    split at h
    · rename_i r' he
      have h3 : (skipSpace r).length = r'.length + 1 := by simp [he]
      have h4 := length_skipSpace_le r'
      split at h
      · simp at h
      · rename_i v r'' hv
        have h5 := length_attributeValue hv
        have h6 := length_skipSpace_le r''
        have h7 := length_closeAttribute h
        omega
    · have h3 := length_closeAttribute h
      omega

/-- The number that a list of digits denotes, if there is a digit and 64 bits hold it. -/
def index? (digits : List Char) : Option Nat :=
  let n := digits.foldl (fun n c => 10 * n + (c.toNat - '0'.toNat)) 0
  if digits.isEmpty || Text.wordBound ≤ n then none else some n

/-- The position behind the parenthesis of `:nth-child()`. -/
def position (cs : List Char) : Reading Nat :=
  let cs := skipSpace cs
  let rest := cs.dropWhile Char.isDigit
  match index? (cs.takeWhile Char.isDigit) with
  | none => .error ⟨.expectedIndex, rest.length⟩
  | some n =>
    match skipSpace rest with
    | ')' :: rest => .ok (n, rest)
    | rest => .error ⟨.expectedParenthesis, rest.length⟩

/-- A position takes room. -/
theorem length_position {cs rest : List Char} {n : Nat} (h : position cs = .ok (n, rest)) :
    rest.length < cs.length := by
  unfold position at h
  have h0 := length_skipSpace_le cs
  have h1 := (List.dropWhile_suffix Char.isDigit (l := skipSpace cs)).length_le
  have h2 := length_skipSpace_le ((skipSpace cs).dropWhile Char.isDigit)
  simp only at h
  split at h
  · simp at h
  · split at h
    · rename_i r he
      obtain ⟨-, rfl⟩ : _ ∧ r = rest := by simpa using h
      have h3 : (skipSpace ((skipSpace cs).dropWhile Char.isDigit)).length = r.length + 1 := by
        simp [he]
      omega
    · simp at h

/-- A pseudo-class, behind its colon. -/
def nthChild (cs : List Char) : Reading Nat :=
  match name cs with
  | .error stop => .error stop
  | .ok (n, rest) =>
    match rest with
    | '(' :: inside =>
      if n = "nth-child" then position inside else .error ⟨.unsupportedPseudoClass, rest.length⟩
    | _ => .error ⟨.unsupportedPseudoClass, rest.length⟩

/-- A pseudo-class takes room. -/
theorem length_nthChild {cs rest : List Char} {n : Nat} (h : nthChild cs = .ok (n, rest)) :
    rest.length < cs.length := by
  unfold nthChild at h
  split at h
  · simp at h
  · rename_i s r hn
    have h1 := length_name hn
    split at h
    · split at h
      · have h2 := length_position h
        simp only [List.length_cons] at h1; omega
      · simp at h
    · simp at h

/-- Wraps what is read as a part of a compound. -/
def asPart (f : α → Part) : Reading α → Reading (Option Part)
  | .ok (a, rest) => .ok (some (f a), rest)
  | .error stop => .error stop

/-- A wrapped part is one that has been read. -/
theorem asPart_eq_ok {f : α → Part} {r : Reading α} {p : Option Part} {rest : List Char}
    (h : asPart f r = .ok (p, rest)) : ∃ a, r = .ok (a, rest) ∧ p = some (f a) := by
  unfold asPart at h
  split at h
  · rename_i a rest'
    obtain ⟨rfl, rfl⟩ : some (f a) = p ∧ rest' = rest := by simpa using h
    exact ⟨a, rfl, rfl⟩
  · simp at h

/-- A part of a compound behind the tag, if one starts here. -/
def part? (cs : List Char) : Reading (Option Part) :=
  match cs with
  | '#' :: rest => asPart .id (name rest)
  | '.' :: rest => asPart .className (name rest)
  | '[' :: rest => asPart .test (attributeTest rest)
  | ':' :: rest => asPart .nthChild (nthChild rest)
  | _ => .ok (none, cs)

/-- A part takes room. -/
theorem length_part? {cs rest : List Char} {p : Part} (h : part? cs = .ok (some p, rest)) :
    rest.length < cs.length := by
  unfold part? at h
  split at h
  · obtain ⟨_, ha, -⟩ := asPart_eq_ok h
    have := length_name ha
    simp only [List.length_cons]; omega
  · obtain ⟨_, ha, -⟩ := asPart_eq_ok h
    have := length_name ha
    simp only [List.length_cons]; omega
  · obtain ⟨_, ha, -⟩ := asPart_eq_ok h
    have := length_attributeTest ha
    simp only [List.length_cons]; omega
  · obtain ⟨_, ha, -⟩ := asPart_eq_ok h
    have := length_nthChild ha
    simp only [List.length_cons]; omega
  · simp at h

/-- The rest of a text in which no part of a compound starts is the text. -/
theorem eq_of_part?_none {cs rest : List Char} (h : part? cs = .ok (none, rest)) : rest = cs := by
  unfold part? at h
  split at h
  case h_5 => simpa using h.symm
  all_goals
    obtain ⟨_, -, hp⟩ := asPart_eq_ok h
    simp at hp

/-- Adds the parts at the start of a text to a compound. -/
def parts (c : Compound) (cs : List Char) : Reading Compound :=
  match _h : part? cs with
  | .error stop => .error stop
  | .ok (none, rest) => .ok (c, rest)
  | .ok (some p, rest) => parts (c.add p) rest
termination_by cs.length
decreasing_by exact length_part? _h

/-- Parts take no negative room. -/
theorem length_parts {c d : Compound} {cs rest : List Char} (h : parts c cs = .ok (d, rest)) :
    rest.length ≤ cs.length := by
  fun_induction parts c cs generalizing d rest with
  | case1 => simp at h
  | case2 c cs rest' hp =>
    obtain ⟨-, rfl⟩ : c = d ∧ rest' = rest := by simpa using h
    exact Nat.le_of_eq (congrArg List.length (eq_of_part?_none hp))
  | case3 c cs p rest' hp ih =>
    have := ih h
    have := length_part? hp
    omega

/-- The characters that a tag may start with. -/
def startsTag (c : Char) : Bool :=
  isAlphabetic c || c = '\\' || c = '_' || c = '-'

/-- The start of a compound: an asterisk, a tag, or nothing. -/
def compoundHead (cs : List Char) : Reading Compound :=
  match cs with
  | [] => .ok (.any, [])
  | c :: rest =>
    if c = '*' then .ok (.any, rest)
    else if startsTag c then
      match name (c :: rest) with
      | .ok (tag, rest) => .ok ({ Compound.any with tag := some (asciiLower tag) }, rest)
      | .error stop => .error stop
    else .ok (.any, c :: rest)

/-- The characters that a part of a compound behind the tag may start with. -/
def startsPart (c : Char) : Bool :=
  c = '#' || c = '.' || c = '[' || c = ':'

/-- The characters that a compound may start with. -/
def startsCompound (c : Char) : Bool :=
  c = '*' || startsTag c || startsPart c

/-- The start of a compound takes room, unless a part of another kind comes first. -/
theorem length_compoundHead_lt {d : Char} {ds rest : List Char} {c : Compound}
    (h : compoundHead (d :: ds) = .ok (c, rest)) (hd : d = '*' ∨ startsTag d) :
    rest.length < (d :: ds).length := by
  unfold compoundHead at h
  simp only at h
  split at h
  · simp_all
  · rename_i hstar
    split at h
    · split at h
      · rename_i hn
        obtain ⟨-, rfl⟩ : _ ∧ _ = rest := by simpa using h
        exact length_name hn
      · simp at h
    · simp_all

/-- At the start of a text something is read as a part if it may be one. -/
theorem part?_cons_ne_none {d : Char} {ds rest : List Char} (hd : startsPart d) :
    part? (d :: ds) ≠ .ok (none, rest) := by
  intro h
  unfold part? at h
  split at h
  case h_5 => simp_all [startsPart]
  all_goals
    obtain ⟨_, -, hp⟩ := asPart_eq_ok h
    simp at hp

/-- Parts take room where there is one. -/
theorem length_parts_lt {d : Char} {ds rest : List Char} {c e : Compound}
    (h : parts c (d :: ds) = .ok (e, rest)) (hd : startsPart d) :
    rest.length < (d :: ds).length := by
  unfold parts at h
  split at h
  · simp at h
  · rename_i hp
    exact absurd hp (part?_cons_ne_none hd)
  · rename_i hp
    exact Nat.lt_of_le_of_lt (length_parts h) (length_part? hp)

/-- A compound of at least one part. -/
def compound (cs : List Char) : Reading Compound :=
  if cs.head?.any startsCompound then
    match compoundHead cs with
    | .error stop => .error stop
    | .ok (head, rest) => parts head rest
  else .error ⟨.expectedSelector, cs.length⟩

/-- A compound takes room. -/
theorem length_compound {cs rest : List Char} {c : Compound} (h : compound cs = .ok (c, rest)) :
    rest.length < cs.length := by
  unfold compound at h
  split at h
  case isFalse => simp at h
  case isTrue hs =>
    split at h
    · simp at h
    · rename_i head r hh
      match cs with
      | [] => simp at hs
      | d :: ds =>
        by_cases hd : d = '*' ∨ startsTag d
        · exact Nat.lt_of_le_of_lt (length_parts h) (length_compoundHead_lt hh hd)
        · have hp : startsPart d := by simpa [startsCompound, not_or.mp hd] using hs
          have hr : d :: ds = r := by simp_all [compoundHead]
          exact length_parts_lt (hr ▸ h) hp

/-- The combinator at the start of a text, and the text behind it; none at the end of a chain. -/
def combinator? (cs : List Char) : Reading (Option Combinator) :=
  let rest := skipSpace cs
  match rest with
  | [] => .ok (none, rest)
  | c :: inside =>
    if c = ',' then .ok (none, rest)
    else if c = '>' then .ok (some .child, skipSpace inside)
    else if cs.head?.any isWhiteSpace then .ok (some .descendant, rest)
    else .error ⟨.unexpectedCharacter, rest.length⟩

/-- A combinator takes no negative room. -/
theorem length_combinator? {cs rest : List Char} {k : Option Combinator}
    (h : combinator? cs = .ok (k, rest)) : rest.length ≤ cs.length := by
  have h0 := length_skipSpace_le cs
  unfold combinator? at h
  simp only at h
  split at h
  · obtain ⟨-, rfl⟩ : none = k ∧ skipSpace cs = rest := by simpa using h
    exact h0
  · rename_i c inside he
    have h1 := length_skipSpace_le inside
    have h2 : (skipSpace cs).length = inside.length + 1 := by simp [he]
    split at h
    · obtain ⟨-, rfl⟩ : none = k ∧ skipSpace cs = rest := by simpa using h
      exact h0
    · split at h
      · obtain ⟨-, rfl⟩ : some Combinator.child = k ∧ skipSpace inside = rest := by simpa using h
        omega
      · split at h
        · obtain ⟨-, rfl⟩ : some Combinator.descendant = k ∧ skipSpace cs = rest := by simpa using h
          exact h0
        · simp at h

/-- Extends a chain by the compounds at the start of a text. -/
def chain (left : Complex) (cs : List Char) : Reading Complex :=
  match _hk : combinator? cs with
  | .error stop => .error stop
  | .ok (none, rest) => .ok (left, rest)
  | .ok (some k, rest) =>
    match _hc : compound rest with
    | .error stop => .error stop
    | .ok (c, rest') => chain (.join left k c) rest'
termination_by cs.length
decreasing_by
  have := length_combinator? _hk
  have := length_compound _hc
  omega

/-- A chain takes no negative room. -/
theorem length_chain {left s : Complex} {cs rest : List Char} (h : chain left cs = .ok (s, rest)) :
    rest.length ≤ cs.length := by
  fun_induction chain left cs generalizing s rest with
  | case1 => simp at h
  | case2 left cs rest' hk =>
    obtain ⟨-, rfl⟩ : left = s ∧ rest' = rest := by simpa using h
    exact length_combinator? hk
  | case3 => simp at h
  | case4 left cs k rest' hk c rest'' hc ih =>
    have := ih h
    have := length_combinator? hk
    have := length_compound hc
    omega

/-- A chain of compounds. -/
def complex (cs : List Char) : Reading Complex :=
  match compound (skipSpace cs) with
  | .error stop => .error stop
  | .ok (c, rest) => chain (.compound c) rest

/-- A chain of compounds takes room. -/
theorem length_complex {s : Complex} {cs rest : List Char} (h : complex cs = .ok (s, rest)) :
    rest.length < cs.length := by
  unfold complex at h
  split at h
  · simp at h
  · rename_i c r hc
    have := length_compound hc
    have := length_skipSpace_le cs
    have := length_chain h
    omega

/-- The chains of a group, separated by commas, up to the end of the text. -/
def alternatives (cs : List Char) : Except Stop (List Complex) :=
  match h : complex cs with
  | .error stop => .error stop
  | .ok (s, []) => .ok [s]
  | .ok (s, c :: rest) =>
    if c = ',' then
      match alternatives rest with
      | .ok more => .ok (s :: more)
      | .error stop => .error stop
    else .error ⟨.trailingInput, rest.length + 1⟩
termination_by cs.length
decreasing_by
  have := length_complex h
  simp only [List.length_cons] at this
  omega

/-- The group that a list of characters denotes, or the fault in it. -/
def Group.ofChars (cs : List Char) : Except Fault Group :=
  match alternatives cs with
  | .ok selectors => .ok ⟨selectors⟩
  | .error stop => .error ⟨stop.cause, cs.length - stop.left⟩

/-- The group that a text denotes. -/
def Group.parse (source : String) : Except Error Group :=
  match Group.ofChars source.toList with
  | .ok g => .ok g
  | .error fault => .error (.invalidSelector source fault)

end Recorder.Selector
