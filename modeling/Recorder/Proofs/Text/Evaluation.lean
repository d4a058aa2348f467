import Mathlib.Data.List.Infix
import Mathlib.Tactic.Common
import Recorder.Proofs.Text.Quoted
import Recorder.Text.Basic

/-!
# The value of quoted strings

What a text is worth as a literal of JavaScript, by the rules for modules: `literalValue?` reads a
string literal between single or double quotes, or a template literal without substitutions, and
gives the code units of its value. In a string literal no line may end; in a template a carriage
return counts as a line feed, and so does one with a line feed behind it.

A quoted string escapes neither carriage returns nor the start of a substitution.
`literalValue?_quote` says what it is worth for every string: nothing if a carriage return comes
between single quotes or a substitution between back-ticks, else the string, with all its line ends
as line feeds. So its value is the string exactly where there is no carriage return and, in a string
with a line feed, no substitution (`denotes_quoteString_iff`).
-/

namespace Recorder.Text

/-! ## Literals of source text -/

/-- The code units of UTF-16 of a code point. -/
def codePointUnits (n : Nat) : List Nat :=
  if n < 0x10000 then [n]
  else [0xD800 + (n - 0x10000) / 0x400, 0xDC00 + (n - 0x10000) % 0x400]

/-- The code units of UTF-16 of a text. -/
def units (cs : List Char) : List Nat :=
  cs.flatMap fun c => codePointUnits c.toNat

/-- The character that a single one stands for behind a backslash. -/
def escapedChar (c : Char) : Char :=
  if c = 'b' then '\x08'
  else if c = 't' then '\t'
  else if c = 'n' then '\n'
  else if c = 'v' then '\x0b'
  else if c = 'f' then '\x0c'
  else if c = 'r' then '\r'
  else c

/-- The code unit of a fixed number of hexadecimal digits, and the text behind them. -/
def unitOfDigits? (width : Nat) (cs : List Char) : Option (List Nat × List Char) :=
  if cs.length < width then none
  else (natural? 16 (cs.take width)).map fun n => ([n], cs.drop width)

/-- The code units of hexadecimal digits up to a closing brace, and the text behind it. -/
def unitsOfCodePoint? (cs : List Char) : Option (List Nat × List Char) :=
  if '\x7d' ∈ cs then
    ((natural? 16 (cs.takeWhile (· != '\x7d'))).filter (· ≤ 0x10FFFF)).map fun n =>
      (codePointUnits n, (cs.dropWhile (· != '\x7d')).drop 1)
  else none

/-- What the characters behind a backslash stand for, and the text behind them. A line end stands
for nothing, and a zero for the character of that number if no digit follows. -/
def escape? : List Char → Option (List Nat × List Char)
  | [] => none
  | c :: cs =>
    if c = 'x' then unitOfDigits? 2 cs
    else if c = 'u' then
      if cs.head? = some '\x7b' then unitsOfCodePoint? (cs.drop 1) else unitOfDigits? 4 cs
    else if c.isDigit then
      if c = '0' ∧ cs.head?.any Char.isDigit = false then some ([0], cs) else none
    else if c = '\r' then some ([], if cs.head? = some '\n' then cs.drop 1 else cs)
    else if c = '\n' ∨ c = '\u2028' ∨ c = '\u2029' then some ([], cs)
    else some (codePointUnits (escapedChar c).toNat, cs)

/-- An escape leaves less text than there was. -/
theorem length_escape? {cs rest : List Char} {us : List Nat} (h : escape? cs = some (us, rest)) :
    rest.length < cs.length := by
  have hdigits {width : Nat} {ds : List Char} (h : unitOfDigits? width ds = some (us, rest)) :
      rest.length ≤ ds.length := by
    rw [unitOfDigits?] at h
    split at h
    · cases h
    · obtain ⟨n, -, hn⟩ := Option.map_eq_some_iff.1 h
      obtain ⟨-, rfl⟩ := Prod.mk.inj hn
      simp
  have hpoint {ds : List Char} (h : unitsOfCodePoint? ds = some (us, rest)) :
      rest.length ≤ ds.length := by
    rw [unitsOfCodePoint?] at h
    split at h
    · obtain ⟨n, -, hn⟩ := Option.map_eq_some_iff.1 h
      obtain ⟨-, rfl⟩ := Prod.mk.inj hn
      exact ((List.drop_suffix _ _).trans (List.dropWhile_suffix _)).length_le
    · cases h
  cases cs with
  | nil => cases h
  | cons c cs =>
    have hrest : rest.length ≤ cs.length := by
      rw [escape?] at h
      split_ifs at h
      · exact hdigits h
      · exact (hpoint h).trans (List.drop_suffix _ _).length_le
      · exact hdigits h
      · cases h; exact Nat.le_refl _
      · cases h; exact (List.drop_suffix _ _).length_le
      · cases h; exact Nat.le_refl _
      · cases h; exact Nat.le_refl _
      · cases h; exact Nat.le_refl _
    exact Nat.lt_succ_of_le hrest

/-- What a character stands for that is neither the quote nor a backslash, given the one behind it.
In a template a substitution may not start, and a line ends in a line feed; in a string literal no
line may end. -/
def rawUnits? (quote c : Char) (next : Option Char) : Option (List Nat) :=
  if quote = backTick then
    if c = '$' ∧ next = some '\x7b' then none
    else if c = '\r' then some (if next = some '\n' then [] else units ['\n'])
    else some (units [c])
  else if c = '\n' ∨ c = '\r' then none
  else some (units [c])

/-- The value of the characters behind an opening quote, if the text ends with the closing one. -/
def charsValue? (quote : Char) : List Char → Option (List Nat)
  | [] => none
  | c :: cs =>
    if c = quote then if cs.isEmpty then some [] else none
    else if c = '\\' then
      match _h : escape? cs with
      | some (us, rest) => (charsValue? quote rest).map (us ++ ·)
      | none => none
    else (rawUnits? quote c cs.head?).bind fun us => (charsValue? quote cs).map (us ++ ·)
termination_by cs => cs.length
decreasing_by
  · have := length_escape? _h
    simp only [List.length_cons]; omega
  · simp

/-- The value of a text that is a literal from its first to its last character. -/
def literalValue? : List Char → Option (List Nat)
  | [] => none
  | q :: cs => if q = '\'' ∨ q = '"' ∨ q = backTick then charsValue? q cs else none

/-- A text is a literal whose value is a string. -/
def Denotes (text s : String) : Prop :=
  literalValue? text.toList = some (units s.toList)

/-! ## What quoted strings are worth -/

/-- A text with every carriage return as a line feed, and only one where a line feed follows it. -/
def unifyLines : List Char → List Char
  | [] => []
  | c :: cs =>
    if c = '\r' then if cs.head? = some '\n' then unifyLines cs else '\n' :: unifyLines cs
    else c :: unifyLines cs

/-- The start of a substitution in a template. -/
def substitution : List Char := ['$', '\x7b']

/-- The code units of a text are those of its first character and those of the others. -/
theorem units_cons (c : Char) (cs : List Char) : units (c :: cs) = units [c] ++ units cs := by
  simp [units]

/-- The characters that stand behind a character are the same in an escaped text, unless they are
escaped. -/
theorem head?_escapeQuote {quote c : Char} (hslash : c ≠ '\\') (hquote : c ≠ quote)
    (cs : List Char) :
    (escapeQuote quote cs ++ [quote]).head? = some c ↔ cs.head? = some c := by
  cases cs with
  | nil => simp [escapeQuote, hquote.symm]
  | cons d cs =>
    rw [escapeQuote]
    split
    case isTrue hd =>
      have hne : d ≠ c := by
        rintro rfl
        exact hd.elim hslash hquote
      simp [hslash.symm, hne]
    case isFalse => simp

/-- A backslash, and each of the quotes that strings are written between, stand for themselves
behind a backslash. -/
theorem escape?_of_escaped {quote c : Char} (hquote : quote = '\'' ∨ quote = backTick)
    (hc : c = '\\' ∨ c = quote) (cs : List Char) : escape? (c :: cs) = some (units [c], cs) := by
  rcases hc with rfl | rfl
  · simp [escape?, escapedChar, units]
  · rcases hquote with rfl | rfl
    · simp [escape?, escapedChar, units]
    · simp [escape?, escapedChar, units, backTick]

/-- The value of an escaped text is put together from what its characters stand for, and those that
are escaped stand for themselves. -/
theorem charsValue?_escapeQuote_cons {quote : Char} (hquote : quote = '\'' ∨ quote = backTick)
    (c : Char) (cs : List Char) :
    charsValue? quote (escapeQuote quote (c :: cs) ++ [quote]) =
      (if c = '\\' ∨ c = quote then some (units [c])
        else rawUnits? quote c (escapeQuote quote cs ++ [quote]).head?).bind fun us =>
          (charsValue? quote (escapeQuote quote cs ++ [quote])).map (us ++ ·) := by
  have hslash : '\\' ≠ quote := by
    rcases hquote with rfl | rfl <;> decide
  by_cases hc : c = '\\' ∨ c = quote
  · rw [escapeQuote, if_pos hc, if_pos hc, List.cons_append, List.cons_append, charsValue?,
      if_neg hslash, if_pos rfl]
    split <;> rename_i hescape <;> rw [escape?_of_escaped hquote hc] at hescape <;> cases hescape
    rfl
  · obtain ⟨hcslash, hcquote⟩ := not_or.1 hc
    rw [escapeQuote, if_neg hc, if_neg hc, List.cons_append, charsValue?, if_neg hcquote,
      if_neg hcslash]

/-- An escaped text without characters has an empty value. -/
theorem charsValue?_escapeQuote_nil (quote : Char) :
    charsValue? quote (escapeQuote quote [] ++ [quote]) = some [] := by
  rw [escapeQuote, List.nil_append, charsValue?, if_pos rfl]
  rfl

/-- Between single quotes a text is worth itself, unless a line ends in it. -/
theorem charsValue?_escapeQuote_apostrophe (cs : List Char) :
    charsValue? '\'' (escapeQuote '\'' cs ++ ['\'']) =
      if '\n' ∈ cs ∨ '\r' ∈ cs then none else some (units cs) := by
  induction cs with
  | nil => simp [charsValue?_escapeQuote_nil, units]
  | cons c cs ih =>
    rw [charsValue?_escapeQuote_cons (.inl rfl), ih, units_cons c cs]
    by_cases hc : c = '\\' ∨ c = '\''
    · have hends : c ≠ '\n' ∧ c ≠ '\r' := by
        rcases hc with rfl | rfl <;> decide
      rw [if_pos hc]
      by_cases hmore : '\n' ∈ cs ∨ '\r' ∈ cs <;> simp [hmore, hends.1.symm, hends.2.symm]
    · -- The quote is no back-tick, so a character that ends a line is refused.
      rw [if_neg hc, rawUnits?, if_neg (by decide)]
      by_cases hends : c = '\n' ∨ c = '\r'
      · rcases hends with rfl | rfl <;> simp
      · obtain ⟨hfeed, hreturn⟩ := not_or.1 hends
        by_cases hmore : '\n' ∈ cs ∨ '\r' ∈ cs <;>
          simp [hmore, hfeed, hreturn, Ne.symm hfeed, Ne.symm hreturn]

/-- Between back-ticks a text is worth itself with unified line ends, unless a substitution starts
in it. -/
theorem charsValue?_escapeQuote_backTick (cs : List Char) :
    charsValue? backTick (escapeQuote backTick cs ++ [backTick]) =
      if substitution <:+: cs then none else some (units (unifyLines cs)) := by
  induction cs with
  | nil => simp [charsValue?_escapeQuote_nil, units, unifyLines, substitution]
  | cons c cs ih =>
    -- Neither a brace nor a line feed is escaped, so both stand behind `c` as they do in the text.
    have hbrace : (escapeQuote backTick cs ++ [backTick]).head? = some '\x7b' ↔
        cs.head? = some '\x7b' := head?_escapeQuote (by decide) (by decide) cs
    have hfeed : (escapeQuote backTick cs ++ [backTick]).head? = some '\n' ↔
        cs.head? = some '\n' := head?_escapeQuote (by decide) (by decide) cs
    have hstarts : substitution <:+: c :: cs ↔
        (c = '$' ∧ cs.head? = some '\x7b') ∨ substitution <:+: cs := by
      rw [List.infix_cons_iff, substitution, List.cons_prefix_cons]
      cases cs with
      | nil => simp
      | cons d cs => simp [List.cons_prefix_cons, eq_comm]
    rw [charsValue?_escapeQuote_cons (.inr rfl), ih, rawUnits?, if_pos rfl, unifyLines]
    simp only [hbrace, hfeed, hstarts]
    by_cases hmore : substitution <:+: cs
    · simp [hmore]
    · by_cases hstart : c = '$' ∧ cs.head? = some '\x7b'
      · simp [hstart, backTick]
      · by_cases hreturn : c = '\r'
        · subst hreturn
          by_cases hnext : cs.head? = some '\n' <;>
            simp [hmore, hnext, backTick, units_cons '\n' (unifyLines cs)]
        · simp [hmore, hstart, hreturn, units_cons c (unifyLines cs)]

/-- What a quoted string is worth: a carriage return between single quotes and a substitution
between back-ticks make it no literal, and between back-ticks all line ends are line feeds. -/
theorem literalValue?_quote (cs : List Char) :
    literalValue? (quote cs) =
      if '\n' ∈ cs then if substitution <:+: cs then none else some (units (unifyLines cs))
      else if '\r' ∈ cs then none else some (units cs) := by
  by_cases hfeed : '\n' ∈ cs
  · rw [quote, quoteOf, if_pos hfeed, if_pos hfeed, List.cons_append, literalValue?,
      if_pos (by simp), charsValue?_escapeQuote_backTick]
  · rw [quote, quoteOf, if_neg hfeed, if_neg hfeed, List.cons_append, literalValue?,
      if_pos (by simp), charsValue?_escapeQuote_apostrophe]
    simp [hfeed]

/-- A carriage return is the only character with its code unit. -/
theorem mem_units_iff {cs : List Char} : 0xD ∈ units cs ↔ '\r' ∈ cs := by
  have hunit (c : Char) : 0xD ∈ codePointUnits c.toNat ↔ c = '\r' := by
    rw [codePointUnits, ← Char.toNat_inj]
    split
    · simp [eq_comm]
    · simp only [List.mem_cons, List.not_mem_nil, or_false]
      constructor
      · omega
      · intro h
        simp [h] at *
  simp [units, hunit]

/-- Unified line ends hold no carriage return. -/
theorem return_notMem_unifyLines (cs : List Char) : '\r' ∉ unifyLines cs := by
  induction cs with
  | nil => simp [unifyLines]
  | cons c cs ih =>
    rw [unifyLines]
    split_ifs with hreturn
    · exact ih
    · simp [ih]
    · simp [ih, Ne.symm hreturn]

/-- A text without carriage returns has unified line ends. -/
theorem unifyLines_eq_self {cs : List Char} (h : '\r' ∉ cs) : unifyLines cs = cs := by
  induction cs with
  | nil => rfl
  | cons c cs ih =>
    obtain ⟨hc, hcs⟩ := not_or.1 (mt List.mem_cons.2 h)
    rw [unifyLines, if_neg (Ne.symm hc), ih hcs]

/-- A quoted string is a literal whose value is the string exactly where the string holds no
carriage return and, if it holds a line feed, no start of a substitution. -/
theorem denotes_quoteString_iff (s : String) :
    Denotes (quoteString s) s ↔
      '\r' ∉ s.toList ∧ ('\n' ∈ s.toList → ¬ substitution <:+: s.toList) := by
  rw [Denotes, quoteString, String.toList_ofList, literalValue?_quote]
  by_cases hfeed : '\n' ∈ s.toList
  · have hunify : units (unifyLines s.toList) = units s.toList ↔ '\r' ∉ s.toList := by
      refine ⟨fun h => ?_, fun h => by rw [unifyLines_eq_self h]⟩
      rw [← mem_units_iff, ← h, mem_units_iff]
      exact return_notMem_unifyLines _
    by_cases hstart : substitution <:+: s.toList <;> simp [hfeed, hstart, hunify]
  · by_cases hreturn : '\r' ∈ s.toList <;> simp [hfeed, hreturn]

/-- A carriage return stands as it is between single quotes, which makes no literal; with a line
feed it becomes one; and a substitution stays one. -/
theorem not_denotes_quoteString_carriageReturn :
    ¬ Denotes (quoteString "a\rb") "a\rb" ∧ literalValue? (quote "a\rb".toList) = none ∧
      literalValue? (quote "a\r\nb".toList) = some (units "a\nb".toList) ∧
      literalValue? (quote "$\x7ba\x7d\nb".toList) = none := by
  have hreturn : literalValue? (quote "a\rb".toList) = none := by
    rw [literalValue?_quote]
    decide
  refine ⟨fun h => ?_, hreturn, ?_, ?_⟩
  · rw [Denotes, quoteString, String.toList_ofList, hreturn] at h
    cases h
  · rw [literalValue?_quote]
    decide
  · rw [literalValue?_quote]
    decide

end Recorder.Text
