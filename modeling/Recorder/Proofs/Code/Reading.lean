import Mathlib.Tactic.Common
import Recorder.Proofs.Literal

/-!
# Reading source text

The words of source text are its longest runs of letters, digits, `_` and `$` outside of literals. A
literal goes from a quote to the next same quote that has no backslash in front of it. The reader
goes over the characters one by one and keeps only its place: between words, in a word, or in a
literal. Reading one text behind another is reading both (`Place.read_append`), and a quoted string
is skipped whatever it holds (`read_quote`), so what a text is put together from says which words it
has.
-/

namespace Recorder

/-- A word of source text. -/
structure Word where
  /-- Whether a dot stands directly in front of it. -/
  dotted : Bool
  /-- The characters. -/
  text : String
deriving DecidableEq

/-- Where a reader of source text stands. -/
inductive Place where
  /-- Outside of words and literals, directly behind a dot or not. -/
  | between (dot : Bool)
  /-- In a word, of which these characters are read, the last one first. -/
  | word (dotted : Bool) (chars : List Char)
  /-- In a literal with this quote. -/
  | literal (quote : Char)
  /-- In a literal with this quote, directly behind a backslash that counts. -/
  | escape (quote : Char)
deriving DecidableEq

namespace Place

/-- Whether a character can be part of a word. -/
def isWordChar (c : Char) : Bool :=
  c.isAlphanum || c = '_' || c = '$'

/-- Whether a character opens a literal. -/
def isQuote (c : Char) : Bool :=
  c = '\'' || c = '"' || c = Text.backTick

/-- The place behind a character that is in no word and no literal. -/
def behind (c : Char) : Place :=
  if isQuote c then .literal c else .between (c = '.')

/-- Reads a character: the word that ends in front of it, if one does, and the place behind it. -/
def step : Place → Char → List Word × Place
  | .between dot, c => ([], if isWordChar c then .word dot [c] else behind c)
  | .word dotted chars, c =>
    if isWordChar c then ([], .word dotted (c :: chars))
    else ([⟨dotted, String.ofList chars.reverse⟩], behind c)
  | .literal quote, c =>
    ([], if c = '\\' then .escape quote else if c = quote then .between false else .literal quote)
  | .escape quote, _ => ([], .literal quote)

/-- Reads a text: the words that end in it, and the place behind it. -/
def read : Place → List Char → List Word × Place
  | p, [] => ([], p)
  | p, c :: cs =>
    let (ended, q) := p.step c
    let (words, r) := q.read cs
    (ended ++ words, r)

/-- Reading one text behind another is reading both. -/
theorem read_append (p : Place) (xs ys : List Char) :
    p.read (xs ++ ys) =
      ((p.read xs).1 ++ ((p.read xs).2.read ys).1, ((p.read xs).2.read ys).2) := by
  induction xs generalizing p with
  | nil => rfl
  | cons c cs ih => simp only [List.cons_append, read, ih, List.append_assoc]

/-- The characters of a word are kept until it ends. -/
theorem read_word {c : Char} {cs : List Char} (h : ∀ d ∈ c :: cs, isWordChar d = true)
    (dot : Bool) : (between dot).read (c :: cs) = ([], .word dot (c :: cs).reverse) := by
  -- The word is read with the characters in front of it, whatever these are.
  have hword (chars : List Char) :
      (word dot chars).read cs = ([], .word dot (cs.reverse ++ chars)) := by
    induction cs generalizing chars with
    | nil => rfl
    | cons d cs ih =>
      rw [read, step, if_pos (h d (by simp))]
      simp [ih fun e he => h e (by grind)]
  rw [read, step, if_pos (h c (by simp)), List.reverse_cons]
  simp [hword]

/-- What is written between quotes is in the literal, up to the quote that closes it. -/
theorem read_escapeQuote {quote : Char} (h : quote ≠ '\\') (cs : List Char) :
    (literal quote).read (Text.escapeQuote quote cs ++ [quote]) = ([], .between false) := by
  -- A character with a backslash in front takes the reader to the escape and back to the literal.
  induction cs with
  | nil => simp [Text.escapeQuote, read, step, h]
  | cons c cs ih =>
    rw [Text.escapeQuote]
    split
    case isTrue => simp [read, step, ih]
    case isFalse hc =>
      obtain ⟨hslash, hquote⟩ := not_or.1 hc
      simp [read, step, hslash, hquote, ih]

/-- A quote opens a literal. -/
theorem isQuote_quoteOf (cs : List Char) : isQuote (Text.quoteOf cs) = true := by
  unfold Text.quoteOf
  split <;> decide

/-- A quoted string holds no words, whatever it holds. -/
theorem read_quote (dot : Bool) (cs : List Char) :
    (between dot).read (Text.quote cs) = ([], .between false) := by
  have hword : isWordChar (Text.quoteOf cs) = false := by
    unfold Text.quoteOf
    split <;> decide
  rw [Text.quote, List.cons_append, read, step]
  simp only [isQuote_quoteOf cs, hword, behind, if_true, Bool.false_eq_true, if_false,
    read_escapeQuote (Text.quoteOf_ne_backslash cs)]
  rfl

end Place

end Recorder
