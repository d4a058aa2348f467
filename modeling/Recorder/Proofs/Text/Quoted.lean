import Mathlib.Data.List.Basic
import Recorder.Literal

/-!
# Reading quoted strings

A quoted string says itself where it ends and what it holds, whatever stands behind it. `readQuoted`
reads one at the start of a text: the first character is the quote, a backslash makes the next
character literal, and the first other quote ends the string. `readQuoted_quote` says that this
gives back what was written and all that is behind it, so two texts that begin with quoted strings
are equal only if the strings are (`quote_append_inj`). What is read does not depend on what stands
behind it (`readQuoted_append`), so no piece from the start of a quoted string is one itself: the
reader takes up the whole literal and nothing else (`quotation?_quoteString`).
-/

namespace Recorder.Text

/-- The characters up to the first `quote` that has no backslash in front of it, and what is behind
that quote. -/
def readQuotedChars (quote : Char) : List Char → Option (List Char × List Char)
  | [] => none
  | '\\' :: [] => none
  | '\\' :: c :: cs => (readQuotedChars quote cs).map fun (value, rest) => (c :: value, rest)
  | c :: cs =>
    if c = quote then some ([], cs)
    else (readQuotedChars quote cs).map fun (value, rest) => (c :: value, rest)

/-- The string that is quoted at the start of a text, and what is behind it. -/
def readQuoted : List Char → Option (List Char × List Char)
  | [] => none
  | q :: cs => if q = '\'' ∨ q = backTick then readQuotedChars q cs else none

/-- Neither of the quotes is a backslash. -/
theorem quoteOf_ne_backslash (cs : List Char) : quoteOf cs ≠ '\\' := by
  unfold quoteOf
  split <;> decide

/-- A character that is no backslash ends the string or belongs to it. -/
theorem readQuotedChars_cons {quote c : Char} (h : c ≠ '\\') (cs : List Char) :
    readQuotedChars quote (c :: cs) =
      if c = quote then some ([], cs)
      else (readQuotedChars quote cs).map fun (value, rest) => (c :: value, rest) :=
  readQuotedChars.eq_4 _ _ _ (by simp [h]) (by simp [h])

/-- What is written between quotes is read back. -/
theorem readQuotedChars_escapeQuote {quote : Char} (h : quote ≠ '\\') (cs rest : List Char) :
    readQuotedChars quote (escapeQuote quote cs ++ quote :: rest) = some (cs, rest) := by
  induction cs with
  | nil => rw [escapeQuote, List.nil_append, readQuotedChars_cons h, if_pos rfl]
  | cons c cs ih =>
    rw [escapeQuote]
    split
    case isTrue =>
      rw [List.cons_append, List.cons_append, readQuotedChars, ih]
      rfl
    case isFalse hc =>
      obtain ⟨hslash, hquote⟩ := not_or.1 hc
      rw [List.cons_append, readQuotedChars_cons hslash, if_neg hquote, ih]
      rfl

/-- A quoted string is read back, whatever stands behind it. -/
theorem readQuoted_quote (cs rest : List Char) :
    readQuoted (quote cs ++ rest) = some (cs, rest) := by
  have hq : quoteOf cs = '\'' ∨ quoteOf cs = backTick := by
    unfold quoteOf
    split <;> simp
  rw [quote, List.append_assoc, List.cons_append, readQuoted, if_pos hq, List.singleton_append,
    readQuotedChars_escapeQuote (quoteOf_ne_backslash cs)]

/-- What stands behind a string and its closing quote does not change what is read. -/
theorem readQuotedChars_append {quote : Char} {cs value rest : List Char}
    (h : readQuotedChars quote cs = some (value, rest)) (t : List Char) :
    readQuotedChars quote (cs ++ t) = some (value, rest ++ t) := by
  fun_induction readQuotedChars quote cs generalizing value rest with
  | case1 => cases h
  | case2 => cases h
  | case3 c cs ih =>
    obtain ⟨⟨v, r⟩, hmore, heq⟩ := Option.map_eq_some_iff.1 h
    obtain ⟨rfl, rfl⟩ := Prod.mk.inj heq
    rw [List.cons_append, List.cons_append, readQuotedChars, ih hmore]
    rfl
  | case4 cs hlone hpair =>
    obtain ⟨rfl, rfl⟩ := Prod.mk.inj (Option.some.inj h)
    have hslash : quote ≠ '\\' := fun heq => by cases cs <;> simp_all
    rw [List.cons_append, readQuotedChars_cons hslash, if_pos rfl]
  | case5 c cs hlone hpair hquote ih =>
    obtain ⟨⟨v, r⟩, hmore, heq⟩ := Option.map_eq_some_iff.1 h
    obtain ⟨rfl, rfl⟩ := Prod.mk.inj heq
    have hslash : c ≠ '\\' := fun heq => by cases cs <;> simp_all
    rw [List.cons_append, readQuotedChars_cons hslash, if_neg hquote, ih hmore]
    rfl

/-- What stands behind a quoted string does not change what is read. -/
theorem readQuoted_append {cs value rest : List Char} (h : readQuoted cs = some (value, rest))
    (t : List Char) : readQuoted (cs ++ t) = some (value, rest ++ t) := by
  cases cs with
  | nil => cases h
  | cons q cs =>
    rw [readQuoted] at h
    split at h
    case isTrue hq => rw [List.cons_append, readQuoted, if_pos hq, readQuotedChars_append h]
    case isFalse => cases h

/-- No text that a quoted string goes on from is a quoted string itself. -/
theorem readQuoted_eq_none_of_prefix {cs p : List Char} (h : p <+: quote cs)
    (hne : p ≠ quote cs) : readQuoted p = none := by
  obtain ⟨t, ht⟩ := h
  by_contra hsome
  obtain ⟨⟨value, rest⟩, hread⟩ := Option.ne_none_iff_exists'.1 hsome
  -- What is left of the piece would be left of the whole literal, where nothing is left.
  have hwhole : readQuoted (quote cs) = some (value, rest ++ t) := by
    rw [← ht]
    exact readQuoted_append hread t
  have hleft : rest ++ t = [] := by
    have hquote := readQuoted_quote cs []
    rw [List.append_nil, hwhole] at hquote
    exact (Prod.mk.inj (Option.some.inj hquote)).2
  obtain ⟨-, rfl⟩ := List.append_eq_nil_iff.1 hleft
  exact hne (by rw [← ht, List.append_nil])

/-- Quoted strings with something behind them are equal only if the strings and what is behind them
are. -/
theorem quote_append_inj {s t u v : List Char} (h : quote s ++ u = quote t ++ v) :
    s = t ∧ u = v := by
  have hread := congrArg readQuoted h
  rw [readQuoted_quote, readQuoted_quote, Option.some.injEq, Prod.mk.injEq] at hread
  exact hread

/-! ## Literals in a text -/

/-- What is found at the start of a text that begins with a quoted string. -/
structure Quotation where
  /-- The characters from the opening quote to the closing one. -/
  literal : String
  /-- The string that they quote. -/
  value : String
  /-- The text behind the closing quote. -/
  rest : String

/-- The quoted string at the start of a text. -/
def quotation? (text : String) : Option Quotation :=
  (readQuoted text.toList).map fun (value, rest) =>
    { literal := String.ofList (text.toList.take (text.toList.length - rest.length))
      value := String.ofList value
      rest := String.ofList rest }

/-- A quoted string is found at the start of any text that begins with it. -/
theorem quotation?_append (s t : String) :
    quotation? (quoteString s ++ t) = some ⟨quoteString s, s, t⟩ := by
  have hread : readQuoted (quoteString s ++ t).toList = some (s.toList, t.toList) := by
    rw [String.toList_append, quoteString, String.toList_ofList, readQuoted_quote]
  have hliteral : (quoteString s ++ t).toList.take
      ((quoteString s ++ t).toList.length - t.toList.length) = (quoteString s).toList := by
    rw [String.toList_append, List.length_append, Nat.add_sub_cancel, List.take_left]
  simp only [quotation?, hread, Option.map_some, hliteral, String.ofList_toList]

/-- A quoted string says itself where it ends: in front of any text the literal, the string and the
text are found again; of the pieces from its start only the whole literal is one; and its quotes are
back-ticks exactly if the string holds a line feed. -/
theorem quotation?_quoteString (s t : String) :
    quotation? (quoteString s ++ t) = some ⟨quoteString s, s, t⟩ ∧
      (∀ n, (quotation? (String.ofList ((quoteString s).toList.take n))).isSome = true ↔
        (quoteString s).toList.length ≤ n) ∧
      ((quoteString s).toList.head? = some backTick ↔ '\n' ∈ s.toList) := by
  have hchars : (quoteString s).toList = quote s.toList := by
    rw [quoteString, String.toList_ofList]
  refine ⟨quotation?_append s t, fun n => ?_, ?_⟩
  · by_cases hn : (quoteString s).toList.length ≤ n
    · have hwhole := quotation?_append s ""
      rw [String.append_empty] at hwhole
      rw [List.take_of_length_le hn, String.ofList_toList, hwhole]
      simpa using hn
    · have hshort : (quoteString s).toList.take n ≠ quote s.toList := fun heq => by
        have hlength := congrArg List.length heq
        rw [← hchars, List.length_take] at hlength
        omega
      have hnone := readQuoted_eq_none_of_prefix (hchars ▸ List.take_prefix n _) hshort
      rw [quotation?, String.toList_ofList, hnone, Option.map_none]
      simpa using hn
  · have hhead : (quoteString s).toList.head? = some (quoteOf s.toList) := by
      rw [hchars, quote, List.cons_append, List.head?_cons]
    rw [hhead, Option.some.injEq, quoteOf]
    split
    case isTrue h => simp [h]
    case isFalse h => simp [h, backTick]

end Recorder.Text
