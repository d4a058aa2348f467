import Recorder.Proofs.Code.Reading

/-!
# Nested brackets

A reader of brackets keeps a stack of the closing brackets that are due. Outside of literals an
opening bracket makes its own closing bracket due, and a closing bracket has to be the one that is
due next; in a literal the reader looks at nothing but where it ends. A text is balanced if it is
read to its end, with every literal closed and nothing due. `Nests` says what a piece of text does
to the stack, whether the brackets of the piece are balanced or not: pieces are put together in the
order in which they are written (`Nests.append`), and what is due further out does not matter to a
piece (`Nests.under`). A quoted string does nothing to the stack, whatever it holds
(`balanced_quote`), and so literals are balanced as long as the keys in them are names
(`HasNameKeys.balanced`).
-/

namespace Recorder

/-! ## The reader -/

/-- The closing bracket of an opening one. -/
def closing? : Char → Option Char
  | '(' => some ')'
  | '[' => some ']'
  | '\x7b' => some '\x7d'
  | _ => none

/-- Whether a character is a closing bracket. -/
def isClosing (c : Char) : Bool :=
  c = ')' || c = ']' || c = '\x7d'

/-- The closing brackets that are due behind a character outside of literals, the next one first;
none if it is a closing bracket and not the next one. -/
def dueBehind? (due : List Char) (c : Char) : Option (List Char) :=
  match closing? c with
  | some d => some (d :: due)
  | none =>
    if isClosing c then
      if due.head? = some c then some due.tail else none
    else some due

/-- Where a reader of brackets stands, with the closing brackets that are due. -/
inductive Nesting where
  /-- Outside of literals. -/
  | outside (due : List Char)
  /-- In a literal with this quote. -/
  | literal (quote : Char) (due : List Char)
  /-- In a literal with this quote, directly behind a backslash that counts. -/
  | escape (quote : Char) (due : List Char)
deriving DecidableEq

namespace Nesting

/-- Reads a character, unless it is a closing bracket that is not due. -/
def step : Nesting → Char → Option Nesting
  | .outside due, c =>
    if Place.isQuote c then some (.literal c due) else (dueBehind? due c).map .outside
  | .literal quote due, c =>
    some (if c = '\\' then .escape quote due else if c = quote then .outside due
      else .literal quote due)
  | .escape quote due, _ => some (.literal quote due)

/-- Reads a text, unless there is a closing bracket in it that is not due. -/
def read (s : Nesting) (text : List Char) : Option Nesting :=
  text.foldlM step s

/-- A text is read if its first character is, and then the rest. -/
theorem read_cons_eq_some_iff {s t : Nesting} {c : Char} {cs : List Char} :
    s.read (c :: cs) = some t ↔ ∃ s', s.step c = some s' ∧ s'.read cs = some t :=
  Option.bind_eq_some_iff

/-- The same place with these closing brackets due further out. -/
def under (more : List Char) : Nesting → Nesting
  | .outside due => .outside (due ++ more)
  | .literal quote due => .literal quote (due ++ more)
  | .escape quote due => .escape quote (due ++ more)

end Nesting

/-- What is due further out does not matter to a character that can be read without it. -/
theorem dueBehind?_append {due due' : List Char} {c : Char} (h : dueBehind? due c = some due')
    (more : List Char) : dueBehind? (due ++ more) c = some (due' ++ more) := by
  unfold dueBehind? at h ⊢
  split at h
  case h_1 d hd =>
    obtain rfl := Option.some.inj h
    simp
  case h_2 hd =>
    split at h
    case isFalse hc =>
      obtain rfl := Option.some.inj h
      simp [hc]
    case isTrue hc =>
      -- The bracket closes what is due next, so something is due.
      cases due with
      | nil => simp at h
      | cons d due =>
        obtain ⟨hdc, hrest⟩ : d = c ∧ due = due' := by simpa using h
        simp [hc, hdc, hrest]

namespace Nesting

/-- What is due further out does not matter to a step that can be made without it. -/
theorem step_under {s t : Nesting} {c : Char} (h : s.step c = some t) (more : List Char) :
    (s.under more).step c = some (t.under more) := by
  cases s with
  | outside due =>
    rw [under, step]
    rw [step] at h
    split at h
    case isTrue hc =>
      obtain rfl := Option.some.inj h
      rw [if_pos hc, under]
    case isFalse hc =>
      obtain ⟨due', hdue, rfl⟩ := Option.map_eq_some_iff.1 h
      rw [if_neg hc, dueBehind?_append hdue, under, Option.map_some]
  | literal quote due =>
    obtain rfl := Option.some.inj h
    rw [under, step]
    split
    case isTrue => rfl
    case isFalse => split <;> rfl
  | escape quote due =>
    obtain rfl := Option.some.inj h
    rfl

/-- What is due further out does not matter to a text that can be read without it. -/
theorem read_under {s t : Nesting} {text : List Char} (h : s.read text = some t)
    (more : List Char) : (s.under more).read text = some (t.under more) := by
  induction text generalizing s with
  | nil =>
    obtain rfl := Option.some.inj h
    rfl
  | cons c cs ih =>
    obtain ⟨s', hstep, hrest⟩ := read_cons_eq_some_iff.1 h
    exact read_cons_eq_some_iff.2 ⟨s'.under more, step_under hstep more, ih hrest⟩

end Nesting

/-! ## Pieces of text -/

/-- Reading a text takes the closing brackets that are due from the first to the second list, and
ends outside of literals. -/
def Nests (due : List Char) (text : List Char) (due' : List Char) : Prop :=
  (Nesting.outside due).read text = some (.outside due')

instance (due text due' : List Char) : Decidable (Nests due text due') :=
  inferInstanceAs (Decidable (_ = _))

/-- Read from its start, a text leaves neither a literal open nor a bracket, and each closing
bracket in it is due where it stands. -/
def Balanced (text : List Char) : Prop :=
  Nests [] text []

instance (text : List Char) : Decidable (Balanced text) :=
  inferInstanceAs (Decidable (Nests _ _ _))

section Pieces

variable {due due' due'' xs ys text : List Char}

/-- A text behind another one. -/
theorem Nests.append (hx : Nests due xs due') (hy : Nests due' ys due'') :
    Nests due (xs ++ ys) due'' := by
  rw [Nests, Nesting.read, List.foldlM_append]
  exact Option.bind_eq_some_iff.2 ⟨_, hx, hy⟩

/-- A piece of text does the same between brackets that are closed behind it. -/
theorem Nests.under (h : Nests due text due') (more : List Char) :
    Nests (due ++ more) text (due' ++ more) :=
  Nesting.read_under h more

/-- A balanced text leaves due what is due in front of it. -/
theorem Balanced.nests (h : Balanced text) (due : List Char) : Nests due text due :=
  Nests.under h due

/-- A balanced text behind another one. -/
theorem Balanced.append (hx : Balanced xs) (hy : Balanced ys) : Balanced (xs ++ ys) :=
  Nests.append hx hy

/-- A balanced text between an opening text and one that closes what the first has opened. -/
theorem Balanced.between {before behind : List Char} (h : Balanced text)
    (hbefore : Nests [] before due) (hbehind : Nests due behind []) :
    Balanced (before ++ (text ++ behind)) :=
  hbefore.append ((h.nests due).append hbehind)

/-- The texts of a list are balanced one behind the other. -/
theorem balanced_flatMap {α : Type} {f : α → List Char} {items : List α}
    (h : ∀ x ∈ items, Balanced (f x)) : Balanced (items.flatMap f) := by
  induction items with
  | nil => rfl
  | cons x items ih =>
    rw [List.flatMap_cons]
    exact (h x (by simp)).append (ih fun y hy => h y (by simp [hy]))

/-- Balanced texts are balanced with commas between them. -/
theorem balanced_commaSeparated {ts : List (List Char)} (h : ∀ t ∈ ts, Balanced t) :
    Balanced (Literal.commaSeparated ts) := by
  cases ts with
  | nil => rfl
  | cons t ts =>
    have hcomma : Balanced [',', ' '] := by decide
    rw [Literal.commaSeparated_cons]
    exact (h t (by simp)).append (balanced_flatMap fun t ht => hcomma.append (h t (by simp [ht])))

/-- A list in brackets is balanced if its items are. -/
theorem balanced_brackets {ts : List (List Char)} (h : ∀ t ∈ ts, Balanced t) :
    Balanced ('[' :: (Literal.commaSeparated ts ++ [']'])) := by
  have hopen : Nests [] ['['] [']'] := by decide
  exact (balanced_commaSeparated h).between hopen (by decide)

/-- What is written between quotes is in the literal, up to the quote that closes it. -/
theorem Nesting.read_escapeQuote {quote : Char} (h : quote ≠ '\\') (due cs : List Char) :
    (literal quote due).read (Text.escapeQuote quote cs ++ [quote]) = some (.outside due) := by
  -- A character with a backslash in front takes the reader to the escape and back to the literal.
  induction cs with
  | nil => simp [Text.escapeQuote, read, step, h]
  | cons c cs ih =>
    rw [Text.escapeQuote]
    split
    case isTrue => exact ih
    case isFalse hc =>
      obtain ⟨hslash, hquote⟩ := not_or.1 hc
      have hstep : (literal quote due).step c = some (.literal quote due) := by
        simp [step, hslash, hquote]
      exact read_cons_eq_some_iff.2 ⟨_, hstep, ih⟩

/-- The text of a quoted string is balanced, whatever the string holds. -/
theorem balanced_quote (cs : List Char) : Balanced (Text.quote cs) := by
  have hopen : (Nesting.outside []).step (Text.quoteOf cs) = some (.literal (Text.quoteOf cs) []) :=
    if_pos (Place.isQuote_quoteOf cs)
  exact Nesting.read_cons_eq_some_iff.2
    ⟨_, hopen, Nesting.read_escapeQuote (Text.quoteOf_ne_backslash cs) [] cs⟩

/-- A bracket in a literal is not looked at, and any other has to be closed by its own. -/
example : Balanced "f('(\\'', [1])".toList ∧ ¬ Balanced "f('(', [1)]".toList := by
  decide

/-- A quoted string is balanced, whatever it holds. -/
theorem balanced_quoteString (s : String) : Balanced (Text.quoteString s).toList := by
  rw [Text.quoteString, String.toList_ofList]
  exact balanced_quote _

end Pieces

/-! ## Plain text -/

/-- The characters that a reader of brackets looks at outside of literals. -/
def marks : List Char :=
  ['\'', '"', Text.backTick, '(', ')', '[', ']', '\x7b', '\x7d']

/-- Any other character leaves the reader where it is. -/
theorem step_outside_of_notMem_marks {c : Char} (h : c ∉ marks) (due : List Char) :
    (Nesting.outside due).step c = some (.outside due) := by
  simp only [marks, List.mem_cons, List.not_mem_nil, or_false, not_or] at h
  have hclosing : closing? c = none := by grind [closing?]
  simp [Nesting.step, dueBehind?, hclosing, isClosing, Place.isQuote, h]

/-- A text is balanced if it has neither brackets nor quotes. -/
theorem balanced_of_forall_notMem_marks {text : List Char} (h : ∀ c ∈ text, c ∉ marks) :
    Balanced text := by
  induction text with
  | nil => rfl
  | cons c cs ih =>
    exact Nesting.read_cons_eq_some_iff.2 ⟨_, step_outside_of_notMem_marks (h c (by simp)) [],
      ih fun d hd => h d (by simp [hd])⟩

/-- Whether a character can be part of a name: letters, digits, `_`, `$`, and all that is not
ASCII. -/
def isNameChar (c : Char) : Bool :=
  Place.isWordChar c || 128 ≤ c.toNat

/-- A character of a name is neither a bracket nor a quote. -/
theorem notMem_marks_of_isNameChar {c : Char} (h : isNameChar c = true) : c ∉ marks := by
  have hmarks : marks.all (fun c => !isNameChar c) = true := by decide
  intro hc
  simpa [h] using List.all_eq_true.1 hmarks c hc

/-- A text of characters of names is balanced. -/
theorem balanced_of_forall_isNameChar {text : List Char} (h : ∀ c ∈ text, isNameChar c = true) :
    Balanced text :=
  balanced_of_forall_notMem_marks fun c hc => notMem_marks_of_isNameChar (h c hc)

/-! ## Numbers and literals -/

/-- The digits of a natural number can be part of a name. -/
theorem isNameChar_of_mem_toDigits {n : Nat} {c : Char} (h : c ∈ Nat.toDigits 10 n) :
    isNameChar c = true := by
  have hdigit : c.isDigit = true := Nat.isDigit_of_mem_toDigits (by decide) (by decide) h
  simp [isNameChar, Place.isWordChar, Char.isAlphanum, hdigit]

/-- The text of a natural number is balanced. -/
theorem balanced_toDigits (n : Nat) : Balanced (Nat.toDigits 10 n) :=
  balanced_of_forall_isNameChar fun _ => isNameChar_of_mem_toDigits

namespace Number

/-- Digits in positional notation are balanced. -/
theorem balanced_positional (n : Nat) (exponent : Int) :
    Balanced (positional (digitsOf n) exponent) := by
  have hdigits (c : Char) (hc : c ∈ digitsOf n) : c ∉ marks :=
    notMem_marks_of_isNameChar (isNameChar_of_mem_toDigits hc)
  have hzeros (k : Nat) (c : Char) (hc : c ∈ List.replicate k '0') : c ∉ marks := by
    rw [List.eq_of_mem_replicate hc]
    decide
  have hpoint : '.' ∉ marks ∧ '0' ∉ marks := by decide
  -- Whatever the exponent is, there are only digits of the number, zeros and a decimal point.
  refine balanced_of_forall_notMem_marks fun c hc => ?_
  unfold positional at hc
  grind [List.mem_of_mem_take, List.mem_of_mem_drop]

/-- A minus sign changes nothing. -/
theorem balanced_signed {cs : List Char} (h : Balanced cs) (negative : Bool) :
    Balanced (signed negative cs) := by
  have hminus : Balanced ['-'] := by decide
  cases negative with
  | false => exact h
  | true => exact hminus.append h

/-- The text of a number is balanced. -/
theorem balanced_toText (n : Number) : Balanced n.toText := by
  unfold toText
  split
  case h_1 i _ => exact balanced_signed (balanced_toDigits _) _
  case h_2 =>
    cases n with
    | nan => decide
    | infinite negative => cases negative <;> decide
    | finite v =>
      change Balanced (finiteText v)
      unfold finiteText
      split
      case isTrue => decide
      case isFalse => exact balanced_signed (balanced_positional _ _) _

end Number

namespace Literal

/-- The literals in which each key is a name, so that it needs no quotes. -/
inductive HasNameKeys : Literal → Prop where
  /-- The value `null`. -/
  | null : HasNameKeys .null
  /-- The value `undefined`. -/
  | undefined : HasNameKeys .undefined
  /-- A truth value. -/
  | bool (b : Bool) : HasNameKeys (.bool b)
  /-- A number. -/
  | number (n : Number) : HasNameKeys (.number n)
  /-- A string. -/
  | string (s : String) : HasNameKeys (.string s)
  /-- An array of such literals. -/
  | array {items : List Literal} (h : ∀ v ∈ items, HasNameKeys v) : HasNameKeys (.array items)
  /-- A record of such literals. -/
  | object {pairs : List (String × Literal)}
    (hkey : ∀ p ∈ pairs, ∀ c ∈ p.1.toList, isNameChar c = true)
    (h : ∀ p ∈ pairs, HasNameKeys p.2) : HasNameKeys (.object pairs)

/-- The text of a literal is balanced if its keys are names, whatever its strings hold. -/
theorem HasNameKeys.balanced {v : Literal} (h : v.HasNameKeys) : Balanced v.text := by
  induction h with
  | null => decide
  | undefined => decide
  | bool b => cases b <;> decide
  | number n => exact n.balanced_toText
  | string s => exact balanced_quote _
  | array _ ih =>
    rw [text_array]
    exact balanced_brackets (by simpa using ih)
  | @object pairs hkey _ ih =>
    -- A key stands there as it is, so it must not hold brackets of its own.
    have hcolon : Balanced [':', ' '] := by decide
    have hpair : ∀ t ∈ pairs.map pairText, Balanced t := by
      intro t ht
      obtain ⟨p, hp, rfl⟩ := List.mem_map.1 ht
      have hname : Balanced p.1.toList := balanced_of_forall_isNameChar (hkey p hp)
      exact hname.append (hcolon.append (ih p hp))
    have hopen : Nests [] ['\x7b', ' '] ['\x7d'] := by decide
    rw [text_object]
    exact (balanced_commaSeparated hpair).between hopen (by decide)

/-- The text of a list of arguments is balanced if their keys are names. -/
theorem balanced_argumentsText {args : List Literal} (h : ∀ v ∈ args, v.HasNameKeys) :
    Balanced (argumentsText args) := by
  rw [argumentsText, itemTexts_eq_map]
  exact balanced_commaSeparated (by simpa using fun v hv => (h v hv).balanced)

end Literal

end Recorder
