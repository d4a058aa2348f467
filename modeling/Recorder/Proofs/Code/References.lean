import Recorder.Code.Statement
import Recorder.Proofs.Code.Reading
import Recorder.Proofs.Locator.Expression

/-!
# What expressions refer to

A word refers to a helper if it is the helper's name and no dot stands directly in front of it.
Texts that are put together from pieces refer to what the pieces refer to, in order
(`Reads.append`). Quoted strings refer to nothing (`Quiet`), whatever they hold, and neither do
literals without numbers and records (`Plain.quiet`). So an expression refers to the object that is
asked, and to nothing else (`reads_expression`).
-/

namespace Recorder

/-- The names of the helpers. -/
def helperNames : List String :=
  ["userEvent", "within", "waitFor", "expect", "canvas", "body"]

/-- The helper that a word refers to, if it refers to one. -/
def Word.reference? (w : Word) : Option String :=
  if !w.dotted && helperNames.contains w.text then some w.text else none

/-- The helpers that words refer to, in order and as often as they do. -/
def references (words : List Word) : List String :=
  words.filterMap Word.reference?

/-- Reading a text from one place leads to another place, and the words that end in it refer to
these helpers. -/
def Reads (p : Place) (text : List Char) (refs : List String) (q : Place) : Prop :=
  references (p.read text).1 = refs ∧ (p.read text).2 = q

instance (p : Place) (text : List Char) (refs : List String) (q : Place) :
    Decidable (Reads p text refs q) :=
  inferInstanceAs (Decidable (_ ∧ _))

/-- A text behind another one. -/
theorem Reads.append {p q r : Place} {xs ys : List Char} {as bs : List String}
    (hx : Reads p xs as q) (hy : Reads q ys bs r) : Reads p (xs ++ ys) (as ++ bs) r := by
  obtain ⟨rfl, rfl⟩ := hx
  obtain ⟨rfl, rfl⟩ := hy
  rw [Reads, Place.read_append]
  exact ⟨List.filterMap_append .., rfl⟩

/-- A quoted string refers to nothing. -/
theorem reads_quote (dot : Bool) (cs : List Char) :
    Reads (.between dot) (Text.quote cs) [] (.between false) := by
  rw [Reads, Place.read_quote]
  exact ⟨rfl, rfl⟩

/-- The characters that stand behind an argument. -/
def separators : List Char :=
  [',', ')', ']', ' ']

/-- A text that refers to nothing, with any separator behind it. -/
def Quiet (t : List Char) : Prop :=
  ∀ c ∈ separators, Reads (.between false) (t ++ [c]) [] (.between false)

instance (t : List Char) : Decidable (Quiet t) :=
  List.decidableBAll (fun c => Reads (.between false) (t ++ [c]) [] (.between false)) separators

/-- A separator refers to nothing. -/
theorem reads_separator : Quiet [] := by
  decide

/-- A quoted string refers to nothing, whatever stands behind it. -/
theorem quiet_quote (cs : List Char) : Quiet (Text.quote cs) :=
  fun c hc => (reads_quote false cs).append (reads_separator c hc)

/-- A word that begins with a digit is no name of a helper. -/
theorem reference?_eq_none_of_isDigit {w : Word} {d : Char} {ds : List Char}
    (hw : w.text.toList = d :: ds) (hd : d.isDigit = true) : w.reference? = none := by
  have hname : helperNames.all (fun name => !(name.toList.headD ' ').isDigit) = true := by decide
  rw [Word.reference?, if_neg]
  intro h
  have hmem : w.text ∈ helperNames := by
    rw [Bool.and_eq_true] at h
    exact List.contains_iff_mem.1 h.2
  have hnot := List.all_eq_true.1 hname _ hmem
  rw [hw, List.headD_cons, hd] at hnot
  exact Bool.false_ne_true hnot

/-- The digits of a number refer to nothing. -/
theorem quiet_digits (n : Nat) : Quiet (Nat.toDigits 10 n) := by
  have hdigit (c : Char) (hc : c ∈ Nat.toDigits 10 n) : c.isDigit = true :=
    Nat.isDigit_of_mem_toDigits (by decide) (by decide) hc
  have hword (c : Char) (hc : c ∈ Nat.toDigits 10 n) : Place.isWordChar c = true := by
    simp [Place.isWordChar, Char.isAlphanum, hdigit c hc]
  cases hdigits : Nat.toDigits 10 n with
  | nil => exact absurd hdigits Nat.toDigits_ne_nil
  | cons d ds =>
    rw [hdigits] at hdigit hword
    have hreference : (⟨false, String.ofList (d :: ds)⟩ : Word).reference? = none :=
      reference?_eq_none_of_isDigit String.toList_ofList (hdigit d (by simp))
    -- The separator ends the word, and is no dot.
    intro c hc
    have hsep : Place.isWordChar c = false ∧ Place.behind c = .between false := by
      simp only [separators, List.mem_cons, List.not_mem_nil, or_false] at hc
      rcases hc with rfl | rfl | rfl | rfl <;> decide
    rw [Reads, Place.read_append, Place.read_word hword]
    simp only [Place.read, Place.step, hsep.1, hsep.2, Bool.false_eq_true, if_false,
      List.reverse_reverse, List.nil_append, List.append_nil]
    exact ⟨by rw [references, List.filterMap_cons_none hreference, List.filterMap_nil], trivial⟩

/-- Texts that refer to nothing do not either with commas between them. -/
theorem quiet_commaSeparated {ts : List (List Char)} (h : ∀ t ∈ ts, Quiet t) :
    Quiet (Literal.commaSeparated ts) := by
  intro c hc
  induction ts with
  | nil => exact reads_separator c hc
  | cons t ts ih =>
    cases ts with
    | nil =>
      rw [Literal.commaSeparated, List.intercalate_singleton]
      exact h t (by simp) c hc
    | cons t' ts =>
      have hcomma : Reads (.between false) (t ++ [',']) [] (.between false) :=
        h t (by simp) ',' (by decide)
      have hblank : Reads (.between false) [' '] [] (.between false) := by decide
      have hrest := ih fun t ht => h t (by simp [ht])
      have heq : Literal.commaSeparated (t :: t' :: ts) ++ [c] =
          (t ++ [',']) ++ ([' '] ++ (Literal.commaSeparated (t' :: ts) ++ [c])) := by
        rw [Literal.commaSeparated, List.intercalate_cons_cons]
        simp [Literal.commaSeparated]
      rw [heq]
      exact hcomma.append (hblank.append hrest)

/-- A list in brackets refers to nothing if its items do not. -/
theorem quiet_brackets {ts : List (List Char)} (h : ∀ t ∈ ts, Quiet t) :
    Quiet ('[' :: (Literal.commaSeparated ts ++ [']'])) := by
  intro c hc
  have hopen : Reads (.between false) ['['] [] (.between false) := by decide
  have hitems := quiet_commaSeparated h ']' (by decide)
  exact (hopen.append hitems).append (reads_separator c hc)

namespace Literal

/-- The literals without numbers and records. -/
inductive Plain : Literal → Prop where
  /-- The value `null`. -/
  | null : Plain .null
  /-- The value `undefined`. -/
  | undefined : Plain .undefined
  /-- A truth value. -/
  | bool (b : Bool) : Plain (.bool b)
  /-- A string. -/
  | string (s : String) : Plain (.string s)
  /-- An array of such literals. -/
  | array {items : List Literal} (h : ∀ v ∈ items, Plain v) : Plain (.array items)

/-- A literal without numbers and records refers to nothing. -/
theorem Plain.quiet {v : Literal} (h : v.Plain) : Quiet v.text := by
  induction h with
  | null => decide
  | undefined => decide
  | bool b => cases b <;> decide
  | string s => exact quiet_quote _
  | array _ ih =>
    rw [text_array]
    exact quiet_brackets (by simpa using ih)

/-- A record refers to nothing if its keys and their values do not. -/
theorem quiet_object {pairs : List (String × Literal)}
    (hkey : ∀ p ∈ pairs, Reads (.between false) (p.1.toList ++ [':', ' ']) [] (.between false))
    (h : ∀ p ∈ pairs, Quiet p.2.text) : Quiet (object pairs).text := by
  have hpair : ∀ t ∈ pairs.map pairText, Quiet t := by
    intro t ht c hc
    obtain ⟨p, hp, rfl⟩ := List.mem_map.1 ht
    have hread := (hkey p hp).append (h p hp c hc)
    simpa [pairText] using hread
  intro c hc
  have hopen : Reads (.between false) ['\x7b', ' '] [] (.between false) := by decide
  have hclose : Reads (.between false) ['\x7d'] [] (.between false) := by decide
  have hpairs : Reads (.between false) (commaSeparated (pairs.map pairText) ++ [' ']) []
      (.between false) :=
    quiet_commaSeparated hpair ' ' (by decide)
  have hread := hopen.append (hpairs.append (hclose.append (reads_separator c hc)))
  rw [text_object]
  simpa using hread

/-- A list of arguments refers to nothing if the arguments do not. -/
theorem quiet_argumentsText {args : List Literal} (h : ∀ v ∈ args, Quiet v.text) :
    Quiet (argumentsText args) := by
  rw [argumentsText, itemTexts_eq_map]
  exact quiet_commaSeparated (by simpa using h)

end Literal

/-- The arguments of a query refer to nothing. -/
theorem Query.quiet_arguments (q : Query) : ∀ v ∈ q.arguments, Quiet v.text := by
  have string (s : String) : Quiet (Literal.string s).text := quiet_quote _
  have name (n : String) : Quiet (Literal.object [("name", .string n)]).text :=
    Literal.quiet_object (by simp; decide) (by simpa using string n)
  have options (m : TextMatch) : Quiet m.toLiteral.text := by
    obtain ⟨exact, collapse⟩ := m
    refine Literal.quiet_object ?_ ?_
    · cases collapse <;> simp <;> decide
    · cases exact <;> cases collapse <;> simp <;> decide
  exact forall_mem_arguments string name options q

namespace Locator

/-- The name of a method behind a dot refers to nothing. -/
theorem reads_methodName (s : Strategy) (family : QueryFamily) (all : Bool) :
    Reads (.between true) ((s.methodName family all).toList ++ ['(']) [] (.between false) := by
  have hword (c : Char) (hc : c ∈ (s.methodName family all).toList) :
      Place.isWordChar c = true := by
    simp [Place.isWordChar, Char.isAlphanum, s.isAlpha_of_mem_methodName family all c hc]
  cases hname : (s.methodName family all).toList with
  | nil => decide
  | cons c cs =>
    -- The parenthesis ends the word, which has a dot in front of it.
    rw [hname] at hword
    have hparenthesis : Place.isWordChar '(' = false ∧ Place.behind '(' = .between false := by
      decide
    have hdotted (w : String) : references [⟨true, w⟩] = [] := by
      simp [references, Word.reference?]
    rw [Reads, Place.read_append, Place.read_word hword]
    simp only [Place.read, Place.step, hparenthesis.1, hparenthesis.2, Bool.false_eq_true, if_false,
      List.nil_append, List.append_nil]
    exact ⟨hdotted _, trivial⟩

/-- A call refers to the object that is asked. -/
theorem reads_call (l : Locator) (family : QueryFamily) :
    Reads (.between false) (l.call family).toList [l.scope.name] (.between false) := by
  -- Behind the dot the reader takes the name of the method for none of a helper.
  have hscope : Reads (.between false) (l.scope.name.toList ++ ['.']) [l.scope.name]
      (.between true) := by
    cases l.scope <;> decide
  have hargs : Reads (.between false) (Literal.argumentsText l.query.arguments ++ [')']) []
      (.between false) :=
    Literal.quiet_argumentsText l.query.quiet_arguments ')' (by decide)
  have hread := hscope.append ((reads_methodName l.query.strategy family l.index.isSome).append hargs)
  rw [toList_call]
  simpa [methodName] using hread

/-- A subscript refers to nothing. -/
theorem reads_subscript {expression : String} {refs : List String}
    (h : Reads (.between false) expression.toList refs (.between false)) (index : Option Nat) :
    Reads (.between false) (subscript expression index).toList refs (.between false) := by
  cases index with
  | none => exact h
  | some i =>
    have hopen : Reads (.between false) ['('] [] (.between false) := by decide
    have hbehind : Reads (.between false) [')', '['] [] (.between false) := by decide
    have hdigits := quiet_digits i ']' (by decide)
    have hread := hopen.append (h.append (hbehind.append hdigits))
    simpa [subscript, Nat.toString_eq_repr] using hread

/-- An expression refers to the object that is asked. -/
theorem reads_expression (l : Locator) :
    Reads (.between false) l.expression.toList [l.scope.name] (.between false) := by
  -- A query of the canvas is awaited, and `await` is no helper.
  refine reads_subscript ?_ l.index
  have hcall := l.reads_call .find
  cases h : l.scope with
  | body => rwa [h] at hcall
  | canvas =>
    have hawait : Reads (.between false) "await ".toList [] (.between false) := by decide
    rw [h] at hcall
    rw [String.toList_append]
    exact hawait.append hcall

/-- The expression of an assertion refers to the object that is asked. -/
theorem reads_assertionExpression (l : Locator) :
    Reads (.between false) l.assertionExpression.toList [l.scope.name] (.between false) :=
  reads_subscript (l.reads_call .query) l.index

end Locator

end Recorder
