import Mathlib.Tactic.TFAE
import Recorder.Code.Statement
import Recorder.Proofs.Literal
import Std.Data.String.ToNat

/-!
# Locators and their expressions

The source text that finds an element says which locator it was written for. The name of a method
gives back what the query goes by and whether one or all elements are asked for
(`ofMethodName?_methodName`), the arguments give back the query (`Query.eq_of_arguments_eq`), and a
subscript the position. So a call (`call_append_inj`) and an expression (`expression_append_inj`)
say where they end and what they were written for, and two locators have the same target only if
they are equal (`sameTarget_tfae`).
-/

namespace Recorder

namespace Strategy

/-- The methods of a family: what their queries go by, and whether they answer with all elements. -/
def methods : List (Strategy × Bool) :=
  [.role, .text .label, .text .placeholder, .text .content, .text .title, .testId, .css].flatMap
    fun s => [(s, false), (s, true)]

/-- The method of this name. -/
def ofMethodName? (family : QueryFamily) (name : String) : Option (Strategy × Bool) :=
  methods.find? fun m => m.1.methodName family m.2 == name

/-- The name of a method says what its query goes by, and whether it answers with all elements. -/
theorem ofMethodName?_methodName (s : Strategy) (family : QueryFamily) (all : Bool) :
    ofMethodName? family (s.methodName family all) = some (s, all) := by
  cases family <;> cases all <;> rcases s with _ | ⟨_ | _ | _ | _⟩ | _ | _ <;> decide

/-- The name of a method consists of letters. -/
theorem isAlpha_of_mem_methodName (s : Strategy) (family : QueryFamily) (all : Bool) :
    ∀ c ∈ (s.methodName family all).toList, c.isAlpha = true := by
  have hsuffix : s.suffix.toList.all Char.isAlpha = true := by
    rcases s with _ | ⟨_ | _ | _ | _⟩ | _ | _ <;> decide
  have hnumber : (if all then "AllBy" else "By").toList.all Char.isAlpha = true := by
    cases all <;> decide
  rw [← List.all_eq_true]
  unfold methodName
  split
  · split <;> decide
  · simp only [String.toList_append, List.all_append, Bool.and_eq_true]
    exact ⟨⟨by cases family <;> decide, hnumber⟩, hsuffix⟩

/-- The name of a method ends in front of a parenthesis. -/
theorem parenthesis_notMem_methodName (s : Strategy) (family : QueryFamily) (all : Bool) :
    '(' ∉ (s.methodName family all).toList := fun h =>
  absurd (s.isAlpha_of_mem_methodName family all _ h) (by decide)

end Strategy

/-- The record of a text comparison says how texts are compared. -/
theorem TextMatch.toLiteral_inj {m n : TextMatch} (h : m.toLiteral = n.toLiteral) : m = n := by
  obtain ⟨exact, collapse⟩ := m
  obtain ⟨exact', collapse'⟩ := n
  cases collapse <;> cases collapse' <;> simp_all [toLiteral]

/-- The record of a text comparison is read back from its source text. -/
theorem TextMatch.readable_toLiteral (m : TextMatch) : m.toLiteral.Readable := by
  have hpair : ∀ p ∈ ("exact", Literal.bool m.exact) ::
      (if m.collapseWhitespace then [] else [("collapseWhitespace", .bool false)]),
      Literal.IsKey p.1 ∧ p.2.Readable := by
    intro p hp
    rcases List.mem_cons.1 hp with rfl | hp
    · exact ⟨show Literal.IsKey "exact" by decide, .bool _⟩
    · split at hp
      · simp at hp
      · rw [List.mem_singleton.1 hp]
        exact ⟨by decide, .bool _⟩
  exact .object (fun p hp => (hpair p hp).1) fun p hp => (hpair p hp).2

namespace Query

/-- What a query goes by and its arguments say which query it is. -/
theorem eq_of_arguments_eq {p q : Query} (hs : p.strategy = q.strategy)
    (h : p.arguments = q.arguments) : p = q := by
  cases p with
  | role r name =>
    cases q with
    | role r' name' => cases name <;> cases name' <;> simp_all [arguments]
    | _ => simp [strategy] at hs
  | text source t options =>
    cases q with
    | text source' t' options' =>
      simp only [arguments, List.cons.injEq, Literal.string.injEq, and_true] at h
      obtain ⟨rfl, hoptions⟩ := h
      rw [TextMatch.toLiteral_inj hoptions, Strategy.text.inj hs]
    | _ => simp [strategy] at hs
  | testId v =>
    cases q with
    | testId v' => simp_all [arguments]
    | _ => simp [strategy] at hs
  | css s =>
    cases q with
    | css s' => simp_all [arguments]
    | _ => simp [strategy] at hs

/-- What holds of strings, of the record of a name and of that of a text comparison holds of all
arguments of queries. -/
theorem forall_mem_arguments {P : Literal → Prop} (hstring : ∀ s, P (.string s))
    (hname : ∀ n, P (.object [("name", .string n)])) (hoptions : ∀ m : TextMatch, P m.toLiteral)
    (q : Query) : ∀ v ∈ q.arguments, P v := by
  cases q with
  | role r name? =>
    cases name? with
    | none => simpa [arguments] using hstring r
    | some n => simpa [arguments] using ⟨hstring r, hname n⟩
  | text source t options => simpa [arguments] using ⟨hstring t, hoptions options⟩
  | testId v => simpa [arguments] using hstring v
  | css s => simpa [arguments] using hstring s

/-- The arguments of a query are read back from their source text. -/
theorem readable_arguments (q : Query) : ∀ v ∈ q.arguments, v.Readable := by
  have name (n : String) : (Literal.object [("name", .string n)]).Readable :=
    .object (by simp; decide) (by simpa using .string n)
  exact forall_mem_arguments .string name TextMatch.readable_toLiteral q

end Query

attribute [ext] Locator

namespace Locator

/-- The text of a call of the query. -/
theorem toList_call (l : Locator) (family : QueryFamily) :
    (l.call family).toList = l.scope.name.toList ++ '.' :: ((l.methodName family).toList ++
      '(' :: (Literal.argumentsText l.query.arguments ++ [')'])) := by
  simp [call, argumentsText, Literal.formatArguments]

/-- A call says where it ends, and which object is asked which query for one or all elements. -/
theorem call_append_inj {a b : Locator} {family : QueryFamily} {u v : List Char}
    (h : (a.call family).toList ++ u = (b.call family).toList ++ v) :
    a.scope = b.scope ∧ a.query = b.query ∧ a.index.isSome = b.index.isSome ∧ u = v := by
  simp only [toList_call, List.append_assoc, List.cons_append] at h
  have dot (scope : Scope) : '.' ∉ scope.name.toList := by cases scope <;> decide
  obtain ⟨hscope, hmethod⟩ := Text.append_cons_inj (dot _) (dot _) h
  obtain ⟨hname, hargs⟩ := Text.append_cons_inj
    (a.query.strategy.parenthesis_notMem_methodName _ _)
    (b.query.strategy.parenthesis_notMem_methodName _ _) hmethod
  obtain ⟨harguments, hrest⟩ := Literal.argumentsText_append_inj a.query.readable_arguments
    b.query.readable_arguments hargs
  -- The name of the method says what the query goes by, so the arguments are those of one query.
  have hread := congrArg (Strategy.ofMethodName? family) (String.toList_inj.1 hname)
  rw [Strategy.ofMethodName?_methodName, Strategy.ofMethodName?_methodName, Option.some.injEq,
    Prod.mk.injEq] at hread
  refine ⟨?_, Query.eq_of_arguments_eq hread.1 harguments, hread.2, hrest⟩
  cases ha : a.scope <;> cases hb : b.scope <;> simp_all [Scope.name]

/-- The text of an expression without its subscript: a query of the canvas is awaited. -/
def finderText (l : Locator) : List Char :=
  (match l.scope with
    | .canvas => "await ".toList
    | .body => []) ++ (l.call .find).toList

/-- A text with the position of the element behind it. -/
def subscriptText (t : List Char) : Option Nat → List Char
  | none => t
  | some i => '(' :: (t ++ ')' :: '[' :: (Nat.toDigits 10 i ++ [']']))

/-- The text of an expression with a subscript. -/
theorem toList_subscript (expression : String) (index : Option Nat) :
    (subscript expression index).toList = subscriptText expression.toList index := by
  cases index <;> simp [subscript, subscriptText, Nat.toString_eq_repr]

/-- The text of an expression. -/
theorem toList_expression (l : Locator) :
    l.expression.toList = subscriptText l.finderText l.index := by
  rw [expression, toList_subscript, finderText]
  cases l.scope <;> simp

/-- If a text says where it ends and what it was written for, it does so with a subscript. -/
theorem subscriptText_append_inj {P : Prop} {s t : List Char} {i j : Option Nat} {u v : List Char}
    (hs : ∀ u v, s ++ u ≠ '(' :: v) (ht : ∀ u v, t ++ u ≠ '(' :: v)
    (hst : ∀ u v, s ++ u = t ++ v → P ∧ u = v)
    (h : subscriptText s i ++ u = subscriptText t j ++ v) : P ∧ i = j ∧ u = v := by
  cases i with
  | none =>
    cases j with
    | none =>
      obtain ⟨hp, hrest⟩ := hst _ _ h
      exact ⟨hp, rfl, hrest⟩
    | some j => exact (hs _ _ h).elim
  | some i =>
    cases j with
    | none => exact (ht _ _ h.symm).elim
    | some j =>
      simp only [subscriptText, List.cons_append, List.append_assoc] at h
      obtain ⟨hp, htail⟩ := hst _ _ (List.cons.inj h).2
      have bracket (n : Nat) : ']' ∉ Nat.toDigits 10 n := fun hmem =>
        absurd (Nat.isDigit_of_mem_toDigits (by decide) (by decide) hmem) (by decide)
      obtain ⟨hdigits, hrest⟩ := Text.append_cons_inj (bracket i) (bracket j)
        (List.cons.inj (List.cons.inj htail).2).2
      have hij : i = j := Nat.repr_inj.1 (String.toList_inj.1 (by simpa using hdigits))
      exact ⟨hp, congrArg some hij, hrest⟩

/-- An expression without its subscript says where it ends, and what it was written for. -/
theorem finderText_append_inj {a b : Locator} {u v : List Char}
    (h : a.finderText ++ u = b.finderText ++ v) :
    a.scope = b.scope ∧ a.query = b.query ∧ a.index.isSome = b.index.isSome ∧ u = v := by
  -- The first letter tells an awaited query of the canvas from one of the body.
  have hcall : (a.call .find).toList ++ u = (b.call .find).toList ++ v := by
    cases ha : a.scope <;> cases hb : b.scope <;>
      simp [finderText, ha, hb, toList_call, Scope.name] at h ⊢ <;> exact h
  exact call_append_inj hcall

/-- An expression without its subscript begins with a letter. -/
theorem finderText_ne_cons (l : Locator) (u v : List Char) : l.finderText ++ u ≠ '(' :: v := by
  cases h : l.scope <;> simp [finderText, h, toList_call, Scope.name]

/-- An expression says where it ends, and which locator it was written for. -/
theorem expression_append_inj {a b : Locator} {u v : List Char}
    (h : a.expression.toList ++ u = b.expression.toList ++ v) : a = b ∧ u = v := by
  rw [toList_expression, toList_expression] at h
  obtain ⟨⟨hscope, hquery⟩, hindex, hrest⟩ := subscriptText_append_inj (finderText_ne_cons a)
    (finderText_ne_cons b) (P := a.scope = b.scope ∧ a.query = b.query) (fun u v h => by
      obtain ⟨hscope, hquery, -, hrest⟩ := finderText_append_inj h
      exact ⟨⟨hscope, hquery⟩, hrest⟩) h
  exact ⟨Locator.ext hscope hquery hindex, hrest⟩

/-- A call begins with a letter. -/
theorem call_ne_cons (l : Locator) (family : QueryFamily) (u v : List Char) :
    (l.call family).toList ++ u ≠ '(' :: v := by
  cases h : l.scope <;> simp [toList_call, h, Scope.name]

/-- The expression of an assertion says where it ends, and which locator it was written for. -/
theorem assertionExpression_append_inj {a b : Locator} {u v : List Char}
    (h : a.assertionExpression.toList ++ u = b.assertionExpression.toList ++ v) : a = b ∧ u = v := by
  rw [assertionExpression, assertionExpression, toList_subscript, toList_subscript] at h
  obtain ⟨⟨hscope, hquery⟩, hindex, hrest⟩ := subscriptText_append_inj (call_ne_cons a .query)
    (call_ne_cons b .query) (P := a.scope = b.scope ∧ a.query = b.query) (fun u v h => by
      obtain ⟨hscope, hquery, -, hrest⟩ := call_append_inj h
      exact ⟨⟨hscope, hquery⟩, hrest⟩) h
  exact ⟨Locator.ext hscope hquery hindex, hrest⟩

/-- Two locators have the same target only if they are equal. -/
theorem eq_of_sameTarget {a b : Locator} (h : a.sameTarget b = true) : a = b := by
  obtain ⟨scope, query, index⟩ := a
  obtain ⟨scope', query', index'⟩ := b
  simp only [sameTarget, Bool.and_eq_true, beq_iff_eq] at h
  obtain ⟨⟨⟨rfl, hstrategy⟩, rfl⟩, htext⟩ := h
  have harguments : Literal.argumentsText query.arguments ++ [')'] =
      Literal.argumentsText query'.arguments ++ [')'] :=
    congrArg (· ++ [')']) (String.ofList_injective htext)
  obtain ⟨hquery, -⟩ := Literal.argumentsText_append_inj query.readable_arguments
    query'.readable_arguments harguments
  rw [Query.eq_of_arguments_eq hstrategy hquery]

/-- Two locators have the same target, are written as the same expression, or agree in the object
asked, the query and the position: these are the same. -/
theorem sameTarget_tfae (a b : Locator) :
    [a.sameTarget b = true, a.expression = b.expression,
      a.scope = b.scope ∧ a.query = b.query ∧ a.index = b.index].TFAE := by
  tfae_have 1 → 3 := fun h => by
    obtain rfl := eq_of_sameTarget h
    exact ⟨rfl, rfl, rfl⟩
  tfae_have 3 → 2 := fun ⟨hscope, hquery, hindex⟩ => by
    rw [expression, expression, call, call, methodName, methodName, argumentsText, argumentsText,
      hscope, hquery, hindex]
  tfae_have 2 → 1 := fun h => by
    obtain ⟨rfl, -⟩ := expression_append_inj (congrArg (·.toList ++ []) h)
    simp [sameTarget]
  tfae_finish

end Locator

end Recorder
