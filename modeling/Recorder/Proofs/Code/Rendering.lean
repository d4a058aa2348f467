import Recorder.Proofs.Code.Framing
import Recorder.Proofs.Code.Nesting

/-!
# Rendered code is balanced

The text that is rendered for a recording has its brackets nested and its literals closed, whatever
the strings of the recording hold. Expressions are balanced because quoted strings are
(`balanced_expression`), and each line of a statement is balanced by itself
(`balanced_of_mem_ofEntry`). The lines of a frame are not: one opens the function, and another one
closes it (`balanced_render_frame`). The text of a test also has the name of its story in it, which
is written as it is; an identifier is balanced even if escapes with braces stand in it
(`IdentifierText.balanced`).
-/

namespace Recorder

/-! ## Expressions -/

/-- The keys in the arguments of a query are names. -/
theorem Query.hasNameKeys_arguments (q : Query) : ∀ v ∈ q.arguments, v.HasNameKeys := by
  have name (n : String) : (Literal.object [("name", .string n)]).HasNameKeys :=
    .object (by simp; decide) (by simpa using .string n)
  have options (m : TextMatch) : m.toLiteral.HasNameKeys := by
    obtain ⟨exact, collapse⟩ := m
    refine .object ?_ ?_
    · cases collapse <;> simp <;> decide
    · cases collapse <;> simp [Literal.HasNameKeys.bool]
  exact forall_mem_arguments .string name options q

namespace Locator

/-- A call is balanced. -/
theorem balanced_call (l : Locator) (family : QueryFamily) :
    Balanced (l.call family).toList := by
  have hscope : Balanced (l.scope.name.toList ++ ['.']) := by cases l.scope <;> decide
  have hmethod : Nests [] ((l.methodName family).toList ++ ['(']) [')'] := by
    have hname : Balanced (l.methodName family).toList :=
      balanced_of_forall_isNameChar fun c hc => by
        simp [isNameChar, Place.isWordChar, Char.isAlphanum,
          l.query.strategy.isAlpha_of_mem_methodName family l.index.isSome c hc]
    exact (hname.nests []).append (by decide)
  have harguments := Literal.balanced_argumentsText l.query.hasNameKeys_arguments
  have hclose : Nests [')'] [')'] [] := by decide
  have hcall := hscope.append (harguments.between hmethod hclose)
  rw [toList_call]
  simpa using hcall

/-- A balanced text is balanced with a subscript. -/
theorem balanced_subscript {expression : String} (h : Balanced expression.toList)
    (index : Option Nat) : Balanced (subscript expression index).toList := by
  rw [toList_subscript]
  cases index with
  | none => exact h
  | some i =>
    have hopen : Nests [] ['('] [')'] := by decide
    have hposition := (balanced_toDigits i).nests [']']
    have hbehind : Nests [')'] [')', '['] [']'] := by decide
    exact h.between hopen (hbehind.append (hposition.append (by decide)))

/-- The expression that finds the element of an action is balanced. -/
theorem balanced_expression (l : Locator) : Balanced l.expression.toList := by
  refine balanced_subscript ?_ l.index
  have hcall := l.balanced_call .find
  cases l.scope with
  | body => exact hcall
  | canvas =>
    have hawait : Balanced "await ".toList := by decide
    rw [String.toList_append]
    exact hawait.append hcall

/-- The expression that finds the element of an assertion is balanced. -/
theorem balanced_assertionExpression (l : Locator) : Balanced l.assertionExpression.toList :=
  balanced_subscript (l.balanced_call .query) l.index

end Locator

/-! ## Statements -/

/-- The text of a file is balanced. -/
theorem balanced_fileText (name : String) : Balanced (fileText name).toList := by
  have hname := balanced_quoteString name
  have hopen : Nests [] "new File([".toList [']', ')'] := by decide
  have hcomma : Nests [']', ')'] "], ".toList [')'] := by decide
  have hclose : Nests [')'] [')'] [] := by decide
  rw [toList_fileText]
  exact hopen.append ((hname.nests _).append (hcomma.append ((hname.nests _).append hclose)))

/-- A list of source texts in brackets is balanced if its items are. -/
theorem balanced_commaList {texts : List String} (h : ∀ t ∈ texts, Balanced t.toList) :
    Balanced ("[" ++ commaList texts ++ "]").toList := by
  have hlist : Balanced ('[' :: (Literal.commaSeparated (texts.map String.toList) ++ [']'])) :=
    balanced_brackets (by simpa using h)
  simpa [commaList, Literal.commaSeparated, String.toList_intercalate] using hlist

/-- The method of an action and its argument are balanced. -/
theorem Event.balanced_action {event : Event} {method : String} {argument : Option String}
    (h : event.action? = some (method, argument)) :
    Balanced method.toList ∧ ∀ a ∈ argument, Balanced a.toList := by
  have hmethods : ∀ m ∈ actionMethods, Balanced m.toList := by decide
  obtain ⟨hmethod, hargument⟩ := action?_cases h
  refine ⟨hmethods method hmethod, fun a ha => ?_⟩
  rcases hargument a ha with ⟨s, rfl⟩ | ⟨options, rfl⟩ | ⟨files, rfl⟩
  · exact balanced_quoteString s
  · exact balanced_commaList (by simpa using fun s _ => balanced_quoteString s)
  · exact balanced_commaList (by simpa using fun name _ => balanced_fileText name)

namespace Statements

/-- The call of a method of the user is balanced if its arguments are. -/
theorem balanced_userCall {method arguments : String} (hmethod : Balanced method.toList)
    (harguments : Balanced arguments.toList) : Balanced (userCall method arguments).toList := by
  have hawait : Balanced "await userEvent.".toList := by decide +kernel
  have hopen : Nests [] ['('] [')'] := by decide
  have hclose : Nests [')'] [')', ';'] [] := by decide
  rw [toList_userCall]
  exact hawait.append (hmethod.append (harguments.between hopen hclose))

/-- The element of an action is balanced with its type and a further argument. -/
theorem balanced_actionArguments (typed : Bool) (l : Locator) {argument : Option String}
    (h : ∀ a ∈ argument, Balanced a.toList) :
    Balanced (actionArguments typed l argument).toList := by
  have hcast : Balanced (if typed && l.scope == .body then typeCast else "").toList := by
    split <;> decide
  have hargument : Balanced (argument.elim "" (", " ++ ·)).toList := by
    cases argument with
    | none => decide
    | some a =>
      have hcomma : Balanced ", ".toList := by decide
      simpa using hcomma.append (h a rfl)
  rw [actionArguments, String.toList_append, String.toList_append]
  exact (l.balanced_expression.append hcast).append hargument

/-- The start of a line that waits for something to be expected opens two calls. -/
theorem nests_waitFor : Nests [] "await waitFor(() => expect(".toList [')', ')'] := by
  decide +kernel

/-- The line that waits for an element is balanced. -/
theorem balanced_guardLine (l : Locator) : Balanced (guardLine l).text.toList := by
  have hclose : Nests [')', ')'] ").toBeInTheDocument());".toList [] := by decide +kernel
  have htext : (guardLine l).text.toList = "await waitFor(() => expect(".toList ++
      (l.expression.toList ++ ").toBeInTheDocument());".toList) := by
    unfold guardLine
    rw [String.toList_append, String.toList_append, List.append_assoc]
  rw [htext]
  exact l.balanced_expression.between nests_waitFor hclose

/-- The line of an assertion is balanced if the keys in its arguments are names. -/
theorem balanced_assertionText (l : Locator) (kind : AssertionKind) {args : List Literal}
    (h : ∀ v ∈ args, v.HasNameKeys) : Balanced (assertionText l kind args).toList := by
  have hdot : Nests [')', ')'] [')', '.'] [')'] := by decide
  have hmethod : Balanced kind.method.toList := by cases kind <;> decide
  have hopen : Nests [')'] ['('] [')', ')'] := by decide
  have harguments := Literal.balanced_argumentsText h
  have hclose : Nests [')', ')'] [')', ')'] [] := by decide
  rw [toList_assertionText]
  exact l.balanced_assertionExpression.between nests_waitFor (hdot.append
    ((hmethod.nests _).append (hopen.append ((harguments.nests _).append hclose))))

end Statements

/-- The keys in the arguments of an assertion are names. -/
def Entry.HasNameKeys (e : Entry) : Prop :=
  ∀ kind args, e.event = .assertion kind args → ∀ v ∈ args, v.HasNameKeys

namespace Statements

/-- Each line of an entry is balanced. -/
theorem balanced_of_mem_ofEntry {typed : Bool} {e : Entry} (h : e.HasNameKeys) {line : CodeLine}
    (hline : line ∈ (ofEntry typed e).lines) : Balanced line.text.toList := by
  rcases ofEntry_cases e with ⟨method, argument, haction, hentry⟩ |
    ⟨kind, args, hevent, hentry⟩ | ⟨-, -, s, hs, hentry⟩ <;> rw [hentry typed] at hline
  · obtain ⟨hmethod, hargument⟩ := Event.balanced_action haction
    have hcall := balanced_userCall hmethod (balanced_actionArguments typed e.locator hargument)
    rw [lines_ofAction] at hline
    -- In the body the line that waits for the element stands in front.
    cases hscope : e.locator.scope <;> simp only [hscope, List.nil_append, List.cons_append,
      List.mem_cons, List.not_mem_nil, or_false] at hline
    · subst hline
      exact hcall
    · rcases hline with rfl | rfl
      · exact balanced_guardLine e.locator
      · exact hcall
  · rw [lines_ofAssertion, List.mem_singleton] at hline
    subst hline
    exact balanced_assertionText e.locator kind (h kind args hevent)
  · have hlines : ∀ s ∈ unlocated, ∀ line ∈ s.lines, Balanced line.text.toList := by
      decide +kernel
    exact hlines s hs line hline

/-- Each line of a log is balanced. -/
theorem balanced_of_mem_ofLog {typed : Bool} {log : Log} (h : ∀ e ∈ log.entries, e.HasNameKeys)
    {line : CodeLine} (hline : line ∈ (ofLog typed log).lines) : Balanced line.text.toList := by
  rw [lines_ofLog] at hline
  obtain ⟨e, he, hmem⟩ := List.mem_flatMap.1 hline
  exact balanced_of_mem_ofEntry (h e he) hmem

end Statements

/-! ## Lines -/

/-- Lines as they are read, a line feed in front of each. -/
def lineTexts (ls : List String) : List Char :=
  ls.flatMap fun l => '\n' :: l.toList

/-- A line feed changes nothing, so it does not matter that there is none in front of the first
line. -/
theorem nests_intercalate_iff {due due' : List Char} {ls : List String} :
    Nests due ("\n".intercalate ls).toList due' ↔ Nests due (lineTexts ls) due' := by
  rw [String.toList_intercalate]
  cases ls with
  | nil => exact Iff.rfl
  | cons l ls =>
    have hlines : lineTexts (l :: ls) =
        '\n' :: ("\n".toList.intercalate ((l :: ls).map String.toList)) := by
      rw [List.map_cons, Text.intercalate_cons, lineTexts, List.flatMap_cons, List.flatMap_map]
      rfl
    rw [hlines]
    exact Iff.rfl

/-- A line by itself. -/
theorem Nests.line {due due' : List Char} {l : String} (h : Nests due l.toList due') :
    Nests due (lineTexts [l]) due' := by
  have hfeed : Balanced ['\n'] := by decide
  rw [lineTexts, List.flatMap_singleton]
  exact (hfeed.nests due).append h

/-- Lines behind other ones. -/
theorem Nests.lines {due due' due'' : List Char} {ls ms : List String}
    (hl : Nests due (lineTexts ls) due') (hm : Nests due' (lineTexts ms) due'') :
    Nests due (lineTexts (ls ++ ms)) due'' := by
  rw [lineTexts, List.flatMap_append]
  exact hl.append hm

/-- Balanced lines are balanced one behind the other. -/
theorem balanced_lineTexts {ls : List String} (h : ∀ l ∈ ls, Balanced l.toList) :
    Balanced (lineTexts ls) := by
  have hfeed : Balanced ['\n'] := by decide
  exact balanced_flatMap fun l hl => hfeed.append (h l hl)

/-! ## Names of stories -/

/-- The texts that identifiers are: letters, digits, `_`, `$` and what is not ASCII, and characters
that are written by their number. Other texts are among them as well. -/
inductive IdentifierText : List Char → Prop where
  /-- Characters of a name. -/
  | name {cs : List Char} (h : ∀ c ∈ cs, isNameChar c = true) : IdentifierText cs
  /-- An escape with the digits of a number behind it. -/
  | escape {digits : List Char} (h : ∀ c ∈ digits, isNameChar c = true) :
    IdentifierText ('\\' :: 'u' :: digits)
  /-- An escape with a number between braces. -/
  | bracedEscape {digits : List Char} (h : ∀ c ∈ digits, isNameChar c = true) :
    IdentifierText ('\\' :: 'u' :: '\x7b' :: (digits ++ ['\x7d']))
  /-- One behind the other. -/
  | append {xs ys : List Char} (hx : IdentifierText xs) (hy : IdentifierText ys) :
    IdentifierText (xs ++ ys)

/-- The text of an identifier is balanced. -/
theorem IdentifierText.balanced {cs : List Char} (h : IdentifierText cs) : Balanced cs := by
  have hescape : Balanced ['\\', 'u'] := by decide
  induction h with
  | name h => exact balanced_of_forall_isNameChar h
  | escape h => exact hescape.append (balanced_of_forall_isNameChar h)
  | bracedEscape h =>
    have hopen : Nests [] ['\x7b'] ['\x7d'] := by decide
    have hclose : Nests ['\x7d'] ['\x7d'] [] := by decide
    exact hescape.append ((balanced_of_forall_isNameChar h).between hopen hclose)
  | append _ _ ihx ihy => exact ihx.append ihy

/-! ## Frames -/

/-- The line that opens a test opens a function in the arguments of a call. -/
theorem Bundle.nests_testOpening {story pattern : String} (hstory : Balanced story.toList)
    (hpattern : Balanced pattern.toList) (name : String) :
    Nests [] (story ++ ".test(" ++ Text.quoteString name ++ ", async (" ++ pattern ++
      ") => \x7b").toList ['\x7d', ')'] := by
  have hcall : Nests [] ".test(".toList [')'] := by decide
  have hname := balanced_quoteString name
  have hasync : Nests [')'] ", async (".toList [')', ')'] := by decide
  have hbrace : Nests [')', ')'] ") => \x7b".toList ['\x7d', ')'] := by decide
  simp only [String.toList_append, List.append_assoc]
  exact (hstory.nests _).append (hcall.append ((hname.nests _).append
    (hasync.append ((hpattern.nests _).append hbrace))))

/-- The text of a bundle is balanced if its imports and its body are. -/
theorem Bundle.balanced_render {b : Bundle} {story testName : String}
    (himports : ∀ l ∈ b.imports, Balanced l.text.toList)
    (hshown : Balanced (lineTexts (b.shownLines story testName))) :
    Balanced (b.render story testName).toList := by
  unfold render
  split
  case isTrue => decide
  case isFalse =>
    have himported : Balanced (lineTexts (b.imports.map (·.text))) :=
      balanced_lineTexts (by simpa using himports)
    have hblank : Balanced (lineTexts (if (b.imports.map (·.text)).isEmpty then [] else [""])) := by
      split <;> decide
    exact nests_intercalate_iff.2 ((himported.lines hblank).lines hshown)

namespace Usage

/-- The imports of a play function are balanced. -/
theorem balanced_playImports (u : Usage) :
    Balanced (importLine u.playImports playSource).text.toList := by
  unfold playImports
  cases u.canvas <;> cases u.expect <;> decide +kernel

/-- The imports of a test are balanced. -/
theorem balanced_testImports (u : Usage) : ∀ l ∈ u.testImports, Balanced l.text.toList := by
  unfold testImports
  cases u.assertions <;> decide +kernel

/-- The declarations of a play function are balanced. -/
theorem balanced_playPreamble (u : Usage) : ∀ l ∈ u.playPreamble, Balanced l.text.toList := by
  unfold playPreamble canvasLine
  cases u.body <;> cases u.canvas <;> decide +kernel

/-- The pattern of the parameters of a test is balanced. -/
theorem balanced_testParameters (u : Usage) :
    Balanced (Bundle.parameterPattern u.testParameters).toList := by
  unfold testParameters
  cases u.canvas <;> cases u.userEvent <;> cases u.body <;> decide +kernel

end Usage

namespace Statements

/-- Balanced lines are balanced behind a tab each. -/
theorem balanced_indented {ls : List CodeLine} (h : ∀ l ∈ ls, Balanced l.text.toList) :
    Balanced (lineTexts (ls.map fun l => "\t" ++ l.text)) := by
  have htab : Balanced ['\t'] := by decide
  refine balanced_lineTexts fun t ht => ?_
  obtain ⟨l, hl, rfl⟩ := List.mem_map.1 ht
  rw [String.toList_append]
  exact htab.append (h l hl)

/-- The text of a frame around balanced lines is balanced. -/
theorem balanced_render_frame {s : Statements} (h : ∀ l ∈ s.lines, Balanced l.text.toList)
    (dialect : Dialect) {story : String} (hstory : IdentifierText story.toList)
    (testName : String) : Balanced ((s.frame dialect).render story testName).toList := by
  rcases s.frame_cases with ⟨-, hframe⟩ | ⟨hplay, htest⟩
  · rw [hframe]
    cases dialect <;> exact (rfl : Balanced [])
  · cases dialect with
    | play =>
      -- The line that opens the function and the line that closes it are balanced only together.
      have hopen : Nests [] (lineTexts [playOpening.text]) ['\x7d'] := by decide +kernel
      have hclose : Nests ['\x7d'] (lineTexts [playClosing.text]) [] := by decide
      have hinner : ∀ l ∈ s.usage.playPreamble ++ s.lines, Balanced l.text.toList := fun l hl =>
        (List.mem_append.1 hl).elim (s.usage.balanced_playPreamble l) (h l)
      have hall := (hopen.lines ((balanced_indented hinner).nests _)).lines hclose
      rw [hplay]
      refine Bundle.balanced_render (by simpa [Bundle.imports] using s.usage.balanced_playImports) ?_
      rw [Bundle.shownLines, List.map_append, List.map_append, List.map_map]
      exact hall
    | test =>
      have hopen := Nests.line (Bundle.nests_testOpening hstory.balanced
        s.usage.balanced_testParameters
        (if testName.isEmpty then Bundle.defaultTestName else testName))
      have hclose : Nests ['\x7d', ')'] (lineTexts ["\x7d);"]) [] := by decide
      have hinner : ∀ l ∈ s.usage.testPreamble ++ s.lines, Balanced l.text.toList := fun l hl =>
        (List.mem_append.1 hl).elim
          (fun hl => s.usage.balanced_playPreamble l (List.mem_append_left _ hl)) (h l)
      have hall := (hopen.lines ((balanced_indented hinner).nests _)).lines hclose
      rw [htest]
      exact Bundle.balanced_render s.usage.balanced_testImports hall

end Statements

namespace Log

/-- The text of a recording is balanced in both dialects, whatever its strings and the name of the
test hold, if the keys in the arguments of its assertions are names and its story is an
identifier. -/
theorem balanced_render_compile (log : Log) (h : ∀ e ∈ log.entries, e.HasNameKeys)
    (options : CompileOptions) {story : String} (hstory : IdentifierText story.toList)
    (testName : String) : Balanced ((log.compile options).render story testName).toList :=
  Statements.balanced_render_frame (fun _ hline => Statements.balanced_of_mem_ofLog h hline)
    options.dialect hstory testName

/-- A recording with brackets and quotes in its strings: in a selector, in a name of two lines, in
the names of files, and beside a record. -/
def bracketForm : Log :=
  ⟨[⟨.single (.css "[title='(x']"), .click⟩,
    ⟨.nth (.role "textbox" (some "a)`\n[")) 1, .type "'\x7d]("⟩,
    ⟨.single (.testId "upload\\"), .upload ["scan(1].png", "'"]⟩,
    ⟨.single (.text .label "\x7b" .lines),
      .assertion .value [.array [.string "[\"", .number (.finite (3 / 2))],
        .object [("data_1$", .object [("é", .string ")`")])]]⟩]⟩

/-- The name of a story with an escape in it. -/
def escapedStory : String :=
  "Größe\\u\x7b42\x7d"

/-- The test of this recording is balanced, under a name with brackets and quotes. -/
theorem balanced_render_compile_bracketForm :
    (∀ e ∈ bracketForm.entries, e.HasNameKeys) ∧ IdentifierText escapedStory.toList ∧
      Balanced ((bracketForm.compile ⟨.test, true⟩).render escapedStory "it's ([\x7b").toList := by
  have hinner : (Literal.object [("é", .string ")`")]).HasNameKeys :=
    .object (by simp; decide) (by simpa using .string _)
  have hrecord : (Literal.object [("data_1$", .object [("é", .string ")`")])]).HasNameKeys :=
    .object (by simp; decide) (by simpa using hinner)
  have harray : (Literal.array [.string "[\"", .number (.finite (3 / 2))]).HasNameKeys :=
    .array (by simpa using ⟨.string _, .number _⟩)
  have hform : ∀ e ∈ bracketForm.entries, e.HasNameKeys := by
    simpa [bracketForm, Entry.HasNameKeys] using ⟨harray, hrecord⟩
  have hletters : IdentifierText ['G', 'r', 'ö', 'ß', 'e'] := .name (by simp; decide)
  have hescape : IdentifierText ['\\', 'u', '\x7b', '4', '2', '\x7d'] :=
    @IdentifierText.bracedEscape ['4', '2'] (by simp; decide)
  have hstory : IdentifierText escapedStory.toList := by
    simpa [escapedStory] using hletters.append hescape
  exact ⟨hform, hstory, bracketForm.balanced_render_compile hform ⟨.test, true⟩ hstory _⟩

end Log

end Recorder
