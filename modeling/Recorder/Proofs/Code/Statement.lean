import Recorder.Code.Frame
import Recorder.Proofs.Code.References

/-!
# What statements refer to

Each line of the statements of an entry waits for the user or for an expectation. It refers to the
helpers for this and to the object that its expression asks, and to no others, whatever the strings
in it hold. The statements of an entry note the helpers that they use in several places; what they
note is what the reader finds (`faithful_ofEntry`), and so it is for a log (`faithful_ofLog`).
There are three ways to repeat an entry (`ofEntry_cases`); an action on an element has one of six
methods, and an argument of one of three kinds if it has one (`action?_cases`).
-/

namespace Recorder

/-- A string that is quoted refers to nothing. -/
theorem quiet_quoteString (s : String) : Quiet (Text.quoteString s).toList := by
  rw [Text.quoteString, String.toList_ofList]
  exact quiet_quote _

/-- The file that is made from a name refers to nothing. -/
theorem quiet_fileText (name : String) : Quiet (fileText name).toList := by
  intro c hc
  have hopen : Reads (.between false) "new File([".toList [] (.between false) := by decide
  have hname := quiet_quote name.toList ']' (by decide)
  have hcomma : Reads (.between false) [',', ' '] [] (.between false) := by decide
  have hname' := quiet_quote name.toList ')' (by decide)
  have hread := hopen.append (hname.append (hcomma.append (hname'.append (reads_separator c hc))))
  simpa [fileText, Text.quoteString] using hread

/-- A list of source texts in brackets refers to nothing if its items do not. -/
theorem quiet_commaList {texts : List String} (h : ∀ t ∈ texts, Quiet t.toList) :
    Quiet ("[" ++ commaList texts ++ "]").toList := by
  have hquiet : Quiet ('[' :: (Literal.commaSeparated (texts.map String.toList) ++ [']'])) :=
    quiet_brackets (by simpa using h)
  simpa [commaList, Literal.commaSeparated, String.toList_intercalate] using hquiet

namespace Event

/-- The methods that repeat an action on an element. -/
def actionMethods : List String :=
  ["click", "dblClick", "clear", "type", "selectOptions", "upload"]

/-- An action is repeated by one of these methods, with a quoted string, a list of such or a list of
files for an argument, if it has one. -/
theorem action?_cases {event : Event} {method : String} {argument : Option String}
    (h : event.action? = some (method, argument)) :
    method ∈ actionMethods ∧ ∀ a ∈ argument, (∃ s, a = Text.quoteString s) ∨
      (∃ options : List String, a = "[" ++ commaList (options.map Text.quoteString) ++ "]") ∨
      ∃ files : List String, a = "[" ++ commaList (files.map fileText) ++ "]" := by
  cases event with
  | click | doubleClick =>
    simp only [action?, Option.some.injEq, Prod.mk.injEq] at h
    obtain ⟨rfl, rfl⟩ := h
    exact ⟨by decide, by simp⟩
  | type value =>
    rw [action?] at h
    split at h <;> simp only [Option.some.injEq, Prod.mk.injEq] at h <;> obtain ⟨rfl, rfl⟩ := h
    · exact ⟨by decide, by simp⟩
    · exact ⟨by decide, fun a ha => .inl ⟨value, (Option.some.inj ha).symm⟩⟩
  | select options =>
    simp only [action?, Option.some.injEq, Prod.mk.injEq] at h
    obtain ⟨rfl, rfl⟩ := h
    exact ⟨by decide, fun a ha => .inr (.inl ⟨options, (Option.some.inj ha).symm⟩)⟩
  | upload files =>
    simp only [action?, Option.some.injEq, Prod.mk.injEq] at h
    obtain ⟨rfl, rfl⟩ := h
    exact ⟨by decide, fun a ha => .inr (.inr ⟨files, (Option.some.inj ha).symm⟩)⟩
  | _ => simp [action?] at h

/-- The method of an action and its argument refer to nothing. -/
theorem quiet_action {event : Event} {method : String} {argument : Option String}
    (h : event.action? = some (method, argument)) :
    Reads (.between true) (method.toList ++ ['(']) [] (.between false) ∧
      ∀ a ∈ argument, Quiet a.toList := by
  have hmethods : ∀ m ∈ actionMethods,
      Reads (.between true) (m.toList ++ ['(']) [] (.between false) := by decide
  obtain ⟨hmethod, hargument⟩ := action?_cases h
  refine ⟨hmethods method hmethod, fun a ha => ?_⟩
  rcases hargument a ha with ⟨s, rfl⟩ | ⟨options, rfl⟩ | ⟨files, rfl⟩
  · exact quiet_quoteString s
  · exact quiet_commaList (by simpa using fun s _ => quiet_quoteString s)
  · exact quiet_commaList (by simpa using fun name _ => quiet_fileText name)

end Event

namespace CodeLine

/-- The words of a line, read up to its end, and the place behind it. -/
def read (l : CodeLine) : List Word × Place :=
  (Place.between false).read (l.text.toList ++ ['\n'])

/-- The helpers that a line refers to. -/
def references (l : CodeLine) : List String :=
  Recorder.references l.read.1

/-- A line that begins by waiting for something, and in which each literal ends. -/
def IsStatement (l : CodeLine) : Prop :=
  l.read.1.head? = some ⟨false, "await"⟩ ∧ l.read.2 = .between false

/-- A line is a statement that refers to these helpers. -/
def States (l : CodeLine) (refs : List String) : Prop :=
  l.IsStatement ∧ l.references = refs

/-- A line that begins by waiting refers to what is behind that. -/
theorem states_of_reads {l : CodeLine} {rest : List Char} {refs : List String}
    (htext : l.text.toList = "await ".toList ++ rest)
    (h : Reads (.between false) (rest ++ ['\n']) refs (.between false)) :
    l.States refs := by
  have hawait : (Place.between false).read "await ".toList =
      ([⟨false, "await"⟩], .between false) := by decide
  obtain ⟨hrefs, hplace⟩ := h
  have hread : l.read = (⟨false, "await"⟩ :: ((Place.between false).read (rest ++ ['\n'])).1,
      ((Place.between false).read (rest ++ ['\n'])).2) := by
    rw [read, htext, List.append_assoc, Place.read_append, hawait]
    rfl
  have hnone : Word.reference? ⟨false, "await"⟩ = none := by decide
  refine ⟨⟨by rw [hread]; rfl, by rw [hread]; exact hplace⟩, ?_⟩
  rw [references, hread, Recorder.references, List.filterMap_cons_none hnone]
  exact hrefs

/-- A tab in front of a line changes neither its words nor the place behind it. -/
theorem read_indented (l : CodeLine) : l.indented.read = l.read := by
  have htab : (Place.between false).read ['\t'] = ([], .between false) := by decide
  have htext : l.indented.text.toList = ['\t'] ++ l.text.toList := by simp [indented]
  rw [read, htext, List.append_assoc, Place.read_append, htab]
  rfl

end CodeLine

/-- An entry is plain if it is no assertion with numbers or records. -/
def Entry.Plain (entry : Entry) : Prop :=
  ∀ kind args, entry.event = .assertion kind args → ∀ v ∈ args, v.Plain

/-- The helpers that are used. -/
def Usage.names (u : Usage) : List String :=
  listIf u.userEvent ["userEvent"] ++ listIf u.canvas ["canvas"] ++ listIf u.body ["body"] ++
    listIf u.expect ["waitFor", "expect"]

/-- What is in a list that depends on a condition. -/
@[simp] theorem Usage.mem_listIf {α : Type} {condition : Bool} {items : List α} {x : α} :
    x ∈ listIf condition items ↔ condition = true ∧ x ∈ items := by
  cases condition <;> simp [listIf]

namespace Statements

/-- The statements refer to the helpers that they note, and to no others. -/
structure Faithful (s : Statements) : Prop where
  /-- Each line is a statement of its own. -/
  isStatement : ∀ l ∈ s.lines, l.IsStatement
  /-- A helper is noted if some line refers to it, and only then. -/
  mem_names : ∀ name, name ∈ s.usage.names ↔ ∃ l ∈ s.lines, name ∈ l.references

/-- No statements refer to nothing. -/
theorem faithful_empty : empty.Faithful where
  isStatement := by simp [empty]
  mem_names := by simp [empty, Usage.names]

/-- Statements one after the other refer to what the ones and the others refer to. -/
theorem Faithful.append {a b : Statements} (ha : a.Faithful) (hb : b.Faithful) :
    (a.append b).Faithful where
  isStatement l hl := (List.mem_append.1 hl).elim (ha.isStatement l) (hb.isStatement l)
  mem_names name := by
    have hor : name ∈ (a.usage.or b.usage).names ↔ name ∈ a.usage.names ∨ name ∈ b.usage.names := by
      simp only [Usage.names, Usage.or, List.mem_append, Usage.mem_listIf, Bool.or_eq_true]
      grind
    have hlines : (∃ l ∈ a.lines ++ b.lines, name ∈ l.references) ↔
        (∃ l ∈ a.lines, name ∈ l.references) ∨ ∃ l ∈ b.lines, name ∈ l.references := by
      simp only [List.mem_append, or_and_right, exists_or]
    rw [Statements.append, hor, hlines, ha.mem_names, hb.mem_names]

/-- The text of the call of a method of the user. -/
theorem toList_userCall (method arguments : String) :
    (userCall method arguments).toList = "await userEvent.".toList ++ (method.toList ++
      '(' :: (arguments.toList ++ [')', ';'])) := by
  unfold userCall
  simp

/-- The call of a method of the user refers to the user and to what its arguments refer to. -/
theorem states_userCall (warning : Option Warning) {method arguments : String}
    {refs : List String}
    (hmethod : Reads (.between true) (method.toList ++ ['(']) [] (.between false))
    (harguments : Reads (.between false) (arguments.toList ++ [')']) refs (.between false)) :
    (CodeLine.mk (userCall method arguments) warning).States ("userEvent" :: refs) := by
  have huser : Reads (.between false) "userEvent.".toList ["userEvent"] (.between true) := by
    decide +kernel
  have hend : Reads (.between false) [';', '\n'] [] (.between false) := by decide
  have hread := huser.append (hmethod.append (harguments.append hend))
  simp only [List.nil_append, List.append_nil] at hread
  have htext : (userCall method arguments).toList = "await ".toList ++ ("userEvent.".toList ++
      ((method.toList ++ ['(']) ++ ((arguments.toList ++ [')']) ++ [';']))) := by
    simp [toList_userCall]
  exact CodeLine.states_of_reads htext (by simpa using hread)

/-- A statement that waits until something holds of an expression refers to the two helpers for this
and to what the expression refers to. -/
theorem states_waitFor (warning : Option Warning) {expression matcher : String}
    {refs : List String}
    (hexpression : Reads (.between false) expression.toList refs (.between false))
    (hmatcher : Reads (.between false) (matcher.toList ++ ['\n']) [] (.between false)) :
    (CodeLine.mk ("await waitFor(() => expect(" ++ expression ++ matcher) warning).States
      ("waitFor" :: "expect" :: refs) := by
  have hopen : Reads (.between false) "waitFor(() => expect(".toList ["waitFor", "expect"]
      (.between false) := by decide +kernel
  have hread := hopen.append (hexpression.append hmatcher)
  simp only [List.append_nil] at hread
  have htext : ("await waitFor(() => expect(" ++ expression ++ matcher).toList =
      "await ".toList ++ ("waitFor(() => expect(".toList ++
        (expression.toList ++ matcher.toList)) := by
    simp
  exact CodeLine.states_of_reads htext (by simpa using hread)

/-- A single statement refers to the helpers that it notes if the helpers it refers to are these. -/
theorem faithful_single (usage : Usage) {l : CodeLine} {refs : List String}
    (hline : l.States refs)
    (hnames : ∀ name, name ∈ usage.names ↔ name ∈ refs) : (mk [l] usage).Faithful where
  isStatement l' hl' := by
    rw [List.mem_singleton.1 hl']
    exact hline.1
  mem_names name := by simp [hnames, hline.2]

/-- The element of an action, with its type and the further argument, refers to the object that is
asked. -/
theorem reads_actionArguments (l : Locator) {cast : String} {argument : Option String}
    (hcast : Quiet cast.toList) (h : ∀ a ∈ argument, Quiet a.toList) :
    Reads (.between false) ((l.expression ++ cast ++ argument.elim "" (", " ++ ·)).toList ++ [')'])
      [l.scope.name] (.between false) := by
  cases argument with
  | none =>
    have hread := l.reads_expression.append (hcast ')' (by decide))
    simpa using hread
  | some a =>
    have hblank : Reads (.between false) [' '] [] (.between false) := by decide
    have hread := l.reads_expression.append ((hcast ',' (by decide)).append
      (hblank.append (h a rfl ')' (by decide))))
    simpa using hread

/-- The statements of an action on an element refer to the helpers that they note. -/
theorem faithful_ofAction (typed : Bool) (l : Locator) {event : Event} {method : String}
    {argument : Option String} (h : event.action? = some (method, argument)) :
    (ofAction typed l method argument).Faithful := by
  obtain ⟨hmethod, hargument⟩ := event.quiet_action h
  have hcast : Quiet (if typed && l.scope == .body then typeCast else "").toList := by
    split <;> decide
  have hline := states_userCall (Warning.ofLocator? l) hmethod
    (reads_actionArguments l hcast hargument)
  have hmatcher : Reads (.between false) (").toBeInTheDocument());".toList ++ ['\n']) []
      (.between false) := by decide
  have hguard : (guardLine l).States ["waitFor", "expect", l.scope.name] :=
    states_waitFor (Warning.ofLocator? l) l.reads_expression hmatcher
  unfold ofAction
  cases hscope : l.scope with
  | canvas =>
    simp only [hscope] at hline
    exact faithful_single _ hline fun name => by simp [Usage.names, Scope.name]
  | body =>
    -- The line that waits notes what it uses, and so does the line that acts.
    simp only [hscope] at hline hguard
    have hwait := faithful_single { body := true, expect := true } hguard
      fun name => by grind [Usage.names, Usage.listIf, Scope.name]
    have hact := faithful_single { body := true, userEvent := true } hline
      fun name => by simp [Usage.names, Scope.name]
    exact hwait.append hact

/-- The statement of an assertion refers to the helpers that it notes, if no argument of it is a
number or a record. -/
theorem faithful_ofAssertion (l : Locator) (kind : AssertionKind) {args : List Literal}
    (h : ∀ v ∈ args, v.Plain) : (ofAssertion l kind args).Faithful := by
  have hmethod : Reads (.between true) (kind.method.toList ++ ['(']) [] (.between false) := by
    cases kind <;> decide
  have hargs := Literal.quiet_argumentsText (fun v hv => (h v hv).quiet) ')' (by decide)
  have hclose : Reads (.between false) [')', '.'] [] (.between true) := by decide
  have hend : Reads (.between false) [')', '\n'] [] (.between false) := by decide
  have hmatcher : Reads (.between false) ((")." ++ (kind.method ++ ("(" ++
      (Literal.formatArguments args ++ "))")))).toList ++ ['\n']) [] (.between false) := by
    -- The matcher stands behind a dot, so its name is no reference either.
    have hread := hclose.append (hmethod.append (hargs.append hend))
    simpa [Literal.formatArguments] using hread
  have hline := states_waitFor (Warning.ofLocator? l) l.reads_assertionExpression hmatcher
  simp only [← String.append_assoc] at hline
  refine faithful_single _ hline fun name => ?_
  cases l.scope <;> grind [Usage.names, Usage.listIf, Usage.ofScope, Usage.or, Scope.name]

/-- The statement of an action without an element refers to the user. -/
theorem faithful_ofUser {method arguments : String}
    (hmethod : Reads (.between true) (method.toList ++ ['(']) [] (.between false))
    (harguments : Quiet arguments.toList) : (ofUser method arguments).Faithful :=
  faithful_single _ (states_userCall none hmethod (harguments ')' (by decide)))
    fun name => by simp [Usage.names]

/-- The statements of an entry that is an action on an element. -/
theorem ofEntry_of_action (typed : Bool) (l : Locator) {event : Event} {method : String}
    {argument : Option String} (h : event.action? = some (method, argument)) :
    ofEntry typed ⟨l, event⟩ = ofAction typed l method argument := by
  cases event with
  | keyDown | keyUp | focus | assertion => simp [Event.action?] at h
  | click | doubleClick | type | select | upload => simp only [ofEntry, h]

/-- The statements of the entries that no element is looked for. -/
def unlocated : List Statements :=
  [empty, ofUser "keyboard" (Text.quoteString Key.enter.token),
   ofUser "keyboard" (Text.quoteString Key.escape.token),
   ofUser "tab" "\x7b shift: true \x7d", ofUser "tab" ""]

/-- The statements of an entry are those of an action on an element, those of an assertion, or do
not depend on the element; only the first depend on whether expressions are given a type. -/
theorem ofEntry_cases (e : Entry) :
    (∃ method argument, e.event.action? = some (method, argument) ∧
      ∀ typed, ofEntry typed e = ofAction typed e.locator method argument) ∨
    (∃ kind args, e.event = .assertion kind args ∧
      ∀ typed, ofEntry typed e = ofAssertion e.locator kind args) ∨
    (e.event.action? = none ∧ (∀ kind args, e.event ≠ .assertion kind args) ∧
      ∃ s ∈ unlocated, ∀ typed, ofEntry typed e = s) := by
  obtain ⟨l, event⟩ := e
  cases haction : event.action? with
  | some p => exact .inl ⟨p.1, p.2, rfl, fun typed => ofEntry_of_action typed l haction⟩
  | none =>
    refine .inr ?_
    cases event with
    | assertion kind args => exact .inl ⟨kind, args, rfl, fun _ => rfl⟩
    | keyUp key => exact .inr ⟨rfl, by simp, empty, by decide, fun _ => rfl⟩
    | keyDown key =>
      cases key with
      | tab | shift => exact .inr ⟨rfl, by simp, empty, by decide, fun _ => rfl⟩
      | enter | escape => exact .inr ⟨rfl, by simp, _, by decide, fun _ => rfl⟩
    | focus shift => cases shift <;> exact .inr ⟨rfl, by simp, _, by decide, fun _ => rfl⟩
    | type value => simp only [Event.action?] at haction; split at haction <;> contradiction
    | click | doubleClick | select | upload => simp [Event.action?] at haction

/-- The statements of an entry refer to the helpers that they note. -/
theorem faithful_ofEntry (typed : Bool) {entry : Entry} (h : entry.Plain) :
    (ofEntry typed entry).Faithful := by
  rcases ofEntry_cases entry with ⟨method, argument, haction, hentry⟩ |
    ⟨kind, args, hevent, hentry⟩ | ⟨-, -, s, hs, hentry⟩ <;> rw [hentry typed]
  · exact faithful_ofAction typed entry.locator haction
  · exact faithful_ofAssertion entry.locator kind (h kind args hevent)
  · have hkeyboard (key : Key) : (ofUser "keyboard" (Text.quoteString key.token)).Faithful :=
      faithful_ofUser (by decide) (quiet_quoteString _)
    simp only [unlocated, List.mem_cons, List.not_mem_nil, or_false] at hs
    rcases hs with rfl | rfl | rfl | rfl | rfl
    · exact faithful_empty
    · exact hkeyboard .enter
    · exact hkeyboard .escape
    · exact faithful_ofUser (by decide) (by decide)
    · exact faithful_ofUser (by decide) (by decide)

/-- The statements of the first entry stand in front of the others. -/
theorem ofLog_cons (typed : Bool) (e : Entry) (entries : List Entry) :
    ofLog typed ⟨e :: entries⟩ = (ofEntry typed e).append (ofLog typed ⟨entries⟩) :=
  rfl

/-- The statements of a log refer to the helpers that they note. -/
theorem faithful_ofLog (typed : Bool) {log : Log} (h : ∀ e ∈ log.entries, e.Plain) :
    (ofLog typed log).Faithful := by
  obtain ⟨entries⟩ := log
  induction entries with
  | nil => exact faithful_empty
  | cons e es ih =>
    rw [ofLog_cons]
    exact (faithful_ofEntry typed (h e (by simp))).append (ih fun e he => h e (by simp [he]))

end Statements

end Recorder
