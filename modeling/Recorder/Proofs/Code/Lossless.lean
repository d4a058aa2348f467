import Recorder.Proofs.Code.Statement

/-!
# Statements lose nothing

The statements of a recording say what was recorded. A line that acts on an element says on which
one, by which method and with which argument (`userCall_inj`), and method and argument say what was
done (`eq_of_action?_eq`); a line that expects something says all of the assertion
(`assertionText_inj`). Lines of different kinds are never equal: only the line that acts begins with
the user, and the line that waits for an element is closed by a semicolon where an assertion is not.
So the lines of an entry say where they end and what the entry is (`ofEntry_append_inj`), and with
them those of a log (`eq_of_lines_eq`). Only keys are left out, and arguments that are not read back
from their text.
-/

namespace Recorder

open Text (quoteString)

/-- An event that is repeated by statements of its own from which it can be read: an action on an
element, or an assertion whose arguments are read back. Names of letters, digits, `_` and `$` are
keys that are read back. -/
def Event.Legible : Event → Prop
  | .click | .doubleClick | .type _ | .select _ | .upload _ => True
  | .assertion _ args => ∀ v ∈ args, v.Readable
  | .keyDown _ | .keyUp _ | .focus _ => False

/-- A legible event is an action on an element or an assertion. -/
theorem Event.Legible.action_or_assertion {event : Event} (h : event.Legible) :
    (∃ method argument, event.action? = some (method, argument)) ∨
      ∃ kind args, event = .assertion kind args ∧ ∀ v ∈ args, v.Readable := by
  cases event with
  | assertion kind args => exact .inr ⟨kind, args, rfl, h⟩
  | type value =>
    refine .inl ?_
    simp only [action?]
    split <;> exact ⟨_, _, rfl⟩
  | click | doubleClick | select | upload => exact .inl ⟨_, _, rfl⟩
  | keyDown | keyUp | focus => exact h.elim

/-! ## Arguments -/

/-- Quoted strings with something behind them are equal only if the strings are. -/
theorem quoteString_append_inj {s t : String} {u v : List Char}
    (h : (quoteString s).toList ++ u = (quoteString t).toList ++ v) : s = t ∧ u = v := by
  rw [quoteString, quoteString, String.toList_ofList, String.toList_ofList] at h
  obtain ⟨hst, hrest⟩ := Text.quote_append_inj h
  exact ⟨String.toList_inj.1 hst, hrest⟩

/-- Quoted strings are equal only if the strings are. -/
theorem quoteString_inj {s t : String} (h : quoteString s = quoteString t) : s = t :=
  (quoteString_append_inj (u := []) (v := []) (by rw [h])).1

/-- A quoted string begins with a quote. -/
theorem quoteString_ne_cons (s : String) (u v : List Char) :
    (quoteString s).toList ++ u ≠ ']' :: v := by
  rw [quoteString, String.toList_ofList, Text.quote, Text.quoteOf]
  split <;> simp [Text.backTick]

/-- The text of a file. -/
theorem toList_fileText (name : String) :
    (fileText name).toList = "new File([".toList ++ ((quoteString name).toList ++
      ("], ".toList ++ ((quoteString name).toList ++ [')']))) := by
  simp [fileText]

/-- The text of a file says where it ends and which file it is. -/
theorem fileText_append_inj {s t : String} {u v : List Char}
    (h : (fileText s).toList ++ u = (fileText t).toList ++ v) : s = t ∧ u = v := by
  simp only [toList_fileText, List.append_assoc] at h
  obtain ⟨rfl, hrest⟩ := quoteString_append_inj (List.append_cancel_left h)
  exact ⟨rfl, by simpa using hrest⟩

/-- The text of a file begins with a letter. -/
theorem fileText_ne_cons (name : String) (u v : List Char) :
    (fileText name).toList ++ u ≠ ']' :: v := by
  simp [toList_fileText]

/-- A list in brackets says what its items are, if their texts do. -/
theorem commaList_inj {f : String → String}
    (hinj : ∀ x y u v, (f x).toList ++ u = (f y).toList ++ v → x = y ∧ u = v)
    (hhead : ∀ x u v, (f x).toList ++ u ≠ ']' :: v) {xs ys : List String}
    (h : "[" ++ commaList (xs.map f) ++ "]" = "[" ++ commaList (ys.map f) ++ "]") : xs = ys := by
  have htext (zs : List String) : ("[" ++ commaList (zs.map f) ++ "]").toList =
      '[' :: (Literal.commaSeparated (zs.map fun z => (f z).toList) ++ [']']) := by
    simp [commaList, Literal.commaSeparated, String.toList_intercalate, Function.comp_def]
  have hlist := congrArg String.toList h
  rw [htext, htext] at hlist
  exact (Literal.commaSeparated_append_inj (by decide) (fun x _ y _ u v => hinj x y u v)
    (fun x _ => hhead x) (List.cons.inj hlist).2).1

/-- The method that repeats an action and its argument say what was done. -/
theorem Event.eq_of_action?_eq {a b : Event} {p : String × Option String}
    (ha : a.action? = some p) (hb : b.action? = some p) : a = b := by
  -- No two kinds of actions have a method in common; of one kind, the argument tells them apart.
  have hab : a.action? = b.action? := ha.trans hb.symm
  cases a with
  | click => cases b <;> grind [action?]
  | doubleClick => cases b <;> grind [action?]
  | type s =>
    cases b with
    | type t =>
      simp only [action?] at hab
      split at hab <;> split at hab
      · next hs ht => rw [String.isEmpty_iff.1 hs, String.isEmpty_iff.1 ht]
      · simp at hab
      · simp at hab
      · simp only [Option.some.injEq, Prod.mk.injEq, true_and] at hab
        rw [quoteString_inj hab]
    | _ => grind [action?]
  | select xs =>
    cases b with
    | select ys =>
      simp only [action?, Option.some.injEq, Prod.mk.injEq, true_and] at hab
      obtain rfl := commaList_inj (f := quoteString) (fun _ _ _ _ => quoteString_append_inj)
        quoteString_ne_cons hab
      rfl
    | _ => grind [action?]
  | upload xs =>
    cases b with
    | upload ys =>
      simp only [action?, Option.some.injEq, Prod.mk.injEq, true_and] at hab
      obtain rfl := commaList_inj (f := fileText) (fun _ _ _ _ => fileText_append_inj)
        fileText_ne_cons hab
      rfl
    | _ => grind [action?]
  | keyDown | keyUp | focus | assertion => simp [action?] at ha

/-- The name of a method that repeats an action ends in front of a parenthesis. -/
theorem Event.parenthesis_notMem_method {event : Event} {method : String}
    {argument : Option String} (h : event.action? = some (method, argument)) :
    '(' ∉ method.toList := by
  have hmethods : ∀ m ∈ actionMethods, '(' ∉ m.toList := by decide
  exact hmethods method (action?_cases h).1

/-- The name of a matcher ends in front of a parenthesis, and says which kind it is. -/
theorem AssertionKind.method_append_inj {k k' : AssertionKind} {u v : List Char}
    (h : k.method.toList ++ '(' :: u = k'.method.toList ++ '(' :: v) : k = k' ∧ u = v := by
  have hmem (k : AssertionKind) : '(' ∉ k.method.toList := by cases k <;> decide
  obtain ⟨hmethod, hrest⟩ := Text.append_cons_inj (hmem k) (hmem k') h
  have hof (k : AssertionKind) : ofMethod? k.method = some k := by cases k <;> decide
  have hkind := congrArg ofMethod? (String.toList_inj.1 hmethod)
  rw [hof, hof] at hkind
  exact ⟨Option.some.inj hkind, hrest⟩

namespace Statements

/-! ## Lines -/

/-- The arguments of the line that acts on an element. -/
def actionArguments (typed : Bool) (l : Locator) (argument : Option String) : String :=
  l.expression ++ (if typed && l.scope == .body then typeCast else "") ++
    argument.elim "" (", " ++ ·)

/-- The lines of an action: an element in the body is waited for first. -/
theorem lines_ofAction (typed : Bool) (l : Locator) (method : String) (argument : Option String) :
    (ofAction typed l method argument).lines =
      (match l.scope with
        | .canvas => []
        | .body => [guardLine l]) ++
      [⟨userCall method (actionArguments typed l argument), Warning.ofLocator? l⟩] := by
  unfold ofAction actionArguments
  cases l.scope <;> rfl

/-- A line that acts on an element says on which one, by which method and with which argument. -/
theorem userCall_inj {typed : Bool} {l l' : Locator} {m m' : String} {p p' : Option String}
    (hm : '(' ∉ m.toList) (hm' : '(' ∉ m'.toList)
    (h : userCall m (actionArguments typed l p) = userCall m' (actionArguments typed l' p')) :
    l = l' ∧ m = m' ∧ p = p' := by
  have htext (l : Locator) (m : String) (p : Option String) :
      (userCall m (actionArguments typed l p)).toList = "await userEvent.".toList ++ (m.toList ++
        '(' :: (l.expression.toList ++
          ((if typed && l.scope == .body then typeCast else "").toList ++
            ((p.elim "" (", " ++ ·)).toList ++ [')', ';'])))) := by
    simp [toList_userCall, actionArguments]
  have hlist := congrArg String.toList h
  rw [htext, htext, List.append_cancel_left_eq] at hlist
  obtain ⟨hmethod, harguments⟩ := Text.append_cons_inj hm hm' hlist
  obtain ⟨rfl, hargument⟩ := Locator.expression_append_inj harguments
  -- The type depends on the locator alone, and both lines end in the same way.
  rw [List.append_cancel_left_eq, List.append_cancel_right_eq] at hargument
  refine ⟨rfl, String.toList_inj.1 hmethod, ?_⟩
  cases p <;> cases p' <;> simp_all [String.toList_inj]

/-- A line that acts is no line that waits. -/
theorem userCall_ne_waitFor (m arguments rest : String) :
    userCall m arguments ≠ "await waitFor(() => expect(" ++ rest := by
  intro h
  unfold userCall at h
  have hlist := congrArg String.toList h
  simp at hlist

/-- A line that acts is no line that waits for an element. -/
theorem userCall_ne_guardLine (m arguments : String) (l : Locator) :
    userCall m arguments ≠ (guardLine l).text := by
  unfold guardLine
  rw [String.append_assoc]
  exact userCall_ne_waitFor m arguments _

/-- The text of the line of an assertion. -/
def assertionText (l : Locator) (kind : AssertionKind) (args : List Literal) : String :=
  "await waitFor(() => expect(" ++ (l.assertionExpression ++ ")." ++ kind.method ++ "(" ++
    Literal.formatArguments args ++ "))")

/-- The text of the line of an assertion, character by character. -/
theorem toList_assertionText (l : Locator) (kind : AssertionKind) (args : List Literal) :
    (assertionText l kind args).toList = "await waitFor(() => expect(".toList ++
      (l.assertionExpression.toList ++ ([')', '.'] ++ (kind.method.toList ++
        '(' :: (Literal.argumentsText args ++ [')', ')'])))) := by
  unfold assertionText Literal.formatArguments
  simp

/-- The line of an assertion. -/
theorem lines_ofAssertion (l : Locator) (kind : AssertionKind) (args : List Literal) :
    (ofAssertion l kind args).lines = [⟨assertionText l kind args, Warning.ofLocator? l⟩] := by
  unfold ofAssertion assertionText
  simp only [String.append_assoc]

/-- The line of an assertion says what is expected of which element, with which arguments. -/
theorem assertionText_inj {l l' : Locator} {kind kind' : AssertionKind} {args args' : List Literal}
    (hargs : ∀ v ∈ args, v.Readable) (hargs' : ∀ v ∈ args', v.Readable)
    (h : assertionText l kind args = assertionText l' kind' args') :
    l = l' ∧ kind = kind' ∧ args = args' := by
  have hlist := congrArg String.toList h
  rw [toList_assertionText, toList_assertionText, List.append_cancel_left_eq] at hlist
  obtain ⟨rfl, hmatcher⟩ := Locator.assertionExpression_append_inj hlist
  obtain ⟨rfl, harguments⟩ := AssertionKind.method_append_inj (List.append_cancel_left hmatcher)
  obtain ⟨rfl, -⟩ := Literal.argumentsText_append_inj hargs hargs' harguments
  exact ⟨rfl, rfl, rfl⟩

/-- The line that waits for an element is closed by a semicolon, the line of an assertion is not. -/
theorem guardLine_ne_assertionText (l l' : Locator) (kind : AssertionKind) (args : List Literal) :
    (guardLine l).text ≠ assertionText l' kind args := by
  intro h
  unfold guardLine assertionText at h
  have hlast := congrArg (fun s : String => s.toList.getLast?) h
  simp [List.getLast?_append, List.getLast?_cons] at hlast

/-! ## Entries and logs -/

/-- The lines of an action on an element say where they end and what was done. -/
theorem ofAction_append_inj {typed : Bool} {l l' : Locator} {e e' : Event} {m m' : String}
    {p p' : Option String} (he : e.action? = some (m, p)) (he' : e'.action? = some (m', p'))
    {u v : List CodeLine}
    (h : (ofAction typed l m p).lines ++ u = (ofAction typed l' m' p').lines ++ v) :
    l = l' ∧ e = e' ∧ u = v := by
  rw [lines_ofAction, lines_ofAction] at h
  -- Both have the same scope: the line that waits for an element is no line that acts.
  have hline : userCall m (actionArguments typed l p) = userCall m' (actionArguments typed l' p') ∧
      u = v := by
    cases hl : l.scope <;> cases hl' : l'.scope <;>
      simp only [hl, hl', List.nil_append, List.cons_append, List.cons.injEq,
        CodeLine.mk.injEq] at h
    · exact ⟨h.1.1, h.2⟩
    · exact (userCall_ne_guardLine _ _ _ (congrArg CodeLine.text h.1)).elim
    · exact (userCall_ne_guardLine _ _ _ (congrArg CodeLine.text h.1.symm)).elim
    · exact ⟨h.2.1.1, h.2.2⟩
  obtain ⟨rfl, rfl, rfl⟩ := userCall_inj (Event.parenthesis_notMem_method he)
    (Event.parenthesis_notMem_method he') hline.1
  exact ⟨rfl, Event.eq_of_action?_eq he he', hline.2⟩

/-- The lines of an action on an element do not begin like those of an assertion. -/
theorem ofAction_append_ne (typed : Bool) (l l' : Locator) (m : String) (p : Option String)
    (kind : AssertionKind) (args : List Literal) (u v : List CodeLine) :
    (ofAction typed l m p).lines ++ u ≠ (ofAssertion l' kind args).lines ++ v := by
  rw [lines_ofAction, lines_ofAssertion]
  intro h
  cases hl : l.scope <;>
    simp only [hl, List.nil_append, List.cons_append, List.cons.injEq, CodeLine.mk.injEq] at h
  · exact userCall_ne_waitFor _ _ _ h.1.1
  · exact guardLine_ne_assertionText l l' kind args (congrArg CodeLine.text h.1)

/-- The lines of a legible entry say where they end and which entry it is. -/
theorem ofEntry_append_inj {typed : Bool} {a b : Entry} (ha : a.event.Legible)
    (hb : b.event.Legible) {u v : List CodeLine}
    (h : (ofEntry typed a).lines ++ u = (ofEntry typed b).lines ++ v) : a = b ∧ u = v := by
  obtain ⟨l, e⟩ := a
  obtain ⟨l', e'⟩ := b
  -- Two actions, an action and an assertion in either order, two assertions.
  rcases ha.action_or_assertion with ⟨m, p, he⟩ | ⟨kind, args, rfl, hargs⟩ <;>
    rcases hb.action_or_assertion with ⟨m', p', he'⟩ | ⟨kind', args', rfl, hargs'⟩
  · rw [ofEntry_of_action typed l he, ofEntry_of_action typed l' he'] at h
    obtain ⟨rfl, rfl, hrest⟩ := ofAction_append_inj he he' h
    exact ⟨rfl, hrest⟩
  · rw [ofEntry_of_action typed l he] at h
    exact (ofAction_append_ne typed l l' m p kind' args' u v h).elim
  · rw [ofEntry_of_action typed l' he'] at h
    exact (ofAction_append_ne typed l' l m' p' kind args v u h.symm).elim
  · simp only [ofEntry, lines_ofAssertion, List.cons_append, List.nil_append, List.cons.injEq,
      CodeLine.mk.injEq] at h
    obtain ⟨rfl, rfl, rfl⟩ := assertionText_inj hargs hargs' h.1.1
    exact ⟨rfl, h.2⟩

/-- A legible entry has lines. -/
theorem ofEntry_append_ne_nil {typed : Bool} {e : Entry} (he : e.event.Legible)
    (u : List CodeLine) : (ofEntry typed e).lines ++ u ≠ [] := by
  obtain ⟨l, event⟩ := e
  rcases he.action_or_assertion with ⟨m, p, h⟩ | ⟨kind, args, rfl, -⟩
  · rw [ofEntry_of_action typed l h, lines_ofAction]
    simp
  · simp [ofEntry, lines_ofAssertion]

/-- The lines of a log are those of its entries, one after the other. -/
theorem lines_ofLog (typed : Bool) (log : Log) :
    (ofLog typed log).lines = log.entries.flatMap fun e => (ofEntry typed e).lines := by
  obtain ⟨entries⟩ := log
  induction entries with
  | nil => rfl
  | cons e es ih => rw [ofLog_cons, append, ih, List.flatMap_cons]

/-- Two logs of legible entries that have the same lines are the same. -/
theorem eq_of_lines_eq (typed : Bool) {a b : Log} (ha : ∀ e ∈ a.entries, e.event.Legible)
    (hb : ∀ e ∈ b.entries, e.event.Legible) (h : (ofLog typed a).lines = (ofLog typed b).lines) :
    a = b := by
  obtain ⟨as⟩ := a
  obtain ⟨bs⟩ := b
  rw [lines_ofLog, lines_ofLog] at h
  simp only [Log.mk.injEq] at ha hb h ⊢
  induction as generalizing bs with
  | nil =>
    cases bs with
    | nil => rfl
    | cons b bs => exact (ofEntry_append_ne_nil (hb b (by simp)) _ h.symm).elim
  | cons a as ih =>
    cases bs with
    | nil => exact (ofEntry_append_ne_nil (ha a (by simp)) _ h).elim
    | cons b bs =>
      rw [List.flatMap_cons, List.flatMap_cons] at h
      obtain ⟨rfl, hrest⟩ := ofEntry_append_inj (ha a (by simp)) (hb b (by simp)) h
      rw [ih (fun e he => ha e (by simp [he])) bs (fun e he => hb e (by simp [he])) hrest]

/-- A form as it is captured: two clicks come with the double click, and each key types. -/
def capturedForm : List Entry :=
  let save : Locator := .single (.css "#save")
  let name : Locator := .nth (.role "textbox" none) 1
  [⟨save, .click⟩, ⟨save, .click⟩, ⟨save, .doubleClick⟩, ⟨name, .type "a"⟩, ⟨name, .type ""⟩,
    ⟨name, .select ["one, two", "it's"]⟩, ⟨save, .upload ["a\nb"]⟩,
    ⟨save, .assertion .value [.object [("data_1$", .array [.string "']"])]]⟩]

/-- The entries that are left of the form. -/
def recordedForm : Log :=
  let save : Locator := .single (.css "#save")
  let name : Locator := .nth (.role "textbox" none) 1
  ⟨[⟨save, .doubleClick⟩, ⟨name, .type ""⟩, ⟨name, .select ["one, two", "it's"]⟩,
    ⟨save, .upload ["a\nb"]⟩,
    ⟨save, .assertion .value [.object [("data_1$", .array [.string "']"])]]⟩]⟩

/-- The captured form has the lines of the recorded one, so it is recorded as that. -/
theorem eq_of_lines_eq_form :
    (∀ e ∈ (Log.ofEntries capturedForm).entries, e.event.Legible) ∧
      (∀ e ∈ recordedForm.entries, e.event.Legible) ∧
      (ofLog true (Log.ofEntries capturedForm)).lines = (ofLog true recordedForm).lines ∧
      Log.ofEntries capturedForm = recordedForm := by
  have harray : (Literal.array [.string "']"]).Readable := .array (by simpa using .string _)
  have hobject : (Literal.object [("data_1$", .array [.string "']"])]).Readable :=
    .object (by simp; decide) (by simpa using harray)
  have hrecorded : ∀ e ∈ recordedForm.entries, e.event.Legible := by
    simpa [recordedForm, Event.Legible] using hobject
  have hcaptured : ∀ e ∈ (Log.ofEntries capturedForm).entries, e.event.Legible := hrecorded
  have hlines : (ofLog true (Log.ofEntries capturedForm)).lines =
      (ofLog true recordedForm).lines := by
    decide +kernel
  exact ⟨hcaptured, hrecorded, hlines, eq_of_lines_eq true hcaptured hrecorded hlines⟩

end Statements

end Recorder
