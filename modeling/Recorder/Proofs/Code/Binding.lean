import Recorder.Proofs.Code.Statement

/-!
# Bindings

Whether each helper that code refers to is bound: imported, given as a parameter, or declared by a
line in front. A play function binds all of them (`unbound_framePlay`). A test imports the helpers
for expectations only for its assertions, so it lacks them where it merely waits for an element in
the body before something is done to it (`mem_unbound_frameTest`). What the statements of a log use
is what the log says (`usage_assertions_ofLog`, `usage_expect_ofLog`).
-/

namespace Recorder

/-- Whether a line with these words is a declaration. -/
def isDeclaration (words : List Word) : Bool :=
  words.head? = some ⟨false, "const"⟩

/-- The name that a line with these words declares, if it does. -/
def declared? (words : List Word) : Option String :=
  if isDeclaration words then words[1]?.map (·.text) else none

/-- The words of a line without the name that it declares. -/
def uses (words : List Word) : List Word :=
  if isDeclaration words then words.eraseIdx 1 else words

/-- The helpers that lines refer to although they are not bound, where the reader stands at a place
and these names are bound already. A line binds the name that it declares for the lines behind
it. -/
def unbound : List String → Place → List CodeLine → List String
  | _, _, [] => []
  | bound, p, l :: ls =>
    let (words, q) := p.read (l.text.toList ++ ['\n'])
    (references (uses words)).filter (· ∉ bound) ++ unbound (bound ++ (declared? words).toList) q ls

/-- The names that a line imports: the words up to the module that they come from. -/
def CodeLine.imported (l : CodeLine) : List String :=
  ((l.read.1.drop 1).map (·.text)).takeWhile (· ≠ "from")

namespace Bundle

/-- The names that are bound in front of the body. -/
def bindings : Bundle → List String
  | .play imports _ => imports.flatMap CodeLine.imported
  | .test imports parameters _ => imports.flatMap CodeLine.imported ++ parameters

/-- The helpers that the body refers to although they are not bound. -/
def unbound (b : Bundle) : List String :=
  Recorder.unbound b.bindings (.between false) b.body

end Bundle

section Lines

variable {bound : List String} {l : CodeLine} {ls : List CodeLine}

/-- The first of the lines may leave helpers unbound, and it may bind a name for the others. -/
theorem unbound_cons (h : l.read.2 = .between false) :
    unbound bound (.between false) (l :: ls) =
      (references (uses l.read.1)).filter (· ∉ bound) ++
        unbound (bound ++ (declared? l.read.1).toList) (.between false) ls := by
  have hread : (Place.between false).read (l.text.toList ++ ['\n']) = (l.read.1, .between false) :=
    Prod.ext rfl h
  rw [unbound, hread]

/-- A line that declares a name from bound helpers binds the name for the lines behind it. -/
theorem unbound_declaration {name : String} (h : l.read.2 = .between false)
    (hname : declared? l.read.1 = some name)
    (hrefs : ∀ r ∈ references (uses l.read.1), r ∈ bound) :
    unbound bound (.between false) (l :: ls) = unbound (bound ++ [name]) (.between false) ls := by
  have hfilter : (references (uses l.read.1)).filter (· ∉ bound) = [] := by
    rw [List.filter_eq_nil_iff]
    intro r hr
    simpa using hrefs r hr
  rw [unbound_cons h, hname, hfilter, List.nil_append, Option.toList_some]

/-- A statement declares nothing, so all its words are uses. -/
theorem unbound_statement (h : l.IsStatement) :
    unbound bound (.between false) (l :: ls) =
      l.references.filter (· ∉ bound) ++ unbound bound (.between false) ls := by
  obtain ⟨hhead, hplace⟩ := h
  have hdeclaration : isDeclaration l.read.1 = false := by
    rw [isDeclaration, hhead]
    decide
  rw [unbound_cons hplace, declared?, uses, hdeclaration]
  simp [CodeLine.references]

/-- Statements leave unbound what they refer to, but what is bound in front of them. -/
theorem mem_unbound_statements (h : ∀ l ∈ ls, l.IsStatement) {rest : List CodeLine} {name : String} :
    name ∈ unbound bound (.between false) (ls ++ rest) ↔
      ((∃ l ∈ ls, name ∈ l.references) ∧ name ∉ bound) ∨
        name ∈ unbound bound (.between false) rest := by
  induction ls with
  | nil => simp
  | cons l ls ih =>
    rw [List.cons_append, unbound_statement (h l (by simp)), List.mem_append,
      ih fun l hl => h l (by simp [hl])]
    simp only [List.mem_filter, List.mem_cons, exists_eq_or_imp, decide_eq_true_eq]
    grind

end Lines

/-- A line behind a tab is a statement if it is one without the tab. -/
theorem CodeLine.isStatement_indented {l : CodeLine} : l.indented.IsStatement ↔ l.IsStatement := by
  rw [IsStatement, IsStatement, read_indented]

/-- A line behind a tab refers to what it refers to without the tab. -/
theorem CodeLine.references_indented (l : CodeLine) : l.indented.references = l.references := by
  rw [references, references, read_indented]

/-- The declaration of the body, behind a tab or not, binds it. -/
theorem unbound_bodyLine {bound : List String} {l : CodeLine} {ls : List CodeLine}
    (h : l.read = bodyLine.read) :
    unbound bound (.between false) (l :: ls) =
      unbound (bound ++ ["body"]) (.between false) ls := by
  have hplace : bodyLine.read.2 = .between false := by decide +kernel
  have hname : declared? bodyLine.read.1 = some "body" := by decide +kernel
  have hrefs : references (uses bodyLine.read.1) = [] := by decide +kernel
  exact unbound_declaration (by rw [h, hplace]) (by rw [h, hname]) (by simp [h, hrefs])

/-- The declaration of the canvas, behind a tab, binds it where its parts are bound. -/
theorem unbound_canvasLine {usage : Usage} {bound : List String} {ls : List CodeLine}
    (hwithin : "within" ∈ bound) (hbody : usage.body = true → "body" ∈ bound) :
    unbound bound (.between false) ((canvasLine usage).indented :: ls) =
      unbound (bound ++ ["canvas"]) (.between false) ls := by
  have hline : ∀ b : Bool, (canvasLine { body := b }).read.2 = .between false ∧
      declared? (canvasLine { body := b }).read.1 = some "canvas" ∧
      references (uses (canvasLine { body := b }).read.1) =
        "within" :: Usage.listIf b ["body"] := by decide +kernel
  -- The line depends only on whether the body is declared, and not on the rest of the note.
  have hsame : canvasLine usage = canvasLine { body := usage.body } := rfl
  obtain ⟨hplace, hname, hrefs⟩ := hline usage.body
  rw [← hsame, ← CodeLine.read_indented] at hplace hname hrefs
  refine unbound_declaration hplace hname ?_
  intro r hr
  rw [hrefs] at hr
  rcases List.mem_cons.1 hr with rfl | hr
  · exact hwithin
  · obtain ⟨hused, hr⟩ := Usage.mem_listIf.1 hr
    rw [List.mem_singleton.1 hr]
    exact hbody hused

namespace Usage

/-- A play function imports the names that it is meant to import. -/
theorem imported_playImports (u : Usage) :
    (importLine u.playImports playSource).imported = u.playImports := by
  unfold playImports
  cases u.canvas <;> cases u.expect <;> decide +kernel

/-- A test imports the names that it is meant to import. -/
theorem imported_testImports (u : Usage) :
    u.testImports.flatMap CodeLine.imported = listIf u.assertions ["waitFor", "expect"] := by
  unfold testImports
  cases u.assertions <;> decide +kernel

/-- The declarations in front of the statements of a play function bind the objects that are
asked. -/
theorem unbound_playPreamble (u : Usage) (ls : List CodeLine) :
    unbound u.playImports (.between false) (u.playPreamble.map CodeLine.indented ++ ls) =
      unbound (u.playImports ++ listIf u.body ["body"] ++ listIf u.canvas ["canvas"])
        (.between false) ls := by
  have hwithin : u.canvas = true → "within" ∈ u.playImports := by
    intro h
    simp [playImports, h]
  rw [playPreamble]
  cases hbody : u.body with
  | false =>
    cases hcanvas : u.canvas with
    | false => simp [listIf]
    | true => simpa [listIf] using unbound_canvasLine (hwithin hcanvas) (by simp [hbody])
  | true =>
    cases hcanvas : u.canvas with
    | false => simpa [listIf] using unbound_bodyLine bodyLine.read_indented
    | true =>
      have hdeclared : unbound u.playImports (.between false)
            (bodyLine.indented :: (canvasLine u).indented :: ls) =
          unbound (u.playImports ++ ["body"] ++ ["canvas"]) (.between false) ls := by
        rw [unbound_bodyLine bodyLine.read_indented,
          unbound_canvasLine (List.mem_append_left _ (hwithin hcanvas)) (by simp)]
      simpa [listIf] using hdeclared

/-- The declarations in front of the statements of a test bind the body. -/
theorem unbound_testPreamble (u : Usage) (bound : List String) (ls : List CodeLine) :
    unbound bound (.between false) (u.testPreamble ++ ls) =
      unbound (bound ++ listIf u.body ["body"]) (.between false) ls := by
  rw [testPreamble]
  cases u.body with
  | false => simp [listIf]
  | true => exact unbound_bodyLine rfl

end Usage

namespace Statements

/-- The helpers that a play function with statements leaves unbound are those that the statements
refer to and that are neither imported nor declared. -/
theorem Faithful.mem_unbound_framePlay {s : Statements} (h : s.Faithful)
    (hlines : s.lines.isEmpty = false) {name : String} :
    name ∈ s.framePlay.unbound ↔ name ∈ s.usage.names ∧
      name ∉ s.usage.playImports ++ Usage.listIf s.usage.body ["body"] ++
        Usage.listIf s.usage.canvas ["canvas"] := by
  have hopening : playOpening.read.2 = .between false ∧ declared? playOpening.read.1 = none ∧
      references (uses playOpening.read.1) = [] := by decide +kernel
  have hclosing : playClosing.read.2 = .between false ∧
      references (uses playClosing.read.1) = [] := by decide +kernel
  have hstatements : ∀ l ∈ s.lines.map CodeLine.indented, l.IsStatement := by
    simpa [CodeLine.isStatement_indented] using h.isStatement
  -- The frame is the opening, the declarations, the statements and the closing.
  have hframe : s.framePlay.unbound = unbound s.usage.playImports (.between false)
      (playOpening :: (s.usage.playPreamble.map CodeLine.indented ++
        (s.lines.map CodeLine.indented ++ [playClosing]))) := by
    simp [framePlay, hlines, Bundle.unbound, Bundle.bindings, Bundle.body,
      Usage.imported_playImports]
  rw [hframe, unbound_cons hopening.1, hopening.2.1, hopening.2.2, List.filter_nil,
    List.nil_append, Option.toList_none, List.append_nil, Usage.unbound_playPreamble,
    mem_unbound_statements hstatements, unbound_cons hclosing.1, hclosing.2, h.mem_names]
  simp [unbound, CodeLine.references_indented]

/-- A play function binds each helper that it refers to. -/
theorem Faithful.unbound_framePlay {s : Statements} (h : s.Faithful) : s.framePlay.unbound = [] := by
  cases hlines : s.lines.isEmpty with
  | true =>
    rw [framePlay, if_pos hlines]
    rfl
  | false =>
    -- Whatever is noted is imported or declared, by the same note.
    rw [List.eq_nil_iff_forall_not_mem]
    intro name hname
    obtain ⟨hused, hbound⟩ := (h.mem_unbound_framePlay hlines).1 hname
    simp only [Usage.names, Usage.playImports, List.mem_append, Usage.mem_listIf] at hused hbound
    grind

/-- The helpers that a test with statements leaves unbound are those that the statements refer to
and that are neither imported nor parameters nor declared. -/
theorem Faithful.mem_unbound_frameTest_of_lines {s : Statements} (h : s.Faithful)
    (hlines : s.lines.isEmpty = false) {name : String} :
    name ∈ s.frameTest.unbound ↔ name ∈ s.usage.names ∧
      name ∉ Usage.listIf s.usage.assertions ["waitFor", "expect"] ++ s.usage.testParameters ++
        Usage.listIf s.usage.body ["body"] := by
  have hframe : s.frameTest.unbound =
      unbound (Usage.listIf s.usage.assertions ["waitFor", "expect"] ++ s.usage.testParameters)
        (.between false) (s.usage.testPreamble ++ (s.lines ++ [])) := by
    simp [frameTest, hlines, Bundle.unbound, Bundle.bindings, Bundle.body,
      Usage.imported_testImports]
  rw [hframe, Usage.unbound_testPreamble, mem_unbound_statements h.isStatement, h.mem_names]
  simp [unbound]

/-- A test lacks the helpers for expectations if it uses them but has no assertion, and it lacks no
others. -/
theorem Faithful.mem_unbound_frameTest {s : Statements} (h : s.Faithful) {name : String} :
    name ∈ s.frameTest.unbound ↔
      (name = "waitFor" ∨ name = "expect") ∧ s.usage.expect = true ∧ s.usage.assertions = false := by
  cases hlines : s.lines.isEmpty with
  | true =>
    -- Without lines nothing is used, in particular nothing is expected.
    have hexpect : s.usage.expect = false := by
      rw [List.isEmpty_iff] at hlines
      have hnot := mt (h.mem_names "waitFor").1 (by simp [hlines])
      simpa [Usage.names] using hnot
    have hempty : s.frameTest.unbound = [] := by
      rw [frameTest, if_pos hlines]
      rfl
    simp [hempty, hexpect]
  | false =>
    -- The objects that are asked and the user are always bound, by the same note; the helpers for
    -- expectations are imported for assertions only.
    rw [h.mem_unbound_frameTest_of_lines hlines]
    simp only [Usage.names, Usage.testParameters, List.mem_append, Usage.mem_listIf]
    grind

end Statements

namespace Event

/-- Whether the event is something that is done to an element. -/
def isAction : Event → Bool
  | .click | .doubleClick | .type _ | .select _ | .upload _ => true
  | _ => false

/-- Whether the event is an assertion. -/
def isAssertion : Event → Bool
  | .assertion _ _ => true
  | _ => false

/-- What is done to an element is repeated by a method of the user, and nothing else is. -/
theorem isSome_action? (event : Event) : event.action?.isSome = event.isAction := by
  cases event with
  | type value =>
    rw [action?]
    split <;> rfl
  | _ => rfl

end Event

namespace Log

/-- Something is done to an element in the body. -/
def ActsOnBody (log : Log) : Prop :=
  ∃ e ∈ log.entries, e.locator.scope = .body ∧ e.event.isAction = true

/-- There is an assertion. -/
def Asserts (log : Log) : Prop :=
  ∃ e ∈ log.entries, e.event.isAssertion = true

end Log

namespace Statements

/-- A helper is noted for a log if it is for an entry of it. -/
theorem usage_ofLog (used : Usage → Bool) (hor : ∀ a b, used (a.or b) = (used a || used b))
    (hempty : used {} = false) (typed : Bool) (log : Log) :
    used (ofLog typed log).usage = log.entries.any fun e => used (ofEntry typed e).usage := by
  obtain ⟨entries⟩ := log
  induction entries with
  | nil => exact hempty
  | cons e es ih => rw [ofLog_cons, Statements.append, hor, ih, List.any_cons]

/-- An entry notes an assertion if it is one, and that something is expected if it is an assertion
or done to an element in the body. -/
theorem usage_ofEntry (typed : Bool) (entry : Entry) :
    (ofEntry typed entry).usage.assertions = entry.event.isAssertion ∧
      (ofEntry typed entry).usage.expect =
        (entry.event.isAssertion || (entry.locator.scope == .body && entry.event.isAction)) := by
  have hisAction := entry.event.isSome_action?
  rcases ofEntry_cases entry with ⟨method, argument, haction, hentry⟩ |
    ⟨kind, args, hevent, hentry⟩ | ⟨hnone, hne, s, hs, hentry⟩ <;> rw [hentry typed]
  · have hisAssertion : entry.event.isAssertion = false := by
      cases h : entry.event with
      | assertion => simp [h, Event.action?] at haction
      | _ => rfl
    rw [haction, Option.isSome_some] at hisAction
    rw [ofAction]
    cases hscope : entry.locator.scope <;> simp [hisAssertion, ← hisAction]
  · rw [hevent]
    cases hscope : entry.locator.scope <;>
      simp [ofAssertion, Usage.ofScope, Usage.or, Event.isAssertion, hscope]
  · have husage : ∀ s ∈ unlocated, s.usage.assertions = false ∧ s.usage.expect = false := by decide
    have hisAssertion : entry.event.isAssertion = false := by
      cases h : entry.event with
      | assertion kind args => exact absurd h (hne kind args)
      | _ => rfl
    rw [hnone, Option.isSome_none] at hisAction
    simp [husage s hs, hisAssertion, ← hisAction]

/-- A log notes an assertion if there is one. -/
theorem usage_assertions_ofLog (typed : Bool) (log : Log) :
    (ofLog typed log).usage.assertions = true ↔ log.Asserts := by
  rw [usage_ofLog Usage.assertions (fun _ _ => rfl) rfl, List.any_eq_true]
  simp only [(usage_ofEntry typed _).1, Log.Asserts]

/-- A log notes that something is expected if there is an assertion or something is done to an
element in the body. -/
theorem usage_expect_ofLog (typed : Bool) (log : Log) :
    (ofLog typed log).usage.expect = true ↔ log.Asserts ∨ log.ActsOnBody := by
  rw [usage_ofLog Usage.expect (fun _ _ => rfl) rfl, List.any_eq_true]
  simp only [(usage_ofEntry typed _).2, Log.Asserts, Log.ActsOnBody, Bool.or_eq_true,
    Bool.and_eq_true, beq_iff_eq, and_or_left, exists_or]

end Statements

namespace Log

/-- The play function of a log binds each helper that it refers to. The test binds them as well, but
`waitFor` and `expect` if something is done to an element in the body and nothing is asserted. -/
theorem unbound_compile (typed : Bool) (log : Log) (h : ∀ e ∈ log.entries, e.Plain) :
    (log.compile ⟨.play, typed⟩).unbound = [] ∧
      ∀ name, name ∈ (log.compile ⟨.test, typed⟩).unbound ↔
        (name = "waitFor" ∨ name = "expect") ∧ log.ActsOnBody ∧ ¬ log.Asserts := by
  have hfaithful := Statements.faithful_ofLog typed h
  refine ⟨hfaithful.unbound_framePlay, fun name => ?_⟩
  have hassertions : (Statements.ofLog typed log).usage.assertions = false ↔ ¬ log.Asserts := by
    rw [← Statements.usage_assertions_ofLog typed, Bool.not_eq_true]
  calc name ∈ (log.compile ⟨.test, typed⟩).unbound
      ↔ (name = "waitFor" ∨ name = "expect") ∧ (Statements.ofLog typed log).usage.expect = true ∧
          (Statements.ofLog typed log).usage.assertions = false := hfaithful.mem_unbound_frameTest
    _ ↔ (name = "waitFor" ∨ name = "expect") ∧ (log.Asserts ∨ log.ActsOnBody) ∧ ¬ log.Asserts := by
      rw [Statements.usage_expect_ofLog, hassertions]
    _ ↔ (name = "waitFor" ∨ name = "expect") ∧ log.ActsOnBody ∧ ¬ log.Asserts := by
      rw [or_and_right (a := log.Asserts), and_not_self_iff, false_or]

/-- A click in the body; the names in the selector are not references. -/
def bodyClick : Entry :=
  ⟨.single (.css "[title='expect(canvas)']"), .click⟩

/-- An assertion on a choice of two options. -/
def choiceCheck : Entry :=
  ⟨.single (.role "listbox" (some "within")),
    .assertion .value [.array [.string "body", .string "`waitFor`"]]⟩

/-- Behind the click, the assertion makes the test import what the click alone lacks. -/
theorem unbound_compile_bodyClick :
    (∀ e ∈ [bodyClick, choiceCheck], e.Plain) ∧
      ((mk [bodyClick, choiceCheck]).compile ⟨.play, true⟩).unbound = [] ∧
      "expect" ∉ ((mk [bodyClick, choiceCheck]).compile ⟨.test, true⟩).unbound ∧
      "expect" ∈ ((mk [bodyClick]).compile ⟨.test, true⟩).unbound := by
  have hclick : bodyClick.Plain := fun kind args h => by simp [bodyClick] at h
  have hcheck : choiceCheck.Plain := by
    intro kind args h
    simp only [choiceCheck, Event.assertion.injEq] at h
    obtain ⟨-, rfl⟩ := h
    simpa using Literal.Plain.array (by simp [Literal.Plain.string])
  have hboth : ∀ e ∈ [bodyClick, choiceCheck], e.Plain := by simp [hclick, hcheck]
  obtain ⟨hplay, htest⟩ := unbound_compile true ⟨[bodyClick, choiceCheck]⟩ hboth
  refine ⟨hboth, hplay, fun hmem => ((htest _).1 hmem).2.2 ⟨choiceCheck, by simp, rfl⟩, ?_⟩
  obtain ⟨-, htest⟩ := unbound_compile true ⟨[bodyClick]⟩ (by simp [hclick])
  exact (htest _).2 ⟨.inr rfl, ⟨bodyClick, by simp, rfl, rfl⟩,
    by simp [Asserts, bodyClick, Event.isAssertion]⟩

/-- The reader finds both helpers in the test of the click alone. -/
example : ((mk [bodyClick]).compile ⟨.test, false⟩).unbound = ["waitFor", "expect"] := by
  decide +kernel

end Log

end Recorder
