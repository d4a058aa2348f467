import Recorder.Proofs.Code.Framing

/-!
# Statements of parts of a log

Each entry gives its statements without regard to the others, and a log has theirs one after the
other: two logs one behind the other have the statements of the first and then those of the second
(`ofLog_append`). An entry whose event is silent gives none, and all others give some
(`lines_ofEntry_eq_nil_iff`). So silent entries can be left out of a log (`ofLog_filter`), the code
stays the same in both dialects (`compile_filter`), and a log is compiled to nothing exactly if all
its entries are silent; neither frame opens around nothing, and neither comes to nothing around
something (`frame_eq_empty_iff`).
-/

namespace Recorder

/-- Whether an event has no statement that repeats it: a key goes up, or one of the keys that move
the focus goes down. -/
def Event.isSilent : Event → Bool
  | .keyUp _ | .keyDown .tab | .keyDown .shift => true
  | _ => false

namespace Usage

/-- Without a first helper, the second ones are used. -/
theorem empty_or (u : Usage) : or {} u = u := by
  cases u
  simp [or]

/-- It does not matter which helpers are put together first. -/
theorem or_assoc (a b c : Usage) : (a.or b).or c = a.or (b.or c) := by
  simp only [or, Bool.or_assoc]

end Usage

namespace Statements

/-- Behind no statements stand the second ones. -/
theorem empty_append (s : Statements) : empty.append s = s := by
  rw [append, empty, Usage.empty_or, List.nil_append]

/-- It does not matter which statements are put together first. -/
theorem append_assoc (a b c : Statements) : (a.append b).append c = a.append (b.append c) := by
  rw [append, append, append, append, List.append_assoc, Usage.or_assoc]

/-- Two logs one behind the other have the statements of both, in this order. -/
theorem ofLog_append (typed : Bool) (before after : List Entry) :
    ofLog typed ⟨before ++ after⟩ = (ofLog typed ⟨before⟩).append (ofLog typed ⟨after⟩) := by
  induction before with
  | nil => exact (empty_append _).symm
  | cons e es ih => rw [List.cons_append, ofLog_cons, ih, ofLog_cons, append_assoc]

/-- Entries that give no statements can be left out of a log. -/
theorem ofLog_filter {p : Entry → Bool} {typed : Bool}
    (h : ∀ e, p e = false → ofEntry typed e = empty) (entries : List Entry) :
    ofLog typed ⟨entries.filter p⟩ = ofLog typed ⟨entries⟩ := by
  induction entries with
  | nil => rfl
  | cons e es ih =>
    cases hp : p e with
    | false => rw [List.filter_cons_of_neg (by simp [hp]), ofLog_cons, h e hp, empty_append, ih]
    | true => rw [List.filter_cons_of_pos hp, ofLog_cons, ofLog_cons, ih]

/-! ## Silent entries -/

/-- A silent entry gives no statements. -/
theorem ofEntry_of_isSilent (typed : Bool) {e : Entry} (h : e.event.isSilent = true) :
    ofEntry typed e = empty := by
  rw [ofEntry]
  cases hevent : e.event with
  | keyUp => rfl
  | keyDown key => cases key <;> simp_all [Event.isSilent]
  | _ => simp [hevent, Event.isSilent] at h

/-- An entry that an element is looked for gives statements. -/
theorem lines_ofEntry_ne_nil (typed : Bool) {e : Entry} (h : e.event.asks = true) :
    (ofEntry typed e).lines ≠ [] := by
  obtain ⟨l, event⟩ := e
  rcases event.asks_iff.1 h with haction | ⟨kind, args, hevent⟩
  · obtain ⟨action, haction⟩ := Option.isSome_iff_exists.1 haction
    rw [ofEntry_of_action typed l haction, lines_ofAction]
    simp
  · obtain rfl : event = .assertion kind args := hevent
    simp [ofEntry, lines_ofAssertion]

/-- The entries that give no statements are the silent ones. -/
theorem lines_ofEntry_eq_nil_iff (typed : Bool) (e : Entry) :
    (ofEntry typed e).lines = [] ↔ e.event.isSilent = true := by
  obtain ⟨l, event⟩ := e
  cases event with
  | keyUp => exact iff_of_true rfl rfl
  | keyDown key =>
    cases key with
    | tab | shift => exact iff_of_true rfl rfl
    | enter | escape => exact iff_of_false (List.cons_ne_nil _ _) Bool.false_ne_true
  | focus => exact iff_of_false (List.cons_ne_nil _ _) Bool.false_ne_true
  | _ => exact iff_of_false (lines_ofEntry_ne_nil typed rfl) Bool.false_ne_true

/-- A log whose entries are all silent has no statements, and every other log has some. -/
theorem lines_ofLog_eq_nil_iff (typed : Bool) (log : Log) :
    (ofLog typed log).lines = [] ↔ ∀ e ∈ log.entries, e.event.isSilent = true := by
  simp only [lines_ofLog, List.flatMap_eq_nil_iff, lines_ofEntry_eq_nil_iff]

/-- Logs that differ in silent entries only have the same statements. -/
theorem ofLog_eq_of_filter_eq (typed : Bool) {entries entries' : List Entry}
    (h : entries.filter (fun e => !e.event.isSilent) =
      entries'.filter fun e => !e.event.isSilent) :
    ofLog typed ⟨entries⟩ = ofLog typed ⟨entries'⟩ := by
  have hsilent (e : Entry) (he : (!e.event.isSilent) = false) : ofEntry typed e = empty :=
    ofEntry_of_isSilent typed (by simpa using he)
  rw [← ofLog_filter hsilent entries, h, ofLog_filter hsilent]

end Statements

/-! ## Frames around nothing -/

/-- Lines of which the first one is not empty are not empty one behind the other. -/
theorem Text.intercalate_ne_empty {line : String} (h : line ≠ "") (lines : List String) :
    "\n".intercalate (line :: lines) ≠ "" := by
  intro hempty
  have hlist := congrArg String.toList hempty
  rw [String.toList_intercalate, List.map_cons, intercalate_cons] at hlist
  exact h (String.toList_eq_nil_iff.1 (List.append_eq_nil_iff.1 hlist).1)

/-- A line that imports something is not empty. -/
theorem importLine_ne_empty (names : List String) (source : String) :
    (importLine names source).text ≠ "" := by
  simp [importLine]

/-- A frame around some statements is not empty, and neither is its text. -/
theorem Statements.frame_ne_empty {s : Statements} (h : s.lines ≠ []) (dialect : Dialect)
    (story testName : String) :
    (s.frame dialect).isEmpty = false ∧ (s.frame dialect).render story testName ≠ "" := by
  rcases s.frame_cases with ⟨hlines, -⟩ | ⟨hplay, htest⟩
  · exact absurd hlines h
  · cases dialect with
    | play =>
      have hempty : (s.frame .play).isEmpty = false := by
        rw [hplay]
        rfl
      refine ⟨hempty, ?_⟩
      rw [Bundle.render, hempty, hplay]
      exact Text.intercalate_ne_empty (importLine_ne_empty _ _) _
    | test =>
      have hempty : (s.frame .test).isEmpty = false := by
        simp [htest, Bundle.isEmpty, Bundle.body, h]
      refine ⟨hempty, ?_⟩
      rw [Bundle.render, hempty, htest, Usage.testImports]
      -- The text begins with the imports, or with the call of the story if there are none.
      cases s.usage.assertions with
      | true => exact Text.intercalate_ne_empty (importLine_ne_empty _ _) _
      | false => exact Text.intercalate_ne_empty (by simp) _

/-- A dialect puts no frame around nothing, and around some statements neither its bundle nor its
text is empty. -/
theorem Statements.frame_eq_empty_iff (s : Statements) (dialect : Dialect)
    (story testName : String) :
    (s.frame dialect = .empty dialect ↔ s.lines = []) ∧
      ((s.frame dialect).isEmpty = true ↔ s.lines = []) ∧
      ((s.frame dialect).render story testName = "" ↔ s.lines = []) := by
  by_cases hlines : s.lines = []
  · have hframe : s.frame dialect = .empty dialect := by
      cases dialect <;> exact if_pos (List.isEmpty_iff.2 hlines)
    have hempty : (Bundle.empty dialect).isEmpty = true := by cases dialect <;> rfl
    rw [hframe, Bundle.render, hempty]
    simp [hlines]
  · obtain ⟨hempty, htext⟩ := frame_ne_empty hlines dialect story testName
    have hne : s.frame dialect ≠ .empty dialect := fun heq => by
      rw [heq] at hempty
      cases dialect <;> cases hempty
    simp [hlines, hempty, htext, hne]

namespace Log

open Statements (ofLog)

/-- Entries that give no statements can be left out of a log before it is compiled. -/
theorem compile_filter {p : Entry → Bool}
    (h : ∀ typed e, p e = false → Statements.ofEntry typed e = .empty) (entries : List Entry)
    (options : CompileOptions) :
    (mk (entries.filter p)).compile options = (mk entries).compile options := by
  rw [compile, compile, Statements.ofLog_filter (h options.typed)]

/-- A log is compiled entry by entry. Two logs one behind the other have the statements of the first
and then those of the second, and use what one or the other uses. Logs that differ in silent entries
only have the same statements, so that any of these can be deleted. And in both dialects the code of
a log is empty, as a bundle and as a text, exactly if all its entries are silent. -/
theorem compile_locally :
    (∀ typed before after,
      (ofLog typed ⟨before ++ after⟩).lines =
          (ofLog typed ⟨before⟩).lines ++ (ofLog typed ⟨after⟩).lines ∧
        (ofLog typed ⟨before ++ after⟩).usage =
          (ofLog typed ⟨before⟩).usage.or (ofLog typed ⟨after⟩).usage) ∧
    (∀ typed entries entries',
      entries.filter (fun e => !e.event.isSilent) = entries'.filter (fun e => !e.event.isSilent) →
        (ofLog typed ⟨entries⟩).lines = (ofLog typed ⟨entries'⟩).lines ∧
          (ofLog typed ⟨entries⟩).usage = (ofLog typed ⟨entries'⟩).usage) ∧
    ∀ (log : Log) options story testName,
      (log.compile options = .empty options.dialect ↔ ∀ e ∈ log.entries, e.event.isSilent = true) ∧
        ((log.compile options).isEmpty = true ↔ ∀ e ∈ log.entries, e.event.isSilent = true) ∧
        ((log.compile options).render story testName = "" ↔
          ∀ e ∈ log.entries, e.event.isSilent = true) := by
  refine ⟨fun typed before after => ?_, fun typed entries entries' h => ?_,
    fun log options story testName => ?_⟩
  · rw [Statements.ofLog_append]
    exact ⟨rfl, rfl⟩
  · rw [Statements.ofLog_eq_of_filter_eq typed h]
    exact ⟨rfl, rfl⟩
  · rw [← Statements.lines_ofLog_eq_nil_iff options.typed]
    exact Statements.frame_eq_empty_iff _ options.dialect story testName

/-- A click on an element that is found by the attribute for tests. -/
def goClick : Entry :=
  ⟨.single (.testId "go"), .click⟩

/-- A click while Shift is held. -/
def shiftClick : List Entry :=
  [⟨goClick.locator, .keyDown .shift⟩, goClick, ⟨goClick.locator, .keyUp .shift⟩]

/-- The click has the same statements without Shift, and so its code is not empty. -/
theorem compile_locally_shiftClick :
    shiftClick.filter (fun e => !e.event.isSilent) = [goClick].filter (fun e => !e.event.isSilent) ∧
      (ofLog true ⟨shiftClick⟩).lines = (ofLog true ⟨[goClick]⟩).lines ∧
      (ofLog true ⟨shiftClick⟩).usage = (ofLog true ⟨[goClick]⟩).usage ∧
      (mk shiftClick).compile { dialect := .test } ≠ .empty .test := by
  have hsame : shiftClick.filter (fun e => !e.event.isSilent) =
      [goClick].filter (fun e => !e.event.isSilent) := rfl
  obtain ⟨-, hdelete, hempty⟩ := compile_locally
  obtain ⟨hlines, husage⟩ := hdelete true shiftClick [goClick] hsame
  have hheard : ¬ ∀ e ∈ shiftClick, e.event.isSilent = true := by decide
  exact ⟨hsame, hlines, husage,
    fun heq => hheard ((hempty ⟨shiftClick⟩ { dialect := .test } "" "").1.1 heq)⟩

end Log

end Recorder
