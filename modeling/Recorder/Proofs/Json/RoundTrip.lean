import Recorder.Code.Json
import Recorder.Event.Json
import Recorder.Proofs.Json.Literal
import Recorder.Proofs.Json.Snapshot

/-!
# JSON round trips

What is written as JSON is read back as it was: logs with all of their entries, generated code and
snapshots. Every record is written with each field once at most, so that it is read field by field;
a variant is its kind in front of such a record.

Two things are asked of a log. The arguments of its assertions are literals of which JSON loses
nothing, and the positions of its locators are words, as they are where they are counted.
-/

namespace Recorder

open Json (fields?_object variant?_object optional_map readable_optionalMember)

/-! ## Locators -/

/-- A scope is read back. -/
theorem Scope.ofJson?_toJson (s : Scope) : ofJson? s.toJson = some s := by
  cases s <;> simp [toJson, ofJson?, Json.constant?, name]

namespace TextMatch

/-- Options are read back. -/
theorem ofJson?_toJson (m : TextMatch) : ofJson? m.toJson = some m := by
  rw [toJson, ofJson?, fields?_object _ (by simp)]
  rfl

/-- The JSON value of options is readable. -/
@[simp]
theorem readable_toJson (m : TextMatch) : m.toJson.readable = true := rfl

end TextMatch

namespace Query

/-- The fields of a query are readable. -/
theorem readable_of_mem_members (q : Query) : ∀ m ∈ q.members, m.2.readable = true := by
  cases q with
  | role r n => cases n <;> simp [members, Json.optionalMember]
  | text source t options => simp [members]
  | testId id => simp [members]
  | css selector => simp [members]

/-- No field of a query has the name of its strategy. -/
theorem strategy_notMem_members (q : Query) : "strategy" ∉ q.members.map Prod.fst := by
  cases q with
  | role r n => cases n <;> simp [members, Json.optionalMember]
  | text source t options => simp [members]
  | testId id => simp [members]
  | css selector => simp [members]

/-- The fields of a query are read back under its strategy. -/
theorem ofFields?_members (q : Query) :
    ofFields? q.strategy.name (.object q.members) = some q := by
  cases q with
  | role r n =>
    cases n <;>
      simp [ofFields?, strategy, Strategy.name, members, fields?_object, List.lookup_cons,
        Json.optionalMember, Json.required, Json.optional, Json.string?]
  | text source t options =>
    cases source <;>
      simp [ofFields?, textOfJson?, strategy, Strategy.name, members, fields?_object,
        List.lookup_cons, Json.required, Json.withDefault, Json.string?, TextMatch.ofJson?_toJson]
  | testId id =>
    simp [ofFields?, strategy, Strategy.name, members, fields?_object, Json.required, Json.string?]
  | css selector =>
    simp [ofFields?, strategy, Strategy.name, members, fields?_object, Json.required, Json.string?]

/-- A query is read back. -/
theorem ofJson?_toJson (q : Query) : ofJson? q.toJson = some q := by
  rw [toJson, ofJson?, variant?_object _ q.readable_of_mem_members q.strategy_notMem_members]
  exact q.ofFields?_members

end Query

namespace Locator

/-- The JSON value of a locator is read back if its position is a word. -/
theorem ofJson?_toJson {l : Locator} (h : ∀ i ∈ l.index, i < Text.wordBound) :
    ofJson? l.toJson = some l := by
  obtain ⟨scope, query, index⟩ := l
  have hindex : Json.optional Json.count? (some (Json.orNull (fun i : Nat => .integer i) index)) =
      some index := by
    -- A locator without a position has `null` there, which is read as no position.
    cases index with
    | none => rfl
    | some i => simp [Json.orNull, Json.optional, Json.count?, h i rfl]
  simp [toJson, ofJson?, fields?_object, List.lookup_cons, Json.required, Scope.ofJson?_toJson,
    Query.ofJson?_toJson, hindex]

end Locator

/-! ## Events -/

/-- A key is found by its name. -/
theorem Key.ofName?_name (k : Key) : ofName? k.name = some k := by
  cases k <;> decide

/-- A kind of assertions is found by its matcher. -/
theorem AssertionKind.ofMethod?_method (k : AssertionKind) : ofMethod? k.method = some k := by
  cases k <;> decide

namespace Event

/-- The arguments of an event, which only an assertion has. -/
def args : Event → List Literal
  | .assertion _ args => args
  | _ => []

/-- The fields of an event are readable. -/
theorem readable_of_mem_members (e : Event) : ∀ m ∈ e.members, m.2.readable = true := by
  cases e with
  | assertion kind args =>
    simp [members, AssertionKind.toJson, Literal.argumentsToJson, Json.readable,
      Literal.readable_itemsToJson]
  | _ => simp [members, Key.toJson]

/-- No field of an event has the name of its type. -/
theorem type_notMem_members (e : Event) : "type" ∉ e.members.map Prod.fst := by
  cases e <;> simp [members]

/-- The fields of an event are read back under its type if nothing of its arguments is lost. -/
theorem ofFields?_members {e : Event} (h : Literal.areLossless e.args = true) :
    ofFields? e.typeName (.object e.members) = some e := by
  cases e with
  | assertion kind args =>
    have hargs : Json.list? Literal.ofJson? (Literal.argumentsToJson args) = some args :=
      Literal.list?_itemsToJson h
    simp [ofFields?, typeName, members, fields?_object, List.lookup_cons, Json.required,
      Json.withDefault, assertionKind?, AssertionKind.toJson, Json.variantConstant?,
      Json.constant?, AssertionKind.ofMethod?_method, hargs]
  | keyDown key | keyUp key =>
    simp [ofFields?, typeName, members, fields?_object, Json.required, key?, Key.toJson,
      Json.variantConstant?, Json.constant?, Key.ofName?_name]
  | _ =>
    simp [ofFields?, typeName, members, fields?_object, Json.required, Json.string?, Json.bool?]

/-- An event is read back if nothing of its arguments is lost. -/
theorem ofJson?_toJson {e : Event} (h : Literal.areLossless e.args = true) :
    ofJson? e.toJson = some e := by
  rw [toJson, ofJson?, variant?_object _ e.readable_of_mem_members e.type_notMem_members]
  exact ofFields?_members h

end Event

/-! ## Logs -/

/-- What JSON keeps of an entry: the position of its locator is a word, and nothing of the
arguments of its event is lost. -/
structure Entry.IsLossless (e : Entry) : Prop where
  /-- The position is a word. -/
  index : ∀ i ∈ e.locator.index, i < Text.wordBound
  /-- Nothing of the arguments is lost. -/
  args : Literal.areLossless e.event.args = true

instance (e : Entry) : Decidable e.IsLossless :=
  decidable_of_iff
    ((∀ i ∈ e.locator.index.toList, i < Text.wordBound) ∧
      Literal.areLossless e.event.args = true)
    ⟨fun h => ⟨by simpa using h.1, h.2⟩, fun h => ⟨by simpa using h.index, h.args⟩⟩

/-- An entry is read back if it is kept. -/
theorem Entry.ofJson?_toJson {e : Entry} (h : e.IsLossless) : ofJson? e.toJson = some e := by
  simp [toJson, ofJson?, fields?_object, List.lookup_cons, Json.required,
    Locator.ofJson?_toJson h.index, Event.ofJson?_toJson h.args]

/-- A log is read back, entry by entry, if its entries are kept. -/
theorem Log.ofJson?_toJson {log : Log} (h : ∀ e ∈ log.entries, e.IsLossless) :
    ofJson? log.toJson = some log := by
  rw [toJson, ofJson?, Json.list?_map fun e he => Entry.ofJson?_toJson (h e he), Option.map_some]

/-! ## Generated code -/

/-- A warning is found by its name. -/
theorem Warning.ofName?_name (w : Warning) : ofName? w.name = some w := by
  cases w <;> rfl

namespace CodeLine

/-- A line is read back by a reader of constants that takes strings. -/
theorem read?_toJson {name? : Json → Option String} (hname : ∀ s, name? (.string s) = some s)
    (l : CodeLine) : read? name? l.toJson = some l := by
  obtain ⟨text, warning⟩ := l
  cases warning <;>
    simp [read?, toJson, fields?_object, List.lookup_cons, Json.optionalMember, Json.required,
      Json.optional, Json.string?, Warning.toJson, hname, Warning.ofName?_name]

/-- Lines are read back as the lines of a bundle. -/
theorem lines?_listToJson (lines : List CodeLine) :
    Bundle.lines? (listToJson lines) = some lines :=
  Json.list?_map fun l _ => read?_toJson (fun _ => rfl) l

/-- The JSON value of a line is readable. -/
theorem readable_toJson (l : CodeLine) : l.toJson.readable = true := by
  have hwarning := readable_optionalMember (fun w : Warning => Json.readable_string w.name)
  simp only [toJson, Json.readable_object, List.all_cons]
  exact hwarning "warning" l.warning

/-- The JSON value of lines is readable. -/
@[simp]
theorem readable_listToJson (lines : List CodeLine) : (listToJson lines).readable = true := by
  simp [listToJson, readable_toJson]

end CodeLine

/-- A bundle is read back. -/
theorem Bundle.ofJson?_toJson (b : Bundle) : ofJson? b.toJson = some b := by
  cases b with
  | play imports lines =>
    rw [toJson, ofJson?, variant?_object _ (by simp) (by simp)]
    simp [ofFields?, fields?_object, List.lookup_cons, Json.required, CodeLine.lines?_listToJson]
  | test imports parameters lines =>
    rw [toJson, ofJson?, variant?_object _ (by simp) (by simp)]
    simp [ofFields?, fields?_object, List.lookup_cons, Json.required, CodeLine.lines?_listToJson]

/-- What is written as JSON is read back as it was: a log, with its entries as they are, and each
of its parts, generated code, and a snapshot. -/
theorem json_roundTrip :
    (∀ log : Log, (∀ e ∈ log.entries, e.IsLossless) → Log.ofJson? log.toJson = some log) ∧
    (∀ e : Entry, e.IsLossless → Entry.ofJson? e.toJson = some e) ∧
    (∀ l : Locator, (∀ i ∈ l.index, i < Text.wordBound) → Locator.ofJson? l.toJson = some l) ∧
    (∀ q : Query, Query.ofJson? q.toJson = some q) ∧
    (∀ e : Event, Literal.areLossless e.args = true → Event.ofJson? e.toJson = some e) ∧
    (∀ b : Bundle, Bundle.ofJson? b.toJson = some b) ∧
    (∀ s : Snapshot, Snapshot.ofJson? s.toJson = some s) ∧
    ∀ b : BodySnapshot, BodySnapshot.ofJson? b.toJson = some b :=
  ⟨fun _ => Log.ofJson?_toJson, fun _ => Entry.ofJson?_toJson, fun _ => Locator.ofJson?_toJson,
    Query.ofJson?_toJson, fun _ => Event.ofJson?_toJson, Bundle.ofJson?_toJson,
    Snapshot.ofJson?_toJson, BodySnapshot.ofJson?_toJson⟩

/-- A log that recording would not give: its clicks would be one double click, its scopes are not
those of its queries, and its arguments are nested. -/
def unmergedLog : Log :=
  let button : Locator := ⟨.body, .role "button" none, some 2⟩
  let field : Locator := ⟨.canvas, .text .label "Name" TextMatch.lines, none⟩
  let arguments : List Literal :=
    [.number (.finite (-7)), .array [.null, .object [("b", .bool true), ("a", .string "")]]]
  ⟨[⟨button, .click⟩, ⟨button, .click⟩, ⟨field, .keyDown .tab⟩,
    ⟨field, .assertion .notValue arguments⟩]⟩

/-- The log is read back without being merged. -/
theorem json_roundTrip_unmergedLog :
    (∀ e ∈ unmergedLog.entries, e.IsLossless) ∧
      Log.ofJson? unmergedLog.toJson = some unmergedLog :=
  have h : ∀ e ∈ unmergedLog.entries, e.IsLossless := by decide
  ⟨h, json_roundTrip.1 unmergedLog h⟩

end Recorder
