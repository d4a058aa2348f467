import Recorder.Config
import Recorder.Yaml.Value

/-!
# Settings as YAML

Settings are written as a mapping from their names, in which those that are left out have their
usual values and unknown names mean nothing. A text without a document, or with an empty one, leaves
out all. Each setting may be given once.
-/

namespace Recorder

namespace Config

/-- The settings that have been given so far. -/
structure Draft where
  /-- The attribute that holds test ids. -/
  testIdAttribute : Option String := none
  /-- The form of the code. -/
  dialect : Option Dialect := none
  /-- Whether expressions are given a type where they need one. -/
  typed : Option Bool := none
  /-- The time for the search of a CSS path. -/
  milliseconds : Option Nat := none

/-- A value for a setting that has none yet. -/
def once {α : Type} (old new : Option α) : Option (Option α) :=
  if old.isSome then none else new.map some

/-- Adds an entry of the mapping, where `leaf?` tells the scalars. -/
def Draft.add (leaf? : Yaml.Node → Option Yaml.Leaf) (d : Draft) (entry : Yaml.Node × Yaml.Node) :
    Option Draft := do
  let name := (← leaf? entry.1).text
  let v := leaf? entry.2
  if name = "test_id_attribute" then
    return { d with testIdAttribute := ← once d.testIdAttribute (v.map Yaml.Leaf.text) }
  else if name = "dialect" then
    return { d with dialect := ← once d.dialect ((v.bind Yaml.Leaf.choice?).bind Dialect.ofName?) }
  else if name = "typed_output" then
    return { d with typed := ← once d.typed (v.bind Yaml.Leaf.bool?) }
  else if name = "css_timeout_ms" then
    return { d with milliseconds := ← once d.milliseconds (v.bind Yaml.Leaf.count?) }
  else return d

/-- The settings, where those that have not been given are the usual ones. -/
def Draft.toConfig (d : Draft) : Config :=
  let usual : Config := {}
  { testIdAttribute := d.testIdAttribute.getD usual.testIdAttribute
    dialect := d.dialect.getD usual.dialect
    typed := d.typed.getD usual.typed
    milliseconds := d.milliseconds.getD usual.milliseconds }

/-- The settings that a document stands for. -/
def ofDocument? (doc : Yaml.Document) : Option Config :=
  match doc.root with
  | .mapping entries => (entries.foldlM (Draft.add doc.leaf?) {}).map Draft.toConfig
  | .leaf l => if l.scalar = .empty then some {} else none
  | _ => none

/-- The settings that a text stands for. -/
def ofYaml? (text : String) : Option Config :=
  (Yaml.Document.ofText? text).bind fun doc => doc.elim (some {}) ofDocument?

end Config

end Recorder
