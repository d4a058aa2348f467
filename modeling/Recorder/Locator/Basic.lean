import Recorder.Literal

/-!
# Locators

A locator tells how to find one element again: a query, the object that the query is asked of, and a
position if the query finds several. Two locators have the same target if they would be written the
same way.
-/

namespace Recorder

/-- The object that a query is asked of. -/
inductive Scope where
  /-- The canvas, which answers the queries of a user's view, later if need be. -/
  | canvas
  /-- The body of the document, which answers selectors, at once. -/
  | body
deriving DecidableEq

/-- The name of the object in source text. -/
def Scope.name : Scope → String
  | .canvas => "canvas"
  | .body => "body"

/-- How a text is compared with the one wanted. -/
structure TextMatch where
  /-- Whether the whole text has to be equal; else a part of it has to be, in any letter case. -/
  exact : Bool
  /-- Whether runs of white space count as one blank. -/
  collapseWhitespace : Bool
deriving DecidableEq

namespace TextMatch

/-- The whole text, with white space collapsed. -/
def whole : TextMatch := ⟨true, true⟩

/-- A part of the text, with white space collapsed. -/
def part : TextMatch := ⟨false, true⟩

/-- A part of a text of several lines. -/
def lines : TextMatch := ⟨false, false⟩

/-- The record that is passed to a query. -/
def toLiteral (m : TextMatch) : Literal :=
  .object (("exact", .bool m.exact) ::
    if m.collapseWhitespace then [] else [("collapseWhitespace", .bool false)])

end TextMatch

/-- The texts of an element that a query can look for. -/
inductive TextSource where
  /-- The texts that label the element. -/
  | label
  /-- The placeholder of a control. -/
  | placeholder
  /-- The text in the element itself. -/
  | content
  /-- The title of the element. -/
  | title
deriving DecidableEq

/-- What a query goes by. -/
inductive Strategy where
  /-- The role in the accessibility tree. -/
  | role
  /-- A text. -/
  | text (source : TextSource)
  /-- The attribute for tests. -/
  | testId
  /-- A selector. -/
  | css
deriving DecidableEq

/-- Whether a query waits for its answer. -/
inductive QueryFamily where
  /-- Waits, and fails if nothing is found. -/
  | find
  /-- Answers at once, also if nothing is found. -/
  | query
deriving DecidableEq

namespace Strategy

/-- The name of the strategy. -/
def name : Strategy → String
  | .role => "role"
  | .text .label => "labelText"
  | .text .placeholder => "placeholderText"
  | .text .content => "text"
  | .text .title => "title"
  | .testId => "testId"
  | .css => "css"

/-- The end of the method names of the strategy. -/
def suffix : Strategy → String
  | .role => "Role"
  | .text .label => "LabelText"
  | .text .placeholder => "PlaceholderText"
  | .text .content => "Text"
  | .text .title => "Title"
  | .testId => "TestId"
  | .css => ""

/-- The name of the method that answers with one element, or with `all` of them. -/
def methodName (s : Strategy) (family : QueryFamily) (all : Bool) : String :=
  if s = .css then
    if all then "querySelectorAll" else "querySelector"
  else
    (match family with
      | .find => "find"
      | .query => "query") ++
      (if all then "AllBy" else "By") ++ s.suffix

end Strategy

/-- A query for elements. -/
inductive Query where
  /-- Elements of a role, and of an accessible name if one is given. -/
  | role (role : String) (name : Option String)
  /-- Elements with a text. -/
  | text (source : TextSource) (text : String) (options : TextMatch)
  /-- Elements with a value of the attribute for tests. -/
  | testId (id : String)
  /-- Elements that a selector matches. -/
  | css (selector : String)
deriving DecidableEq

namespace Query

/-- What the query goes by. -/
def strategy : Query → Strategy
  | .role _ _ => .role
  | .text source _ _ => .text source
  | .testId _ => .testId
  | .css _ => .css

/-- The object that the query is asked of. -/
def scope : Query → Scope
  | .css _ => .body
  | _ => .canvas

/-- The arguments of the query. -/
def arguments : Query → List Literal
  | .role r none => [.string r]
  | .role r (some n) => [.string r, .object [("name", .string n)]]
  | .text _ t options => [.string t, options.toLiteral]
  | .testId v => [.string v]
  | .css s => [.string s]

end Query

/-- How to find one element again. -/
structure Locator where
  /-- The object that the query is asked of. -/
  scope : Scope
  /-- The query. -/
  query : Query
  /-- The position among the elements found, none if only one is. -/
  index : Option Nat
deriving DecidableEq

namespace Locator

/-- The only element that a query finds. -/
def single (query : Query) : Locator :=
  ⟨query.scope, query, none⟩

/-- One of several elements that a query finds. -/
def nth (query : Query) (index : Nat) : Locator :=
  ⟨query.scope, query, some index⟩

/-- The name of the method that is called. -/
def methodName (l : Locator) (family : QueryFamily) : String :=
  l.query.strategy.methodName family l.index.isSome

/-- The arguments as source text. -/
def argumentsText (l : Locator) : String :=
  Literal.formatArguments l.query.arguments

/-- Whether two locators find the same element in the same way: they agree in the object asked, the
strategy, the position and the text of the arguments. -/
def sameTarget (a b : Locator) : Bool :=
  a.scope == b.scope && a.query.strategy == b.query.strategy && a.index == b.index &&
    a.argumentsText == b.argumentsText

end Locator

end Recorder
