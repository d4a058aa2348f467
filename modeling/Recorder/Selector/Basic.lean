/-!
# Selectors

The structure of CSS selectors: compounds of a tag, an id, classes, attribute tests and a position
among siblings, chains of compounds, and groups of chains. A chain is built from the left, so that
its last compound, which describes the element itself, is on the outside and matching recurses
from there. `Fault` tells why and where a text is no selector.
-/

namespace Recorder.Selector

/-- A test that an attribute is present, and equal to a value if one is given. -/
structure AttributeTest where
  /-- The attribute's name, in lower case. -/
  name : String
  /-- The value that the attribute has to have. -/
  value : Option String
deriving DecidableEq

/-- Conditions on a single element, all of which have to hold. -/
structure Compound where
  /-- The tag name, in lower case. -/
  tag : Option String
  /-- The value of the attribute `id`. -/
  id : Option String
  /-- Words of the attribute `class`. -/
  classes : List String
  /-- Tests of attributes. -/
  attributes : List AttributeTest
  /-- The position among the sibling elements, from one on. -/
  nthChild : Option Nat
deriving DecidableEq

/-- One condition of a compound behind its tag. -/
inductive Part where
  /-- The attribute `id` has this value. -/
  | id (value : String)
  /-- The attribute `class` has this word. -/
  | className (word : String)
  /-- An attribute passes a test. -/
  | test (test : AttributeTest)
  /-- The element has this position among its siblings. -/
  | nthChild (index : Nat)
deriving DecidableEq

namespace Compound

/-- The compound that holds of every element. -/
def any : Compound :=
  ⟨none, none, [], [], none⟩

/-- Adds a condition. A compound has one id and one position, of which the last one counts. -/
def add (c : Compound) : Part → Compound
  | .id value => { c with id := some value }
  | .className word => { c with classes := c.classes ++ [word] }
  | .test test => { c with attributes := c.attributes ++ [test] }
  | .nthChild index => { c with nthChild := some index }

end Compound

/-- How two neighbours in a chain are related. -/
inductive Combinator where
  /-- The right one is a child of the left one. -/
  | child
  /-- The right one lies anywhere inside the left one. -/
  | descendant
deriving DecidableEq

/-- A chain of compounds joined by combinators. -/
inductive Complex where
  /-- A chain of one compound. -/
  | compound (compound : Compound)
  /-- A chain with one more compound at its right end. -/
  | join (left : Complex) (combinator : Combinator) (compound : Compound)
deriving DecidableEq

/-- Alternatives, one of which has to hold. -/
structure Group where
  /-- The chains, in the order written. -/
  selectors : List Complex
deriving DecidableEq

/-- Why a text is no selector. -/
inductive Cause where
  /-- A backslash at the end of the text. -/
  | danglingEscape
  /-- No name where one has to stand. -/
  | expectedIdentifier
  /-- A quoted string without its end. -/
  | unterminatedString
  /-- An attribute test without its end. -/
  | expectedBracket
  /-- A pseudo-class other than `:nth-child()`. -/
  | unsupportedPseudoClass
  /-- No position of 64 bits inside `:nth-child()`. -/
  | expectedIndex
  /-- A position that is not followed by a parenthesis. -/
  | expectedParenthesis
  /-- No compound where one has to stand. -/
  | expectedSelector
  /-- A character that goes on with no compound and is no combinator. -/
  | unexpectedCharacter
  /-- Characters behind the last chain. -/
  | trailingInput
deriving DecidableEq

/-- The cause in words. -/
def Cause.reason : Cause → String
  | .danglingEscape => "dangling escape"
  | .expectedIdentifier => "expected identifier"
  | .unterminatedString => "unterminated string"
  | .expectedBracket => "expected ']'"
  | .unsupportedPseudoClass => "unsupported pseudo-class"
  | .expectedIndex => "expected :nth-child index"
  | .expectedParenthesis => "expected ')'"
  | .expectedSelector => "expected selector"
  | .unexpectedCharacter => "unexpected character"
  | .trailingInput => "trailing input"

/-- Why and where a text is no selector. -/
structure Fault where
  /-- What is wrong. -/
  cause : Cause
  /-- The number of characters in front of the place. -/
  offset : Nat
deriving DecidableEq

/-- The fault in words. -/
def Fault.message (f : Fault) : String :=
  f.cause.reason ++ " at offset " ++ toString f.offset

end Recorder.Selector
