import Recorder.CssPath
import Recorder.Locator.Matching

/-!
# Candidates

The queries that may find an element, each with its rank: by role and name, label, placeholder, role
alone, text, title, test id and CSS path. A text of several lines is looked for as a part of the
lines, and of a long text only the start is looked for.
-/

namespace Recorder

/-- How good a query is, the best first. -/
inductive Rank where
  /-- By role and accessible name. -/
  | roleWithName
  /-- By a label. -/
  | label
  /-- By the placeholder. -/
  | placeholder
  /-- By role alone. -/
  | roleWithoutName
  /-- By the whole text. -/
  | textExact
  /-- By the start of a long text. -/
  | textPartial
  /-- By the title. -/
  | title
  /-- By the attribute for tests. -/
  | testId
  /-- By a CSS path. -/
  | css
deriving DecidableEq

/-- The place of a rank in their order. -/
def Rank.order : Rank → Nat
  | .roleWithName => 0
  | .label => 1
  | .placeholder => 2
  | .roleWithoutName => 3
  | .textExact => 4
  | .textPartial => 5
  | .title => 6
  | .testId => 7
  | .css => 8

/-- A query that may find an element. -/
structure Candidate where
  /-- How good the query is. -/
  rank : Rank
  /-- The query. -/
  query : Query
deriving DecidableEq

namespace Document

open Text (trim)

/-- The longest text that is looked for as a whole. -/
def maxTextLength : Nat := 80

/-- A string that is not empty. -/
def nonEmpty? (s : Option String) : Option String :=
  s.filter (· ≠ "")

/-- The candidate by role. -/
def roleCandidate? (doc : Document) (id : NodeId) : Option Candidate :=
  (doc.role? id).map fun role =>
    match doc.accessibleName id with
    | [] => ⟨.roleWithoutName, .role role none⟩
    | name => ⟨.roleWithName, .role role (some (String.ofList name))⟩

/-- The candidates by label. -/
def labelCandidates (doc : Document) (id : NodeId) : List Candidate :=
  (doc.labelTexts id).map fun t => ⟨.label, .text .label (String.ofList t) .whole⟩

/-- The candidate by placeholder, for the controls that have one. -/
def placeholderCandidate? (doc : Document) (id : NodeId) : Option Candidate :=
  if doc.tag? id = some "input" ∨ doc.tag? id = some "textarea" then
    (nonEmpty? (doc.attribute? id "placeholder")).map fun p =>
      ⟨.placeholder, .text .placeholder p .whole⟩
  else none

/-- The candidate by a text that is not blank. -/
def candidateOfText? (text : List Char) : Option Candidate :=
  if text.isEmpty then none
  else if text.length ≤ maxTextLength then
    some ⟨.textExact,
      .text .content (String.ofList text) (if '\n' ∈ text then .lines else .whole)⟩
  else
    some ⟨.textPartial,
      .text .content (String.ofList (text.take maxTextLength))
        (if '\n' ∈ text then .lines else .part)⟩

/-- The candidate by the text in the element itself. -/
def textCandidate? (doc : Document) (id : NodeId) : Option Candidate :=
  candidateOfText? (trim (doc.nodeText id))

/-- The candidate by title. -/
def titleCandidate? (doc : Document) (id : NodeId) : Option Candidate :=
  (nonEmpty? (doc.attribute? id "title")).map fun t => ⟨.title, .text .title t .whole⟩

/-- The candidate by test id. -/
def testIdCandidate? (doc : Document) (testIdAttribute : String) (id : NodeId) : Option Candidate :=
  (nonEmpty? (doc.attribute? id testIdAttribute)).map fun v => ⟨.testId, .testId v⟩

/-- The candidate by CSS path, if there is a path. -/
def cssCandidate? (doc : Document) (milliseconds : Nat) (container id : NodeId) :
    Except Error (Option Candidate) :=
  match CssPath.find milliseconds doc container id with
  | .ok selector => .ok (some ⟨.css, .css selector⟩)
  | .error .notFound => .ok none
  | .error cause => .error (.cssPath cause)

end Document

end Recorder
