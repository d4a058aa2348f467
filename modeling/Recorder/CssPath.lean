import Recorder.Selector.Match
import Recorder.Selector.Printer

/-!
# CSS paths

A CSS path is a selector that matches one element inside of a root and nothing else. It is put
together from one part for each of the innermost levels between the two: an id, a class, a tag, or a
tag with its position. Short paths come before long ones, and among paths of one length the choice
at the target counts first. Without any time the path is the one of all levels with positions.
-/

namespace Recorder.CssPath

open Selector (escapeName quoteValue)

/-- Whether a value can follow a `#` as it is. -/
def isPlainName (s : String) : Bool :=
  match s.toList with
  | [] => false
  | c :: cs =>
    (c.isAlpha || c = '_') && cs.all fun d => d.isAlphanum || d = '-' || d = '_'

/-- The part that gives the tag of an element with its position. -/
def positionPart (doc : Document) (id : NodeId) (tag : String) : String :=
  tag ++ ":nth-child(" ++ toString (doc.elementIndex id) ++ ")"

/-- The part that gives the id of an element, if it has one. -/
def idPart? (e : Element) : Option String :=
  ((e.attributes.get? "id").filter (· ≠ "")).map fun v =>
    if isPlainName v then "#" ++ v else "[id=" ++ quoteValue v ++ "]"

/-- The parts that may describe an element on a path, the best first. -/
def parts (doc : Document) (id : NodeId) : List String :=
  match doc.element? id with
  | none => []
  | some e =>
    (idPart? e).toList ++ e.classes.map (fun c => "." ++ escapeName c) ++
      [e.tag, positionPart doc id e.tag]

/-- The text of a path, outermost part first. -/
def join (path : List String) : String :=
  " > ".intercalate path

/-- Whether a selector matches the target and nothing else inside of the root. -/
def isUnique (doc : Document) (root target : NodeId) (selector : String) :
    Except CssPathError Bool :=
  match doc.selectAll root selector with
  | .ok found => .ok (found == [target])
  | .error _ => .error (.unevaluable selector)

/-- The nodes from the target outwards, up to the child of the root. -/
def levels (doc : Document) (root target : NodeId) : List NodeId :=
  target :: (doc.ancestors target).takeWhile (· ≠ root)

/-- The first choice of one part at each of the levels that passes a test, together with the parts
chosen further inside. The first level counts first. -/
def firstChoice (test : List String → Except ε Bool) (inner : List String) :
    List (List String) → Except ε (Option (List String))
  | [] => do
    if ← test inner then return some inner else return none
  | level :: outer => level.findSomeM? fun part => firstChoice test (part :: inner) outer

/-- The first of the lengths for which a choice at the innermost levels passes a test. -/
def firstLength (test : List String → Except ε Bool) (levels : List (List String)) :
    List Nat → Except ε (Option (List String))
  | [] => return none
  | n :: more => do
    match ← firstChoice test [] (levels.take n) with
    | some path => return some path
    | none => firstLength test levels more

/-- The shortest path that matches the target alone. -/
def search (doc : Document) (root target : NodeId) : Except CssPathError String := do
  let levels := (levels doc root target).map (parts doc)
  let lengths := (List.range levels.length).map (· + 1)
  match ← firstLength (fun path => isUnique doc root target (join path)) levels lengths with
  | some path => return join path
  | none => throw .notFound

/-- The path of all levels with the position at each. -/
def fullPath (doc : Document) (root target : NodeId) : String :=
  join ((levels doc root target).reverse.filterMap fun n => (doc.tag? n).map (positionPart doc n))

/-- The path of all levels, if it matches the target alone. -/
def fallback (doc : Document) (root target : NodeId) : Except CssPathError String := do
  let path := fullPath doc root target
  if ← isUnique doc root target path then return path else throw .notFound

/-- The CSS path of a target inside of a root. Zero milliseconds leave no time for a search; any
other time is enough for it. A time that runs out in the middle of a search is not represented: such
a search ends with the path of all levels, as one without time does, so that each call behaves as
with zero milliseconds or as with enough. -/
def find (milliseconds : Nat) (doc : Document) (root target : NodeId) :
    Except CssPathError String :=
  if doc.size ≤ root.index then .error (.unknownNode root.index)
  else if doc.size ≤ target.index then .error (.unknownNode target.index)
  else if !doc.isElement root then .error (.detachedRoot root.index)
  else if target = root || !doc.isElement target || !doc.contains root target then .error .notFound
  else if milliseconds = 0 then fallback doc root target
  else search doc root target

end Recorder.CssPath
