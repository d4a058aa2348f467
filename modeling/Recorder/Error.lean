import Recorder.Selector.Basic

/-!
# Errors

What can go wrong while a session is recorded, each by its cause, and the wording of it. Nodes are
named by their numbers in the document.
-/

namespace Recorder

/-- Why no CSS path could be given. -/
inductive CssPathError where
  /-- No path matches the target and nothing else. -/
  | notFound
  /-- The node to start from is no element. -/
  | detachedRoot (id : Nat)
  /-- There is no such node. -/
  | unknownNode (id : Nat)
  /-- A path on the way is no selector. -/
  | unevaluable (selector : String)
deriving DecidableEq

/-- The cause in words. -/
def CssPathError.message : CssPathError → String
  | .notFound => "Selector was not found."
  | .detachedRoot id => "Root node " ++ toString id ++ " is not an element"
  | .unknownNode id => "Unknown node id " ++ toString id
  | .unevaluable selector => "Generated selector '" ++ selector ++ "' could not be evaluated"

/-- Why a step of a recording failed. -/
inductive Error where
  /-- No event of this type is recorded. -/
  | unrecognizedEvent (type : String)
  /-- The assertion of this method does not hold of an element with this tag. -/
  | assertionNotApplicable (method tag : String)
  /-- There is no such node, or it is not an element where one is needed. -/
  | unknownNode (id : Nat)
  /-- The text is no selector. -/
  | invalidSelector (source : String) (fault : Selector.Fault)
  /-- A CSS path could not be given, for another reason than that there is none. -/
  | cssPath (cause : CssPathError)
deriving DecidableEq

/-- The cause in words. -/
def Error.message : Error → String
  | .unrecognizedEvent type => "Unrecognized DOM event type '" ++ type ++ "'"
  | .assertionNotApplicable method tag =>
    "Assertion " ++ method ++ " is not applicable to <" ++ tag ++ ">"
  | .unknownNode id => "Unknown node id " ++ toString id
  | .invalidSelector source fault => "Invalid selector '" ++ source ++ "': " ++ fault.message
  | .cssPath cause => "CSS path generation failed: " ++ cause.message

end Recorder
