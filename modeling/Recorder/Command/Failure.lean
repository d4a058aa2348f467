import Recorder.Error

/-!
# Failures

Why a command fails, by its cause, and the wording of it. A file that cannot be read comes with the
words of whoever reads files.
-/

namespace Recorder.Command

/-- Why a command fails. -/
inductive Failure where
  /-- The settings in a file cannot be read from its text. -/
  | settings (path : String)
  /-- The file of the settings cannot be read. -/
  | settingsFile (path reason : String)
  /-- Nothing in the page matches a selector. -/
  | noMatch (selector : String)
  /-- Nothing of a name can be exported. -/
  | emptyName (name : String)
  /-- The text of a file is not what the command reads. -/
  | input (path : String)
  /-- No query finds the element again. -/
  | notLocated (selector : String)
  /-- A file cannot be read. -/
  | file (reason : String)
  /-- A step of the recorder fails. -/
  | recorder (cause : Error)
deriving DecidableEq

/-- The cause in words. -/
def Failure.message : Failure → String
  | .settings path => "Configuration error: " ++ path ++ ": YAML error: no settings"
  | .settingsFile path reason => "Configuration error: " ++ path ++ ": I/O error: " ++ reason
  | .noMatch selector => "Invalid argument: no element matches '" ++ selector ++ "'"
  | .emptyName name =>
    "Invalid argument: '" ++ name ++ "' has no letters or digits to build a story name from"
  | .input path => "Invalid input " ++ path ++ ": not the expected JSON"
  | .notLocated selector => "No locator re-finds '" ++ selector ++ "'"
  | .file reason => "I/O error: " ++ reason
  | .recorder cause => "Scribe error: " ++ cause.message

end Recorder.Command
