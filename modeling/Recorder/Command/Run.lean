import Recorder.Command.Action
import Recorder.Config.Yaml

/-!
# Running a command

A run takes the arguments to a status and two texts: the result, which is all that goes to the
output, and the messages. What it reads is the text of the input and of files, and `sources` tells
which before it starts. Settings are read before anything else; a file named `-` is the input,
except for settings.
-/

namespace Recorder.Command

/-- Where a text comes from. -/
inductive Source where
  /-- The input. -/
  | input
  /-- A file. -/
  | file (path : String)
deriving DecidableEq

/-- Whether a path is a single dash, where slashes and dots behind it do not count. -/
def isDash (path : String) : Bool :=
  match Text.pieces '/' path.toList with
  | [] => false
  | first :: rest => first = ['-'] && rest.all fun part => part = [] || part = ['.']

/-- The source that an operand names. -/
def Source.ofOperand (path : String) : Source :=
  if isDash path then .input else .file path

/-- The text of each source, or the reason why it cannot be read. -/
abbrev Environment := Source → Except String String

/-- What a run has to say. -/
structure Report where
  /-- The result. -/
  output : String := ""
  /-- The messages. -/
  messages : String := ""
deriving DecidableEq

/-- How a run ends. -/
structure Outcome where
  /-- The status: zero for success, one for a failure, two for wrong arguments. -/
  status : Nat
  /-- What it has to say. -/
  report : Report
deriving DecidableEq

/-- The name of the program. -/
def programName : String := "scribe"

/-- The version of the program. -/
def programVersion : String := "0.4.0"

/-- A text as a line. -/
def line (s : String) : String :=
  s ++ "\n"

/-- A report that has only a result. -/
def resultLine (s : String) : Report :=
  { output := line s }

/-- The messages of a kind, unless the run is to be quiet. -/
def messageLines (options : ProgramOptions) (coloured plain : String) (messages : List String) :
    String :=
  let label := if options.color = .always then coloured else plain
  if options.quiet then "" else String.join (messages.map fun m => line (label ++ " " ++ m))

/-- The text that an operand names. -/
def readOperand (env : Environment) (path : String) : Except Failure String :=
  (env (.ofOperand path)).mapError .file

/-- The settings of a run. -/
def readSettings (env : Environment) : Option String → Except Failure Config
  | none => .ok {}
  | some path =>
    match env (.file path) with
    | .error reason => .error (.settingsFile path reason)
    | .ok text =>
      match Config.ofYaml? text with
      | some config => .ok config
      | none => .error (.settings path)

/-- Compiles a log. -/
def runCompile (env : Environment) (options : ProgramOptions) (config : Config)
    (r : CompileRequest) : Except Failure Report := do
  let text ← readOperand env r.log
  let code ← compileText (effectiveOptions config r.dialect r.typed) r.log text
  match r.format with
  | .json => return resultLine (Json.pretty code.toJson)
  | .text =>
    if code.isEmpty then
      return { messages := messageLines options "ℹ" "INFO" ["No interactions recorded"] }
    else
      return { output := line (code.render r.story r.testName),
               messages := messageLines options "⚠" "WARN" code.messages }

/-- Locates an element. -/
def runLocate (env : Environment) (config : Config) (r : ElementRequest) :
    Except Failure Report := do
  let doc ← parseDocument r.page (← readOperand env r.page)
  match ← locateSelected config doc r.target r.container with
  | none => throw (.notLocated r.target)
  | some l =>
    match r.format with
    | .json => return resultLine (Json.pretty l.toJson)
    | .text => return resultLine l.expression

/-- Lists the assertions that hold of an element. -/
def runAssertions (env : Environment) (r : ElementRequest) : Except Failure Report := do
  let doc ← parseDocument r.page (← readOperand env r.page)
  let target ← resolve doc r.target
  let assertions ← ofRecorder (doc.assertions target)
  match r.format with
  | .json => return resultLine (Json.pretty (.array (assertions.map Assertion.toJson)))
  | .text => return resultLine (assertionsText assertions)

/-- Does what is asked for. -/
def runRequest (env : Environment) (options : ProgramOptions) (config : Config) :
    Request → Except Failure Report
  | .compile r => runCompile env options config r
  | .reduce path => do
    let log ← reduceText path (← readOperand env path)
    return resultLine (Json.pretty log.toJson)
  | .locate r => runLocate env config r
  | .assertions r => runAssertions env r
  | .storyName name => do
    let (export_, shown) ← storyNames name
    return { output := line ("export: " ++ export_) ++ line ("name: " ++ shown) }

/-- The operand that names what a request reads, if there is one. -/
def Request.operand? : Request → Option String
  | .compile r => some r.log
  | .reduce entries => some entries
  | .locate r => some r.page
  | .assertions r => some r.page
  | .storyName _ => none

/-- All that a run may read. -/
def sources (args : List String) : List Source :=
  match parse args with
  | .error _ => []
  | .ok (options, request) =>
    options.config.toList.map .file ++ request.operand?.toList.map .ofOperand

/-- How the program is used. -/
def usage : String :=
  "Usage: scribe [OPTIONS] <compile|reduce|locate|assertions|story-name> [ARGUMENTS]"

/-- The outcome where there is no request. -/
def refuse (r : Refusal) : Outcome :=
  match r.interruption with
  | .misuse => ⟨2, { messages := line usage }⟩
  | .help => ⟨0, { output := line usage }⟩
  | .version =>
    let name := r.command.elim programName (programName ++ "-" ++ ·)
    ⟨0, { output := line (name ++ " " ++ programVersion) }⟩

/-- Runs the program. -/
def run (env : Environment) (args : List String) : Outcome :=
  match parse args with
  | .error refusal => refuse refusal
  | .ok (options, request) =>
    match (readSettings env options.config).bind (runRequest env options · request) with
    | .ok report => ⟨0, report⟩
    | .error failure => ⟨1, { messages := line ("Error: " ++ failure.message) }⟩

end Recorder.Command
