import Recorder.Code.Basic
import Recorder.Command.Arguments

/-!
# Requests

What a user asks the program for: one of five commands with its options and operands, and the
options of the program.
-/

namespace Recorder.Command

/-- How a result is written. -/
inductive Format where
  /-- For a reader. -/
  | text
  /-- As JSON. -/
  | json
deriving DecidableEq

/-- The name of a format. -/
def Format.ofName? : String → Option Format
  | "text" => some .text
  | "json" => some .json
  | _ => none

/-- Whether messages are coloured. -/
inductive ColorChoice where
  /-- If they go to a terminal. -/
  | auto
  /-- Always. -/
  | always
  /-- Never. -/
  | never
deriving DecidableEq

/-- The name of a choice. -/
def ColorChoice.ofName? : String → Option ColorChoice
  | "auto" => some .auto
  | "always" => some .always
  | "never" => some .never
  | _ => none

/-- The options of the program. -/
structure ProgramOptions where
  /-- How much is told about decisions. -/
  verbosity : Nat
  /-- Whether warnings are left out. -/
  quiet : Bool
  /-- Whether messages are coloured. -/
  color : ColorChoice
  /-- The file with the settings. -/
  config : Option String
deriving DecidableEq

/-- How a log is compiled. -/
structure CompileRequest where
  /-- The file of the log. -/
  log : String
  /-- The form of the code, if it is not left to the settings. -/
  dialect : Option Dialect
  /-- Whether expressions are given a type in any case. -/
  typed : Bool
  /-- The export name of the story. -/
  story : String
  /-- The name of the test. -/
  testName : String
  /-- How the code is written. -/
  format : Format
deriving DecidableEq

/-- An element of a page that is asked about. -/
structure ElementRequest where
  /-- The file of the page. -/
  page : String
  /-- The selector of the element. -/
  target : String
  /-- The selector of the container, the body if there is none. -/
  container : Option String
  /-- How the answer is written. -/
  format : Format
deriving DecidableEq

/-- What is asked for. -/
inductive Request where
  /-- To compile a log. -/
  | compile (request : CompileRequest)
  /-- To merge the entries in a file. -/
  | reduce (entries : String)
  /-- To locate an element. -/
  | locate (request : ElementRequest)
  /-- To list the assertions that hold of an element. -/
  | assertions (request : ElementRequest)
  /-- To make an export name. -/
  | storyName (name : String)
deriving DecidableEq

/-- Why there is no request, with the name of the command that it is about. -/
structure Refusal where
  /-- What ends the reading of the arguments. -/
  interruption : Interruption
  /-- The command, if one has been named. -/
  command : Option String
deriving DecidableEq

/-- Any value. -/
def anyValue (_ : String) : Bool := true

/-- The name of a file. -/
def isFileName (s : String) : Bool := s ≠ ""

/-- The options of the program. -/
def programSpecs : List OptionSpec :=
  [⟨"verbose", some 'v', .counter⟩, ⟨"quiet", some 'q', .flag⟩,
   ⟨"color", none, .value fun s => (ColorChoice.ofName? s).isSome⟩,
   ⟨"config", none, .value isFileName⟩]

/-- The option for the format of a result. -/
def formatSpec : OptionSpec :=
  ⟨"format", some 'f', .value fun s => (Format.ofName? s).isSome⟩

/-- The options of the command `compile`. -/
def compileSpecs : List OptionSpec :=
  [⟨"dialect", some 'd', .value fun s => (Dialect.ofName? s).isSome⟩, ⟨"typed", none, .flag⟩,
   ⟨"story", none, .value anyValue⟩, ⟨"test-name", none, .value anyValue⟩, formatSpec]

/-- The options of the commands that ask about an element. -/
def elementSpecs : List OptionSpec :=
  [⟨"target", some 't', .value anyValue⟩, ⟨"container", some 'c', .value anyValue⟩, formatSpec]

/-- The options and the operands of a command. -/
def commandSpecs? (command : String) : Option (List OptionSpec × List (String → Bool)) :=
  match command with
  | "compile" => some (compileSpecs, [isFileName])
  | "reduce" => some ([], [isFileName])
  | "locate" => some (elementSpecs, [isFileName])
  | "assertions" => some (elementSpecs, [isFileName])
  | "story-name" => some ([], [anyValue])
  | _ => none

/-- The format that a level asks for. -/
def formatOf (l : Level) : Format :=
  ((l.value? "format").bind Format.ofName?).getD .text

/-- The request about an element that a level makes, if it names a file and a target. -/
def elementRequest? (l : Level) : Option ElementRequest :=
  match l.operands, l.value? "target" with
  | [page], some target => some ⟨page, target, l.value? "container", formatOf l⟩
  | _, _ => none

/-- The request that a level makes, if nothing is missing. -/
def request? (command : String) (l : Level) : Option Request :=
  match command, l.operands with
  | "compile", [log] =>
    some (.compile ⟨log, (l.value? "dialect").bind Dialect.ofName?, l.has "typed",
      (l.value? "story").getD "Primary", (l.value? "test-name").getD "", formatOf l⟩)
  | "reduce", [entries] => some (.reduce entries)
  | "locate", _ => (elementRequest? l).map .locate
  | "assertions", _ => (elementRequest? l).map .assertions
  | "story-name", [name] => some (.storyName name)
  | _, _ => none

/-- The options of the program, where those behind the command come first. -/
def programOptions (outer inner : Level) : ProgramOptions :=
  let value? (name : String) : Option String := (inner.value? name).or (outer.value? name)
  let verbosity :=
    if inner.has "verbose" then inner.options.countP (·.1 == "verbose")
    else outer.options.countP (·.1 == "verbose")
  ⟨verbosity, outer.has "quiet" || inner.has "quiet",
    ((value? "color").bind ColorChoice.ofName?).getD .auto, value? "config"⟩

/-- What comes of asking for help on the commands named, of which there is at most one. -/
def helpOn : List String → Interruption
  | [] => .help
  | [command] =>
    if command = "help" || (commandSpecs? command).isSome then .help else .misuse
  | _ => .misuse

/-- The request that a list of arguments makes. -/
def parse (args : List String) : Except Refusal (ProgramOptions × Request) :=
  match readLevel programSpecs [] true .empty false args with
  | .error e => .error ⟨e, none⟩
  | .ok (_, []) => .error ⟨.misuse, none⟩
  | .ok (outer, command :: rest) =>
    if command = "help" then .error ⟨helpOn rest, none⟩
    else
      match commandSpecs? command with
      | none => .error ⟨.misuse, none⟩
      | some (specs, operands) =>
        match readLevel (specs ++ programSpecs) operands false .empty false rest with
        | .error e => .error ⟨e, some command⟩
        | .ok (inner, _) =>
          match outer.settle, request? command inner with
          | .ok outer, some request => .ok (programOptions outer inner, request)
          | _, _ => .error ⟨.misuse, some command⟩

end Recorder.Command
