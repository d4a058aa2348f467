/-!
# Arguments of the command line

An argument list is read in two levels: options of the program with the name of a command, and
options and operands of the command. The options of the program may also stand behind the command,
where they take precedence. Options have a long name and mostly a letter; a letter's value may
follow it at once. Whatever is wrong or asked for first, in the order of the arguments, decides. But
a value that is an argument of its own is looked at only when its level goes on: a wrong one right
in front of the command does not keep the command from asking for its version.
-/

namespace Recorder.Command

/-- What an option expects. -/
inductive Arity where
  /-- Nothing; it is given once. -/
  | flag
  /-- Nothing; it may be repeated. -/
  | counter
  /-- A value that satisfies a test; it is given once. -/
  | value (accepts : String → Bool)

/-- An option. -/
structure OptionSpec where
  /-- The long name. -/
  name : String
  /-- The letter, if there is one. -/
  letter : Option Char
  /-- What it expects. -/
  arity : Arity

/-- Why the reading of arguments ends early. -/
inductive Interruption where
  /-- The arguments are wrong. -/
  | misuse
  /-- The version is asked for. -/
  | version
  /-- Help is asked for. -/
  | help
deriving DecidableEq

/-- The options and operands read on one level. -/
structure Level where
  /-- The options with their values, in the order given. -/
  options : List (String × String)
  /-- The operands in order. -/
  operands : List String
  /-- The last option with its value, if the value has not been looked at. -/
  waiting : Option (OptionSpec × String)

namespace Level

/-- Nothing read yet. -/
def empty : Level := ⟨[], [], none⟩

/-- The value of an option. -/
def value? (l : Level) (name : String) : Option String :=
  l.options.lookup name

/-- Whether an option is given. -/
def has (l : Level) (name : String) : Bool :=
  (l.value? name).isSome

/-- Adds an option, unless it must not be repeated or its value is wrong. -/
def add (l : Level) (spec : OptionSpec) (value : String) : Except Interruption Level :=
  let added : Level := { l with options := l.options ++ [(spec.name, value)] }
  match spec.arity with
  | .counter => .ok added
  | .flag => if l.has spec.name then .error .misuse else .ok added
  | .value accepts => if l.has spec.name || !accepts value then .error .misuse else .ok added

/-- Adds the option that waits. -/
def settle (l : Level) : Except Interruption Level :=
  match l.waiting with
  | none => .ok l
  | some (spec, value) => { l with waiting := none }.add spec value

end Level

/-- Whether an argument can be the value of the option before it. -/
def isOperand (arg : String) : Bool :=
  !arg.startsWith "-" || arg == "-"

/-- Whether an option expects a value. -/
def OptionSpec.takesValue (s : OptionSpec) : Bool :=
  match s.arity with
  | .value _ => true
  | _ => false

/-- The request that the name of an option makes by itself. -/
def longRequest? (name : String) : Option Interruption :=
  if name = "help" then some .help else if name = "version" then some .version else none

/-- The request that the letter of an option makes by itself. -/
def letterRequest? (letter : Char) : Option Interruption :=
  if letter = 'h' then some .help else if letter = 'V' then some .version else none

/-- The part of a list before the first `=` and, if there is one, the part behind it. -/
def splitEquals (cs : List Char) : String × Option String :=
  match cs.dropWhile (· != '=') with
  | [] => (String.ofList cs, none)
  | _ :: value => (String.ofList (cs.takeWhile (· != '=')), some (String.ofList value))

/-- Reads an option by its long name; gives the option if its value is still to come. -/
def readLong (specs : List OptionSpec) (l : Level) (cs : List Char) :
    Except Interruption (Level × Option OptionSpec) :=
  let (name, value) := splitEquals cs
  match longRequest? name, specs.find? fun s => s.name == name with
  | some request, _ => .error (if value.isSome then .misuse else request)
  | none, none => .error .misuse
  | none, some spec =>
    match value with
    | some v => if spec.takesValue then (l.add spec v).map (·, none) else .error .misuse
    | none => if spec.takesValue then .ok (l, some spec) else (l.add spec "").map (·, none)

/-- Reads options by their letters; gives the last one if its value is still to come. -/
def readLetters (specs : List OptionSpec) (l : Level) :
    List Char → Except Interruption (Level × Option OptionSpec)
  | [] => .ok (l, none)
  | c :: cs =>
    match letterRequest? c, specs.find? fun s => s.letter == some c with
    | some request, _ => .error request
    | none, none => .error .misuse
    | none, some spec =>
      if spec.takesValue then
        match cs with
        | [] => .ok (l, some spec)
        | '=' :: value => (l.add spec (String.ofList value)).map (·, none)
        | value => (l.add spec (String.ofList value)).map (·, none)
      else
        match l.add spec "" with
        | .ok l => readLetters specs l cs
        | .error e => .error e

/-- Reads an argument that starts with a dash. -/
def readDashed (specs : List OptionSpec) (l : Level) (arg : String) :
    Except Interruption (Level × Option OptionSpec) :=
  match arg.toList with
  | '-' :: '-' :: cs => readLong specs l cs
  | _ :: cs => readLetters specs l cs
  | [] => .error .misuse

/-- Adds an operand, unless there are enough of them or it is not accepted. -/
def addOperand (accepts : List (String → Bool)) (l : Level) (arg : String) :
    Except Interruption Level :=
  match accepts[l.operands.length]? with
  | some accepts =>
    if accepts arg then .ok { l with operands := l.operands ++ [arg] } else .error .misuse
  | none => .error .misuse

/-- Reads the arguments of a level; behind `--`, which `escaped` tells, there are operands only.
With `stopAtOperand` the first operand ends the level, and the rest is given with it; the option in
front of it waits then. -/
def readLevel (specs : List OptionSpec) (accepts : List (String → Bool)) (stopAtOperand : Bool)
    (l : Level) (escaped : Bool) : List String → Except Interruption (Level × List String)
  | [] => l.settle.map (·, [])
  | arg :: rest =>
    if !escaped && arg == "--" then readLevel specs accepts stopAtOperand l true rest
    else if !escaped && !isOperand arg then
      match l.settle.bind (readDashed specs · arg) with
      | .error e => .error e
      | .ok (l, none) => readLevel specs accepts stopAtOperand l escaped rest
      | .ok (l, some spec) =>
        match rest with
        | value :: rest =>
          if isOperand value then
            readLevel specs accepts stopAtOperand { l with waiting := some (spec, value) } escaped
              rest
          else .error .misuse
        | [] => .error .misuse
    else if stopAtOperand then
      if escaped then .error .misuse else .ok (l, arg :: rest)
    else
      match l.settle.bind (addOperand accepts · arg) with
      | .ok l => readLevel specs accepts stopAtOperand l escaped rest
      | .error e => .error e

end Recorder.Command
