/-
# Arguments of a command line

An argument that begins with two minus signs names a parameter, with its value after an equals sign or
in the next argument. One that begins with a single minus sign names parameters by letters: flags, and
at the end of them perhaps one parameter with a value, which is the rest of the argument, without an
equals sign in front, or the next argument. A minus sign alone is an operand, and so are all other
arguments and those after two minus signs. The next argument is a value only if it is an operand.

Key definitions: `Parameter`, `Argument.ofText`, `UsageError`, `scanArguments`.
-/

namespace Sift

/-- What can be set on a command line. -/
inductive Parameter where
  | debug | input | since | lastCount | fromSeconds | toSeconds | timeField | filter | sortField
  | reverse | limit | offset | format
deriving DecidableEq

namespace Parameter

/-- All parameters. -/
def all : List Parameter :=
  [.debug, .input, .since, .lastCount, .fromSeconds, .toSeconds, .timeField, .filter, .sortField,
    .reverse, .limit, .offset, .format]

/-- The names of a parameter after two minus signs. -/
def names : Parameter → List String
  | debug => ["debug"]
  | input => ["input"]
  | since => ["since"]
  | lastCount => ["last-n-turns"]
  | fromSeconds => ["from-ts"]
  | toSeconds => ["to-ts"]
  | timeField => ["time-field"]
  | filter => ["where", "filter"]
  | sortField => ["sort-by"]
  | reverse => ["reverse"]
  | limit => ["limit"]
  | offset => ["offset"]
  | format => ["format"]

/-- A parameter in messages. -/
def label (parameter : Parameter) : String :=
  String.intercalate " or " (parameter.names.map ("--" ++ ·))

/-- The letter of a parameter after one minus sign. -/
def letter? : Parameter → Option Char
  | debug => some 'd'
  | input => some 'i'
  | filter => some 'w'
  | sortField => some 's'
  | reverse => some 'r'
  | limit => some 'l'
  | offset => some 'o'
  | format => some 'f'
  | _ => none

/-- Whether a parameter has no value. -/
def isFlag (parameter : Parameter) : Bool :=
  parameter = debug || parameter = reverse

/-- Whether a parameter may be set more than once. -/
def mayRepeat (parameter : Parameter) : Bool :=
  parameter = sortField

/-- The parameter with a name. -/
def ofName? (accepted : List Parameter) (name : String) : Option Parameter :=
  accepted.find? fun parameter => parameter.names.contains name

/-- The parameter with a letter. -/
def ofLetter? (accepted : List Parameter) (letter : Char) : Option Parameter :=
  accepted.find? fun parameter => parameter.letter? = some letter

end Parameter

/-- Why arguments are refused. -/
inductive UsageError where
  | unexpectedArgument (text : String)
  | missingValue (parameter : Parameter)
  /-- A flag is given a value. -/
  | unexpectedValue (parameter : Parameter)
  | invalidValue (parameter : Parameter) (text : String)
  | repeated (parameter : Parameter)
  | missingCommand
  | missingOperand
deriving DecidableEq

/-- The text of an error. -/
def UsageError.message : UsageError → String
  | unexpectedArgument text => s!"unexpected argument '{text}'"
  | missingValue parameter => s!"a value is required for {parameter.label}"
  | unexpectedValue parameter => s!"no value is allowed for {parameter.label}"
  | invalidValue parameter text => s!"invalid value '{text}' for {parameter.label}"
  | repeated parameter => s!"{parameter.label} cannot be used multiple times"
  | missingCommand => "a command is required: query or parse"
  | missingOperand => "a filter is required"

/-- The forms of an argument. -/
inductive Argument where
  | operand
  /-- All arguments after this one are operands. -/
  | separator
  | named (name : String) (value : Option String)
  | letters (letters : List Char)
deriving DecidableEq

namespace Argument

/-- The form of an argument by its text. -/
def ofText (text : String) : Argument :=
  match text.toList with
  | ['-', '-'] => separator
  | '-' :: '-' :: rest =>
    let name := rest.takeWhile (· ≠ '=')
    let value := (rest.drop name.length).tail?
    named (String.ofList name) (value.map String.ofList)
  | '-' :: c :: rest => letters (c :: rest)
  | _ => operand

end Argument

/-- A parameter and its value; flags have an empty one. -/
abbrev Setting := Parameter × String

/-- The parameters that an argument sets, and the one whose value must be the next argument. -/
structure Given where
  settings : List Setting
  awaiting : Option Parameter := none

/-- The parameter that an argument names, with a value or without one. -/
def Given.ofName (accepted : List Parameter) (name : String) (value : Option String) :
    Except UsageError Given :=
  match Parameter.ofName? accepted name, value with
  | none, _ => .error (.unexpectedArgument ("--" ++ name))
  | some parameter, none =>
    if parameter.isFlag then .ok { settings := [(parameter, "")] }
    else .ok { settings := [], awaiting := some parameter }
  | some parameter, some text =>
    if parameter.isFlag then .error (.unexpectedValue parameter)
    else .ok { settings := [(parameter, text)] }

/-- The parameters that letters stand for. -/
def Given.ofLetters (accepted : List Parameter) : List Char → Except UsageError Given
  | [] => .ok { settings := [] }
  | letter :: rest =>
    match Parameter.ofLetter? accepted letter with
    | none => .error (.unexpectedArgument (String.ofList ['-', letter]))
    | some parameter =>
      if parameter.isFlag then do
        let given ← ofLetters accepted rest
        return { given with settings := (parameter, "") :: given.settings }
      else
        match rest with
        | [] => .ok { settings := [], awaiting := some parameter }
        | '=' :: value => .ok { settings := [(parameter, String.ofList value)] }
        | value => .ok { settings := [(parameter, String.ofList value)] }

/-- The settings and operands of a command line. -/
structure Scan where
  settings : List Setting
  operands : List String

/-- Puts settings before those of the arguments that follow. -/
def Scan.after (settings : List Setting) (scan : Scan) : Scan :=
  { scan with settings := settings ++ scan.settings }

/-- The parameters that an argument with minus signs sets. -/
def Given.ofArgument (accepted : List Parameter) : Argument → Except UsageError Given
  | .named name value => ofName accepted name value
  | .letters letters => ofLetters accepted letters
  | _ => .ok { settings := [] }

/-- The settings and operands of arguments that may set the accepted parameters. -/
def scanArguments (accepted : List Parameter) : List String → Except UsageError Scan
  | [] => .ok ⟨[], []⟩
  | text :: rest =>
    match Argument.ofText text with
    | .separator => .ok ⟨[], rest⟩
    | .operand => do
      let scan ← scanArguments accepted rest
      return { scan with operands := text :: scan.operands }
    | argument => do
      let given ← Given.ofArgument accepted argument
      match given.awaiting with
      | none => return (← scanArguments accepted rest).after given.settings
      | some parameter =>
        match rest with
        | [] => .error (.missingValue parameter)
        | value :: rest =>
          if Argument.ofText value = .operand then
            return (← scanArguments accepted rest).after (given.settings ++ [(parameter, value)])
          else .error (.missingValue parameter)

/-- Refuses settings that set a parameter a second time. -/
def refuseRepeated : List Setting → Except UsageError Unit
  | [] => .ok ()
  | (parameter, _) :: settings =>
    if !parameter.mayRepeat && settings.any (·.1 = parameter) then .error (.repeated parameter)
    else refuseRepeated settings

/-- The flags for all commands, the command and its arguments. -/
def splitCommand : List String → Except UsageError (List Setting × String × List String)
  | [] => .error .missingCommand
  | text :: rest =>
    match Argument.ofText text with
    | .separator => .error .missingCommand
    | .operand => .ok ([], text, rest)
    | argument => do
      let given ← Given.ofArgument [.debug] argument
      let (settings, command, arguments) ← splitCommand rest
      return (given.settings ++ settings, command, arguments)

end Sift
