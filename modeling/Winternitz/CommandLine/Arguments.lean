import Winternitz.CommandLine.Help
import Winternitz.CommandLine.Terminal
import Winternitz.ParameterSet

set_option autoImplicit false

namespace Winternitz.CommandLine

inductive Request
  | inspect (input : String) (set : Option ParameterSet) (chains : Bool)
  | listSets
  | help (topic : Topic)
deriving DecidableEq, Repr

inductive UsageError
  | noSubcommand
  | unknownSubcommand (name : String)
  | unexpectedArgument (argument : String)
  | unexpectedValue (value option : String)
  | repeatedOption (option : String)
  | noValue
  | invalidValue (value : String) (unknown : UnknownParameterSet)
  | noInput
deriving DecidableEq, Repr

private def strong (word : String) : String := "'\x1b[1m" ++ word ++ "\x1b[0m'"

private def wrong (word : String) : String := "'\x1b[33m" ++ word ++ "\x1b[0m'"

def UsageError.message : UsageError → String
  | noSubcommand => "a subcommand is required but one was not provided"
  | unknownSubcommand name => "unrecognized subcommand " ++ wrong name
  | unexpectedArgument argument => "unexpected argument " ++ wrong argument ++ " found"
  | unexpectedValue value option =>
    "unexpected value " ++ wrong value ++ " for " ++ strong option ++
      " found; no more were expected"
  | repeatedOption option =>
    "the argument " ++ wrong option ++ " cannot be used multiple times"
  | noValue => "a value is required for " ++ wrong "--params <PARAMS>" ++ " but none was supplied"
  | invalidValue value unknown =>
    "invalid value " ++ wrong value ++ " for " ++ strong "--params <PARAMS>" ++ ": " ++
      unknown.message
  | noInput => "the following required arguments were not provided:\n  <INPUT>"

-- Complain as on a stream that is no terminal. Sequences in an argument end where the next
-- colour is set, so the colours are put in before all sequences are dropped.
def UsageError.complaint : UsageError → String
  | noSubcommand => Topic.program.page
  | error =>
    plain ("\x1b[1m\x1b[31merror:\x1b[0m " ++ error.message ++
      "\n\nFor more information, try " ++ strong "--help" ++ ".\n")

/-- One argument on its own, before it is known what it stands for. -/
inductive Word
  | separator
  | long (name : String) (value : Option String)
  | short (letter : Char) (rest : List Char)
  | operand (text : String)
deriving DecidableEq, Repr

namespace Word

def ofArgument (argument : String) : Word :=
  match argument.toList with
  | ['-', '-'] => separator
  | '-' :: '-' :: rest =>
    let name := String.ofList (rest.takeWhile (· != '='))
    match rest.dropWhile (· != '=') with
    | [] => long name none
    | _ :: value => long name (some (String.ofList value))
  | '-' :: letter :: rest => short letter rest
  | _ => operand argument

def unexpected : Word → UsageError
  | separator => .unexpectedArgument "--"
  | long name _ => .unexpectedArgument ("--" ++ name)
  | short letter _ => .unexpectedArgument (String.ofList ['-', letter])
  | operand text => .unexpectedArgument text

-- Take a word for the option that asks for help, which is the only one everywhere.
def askHelp : Word → Except UsageError Unit
  | long "help" none | short 'h' _ => .ok ()
  | long "help" (some value) => .error (.unexpectedValue value "--help")
  | word => .error word.unexpected

end Word

/-- What has been understood of the arguments of `inspect`. An option whose value stands in an
argument of its own is held back, with that value once it has come. -/
structure Scan where
  input : Option String
  set : Option ParameterSet
  chains : Bool
  pending : Option (Option String)
  optionsEnded : Bool
  help : Bool

namespace Scan

def start : Scan := ⟨none, none, false, none, false, false⟩

def setParams (scan : Scan) (value : String) : Except UsageError Scan :=
  if scan.set.isSome then .error (.repeatedOption "--params <PARAMS>")
  else
    match ParameterSet.parse value with
    | .ok set => .ok { scan with set := some set }
    | .error unknown => .error (.invalidValue value unknown)

def settle (scan : Scan) : Except UsageError Scan :=
  match scan.pending with
  | none => .ok scan
  | some none => .error .noValue
  | some (some value) => { scan with pending := none }.setParams value

def operand (scan : Scan) (argument : String) : Except UsageError Scan :=
  if scan.input.isSome then .error (.unexpectedArgument argument)
  else do
    let scan ← scan.settle
    return { scan with input := some argument }

def params (scan : Scan) (attached : Option String) : Except UsageError Scan := do
  let scan ← scan.settle
  match attached with
  | none => return { scan with pending := some none }
  | some value => scan.setParams value

def listChains (scan : Scan) : Except UsageError Scan := do
  let scan ← scan.settle
  if scan.chains then throw (.repeatedOption "--chains")
  else return { scan with chains := true }

-- Split off the value that is written together with a short option.
def attachedValue : List Char → Option String
  | [] => none
  | '=' :: value => some (String.ofList value)
  | value => some (String.ofList value)

-- An option that is not understood is complained about before one that is held back, and after
-- a request for help nothing else matters.
def next (scan : Scan) (argument : String) : Except UsageError Scan :=
  if scan.help then .ok scan
  else if scan.optionsEnded then scan.operand argument
  else
    match Word.ofArgument argument with
    | .separator => .ok { scan with optionsEnded := true }
    | .operand text =>
      if scan.pending = some none then .ok { scan with pending := some (some text) }
      else scan.operand text
    | .long "params" value => scan.params value
    | .short 'p' rest => scan.params (attachedValue rest)
    | .long "chains" none => scan.listChains
    | .long "chains" (some value) => .error (.unexpectedValue value "--chains")
    | word => do
      word.askHelp
      let scan ← scan.settle
      return { scan with help := true }

def finish (scan : Scan) : Except UsageError Request := do
  if scan.help then return .help .inspect
  let scan ← scan.settle
  match scan.input with
  | some input => return .inspect input scan.set scan.chains
  | none => throw .noInput

end Scan

namespace Request

def ofInspectArguments (arguments : List String) : Except UsageError Request := do
  let scan ← arguments.foldlM Scan.next Scan.start
  scan.finish

def ofParamsArguments : List String → Except UsageError Request
  | [] => .ok .listSets
  | argument :: rest =>
    match Word.ofArgument argument, rest with
    | .separator, [] => .ok .listSets
    | .separator, operand :: _ => .error (.unexpectedArgument operand)
    | word, _ => do
      word.askHelp
      return .help .params

-- No subcommand has subcommands of its own.
def ofHelpArguments : List String → Except UsageError Request
  | [] => .ok (.help .program)
  | name :: rest =>
    match Topic.ofSubcommand? name, rest with
    | none, _ => .error (.unknownSubcommand name)
    | some topic, [] => .ok (.help topic)
    | some _, deeper :: _ => .error (.unknownSubcommand deeper)

def ofArguments : List String → Except UsageError Request
  | [] => .error .noSubcommand
  | "inspect" :: arguments => ofInspectArguments arguments
  | "params" :: arguments => ofParamsArguments arguments
  | "help" :: arguments => ofHelpArguments arguments
  | argument :: rest =>
    match Word.ofArgument argument, rest with
    | .separator, [] => .error .noSubcommand
    | .separator, name :: _ =>
      if (Topic.ofSubcommand? name).isSome then .error (.unexpectedArgument name)
      else .error (.unknownSubcommand name)
    | .operand name, _ => .error (.unknownSubcommand name)
    | word, _ => do
      word.askHelp
      return .help .program

end Request

end Winternitz.CommandLine
