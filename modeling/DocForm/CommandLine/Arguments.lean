import DocForm.Settings
import DocForm.Text.Split

/-! The arguments of the program: a command, its own options and files, and options that
may stand before or after the command. -/

namespace DocForm.CommandLine

inductive CommandName where
  | inspect
  | check
  | scope
deriving DecidableEq, Repr

def CommandName.word : CommandName → String
  | .inspect => "inspect"
  | .check => "check"
  | .scope => "scope"

instance : Vocabulary CommandName :=
  ⟨"command", [.inspect, .check, .scope], CommandName.word⟩

inductive Command where
  | inspect (file : String) (isCompact : Bool)
  | check (files skipped : List String) (asJson : Bool)
  | scope (file : String) (references : List String)
deriving DecidableEq, Repr

inductive HelpTopic where
  | program
  | command (name : CommandName)
  | help
deriving DecidableEq, Repr

def HelpTopic.ofName : Option CommandName → HelpTopic
  | none => .program
  | some name => .command name

inductive Request where
  | run (command : Command) (settings : Settings)
  /-- `full` help explains more than a summary. -/
  | help (full : Bool) (topic : HelpTopic)
  | version
deriving DecidableEq, Repr

inductive UsageError where
  | noCommand
  | unknownCommand (word : String)
  | unknownOption (option : String)
  | repeatedOption (option : String)
  | noValue (option : String)
  | unexpectedValue (option : String)
  | invalidValue (option value : String)
  | missingArgument (name : String)
  | unexpectedArgument (word : String)
deriving DecidableEq, Repr

def UsageError.message : UsageError → String
  | .noCommand => "a command is needed: inspect, check or scope"
  | .unknownCommand word => s!"unrecognized command '{word}'"
  | .unknownOption option => s!"unknown option '{option}'"
  | .repeatedOption option => s!"option '{option}' cannot be used more than once"
  | .noValue option => s!"option '{option}' needs a value"
  | .unexpectedValue option => s!"option '{option}' takes no value"
  | .invalidValue option value => s!"invalid value '{value}' for '{option}'"
  | .missingArgument name => s!"missing argument: {name}"
  | .unexpectedArgument word => s!"unexpected argument '{word}'"

structure Given where
  role : Option String := none
  priority : Option Priority := none
  flags : List String := []
  skipped : List String := []
  words : List String := []

namespace Given

def has (given : Given) (flag : String) : Bool := given.flags.contains flag

def setValue (given : Given) (option value : String) : Except UsageError Given :=
  match option with
  | "--role" =>
    if given.role.isSome then .error (.repeatedOption option)
    else .ok { given with role := some value }
  | "--priority" =>
    if given.priority.isSome then .error (.repeatedOption option)
    else
      match Vocabulary.read? value with
      | some priority => .ok { given with priority := some priority }
      | none => .error (.invalidValue option value)
  | _ => .ok { given with skipped := given.skipped ++ [value] }

def setFlag (given : Given) (flag : String) : Except UsageError Given :=
  if given.has flag then .error (.repeatedOption flag)
  else .ok { given with flags := given.flags ++ [flag] }

/-- Take a word as the next file or reference. Files have names that are not empty. -/
def addWord (name : CommandName) (given : Given) (word : String) : Except UsageError Given :=
  if name = .inspect && !given.words.isEmpty then .error (.unexpectedArgument word)
  else if word.isEmpty && (name ≠ .scope || given.words.isEmpty) then
    .error (.invalidValue "FILE" word)
  else .ok { given with words := given.words ++ [word] }

end Given

def valueOptions : Option CommandName → List String
  | some .check => ["--role", "--priority", "--skip"]
  | _ => ["--role", "--priority"]

def flagOptions : Option CommandName → List String
  | some .inspect => ["--strict", "--compact"]
  | some .check => ["--strict", "--json"]
  | _ => ["--strict"]

def splitOption (argument : String) : String × Option String :=
  let cs := argument.toList
  let name := String.ofList (cs.takeWhile (· ≠ '='))
  match cs.dropWhile (· ≠ '=') with
  | [] => (name, none)
  | _ :: value => (name, some (String.ofList value))

/-- A lone hyphen is a word like any other. -/
def looksLikeOption (argument : String) : Bool :=
  argument.startsWith "-" && argument ≠ "-"

def assemble (name : CommandName) (given : Given) : Except UsageError Command :=
  match name, given.words with
  | .inspect, [] => .error (.missingArgument "FILE")
  | .inspect, file :: _ => .ok (.inspect file (given.has "--compact"))
  | .check, [] => .error (.missingArgument "FILES")
  | .check, files => .ok (.check files given.skipped (given.has "--json"))
  | .scope, [] => .error (.missingArgument "FILE")
  | .scope, [_] => .error (.missingArgument "REFS")
  | .scope, file :: references => .ok (.scope file references)

/-- The settings given around the name of a command. Of two values the later holds. -/
def settingsOf (outer inner : Given) : Settings where
  role := (inner.role <|> outer.role).getD Settings.standard.role
  priority := (inner.priority <|> outer.priority).getD Settings.standard.priority
  strict := outer.has "--strict" || inner.has "--strict"

def helpTopic : List String → Except UsageError Request
  | [] => .ok (.help true .program)
  | word :: rest =>
    let topic := if word = "help" then some .help else (Vocabulary.read? word).map .command
    match topic, rest with
    | some topic, [] => .ok (.help true topic)
    | some _, extra :: _ => .error (.unknownCommand extra)
    | none, _ => .error (.unknownCommand word)

/-- Words that can no longer be options. -/
def finishWords (outer : Given) (name : Option CommandName) (given : Given)
    (words : List String) : Except UsageError Request :=
  match name with
  | some name => do
    let given ← words.foldlM (Given.addWord name) given
    return .run (← assemble name given) (settingsOf outer given)
  | none =>
    match words with
    | [] => .error .noCommand
    | word :: _ => .error (.unexpectedArgument word)

/-- Read arguments from left to right. `outer` was given before the command word, once it
has been met. -/
def readArguments (outer : Given) (name : Option CommandName) (given : Given) :
    List String → Except UsageError Request
  | [] => finishWords outer name given []
  | "--" :: words => finishWords outer name given words
  | argument :: rest =>
    if argument.startsWith "--" then
      let (option, value) := splitOption argument
      if option = "--help" && value.isNone then .ok (.help true (.ofName name))
      else if option = "--version" && value.isNone && name.isNone then .ok .version
      else if (flagOptions name).contains option then
        if value.isSome then .error (.unexpectedValue option)
        else
          match given.setFlag option with
          | .ok given => readArguments outer name given rest
          | .error error => .error error
      else if (valueOptions name).contains option then
        match value, rest with
        | some value, rest =>
          match given.setValue option value with
          | .ok given => readArguments outer name given rest
          | .error error => .error error
        | none, [] => .error (.noValue option)
        | none, value :: rest =>
          if looksLikeOption value then .error (.noValue option)
          else
            match given.setValue option value with
            | .ok given => readArguments outer name given rest
            | .error error => .error error
      else .error (.unknownOption option)
    else if looksLikeOption argument then
      match argument.toList with
      | '-' :: 'h' :: _ => .ok (.help false (.ofName name))
      | '-' :: 'V' :: _ => if name.isNone then .ok .version else .error (.unknownOption argument)
      | _ => .error (.unknownOption argument)
    else
      match name with
      | some found =>
        match given.addWord found argument with
        | .ok given => readArguments outer name given rest
        | .error error => .error error
      | none =>
        if argument = "help" then helpTopic rest
        else
          match Vocabulary.read? argument with
          | some found => readArguments given (some found) {} rest
          | none => .error (.unknownCommand argument)

def parseArguments (arguments : List String) : Except UsageError Request :=
  readArguments {} none {} arguments

end DocForm.CommandLine
