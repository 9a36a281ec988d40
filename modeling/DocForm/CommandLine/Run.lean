import DocForm.CommandLine.Arguments
import DocForm.CommandLine.Help
import DocForm.CommandLine.Report
import DocForm.Form.Parse
import DocForm.Json.Reader
import DocForm.Wire.Declaration

/-! Running a command over the contents of files. -/

namespace DocForm.CommandLine

structure Outcome where
  code : Nat
  output : List String
  complaints : List String
deriving DecidableEq, Repr

inductive LoadError where
  | unreadable (file : String)
  | notATree (file : String)
  | parse (file : String) (error : ParseError)

def LoadError.message : LoadError → String
  | .unreadable file => s!"failed to read {file}"
  | .notATree file => s!"{file} is not a node tree"
  | .parse file error =>
    let reason := error.message
    s!"{file}: {reason}"

/-- The form in a file. `contents` gives the text of a file that can be read. -/
def load (contents : String → Option String) (settings : Settings) (file : String) :
    Except LoadError ParsedForm :=
  match contents file with
  | none => .error (.unreadable file)
  | some text =>
    match (Json.read? text).bind Node.ofJson? with
    | none => .error (.notATree file)
    | some root =>
      match parseForm settings root with
      | .ok form => .ok form
      | .error error => .error (.parse file error)

def exitCode (failed : Bool) : Nat := if failed then 1 else 0

def inspectForm (form : ParsedForm) (isCompact : Bool) : Outcome :=
  let json := form.toJson
  ⟨0, [if isCompact then json.compact else json.pretty 0], []⟩

/-- One report for each form that could be read, in the order of the files. -/
def checkForms (loaded : List (String × Except LoadError ParsedForm)) (skipped : List String)
    (asJson : Bool) : Outcome :=
  let results := loaded.map fun (file, result) =>
    result.map fun form => Report.ofForm file form skipped
  let output := results.flatMap fun
    | .ok report => if asJson then [report.toJson.compact] else report.lines
    | .error _ => []
  let complaints := results.filterMap fun
    | .ok _ => none
    | .error error => some error.message
  let failed := results.any fun
    | .ok report => report.hasErrors
    | .error _ => true
  ⟨exitCode failed, output, complaints⟩

/-- A line for each reference that points at something in the form as it is now. -/
def scopeForm (form : ParsedForm) (references : List String) : Outcome :=
  let counts := Reference.rowCounts form.schema form.responses
  let resolve (text : String) : Except ReferenceError Reference := do
    Reference.resolve form.schema (some counts) (← Reference.parse text)
  let resolved := references.map fun text => (text, resolve text)
  let output := resolved.filterMap fun (text, result) =>
    result.toOption.map fun reference => text ++ "\t" ++ describeReference reference
  let complaints := resolved.filterMap fun (text, result) =>
    match result with
    | .ok _ => none
    | .error error => some (text ++ "\t" ++ error.message)
  ⟨exitCode (!complaints.isEmpty), output, complaints⟩

def withForm (result : Except LoadError ParsedForm) (use : ParsedForm → Outcome) : Outcome :=
  match result with
  | .ok form => use form
  | .error error => ⟨1, [], [error.message]⟩

def Command.files : Command → List String
  | .inspect file _ => [file]
  | .check files _ _ => files
  | .scope file _ => [file]

/-- Run a command; the texts of its files come from `contents`. -/
def Command.run (command : Command) (contents : String → Option String) (settings : Settings) :
    Outcome :=
  match command with
  | .inspect file isCompact =>
    withForm (load contents settings file) fun form => inspectForm form isCompact
  | .check files skipped asJson =>
    checkForms (files.map fun file => (file, load contents settings file)) skipped asJson
  | .scope file references =>
    withForm (load contents settings file) fun form => scopeForm form references

def filesOf (arguments : List String) : List String :=
  match parseArguments arguments with
  | .ok (.run command _) => command.files
  | _ => []

def run (contents : String → Option String) (arguments : List String) : Outcome :=
  match parseArguments arguments with
  | .error error => ⟨2, [], [error.message]⟩
  | .ok .version => ⟨0, [versionText], []⟩
  | .ok (.help full topic) => ⟨0, helpLines full topic, []⟩
  | .ok (.run command settings) => command.run contents settings

def Outcome.stdout (outcome : Outcome) : String :=
  String.join (outcome.output.map fun line => line ++ "\n")

end DocForm.CommandLine
