import DocForm.CommandLine.Arguments
import DocForm.Text.Split

/-! The help pages of the program and of its commands. A page is shown in brief, with a line
for each entry, or in full, with a paragraph. -/

namespace DocForm.CommandLine

def programName : String := "markform"

def versionText : String := "markform-cli 0.1.0"

structure HelpEntry where
  label : String
  brief : String
  /-- More paragraphs, which only the full page shows. -/
  details : List String := []
  /-- What holds when the option is not given. -/
  standard : Option String := none
  /-- What the full page says in place of the brief text. -/
  inFull : Option String := none

structure HelpPage where
  summary : String
  details : List String := []
  usage : String
  commands : List HelpEntry := []
  arguments : List HelpEntry := []
  options : List HelpEntry := []

namespace HelpPage

def columns : Nat := 100

/-- How far the paragraphs of a full page are moved in. -/
def indent : Nat := 10

def blanks (count : Nat) : String := String.ofList (List.replicate count ' ')

/-- Words in lines of no more columns than `width`, as many in each as fit. `line` is the
line so far. -/
def fillFrom (width : Nat) (line : String) : List String → List String
  | [] => [line]
  | word :: rest =>
    if line.length + 1 + word.length ≤ width then fillFrom width (line ++ " " ++ word) rest
    else line :: fillFrom width word rest

def fill (width : Nat) (paragraph : String) : List String :=
  match Text.splitOn ' ' paragraph with
  | [] => []
  | word :: rest => fillFrom width word rest

def fillAll (width : Nat) : List String → List String
  | [] => []
  | [paragraph] => fill width paragraph
  | paragraph :: rest => fill width paragraph ++ "" :: fillAll width rest

def standardNote (entry : HelpEntry) : Option String :=
  entry.standard.map fun standard => "[default: " ++ standard ++ "]"

def briefLines (entries : List HelpEntry) : List String :=
  let widest := (entries.map (·.label.length)).foldl max 0
  entries.map fun entry =>
    let note := ((standardNote entry).map (" " ++ ·)).getD ""
    "  " ++ entry.label ++ blanks (widest + 2 - entry.label.length) ++ entry.brief ++ note

def fullEntry (entry : HelpEntry) : List String :=
  let paragraphs :=
    entry.inFull.getD entry.brief :: entry.details ++ (standardNote entry).toList
  ("  " ++ entry.label) :: (fillAll (columns - indent) paragraphs).map (blanks indent ++ ·)

def fullLines : List HelpEntry → List String
  | [] => []
  | [entry] => fullEntry entry
  | entry :: rest => fullEntry entry ++ "" :: fullLines rest

/-- A titled part of a page, unless it is empty. -/
def titled (title : String) (lines : List String) : List String :=
  if lines.isEmpty then [] else "" :: title :: lines

/-- The lines of a page. Commands are listed in brief on a full page too. -/
def lines (page : HelpPage) (full : Bool) : List String :=
  let entryLines := if full then fullLines else briefLines
  let head := if full then page.summary :: page.details else [page.summary]
  fillAll columns head ++ ["", "Usage: " ++ page.usage] ++
    titled "Commands:" (briefLines page.commands) ++
    titled "Arguments:" (entryLines page.arguments) ++
    titled "Options:" (entryLines page.options)

end HelpPage

namespace CommandName

def summary : CommandName → String
  | .inspect => "Print the parsed form (schema, responses and warnings) as JSON"
  | .check => "Validate forms and report their progress"
  | .scope => "Resolve scope references against a form"

end CommandName

def helpSummary : String := "Print this message or the help of the given subcommand(s)"

def roleEntry : HelpEntry :=
  ⟨"    --role <ROLE>", "Role given to fields that do not declare one", [],
    some Settings.standard.role, none⟩

def priorityEntry : HelpEntry :=
  ⟨"    --priority <PRIORITY>", "Priority given to fields that do not declare one", [],
    some Settings.standard.priority.name, none⟩

def strictEntry : HelpEntry :=
  ⟨"    --strict", "Strict mode",
    ["When enabled, problems that would normally only be reported as warnings (such as a " ++
      "placeholder that is not a valid value for its field) make parsing fail instead."],
    none, none⟩

def helpEntry : HelpEntry :=
  ⟨"-h, --help", "Print help (see more with '--help')", [], none,
    some "Print help (see a summary with '-h')"⟩

def versionEntry : HelpEntry := ⟨"-V, --version", "Print version", [], none, none⟩

def fileEntry : HelpEntry := ⟨"<FILE>", "Node tree of the document, as JSON", [], none, none⟩

def programPage : HelpPage where
  summary := "Inspect, validate and track progress of forms embedded in markup documents."
  usage := programName ++ " [OPTIONS] <COMMAND>"
  commands :=
    ([.inspect, .check, .scope].map fun name : CommandName =>
      ⟨name.word, name.summary, [], none, none⟩) ++ [⟨"help", helpSummary, [], none, none⟩]
  options := [roleEntry, priorityEntry, strictEntry, helpEntry, versionEntry]

def CommandName.page : CommandName → HelpPage
  | .inspect => {
      summary := CommandName.inspect.summary
      usage := programName ++ " inspect [OPTIONS] <FILE>"
      arguments := [fileEntry]
      options := [
        ⟨"    --compact", "Print compact JSON instead of pretty-printing it", [], none, none⟩,
        roleEntry, priorityEntry, strictEntry, helpEntry] }
  | .check => {
      summary := CommandName.check.summary
      usage := programName ++ " check [OPTIONS] <FILES>..."
      arguments :=
        [⟨"<FILES>...", "Node trees of the documents to check, as JSON", [], none, none⟩]
      options := [
        roleEntry,
        ⟨"    --skip <FIELD_ID>",
          "Fields to count as skipped even though the document does not say so", [], none, none⟩,
        ⟨"    --json", "Print one JSON report per file instead of a summary", [], none, none⟩,
        priorityEntry, strictEntry, helpEntry] }
  | .scope => {
      summary := CommandName.scope.summary
      details := [
        "Each reference is printed in its resolved form: \x60field.id\x60 comes back as an " ++
          "option or a column reference depending on the field it names. Cell row indexes are checked " ++
          "against the rows the document currently has."]
      usage := programName ++ " scope [OPTIONS] <FILE> <REFS>..."
      arguments := [
        fileEntry,
        ⟨"<REFS>...",
          "References such as \x60rating\x60, \x60rating.bullish\x60 or \x60films.title[0]\x60",
          [], none, none⟩]
      options := [roleEntry, priorityEntry, strictEntry, helpEntry] }

/-- The page of the word `help`, which has no options. -/
def helpPage : HelpPage where
  summary := helpSummary
  usage := programName ++ " help [COMMAND]..."
  arguments := [⟨"[COMMAND]...", "Print help for the subcommand(s)", [], none, none⟩]

/-- The lines that are shown for a topic. The page of the word `help` is always brief. -/
def helpLines (full : Bool) : HelpTopic → List String
  | .program => programPage.lines full
  | .command name => name.page.lines full
  | .help => helpPage.lines false

end DocForm.CommandLine
