import DocForm.Response
import DocForm.Text.Split

/-! Sentinels: texts such as `%SKIP% (reason)` that stand in place of an answer. Fields
honour the canonical spelling only; cells and remarks look for every spelling. -/

namespace DocForm

inductive SentinelKind where
  | skip
  | abort
deriving DecidableEq, Repr, Inhabited

namespace SentinelKind

def name : SentinelKind → String
  | .skip => "SKIP"
  | .abort => "ABORT"

def token (kind : SentinelKind) : String := "%" ++ kind.name ++ "%"

def state : SentinelKind → ResponseState
  | .skip => .skipped
  | .abort => .aborted

end SentinelKind

structure Sentinel where
  kind : SentinelKind
  reason : Option String
deriving DecidableEq, Repr

namespace Sentinel

def response {α : Type} (sentinel : Sentinel) : Response α :=
  match sentinel.kind with
  | .skip => .skipped sentinel.reason
  | .abort => .aborted sentinel.reason

/-- A reason is kept trimmed; a blank one is none. -/
def ofReason (kind : SentinelKind) (reason : Option (List Char)) : Sentinel :=
  ⟨kind, (reason.map Text.trimmed).bind fun kept =>
    if kept.isEmpty then none else some (String.ofList kept)⟩

/-- The reason in parentheses after a token. Any other text there is passed over. -/
def parenthesised (rest : List Char) : Option (List Char) := do
  let inner ← ['('].isPrefixOf? (Text.trimmed rest)
  [')'].isSuffixOf? inner

def parseKind (content : List Char) (kind : SentinelKind) : Option Sentinel :=
  (kind.token.toList.isPrefixOf? content).map fun rest => ofReason kind (parenthesised rest)

/-- The sentinel that a content consists of, in its canonical spelling. -/
def parse? (content : String) : Option Sentinel :=
  let text := Text.trimmed content.toList
  parseKind text .skip <|> parseKind text .abort

/-- The characters after a name that is written in capitals or small letters. -/
def afterName? (name : List Char) (cs : List Char) : Option (List Char) :=
  let head := cs.take name.length
  if head.map Char.toUpper = name then some (cs.drop name.length) else none

/-- What follows the name: `%` and perhaps a reason in parentheses, `:reason%`, or
`(reason)%`. -/
def detectEnding (kind : SentinelKind) : List Char → Option Sentinel
  | '%' :: rest => some (ofReason kind (parenthesised rest))
  | ':' :: rest => (['%'].isSuffixOf? rest).map fun reason => ofReason kind (some reason)
  | '(' :: rest => ([')', '%'].isSuffixOf? rest).map fun reason => ofReason kind (some reason)
  | _ => none

def detectKind (named : List Char) (kind : SentinelKind) : Option Sentinel :=
  (afterName? kind.name.toList named).bind (detectEnding kind)

/-- The sentinel that a text looks like, in any spelling. -/
def detect? (text : String) : Option Sentinel :=
  match Text.trimmed text.toList with
  | '%' :: named => detectKind named .skip <|> detectKind named .abort
  | _ => none

end Sentinel

end DocForm
