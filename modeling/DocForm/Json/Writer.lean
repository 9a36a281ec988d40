import DocForm.Json.Basic
import DocForm.Decimal.Layout

/-! Writing JSON, on one line or indented. -/

namespace DocForm.Json

private def hexDigit (n : Nat) : Char := (Nat.digitChar n)

/-- Only what JSON demands is escaped: quotes, backslashes and control characters. -/
def escape (c : Char) : List Char :=
  match c with
  | '"' => ['\\', '"']
  | '\\' => ['\\', '\\']
  | '\x08' => ['\\', 'b']
  | '\x0c' => ['\\', 'f']
  | '\n' => ['\\', 'n']
  | '\r' => ['\\', 'r']
  | '\t' => ['\\', 't']
  | c =>
    if c.toNat < 0x20 then
      ['\\', 'u', '0', '0', hexDigit (c.toNat / 16), hexDigit (c.toNat % 16)]
    else [c]

def quote (text : String) : String :=
  "\"" ++ String.ofList (text.toList.flatMap escape) ++ "\""

def wholeText (n : Int) : String :=
  String.ofList (if n < 0 then '-' :: Decimal.digitsOf n.natAbs else Decimal.digitsOf n.natAbs)

/-- A double that JSON cannot write is null. -/
def floatText (x : Float) : String :=
  if x.isFinite then Decimal.Layout.data.render x else "null"

private def onLine (opening closing : String) (items : List String) : String :=
  opening ++ ",".intercalate items ++ closing

private def onLines (opening closing : String) (depth : Nat) (items : List String) : String :=
  if items.isEmpty then opening ++ closing
  else
    let indent (level : Nat) := "\n" ++ String.ofList (List.replicate (2 * level) ' ')
    opening ++ indent (depth + 1) ++ ("," ++ indent (depth + 1)).intercalate items ++
      indent depth ++ closing

mutual

def compact : Json → String
  | .null => "null"
  | .bool value => if value then "true" else "false"
  | .int value => wholeText value
  | .float value => floatText value
  | .str value => quote value
  | .arr items => onLine "[" "]" (compactItems items)
  | .obj members => onLine "\x7b" "\x7d" (compactMembers members)

def compactItems : List Json → List String
  | [] => []
  | item :: rest => compact item :: compactItems rest

def compactMembers : List (String × Json) → List String
  | [] => []
  | (name, value) :: rest => (quote name ++ ":" ++ compact value) :: compactMembers rest

end

mutual

/-- The value over several lines; `depth` lists and records are open around it. -/
def pretty (depth : Nat) : Json → String
  | .null => "null"
  | .bool value => if value then "true" else "false"
  | .int value => wholeText value
  | .float value => floatText value
  | .str value => quote value
  | .arr items => onLines "[" "]" depth (prettyItems (depth + 1) items)
  | .obj members => onLines "\x7b" "\x7d" depth (prettyMembers (depth + 1) members)

def prettyItems (depth : Nat) : List Json → List String
  | [] => []
  | item :: rest => pretty depth item :: prettyItems depth rest

def prettyMembers (depth : Nat) : List (String × Json) → List String
  | [] => []
  | (name, value) :: rest =>
    (quote name ++ ": " ++ pretty depth value) :: prettyMembers depth rest

end

end DocForm.Json
