/-! Identifiers: a lower-case letter, then lower-case letters, digits and underscores. -/

namespace DocForm

def isLower (c : Char) : Bool := 'a' ≤ c && c ≤ 'z'

def isIdentifierRest (c : Char) : Bool := isLower c || ('0' ≤ c && c ≤ '9') || c == '_'

def isIdentifierChars : List Char → Bool
  | [] => false
  | first :: rest => isLower first && rest.all isIdentifierRest

/-- An ASCII identifier, as fields, options and columns are named by. -/
def isIdentifier (text : String) : Bool := isIdentifierChars text.toList

end DocForm
