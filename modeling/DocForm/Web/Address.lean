import DocForm.Web.Host

/-! Addresses of the web: a scheme, a host, perhaps with a user before it and a port behind
it, and then anything. -/

namespace DocForm

namespace Web

/-- Control characters and the space, which are taken off both ends. -/
def isControlOrSpace (c : Char) : Bool := c.toNat ≤ 0x20

/-- Tabs and the ends of lines, which are left out everywhere. -/
def isLeftOut (c : Char) : Bool := c == '\t' || c == '\n' || c == '\r'

def bareAddress (cs : List Char) : List Char :=
  (((cs.dropWhile isControlOrSpace).reverse.dropWhile isControlOrSpace).reverse).filter
    fun c => !isLeftOut c

def isSchemeRest (c : Char) : Bool := c.isAlphanum || c == '+' || c == '-' || c == '.'

def takeScheme? (cs : List Char) : Option (String × List Char) :=
  let scheme := cs.takeWhile isSchemeRest
  match cs.drop scheme.length with
  | ':' :: rest =>
    if scheme.head?.any Char.isAlpha then some (String.ofList (scheme.map Char.toLower), rest)
    else none
  | _ => none

def isSlash (c : Char) : Bool := c == '/' || c == '\\'

/-- What ends the part of an address that names the host. -/
def endsAuthority (c : Char) : Bool := isSlash c || c == '?' || c == '#'

/-- The text behind the last sign between user and host. -/
def dropUser (authority : List Char) : List Char :=
  (authority.reverse.takeWhile (· != '@')).reverse

/-- The host and what follows it from the first colon outside brackets on. -/
def splitPort (inBrackets : Bool) : List Char → List Char × List Char
  | [] => ([], [])
  | c :: rest =>
    if c == ':' && !inBrackets then ([], c :: rest)
    else
      let (host, port) := splitPort ((inBrackets || c == '[') && c != ']') rest
      (c :: host, port)

def maxPort : Nat := 65535

/-- Nothing, or a colon and a number, which may be left out. -/
def isPort (cs : List Char) : Bool :=
  cs.isEmpty || (cs.tail.all Decimal.isDigit && Decimal.digitsValue cs.tail ≤ maxPort)

/-- The text behind the scheme names a host. Any number of slashes may stand before it. -/
def namesHost (cs : List Char) : Bool :=
  let authority := (cs.dropWhile isSlash).takeWhile fun c => !endsAuthority c
  let (host, port) := splitPort false (dropUser authority)
  isHost host && isPort port

end Web

/-- An absolute address with the scheme `http` or `https` and a host, white space around it
aside. -/
def isHttpUrl (text : String) : Bool :=
  match Web.takeScheme? (Web.bareAddress (Text.trimmed text.toList)) with
  | some (scheme, rest) => (scheme == "http" || scheme == "https") && Web.namesHost rest
  | none => false

end DocForm
