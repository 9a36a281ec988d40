/-! Closed sets of words: a type whose members are each written as one word. -/

namespace DocForm

/-- The members of a type and the word for each. -/
class Vocabulary (α : Type) where
  /-- What the words stand for, as a refusal calls it. -/
  subject : String
  members : List α
  word : α → String

namespace Vocabulary

variable {α : Type} [Vocabulary α]

/-- The member that a word stands for. Case and white space count. -/
def read? (text : String) : Option α := members.find? fun member => word member == text

def refusal (α : Type) [Vocabulary α] (text : String) : String :=
  let subject := subject α
  let expected := ", ".intercalate ((members (α := α)).map word)
  s!"invalid {subject}: '{text}', expected: {expected}"

def parse (text : String) : Except String α :=
  match read? text with
  | some member => .ok member
  | none => .error (refusal α text)

end Vocabulary

end DocForm
