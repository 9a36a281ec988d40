import DocForm.Reference.Resolve
import DocForm.Validation.Issue
import DocForm.Wire.Answer

/-! References and issues as JSON. A reference is its written form. -/

namespace DocForm

namespace Reference

def toJson (reference : Reference) : Json := .str reference.render

def ofJson? (json : Json) : Option Reference :=
  json.text?.bind fun text => (parse text).toOption

end Reference

namespace Issue

def toJson (issue : Issue) : Json :=
  .obj [("code", Vocabulary.toJson issue.code), ("severity", Vocabulary.toJson issue.severity),
    ("message", .str issue.message), ("ref", issue.reference.toJson)]

def ofJson? (json : Json) : Option Issue := do
  let members ← json.record? ["code", "severity", "message", "ref"]
  return ⟨← members.required "code" Vocabulary.ofJson?,
    ← members.required "severity" Vocabulary.ofJson?,
    ← members.required "message" Json.text?, ← members.required "ref" Reference.ofJson?⟩

end Issue

end DocForm
