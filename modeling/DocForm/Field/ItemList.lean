import DocForm.Content
import DocForm.Field.Lifecycle
import DocForm.Web.Address

/-! Fields that hold a list of texts or web addresses, one on each line. -/

namespace DocForm

/-- A line without its bullet, a dash or a star and a blank. -/
def withoutBullet (line : String) : String :=
  Text.trim ((Text.after? "- " line <|> Text.after? "* " line).getD line)

def listItems (content : String) : List String :=
  -- Lines come trimmed, so a bullet with nothing behind it has lost its blank and stays.
  ((Text.lines content).map withoutBullet).filter fun item => !item.isEmpty

namespace Heading

def readList (heading : Heading) (settings : Settings) (urls : Bool) :
    Except ParseError Entry := do
  let required ← heading.flag "required"
  let (minItems, maxItems) ← heading.counts "minItems" "maxItems"
  let (itemMinLength, itemMaxLength) ← heading.counts "itemMinLength" "itemMaxLength"
  let uniqueItems ← heading.flag "uniqueItems"
  let (hints, remarks) ← heading.hints settings.strict fun text => !urls || isHttpUrl text
  let limits : ListLimits :=
    ⟨minItems, maxItems, itemMinLength, itemMaxLength, uniqueItems, hints⟩
  let content := heading.node.fenceValue?
  let items := listItems (content.getD "")
  return ⟨required, if urls then .urlList limits else .stringList limits, content,
    if urls then .urlList items else .stringList items, remarks⟩

end Heading

end DocForm
