import DocForm.Text.Split

/-! Slugs: the words of a label, made of ASCII letters and digits, in small letters and
joined by underscores. -/

namespace DocForm

def isWordChar (c : Char) : Bool :=
  ('a' ≤ c && c ≤ 'z') || ('A' ≤ c && c ≤ 'Z') || ('0' ≤ c && c ≤ '9')

/-- A slug while its label is being read. An underscore is pending behind a gap; it is written
only in front of the next word. -/
structure SlugScan where
  slug : String
  pending : Bool

def SlugScan.start : SlugScan := ⟨"", false⟩

def SlugScan.read (scan : SlugScan) (c : Char) : SlugScan :=
  if isWordChar c then
    let slug := if scan.pending && !scan.slug.isEmpty then scan.slug.push '_' else scan.slug
    ⟨slug.push c.toLower, false⟩
  else { scan with pending := true }

/-- A name for a label; it may be empty, and it may start with a digit. -/
def slugify (label : String) : String := (label.toList.foldl SlugScan.read .start).slug

end DocForm
