import DocForm.Field.Kind

/-! What a reader of forms may choose. -/

namespace DocForm

/-- Defaults for fields that do not say, and whether doubtful hints are errors. -/
structure Settings where
  role : String
  priority : Priority
  strict : Bool
deriving DecidableEq, Repr

def Settings.standard : Settings := ⟨"agent", .medium, false⟩

instance : Inhabited Settings := ⟨.standard⟩

end DocForm
