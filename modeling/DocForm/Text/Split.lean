import DocForm.Text.Blank

/-! Cutting a text at separators, into lines, and at a fixed beginning or end. Main
statement: joining the pieces with the separator gives the text back. -/

namespace DocForm.Text

/-- The pieces between characters that cut; there is always at least one. -/
def piecesBy (cuts : Char → Bool) : List Char → List (List Char)
  | [] => [[]]
  | c :: rest =>
    if cuts c then [] :: piecesBy cuts rest
    else
      match piecesBy cuts rest with
      | [] => [[c]]
      | piece :: more => (c :: piece) :: more

def pieces (separator : Char) (cs : List Char) : List (List Char) :=
  piecesBy (fun c => c == separator) cs

def joinPieces (separator : Char) : List (List Char) → List Char
  | [] => []
  | [piece] => piece
  | piece :: rest => piece ++ separator :: joinPieces separator rest

def splitOn (separator : Char) (text : String) : List String :=
  (pieces separator text.toList).map String.ofList

/-- The lines of a text that are not blank, each trimmed. A carriage return before a
line feed is white space, so both line endings read alike. -/
def lines (text : String) : List String :=
  ((splitOn '\n' text).map trim).filter fun line => !line.isEmpty

def after? (beginning : String) (text : String) : Option String :=
  (beginning.toList.isPrefixOf? text.toList).map String.ofList

def before? (ending : String) (text : String) : Option String :=
  (ending.toList.isSuffixOf? text.toList).map String.ofList

def dropStart (beginning : String) (text : String) : String :=
  (after? beginning text).getD text

def dropEnd (ending : String) (text : String) : String :=
  (before? ending text).getD text

theorem piecesBy_ne_nil (cuts : Char → Bool) (cs : List Char) : piecesBy cuts cs ≠ [] := by
  cases cs with
  | nil => simp [piecesBy]
  | cons c rest =>
    simp only [piecesBy]
    split
    · simp
    · split <;> simp

theorem joinPieces_pieces (separator : Char) (cs : List Char) :
    joinPieces separator (pieces separator cs) = cs := by
  induction cs with
  | nil => rfl
  | cons c rest ih =>
    simp only [pieces, piecesBy] at ih ⊢
    split
    · rename_i same
      have same : c = separator := by simpa using same
      subst same
      cases found : piecesBy (fun d => d == c) rest with
      | nil => exact absurd found (piecesBy_ne_nil _ rest)
      | cons piece more => simp [joinPieces, ← found, ih]
    · split
      · rename_i found
        exact absurd found (piecesBy_ne_nil _ rest)
      · rename_i piece more found
        rw [found] at ih
        cases more with
        | nil => simpa [joinPieces] using congrArg (c :: ·) ih
        | cons next others => simpa [joinPieces] using congrArg (c :: ·) ih

theorem not_cuts_of_mem_piecesBy {cuts : Char → Bool} {cs piece : List Char}
    (member : piece ∈ piecesBy cuts cs) : ∀ c ∈ piece, cuts c = false := by
  induction cs generalizing piece with
  | nil => simp_all [piecesBy]
  | cons c rest ih =>
    simp only [piecesBy] at member
    split at member
    · rcases List.mem_cons.mp member with rfl | later
      · simp
      · exact ih later
    · rename_i kept
      have kept : cuts c = false := by simpa using kept
      split at member
      · simp only [List.mem_singleton] at member
        subst member
        simpa using kept
      · rename_i first more found
        rcases List.mem_cons.mp member with rfl | later
        · intro d inside
          rcases List.mem_cons.mp inside with rfl | inFirst
          · exact kept
          · exact ih (by simp [found]) d inFirst
        · exact ih (by simp [found, later])

end DocForm.Text
