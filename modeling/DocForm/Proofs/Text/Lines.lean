import DocForm.Text.Split
import Mathlib.Data.List.TakeWhile

/-! Blank texts. Main statement: a text of which trimming leaves nothing has no lines. -/

namespace DocForm.Text

theorem trimStart_eq_nil_iff {cs : List Char} :
    trimStart cs = [] ↔ ∀ c ∈ cs, isBlank c = true :=
  List.dropWhile_eq_nil_iff

/-- What is left at the front of a text begins with a visible character. -/
theorem isBlank_of_trimStart_eq_cons {cs rest : List Char} {c : Char}
    (left : trimStart cs = c :: rest) : isBlank c = false := by
  have first := List.head?_dropWhile_not isBlank cs
  rw [trimStart] at left
  simpa [left] using first

theorem trimmed_eq_nil_iff {cs : List Char} : trimmed cs = [] ↔ ∀ c ∈ cs, isBlank c = true := by
  rw [← trimStart_eq_nil_iff, trimmed, trimEnd, List.reverse_eq_nil_iff, List.dropWhile_eq_nil_iff]
  refine ⟨fun blank => ?_, fun nothing => by simp [nothing]⟩
  cases left : trimStart cs with
  | nil => rfl
  | cons c rest =>
    have visible := isBlank_of_trimStart_eq_cons left
    have blankFirst := blank c (by simp [left])
    simp [visible] at blankFirst

theorem trim?_eq_none_iff {text : String} :
    trim? text = none ↔ ∀ c ∈ text.toList, isBlank c = true := by
  rw [← trimmed_eq_nil_iff, trim?, trim]
  simp

theorem mem_of_mem_piecesBy {cuts : Char → Bool} {cs piece : List Char} {c : Char}
    (member : piece ∈ piecesBy cuts cs) (inside : c ∈ piece) : c ∈ cs := by
  induction cs generalizing piece with
  | nil => simp_all [piecesBy]
  | cons first rest ih =>
    simp only [piecesBy] at member
    split at member
    · rcases List.mem_cons.mp member with rfl | later
      · simp at inside
      · exact List.mem_cons_of_mem _ (ih later inside)
    · split at member
      · simp_all
      · rename_i head more found
        rcases List.mem_cons.mp member with rfl | later
        · rcases List.mem_cons.mp inside with rfl | later
          · exact List.mem_cons_self
          · exact List.mem_cons_of_mem _ (ih (by simp [found]) later)
        · exact List.mem_cons_of_mem _ (ih (by simp [found, later]) inside)

theorem lines_eq_nil_of_trim? {text : String} (blank : trim? text = none) : lines text = [] := by
  rw [lines, List.filter_eq_nil_iff]
  intro line member
  obtain ⟨piece, present, rfl⟩ := List.mem_map.mp member
  obtain ⟨cs, cut, rfl⟩ := List.mem_map.mp present
  have allBlank := trim?_eq_none_iff.mp blank
  have nothing : trimmed cs = [] :=
    trimmed_eq_nil_iff.mpr fun c inside => allBlank c (mem_of_mem_piecesBy cut inside)
  simp [trim, nothing]

end DocForm.Text
