import DocForm.Proofs.Text.Lines

/-! White space around a text. Main statement: of white space around a text with visible ends,
trimming leaves the text. -/

namespace DocForm.Text

/-- A text of white space only. -/
def IsBlank (text : String) : Prop := ∀ c ∈ text.toList, isBlank c = true

instance (text : String) : Decidable (IsBlank text) :=
  decidable_of_iff (text.toList.all isBlank = true) List.all_eq_true

section Characters

variable {before inside after : List Char} {first last : Char}

theorem trimStart_append (blank : ∀ c ∈ before, isBlank c = true) :
    trimStart (before ++ inside) = trimStart inside :=
  List.dropWhile_append_of_pos blank

theorem trimEnd_append (blank : ∀ c ∈ after, isBlank c = true) :
    trimEnd (inside ++ after) = trimEnd inside := by
  rw [trimEnd, List.reverse_append, List.dropWhile_append_of_pos, trimEnd]
  exact fun c member => blank c (List.mem_reverse.mp member)

theorem trimStart_cons (visible : isBlank first = false) :
    trimStart (first :: inside) = first :: inside := by
  rw [trimStart, List.dropWhile_cons_of_neg (by simp [visible])]

theorem trimEnd_concat (visible : isBlank last = false) :
    trimEnd (inside ++ [last]) = inside ++ [last] := by
  rw [trimEnd, List.reverse_append, List.reverse_singleton, List.singleton_append,
    List.dropWhile_cons_of_neg (by simp [visible]), List.reverse_cons, List.reverse_reverse]

theorem trimmed_surrounded (blankBefore : ∀ c ∈ before, isBlank c = true)
    (blankAfter : ∀ c ∈ after, isBlank c = true) (visibleFirst : isBlank first = false)
    (visibleLast : isBlank last = false) :
    trimmed (before ++ (first :: (inside ++ [last]) ++ after)) = first :: (inside ++ [last]) := by
  rw [trimmed, trimStart_append blankBefore, List.cons_append, trimStart_cons visibleFirst,
    ← List.cons_append, trimEnd_append blankAfter, ← List.cons_append]
  exact trimEnd_concat visibleLast

/-- White space around a text makes no difference to what trimming leaves. -/
theorem trimmed_padded (blankBefore : ∀ c ∈ before, isBlank c = true)
    (blankAfter : ∀ c ∈ after, isBlank c = true) :
    trimmed (before ++ (inside ++ after)) = trimmed inside := by
  rw [trimmed, trimStart_append blankBefore, trimmed]
  by_cases nothing : trimStart inside = []
  · have blank : ∀ c ∈ inside ++ after, isBlank c = true :=
      List.forall_mem_append.mpr ⟨trimStart_eq_nil_iff.mp nothing, blankAfter⟩
    rw [nothing, trimStart_eq_nil_iff.mpr blank]
  · have kept : trimStart (inside ++ after) = trimStart inside ++ after := by
      rw [trimStart, List.dropWhile_append, if_neg (by simpa [trimStart] using nothing), trimStart]
    rw [kept, trimEnd_append blankAfter]

end Characters

theorem toList_trim (text : String) : (trim text).toList = trimmed text.toList := by
  simp [trim]

theorem trim_padded {before after : String} (text : String) (blankBefore : IsBlank before)
    (blankAfter : IsBlank after) : trim (before ++ text ++ after) = trim text := by
  rw [trim, String.toList_append, String.toList_append, List.append_assoc,
    trimmed_padded blankBefore blankAfter, trim]

theorem isBlank_empty : IsBlank "" := by simp [IsBlank]

theorem trim_append {after : String} (text : String) (blankAfter : IsBlank after) :
    trim (text ++ after) = trim text := by
  rw [← trim_padded text isBlank_empty blankAfter, String.empty_append]

/-- Between white space, a text with visible ends is what trimming leaves. -/
theorem trim_surrounded {before shown after : String} {first last : Char} {inside : List Char}
    (blankBefore : IsBlank before) (blankAfter : IsBlank after)
    (shape : shown.toList = first :: (inside ++ [last])) (visibleFirst : isBlank first = false)
    (visibleLast : isBlank last = false) : trim (before ++ shown ++ after) = shown := by
  apply String.toList_inj.mp
  rw [toList_trim, String.toList_append, String.toList_append, shape, List.append_assoc,
    trimmed_surrounded blankBefore blankAfter visibleFirst visibleLast]

theorem trim_eq_self {shown : String} {first last : Char} {inside : List Char}
    (shape : shown.toList = first :: (inside ++ [last])) (visibleFirst : isBlank first = false)
    (visibleLast : isBlank last = false) : trim shown = shown := by
  have kept := trim_surrounded isBlank_empty isBlank_empty shape visibleFirst visibleLast
  rwa [String.empty_append, String.append_empty] at kept

/-- What trimming takes off is white space. -/
theorem eq_padded_trim (text : String) :
    ∃ before after, IsBlank before ∧ IsBlank after ∧ text = before ++ trim text ++ after := by
  have front : text.toList.takeWhile isBlank ++ trimStart text.toList = text.toList :=
    List.takeWhile_append_dropWhile
  have back : trimmed text.toList ++ ((trimStart text.toList).reverse.takeWhile isBlank).reverse =
      trimStart text.toList := by
    rw [trimmed, trimEnd, ← List.reverse_append, List.takeWhile_append_dropWhile,
      List.reverse_reverse]
  refine ⟨.ofList (text.toList.takeWhile isBlank),
    .ofList ((trimStart text.toList).reverse.takeWhile isBlank).reverse, ?_, ?_, ?_⟩
  · intro c member
    exact List.mem_takeWhile_imp (by simpa using member)
  · intro c member
    exact List.mem_takeWhile_imp (List.mem_reverse.mp (by simpa using member))
  · apply String.toList_inj.mp
    rw [String.toList_append, String.toList_append, toList_trim, String.toList_ofList,
      String.toList_ofList, List.append_assoc, back, front]

/-- The last character of a trimmed text is visible. -/
theorem exists_concat_of_trimmed {shown : String} (kept : trim shown = shown) (some : shown ≠ "") :
    ∃ inside last, shown.toList = inside ++ [last] ∧ isBlank last = false := by
  have keptEnd : trimEnd shown.toList = shown.toList := by
    have chars := congrArg String.toList kept
    rw [toList_trim] at chars
    rw [← chars, trimmed, trimEnd_idem]
  cases shape : shown.toList.reverse with
  | nil => exact absurd (String.toList_eq_nil_iff.mp (List.reverse_eq_nil_iff.mp shape)) some
  | cons last inside =>
    have whole : shown.toList = inside.reverse ++ [last] := by
      rw [← List.reverse_reverse shown.toList, shape, List.reverse_cons]
    have left : trimStart (last :: inside) = last :: inside := by
      rw [← shape, ← keptEnd, trimEnd, List.reverse_reverse]
      exact trimStart_idem _
    exact ⟨inside.reverse, last, whole, isBlank_of_trimStart_eq_cons left⟩

/-- A visible character at the beginning stays there. -/
theorem head?_trim {text : String} {first : Char} (begins : text.toList.head? = some first)
    (visible : isBlank first = false) : (trim text).toList.head? = some first := by
  obtain ⟨before, after, blankBefore, blankAfter, shape⟩ := eq_padded_trim text
  have absent : ∀ blank : String, IsBlank blank → first ∉ blank.toList := by
    intro blank isBlank member
    simpa [visible] using isBlank first member
  rw [shape, String.toList_append, String.toList_append, List.append_assoc, List.head?_append,
    List.head?_append, Option.or_eq_some_iff, Option.or_eq_some_iff] at begins
  rcases begins with inBefore | ⟨_, here | ⟨_, inAfter⟩⟩
  · exact absurd (List.mem_of_head? inBefore) (absent before blankBefore)
  · exact here
  · exact absurd (List.mem_of_head? inAfter) (absent after blankAfter)

theorem IsBlank.eq_empty {text : String} (blank : IsBlank text)
    (visible : ∀ c ∈ text.toList, isBlank c = false) : text = "" := by
  cases shape : text.toList with
  | nil => exact String.toList_eq_nil_iff.mp shape
  | cons c rest =>
    have member : c ∈ text.toList := by simp [shape]
    simpa [visible c member] using blank c member

/-- There is nothing to trim in a text without white space. -/
theorem trim_of_visible {text : String} (visible : ∀ c ∈ text.toList, isBlank c = false) :
    trim text = text := by
  obtain ⟨before, after, blankBefore, blankAfter, shape⟩ := eq_padded_trim text
  have chars := congrArg String.toList shape
  simp only [String.toList_append] at chars
  have noBefore : before = "" :=
    blankBefore.eq_empty fun c member => visible c (by simp [chars, member])
  have noAfter : after = "" :=
    blankAfter.eq_empty fun c member => visible c (by simp [chars, member])
  rw [noBefore, noAfter, String.empty_append, String.append_empty] at shape
  exact shape.symm

end DocForm.Text
