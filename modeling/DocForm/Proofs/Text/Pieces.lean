import DocForm.Proofs.Text.Trim
import Mathlib.Data.List.Basic

/-! Texts put together and cut again. Main statements: joined parts are cut where they were joined,
and lines put below each other are the lines of the text. -/

namespace DocForm.Text

theorem piecesBy_eq_splitOnP (cuts : Char → Bool) (cs : List Char) :
    piecesBy cuts cs = cs.splitOnP cuts := by
  induction cs with
  | nil => rfl
  | cons c rest ih =>
    rw [piecesBy, List.splitOnP_cons_eq_if_modifyHead, ih]
    split
    · rfl
    · cases found : rest.splitOnP cuts with
      | nil => exact absurd found (List.splitOnP_ne_nil cuts rest)
      | cons piece more => rfl

section Separators

variable {separator : Char}

theorem pieces_of_not_mem {cs : List Char} (absent : separator ∉ cs) :
    pieces separator cs = [cs] := by
  rw [pieces, piecesBy_eq_splitOnP, List.splitOnP_eq_singleton]
  intro c member
  rw [beq_eq_false_iff_ne]
  rintro rfl
  exact absent member

theorem pieces_append (first second : List Char) :
    pieces separator (first ++ separator :: second) =
      pieces separator first ++ pieces separator second := by
  rw [pieces, piecesBy_eq_splitOnP, List.splitOnP_append_cons _ _ (by simp),
    ← piecesBy_eq_splitOnP, ← piecesBy_eq_splitOnP, ← pieces, ← pieces]

theorem pieces_append_cons {cs : List Char} (absent : separator ∉ cs) (rest : List Char) :
    pieces separator (cs ++ separator :: rest) = cs :: pieces separator rest := by
  rw [pieces_append, pieces_of_not_mem absent, List.singleton_append]

theorem joinPieces_cons_cons (separator : Char) (part next : List Char) (more : List (List Char)) :
    joinPieces separator (part :: next :: more) =
      part ++ separator :: joinPieces separator (next :: more) := rfl

theorem joinPieces_append_singleton (separator : Char) (parts : List (List Char))
    (part : List Char) :
    joinPieces separator (parts ++ [part]) =
      (if parts = [] then [] else joinPieces separator parts ++ [separator]) ++ part := by
  induction parts with
  | nil => rfl
  | cons first rest ih =>
    cases rest with
    | nil => simp [joinPieces]
    | cons next more =>
      rw [List.cons_append, List.cons_append, joinPieces_cons_cons, ← List.cons_append, ih,
        joinPieces_cons_cons]
      simp

/-- Joined pieces are their texts with the separator between them. -/
theorem ofList_joinPieces (separator : Char) (parts : List (List Char)) :
    String.ofList (joinPieces separator parts) =
      (String.singleton separator).intercalate (parts.map String.ofList) := by
  induction parts with
  | nil => rfl
  | cons part rest ih =>
    cases rest with
    | nil => exact String.intercalate_singleton.symm
    | cons next more =>
      rw [joinPieces_cons_cons, List.map_cons, List.map_cons, String.intercalate_cons_cons,
        ← List.map_cons, ← ih, String.ofList_append, String.ofList_cons, String.append_assoc]

theorem splitOn_ne_nil (text : String) : splitOn separator text ≠ [] := by
  rw [splitOn, Ne, List.map_eq_nil_iff]
  exact piecesBy_ne_nil _ _

theorem splitOn_append (separator : Char) (first second : String) :
    splitOn separator (first ++ String.singleton separator ++ second) =
      splitOn separator first ++ splitOn separator second := by
  have shape : (first ++ String.singleton separator ++ second).toList =
      first.toList ++ separator :: second.toList := by simp
  rw [splitOn, shape, pieces_append, List.map_append, splitOn, splitOn]

theorem splitOn_of_not_mem {text : String} (absent : separator ∉ text.toList) :
    splitOn separator text = [text] := by
  rw [splitOn, pieces_of_not_mem absent, List.map_singleton, String.ofList_toList]

theorem splitOn_pair {first second : String} (absentFirst : separator ∉ first.toList)
    (absentSecond : separator ∉ second.toList) :
    splitOn separator (first ++ String.singleton separator ++ second) = [first, second] := by
  rw [splitOn_append, splitOn_of_not_mem absentFirst, splitOn_of_not_mem absentSecond,
    List.singleton_append]

/-- Parts without the separator are cut where they were joined. -/
theorem splitOn_intercalate {parts : List String}
    (absent : ∀ part ∈ parts, separator ∉ part.toList) (some : parts ≠ []) :
    splitOn separator ((String.singleton separator).intercalate parts) = parts := by
  induction parts with
  | nil => exact absurd rfl some
  | cons part rest ih =>
    obtain ⟨here, later⟩ := List.forall_mem_cons.mp absent
    cases rest with
    | nil => rw [String.intercalate_singleton, splitOn_of_not_mem here]
    | cons next more =>
      rw [String.intercalate_cons_cons, splitOn_append, splitOn_of_not_mem here,
        ih later (List.cons_ne_nil _ _), List.singleton_append]

/-- The pieces of a text, joined again, are the text. -/
theorem intercalate_splitOn (separator : Char) (text : String) :
    (String.singleton separator).intercalate (splitOn separator text) = text := by
  apply String.toList_inj.mp
  rw [String.toList_intercalate, splitOn, List.map_map, pieces, piecesBy_eq_splitOnP,
    ← List.splitOn_eq_splitOnP]
  simp [Function.comp_def, List.intercalate_splitOn]

theorem not_mem_of_mem_splitOn {text part : String} (member : part ∈ splitOn separator text) :
    separator ∉ part.toList := by
  obtain ⟨piece, cut, rfl⟩ := List.mem_map.mp member
  rw [String.toList_ofList]
  intro inside
  simpa using not_cuts_of_mem_piecesBy cut separator inside

theorem not_mem_intercalate {c : Char} {between : String} {parts : List String}
    (apart : c ∉ between.toList) (absent : ∀ part ∈ parts, c ∉ part.toList) :
    c ∉ (between.intercalate parts).toList := by
  induction parts with
  | nil => simp
  | cons part rest ih =>
    obtain ⟨here, later⟩ := List.forall_mem_cons.mp absent
    cases rest with
    | nil => rwa [String.intercalate_singleton]
    | cons next more =>
      rw [String.intercalate_cons_cons, String.toList_append, String.toList_append,
        List.mem_append, List.mem_append, not_or, not_or]
      exact ⟨⟨here, apart⟩, ih later⟩

end Separators

section Ends

variable {beginning ending text rest : String}

theorem after?_eq_some_iff : after? beginning text = some rest ↔ text = beginning ++ rest := by
  simp only [after?, Option.map_eq_some_iff, List.isPrefixOf?_eq_some_iff_append_eq,
    ← String.toList_inj, String.toList_append]
  constructor
  · rintro ⟨cs, whole, same⟩
    rw [← whole, ← same, String.toList_ofList]
  · intro whole
    exact ⟨rest.toList, whole.symm, String.toList_ofList⟩

theorem before?_eq_some_iff : before? ending text = some rest ↔ text = rest ++ ending := by
  simp only [before?, Option.map_eq_some_iff, List.isSuffixOf?_eq_some_iff_append_eq,
    ← String.toList_inj, String.toList_append]
  constructor
  · rintro ⟨cs, whole, same⟩
    rw [← whole, ← same, String.toList_ofList]
  · intro whole
    exact ⟨rest.toList, whole.symm, String.toList_ofList⟩

theorem dropStart_append (beginning rest : String) :
    dropStart beginning (beginning ++ rest) = rest := by
  rw [dropStart, after?_eq_some_iff.mpr rfl, Option.getD_some]

theorem dropEnd_append (rest ending : String) : dropEnd ending (rest ++ ending) = rest := by
  rw [dropEnd, before?_eq_some_iff.mpr rfl, Option.getD_some]

theorem dropStart_of_ne (other : ∀ rest, text ≠ beginning ++ rest) :
    dropStart beginning text = text := by
  have absent : after? beginning text = none :=
    Option.eq_none_iff_forall_ne_some.mpr fun rest found => other rest (after?_eq_some_iff.mp found)
  rw [dropStart, absent, Option.getD_none]

theorem dropEnd_of_ne (other : ∀ rest, text ≠ rest ++ ending) : dropEnd ending text = text := by
  have absent : before? ending text = none :=
    Option.eq_none_iff_forall_ne_some.mpr fun rest found => other rest (before?_eq_some_iff.mp found)
  rw [dropEnd, absent, Option.getD_none]

/-- A beginning is taken off, or it is not there. -/
theorem eq_dropStart (beginning text : String) :
    ∃ taken, (taken = "" ∨ taken = beginning) ∧ text = taken ++ dropStart beginning text := by
  by_cases begins : ∃ rest, text = beginning ++ rest
  · obtain ⟨rest, rfl⟩ := begins
    exact ⟨beginning, .inr rfl, by rw [dropStart_append]⟩
  · refine ⟨"", .inl rfl, ?_⟩
    rw [String.empty_append, dropStart_of_ne fun rest same => begins ⟨rest, same⟩]

theorem eq_dropEnd (ending text : String) :
    ∃ taken, (taken = "" ∨ taken = ending) ∧ text = dropEnd ending text ++ taken := by
  by_cases ends : ∃ rest, text = rest ++ ending
  · obtain ⟨rest, rfl⟩ := ends
    exact ⟨ending, .inr rfl, by rw [dropEnd_append]⟩
  · refine ⟨"", .inl rfl, ?_⟩
    rw [String.append_empty, dropEnd_of_ne fun rest same => ends ⟨rest, same⟩]

end Ends

/-- A line as it stands in a text: trimmed, not empty and without a break. -/
structure IsLine (line : String) : Prop where
  trimmed : trim line = line
  shown : line ≠ ""
  unbroken : '\n' ∉ line.toList

instance (line : String) : Decidable (IsLine line) :=
  decidable_of_iff (trim line = line ∧ line ≠ "" ∧ '\n' ∉ line.toList)
    ⟨fun ⟨trimmed, shown, unbroken⟩ => ⟨trimmed, shown, unbroken⟩,
      fun isLine => ⟨isLine.trimmed, isLine.shown, isLine.unbroken⟩⟩

theorem lines_append (first second : String) :
    lines (first ++ "\n" ++ second) = lines first ++ lines second := by
  have cut := splitOn_append '\n' first second
  rw [lines, lines, lines, ← List.filter_append, ← List.map_append, ← cut]
  rfl

theorem lines_of_isBlank {text : String} (blank : IsBlank text) : lines text = [] :=
  lines_eq_nil_of_trim? (trim?_eq_none_iff.mpr blank)

/-- A text without a break is one line, or none when it shows nothing. -/
theorem lines_of_unbroken {text : String} (unbroken : '\n' ∉ text.toList) :
    lines text = (trim? text).toList := by
  rw [lines, splitOn_of_not_mem unbroken, List.map_singleton, trim?]
  by_cases nothing : (trim text).isEmpty <;> simp [nothing]

theorem lines_append_unbroken {text ending : String} (unbroken : '\n' ∉ text.toList)
    (blank : IsBlank ending) (unbrokenEnding : '\n' ∉ ending.toList) :
    lines (text ++ ending) = lines text := by
  rw [lines_of_unbroken (by simp [unbroken, unbrokenEnding]), lines_of_unbroken unbroken, trim?,
    trim_append text blank, ← trim?]

/-- White space behind a single line adds no line, breaks or not. -/
theorem lines_append_blank_of_unbroken {text ending : String} (unbroken : '\n' ∉ text.toList)
    (blank : IsBlank ending) : lines (text ++ ending) = lines text := by
  by_cases broken : '\n' ∈ ending.toList
  · obtain ⟨tail, rest, split, unbrokenTail⟩ := List.eq_append_cons_of_mem broken
    have shape : ending = .ofList tail ++ "\n" ++ .ofList rest :=
      String.toList_inj.mp (by simp [split])
    have blankTail : IsBlank (.ofList tail) := fun c member =>
      blank c (by simpa [split] using .inl (by simpa using member))
    have blankRest : IsBlank (.ofList rest) := fun c member =>
      blank c (by simpa [split] using .inr (.inr (by simpa using member)))
    rw [shape, ← String.append_assoc, ← String.append_assoc, lines_append,
      lines_append_unbroken unbroken blankTail (by simpa using unbrokenTail),
      lines_of_isBlank blankRest, List.append_nil]
  · exact lines_append_unbroken unbroken blank broken

/-- White space behind a text adds no line. -/
theorem lines_append_blank (text : String) {ending : String} (blank : IsBlank ending) :
    lines (text ++ ending) = lines text := by
  have unbroken : ∀ part ∈ splitOn '\n' text, '\n' ∉ part.toList :=
    fun _ => not_mem_of_mem_splitOn
  have joined : "\n".intercalate (splitOn '\n' text) = text := intercalate_splitOn '\n' text
  rw [← joined]
  generalize splitOn '\n' text = parts at unbroken
  clear joined
  induction parts with
  | nil =>
    rw [String.intercalate_nil, String.empty_append, lines_of_isBlank blank,
      lines_of_isBlank isBlank_empty]
  | cons part rest ih =>
    obtain ⟨here, later⟩ := List.forall_mem_cons.mp unbroken
    cases rest with
    | nil => simpa using lines_append_blank_of_unbroken here blank
    | cons next more =>
      rw [String.intercalate_cons_cons, String.append_assoc, lines_append, lines_append, ih later]

/-- Lines one below the other are the lines of the text. -/
theorem lines_intercalate {written : List String} (each : ∀ line ∈ written, IsLine line) :
    lines ("\n".intercalate written) = written := by
  induction written with
  | nil => rfl
  | cons line rest ih =>
    obtain ⟨here, later⟩ := List.forall_mem_cons.mp each
    have alone : lines line = [line] := by
      rw [lines_of_unbroken here.unbroken, trim?, here.trimmed]
      simp [here.shown]
    cases rest with
    | nil => rw [String.intercalate_singleton, alone]
    | cons next more =>
      rw [String.intercalate_cons_cons, lines_append, alone, ih later, List.singleton_append]

end DocForm.Text
