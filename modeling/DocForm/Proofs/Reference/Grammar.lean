import DocForm.Proofs.Reference.Reading
import Mathlib.Data.Char
import Mathlib.Data.List.Induction
import Mathlib.Data.Nat.Digits.Defs
import Mathlib.Order.Interval.Set.Defs

/-! The grammar of references, told without their reader. Main statement: a text reads as a
reference exactly when the grammar spells that reference so, and every other text is refused as a
whole. -/

namespace DocForm

/-- A name: one of the letters a to z, then such letters, digits and underscores. -/
def IsName (text : String) : Prop :=
  ∃ first rest, text.toList = first :: rest ∧ first ∈ Set.Icc 'a' 'z' ∧
    ∀ c ∈ rest, c ∈ Set.Icc 'a' 'z' ∨ c ∈ Set.Icc '0' '9' ∨ c = '_'

theorem isName_iff {text : String} : IsName text ↔ isIdentifier text = true := by
  unfold IsName isIdentifier
  cases text.toList with
  | nil => simp [isIdentifierChars]
  | cons first rest => simp [isIdentifierChars, isIdentifierRest, isLower, or_assoc]

namespace Reference

/-- The number that digits stand for by their places, of which the last is worth one. -/
def placeValue (digits : List Char) : Nat :=
  Nat.ofDigits 10 (digits.reverse.map fun digit => digit.toNat - '0'.toNat)

/-- How references are spelled. No text spells a column, since it would spell an option as well. -/
inductive Spells : Reference → String → Prop where
  | field {fieldId : String} (name : IsName fieldId) : Spells (.field fieldId) fieldId
  | option {fieldId optionId : String} (fieldName : IsName fieldId) (name : IsName optionId) :
      Spells (.option fieldId optionId) (fieldId ++ "." ++ optionId)
  | cell {fieldId columnId digits : String} (fieldName : IsName fieldId) (name : IsName columnId)
      (some : digits ≠ "") (decimal : ∀ digit ∈ digits.toList, digit ∈ Set.Icc '0' '9')
      (word : placeValue digits.toList < 2 ^ 64) :
      Spells (.cell fieldId columnId (placeValue digits.toList))
        (fieldId ++ "." ++ columnId ++ "[" ++ digits ++ "]")

variable {reference : Reference} {text : String} {path digits : List Char} {row : Option Nat}

theorem digitsValue_eq_placeValue (digits : List Char) :
    Decimal.digitsValue digits = placeValue digits := by
  induction digits using List.reverseRecOn with
  | nil => rfl
  | append_singleton earlier last ih =>
    rw [Decimal.digitsValue_append_singleton, ih, placeValue, placeValue, List.reverse_append,
      List.reverse_singleton, List.singleton_append, List.map_cons, Nat.ofDigits_cons,
      Decimal.digitValue, Nat.add_comm]

theorem rowLimit_eq : rowLimit = 2 ^ 64 := by norm_num [rowLimit, UInt64.size]

/-- A row is written as digits whose value fits a machine word. -/
theorem readRow_eq_ok_iff {n : Nat} : readRow digits = .ok n ↔
    digits ≠ [] ∧ (∀ digit ∈ digits, digit ∈ Set.Icc '0' '9') ∧ placeValue digits < 2 ^ 64 ∧
      n = placeValue digits := by
  simp only [readRow, ite_eq_ok, reduceCtorEq, and_false, false_or, or_false, Except.ok.injEq,
    digitsValue_eq_placeValue, rowLimit_eq, List.isEmpty_iff, Bool.not_eq_true', Bool.not_eq_false,
    List.all_eq_true, Decimal.isDigit, Bool.and_eq_true, decide_eq_true_eq, Set.mem_Icc]
  exact and_congr_right fun _ => and_congr_right fun _ => and_congr_right fun _ => eq_comm

/-- Brackets at the end hold a row; any other text is all path. -/
theorem splitRow_eq_ok {cs : List Char} (found : splitRow cs = .ok (path, row)) :
    (cs = path ∧ row = none) ∨
      ∃ digits n, cs = path ++ '[' :: digits ++ [']'] ∧ readRow digits = .ok n ∧ row = some n := by
  unfold splitRow at found
  split at found
  · cases found
    exact .inl ⟨rfl, rfl⟩
  · rename_i head closed
    split at found
    · cases found
    · rename_i first digits after
      obtain ⟨n, indexed, same⟩ := bind_eq_ok.mp found
      cases same
      -- The reader cuts at the first opening bracket, the only character that stops it there.
      have opening : first = '[' := by
        have stop := List.head?_dropWhile_not (· != '[') head
        simpa [after] using stop
      subst opening
      refine .inr ⟨digits, n, ?_, indexed, rfl⟩
      have whole : head ++ [']'] = cs := List.isSuffixOf?_eq_some_iff_append_eq.mp closed
      rw [← whole, ← after, List.takeWhile_append_dropWhile]

/-- A path is one name, or two with a dot between them. -/
theorem readPath_eq_ok (found : readPath path row = .ok reference) :
    (∃ name, isIdentifier name = true ∧ path = name.toList ∧ row = none ∧
      reference = .field name) ∨
    ∃ fieldName name, isIdentifier fieldName = true ∧ isIdentifier name = true ∧
      path = fieldName.toList ++ '.' :: name.toList ∧ reference = ofNames fieldName name row := by
  -- The pieces are all that the reader looks at; joined again they are the path.
  have joined := Text.joinPieces_pieces '.' path
  simp only [readPath] at found
  split at found
  · cases found
  · cases found
  · rename_i noneOther
    have identifiers : ∀ name ∈ (Text.pieces '.' path).map String.ofList,
        isIdentifier name = true := by
      intro name member
      obtain ⟨segment, present, rfl⟩ := List.mem_map.mp member
      rw [isIdentifier, String.toList_ofList]
      simpa using List.find?_eq_none.mp noneOther segment present
    have pieces : Text.pieces '.' path =
        ((Text.pieces '.' path).map String.ofList).map String.toList := by
      simp [Function.comp_def]
    rw [pieces] at joined
    split at found
    · rename_i name names
      cases found
      rw [names] at joined
      exact .inl ⟨name, identifiers _ (by simp [names]), joined.symm, rfl, rfl⟩
    · rename_i fieldName name names
      cases found
      rw [names] at joined
      exact .inr ⟨fieldName, name, identifiers _ (by simp [names]), identifiers _ (by simp [names]),
        joined.symm, rfl⟩
    · rename_i fieldName name row names
      cases found
      rw [names] at joined
      exact .inr ⟨fieldName, name, identifiers _ (by simp [names]), identifiers _ (by simp [names]),
        joined.symm, rfl⟩
    · cases found
    · cases found

theorem spells_of_read (found : read text = .ok reference) : Spells reference text := by
  simp only [read, ite_eq_ok, reduceCtorEq, and_false, false_or, bind_eq_ok] at found
  obtain ⟨_, ⟨path, row⟩, split, _, readNames⟩ := found
  rcases splitRow_eq_ok split with ⟨whole, rfl⟩ | ⟨digits, n, whole, indexed, rfl⟩
  · rcases readPath_eq_ok readNames with ⟨name, identifier, rfl, _, rfl⟩ |
      ⟨fieldName, name, fieldIdentifier, identifier, rfl, rfl⟩
    · obtain rfl : text = name := String.toList_inj.mp whole
      exact .field (isName_iff.mpr identifier)
    · obtain rfl : text = fieldName ++ "." ++ name := String.toList_inj.mp (by simp [whole])
      exact .option (isName_iff.mpr fieldIdentifier) (isName_iff.mpr identifier)
  · rcases readPath_eq_ok readNames with ⟨_, _, _, noRow, _⟩ |
      ⟨fieldName, name, fieldIdentifier, identifier, rfl, rfl⟩
    · cases noRow
    · obtain ⟨index, rfl⟩ : ∃ index : String, digits = index.toList := ⟨.ofList digits, by simp⟩
      obtain ⟨some, decimal, word, rfl⟩ := readRow_eq_ok_iff.mp indexed
      obtain rfl : text = fieldName ++ "." ++ name ++ "[" ++ index ++ "]" :=
        String.toList_inj.mp (by simp [whole])
      exact .cell (isName_iff.mpr fieldIdentifier) (isName_iff.mpr identifier) (by simpa using some)
        decimal word

theorem read_of_spells (spelled : Spells reference text) : read text = .ok reference := by
  cases spelled with
  | field name => exact read_field (isName_iff.mp name)
  | option fieldName name => exact read_option (isName_iff.mp fieldName) (isName_iff.mp name)
  | cell fieldName name some decimal word =>
    apply read_cell (isName_iff.mp fieldName) (isName_iff.mp name)
    exact readRow_eq_ok_iff.mpr ⟨by simpa using some, decimal, word, rfl⟩

theorem parse_eq_ok_iff : parse text = .ok reference ↔ Spells reference text := by
  constructor
  · intro found
    unfold parse at found
    split at found
    · rename_i readText
      cases found
      exact spells_of_read readText
    · cases found
  · intro spelled
    rw [parse, read_of_spells spelled]

/-- A spelled reference has identifiers for names. -/
theorem Spells.isNamed (spelled : Spells reference text) : reference.IsNamed := by
  cases spelled with
  | field name => exact isName_iff.mp name
  | option fieldName name => exact ⟨isName_iff.mp fieldName, isName_iff.mp name⟩
  | cell fieldName name => exact ⟨isName_iff.mp fieldName, isName_iff.mp name⟩

theorem Spells.hasWordRow (spelled : Spells reference text) : reference.HasWordRow := by
  cases spelled with
  | field | option => exact trivial
  | cell fieldName name some decimal word => exact word.trans_eq rowLimit_eq.symm

theorem Spells.untyped_eq (spelled : Spells reference text) : reference.untyped = reference := by
  cases spelled <;> rfl

/-- What is read from a text is read again from its own text. -/
theorem parse_render (found : parse text = .ok reference) :
    parse reference.render = .ok reference := by
  have spelled := parse_eq_ok_iff.mp found
  rw [parse, read_render spelled.isNamed spelled.hasWordRow, spelled.untyped_eq]

/-- Reading accepts the grammar and nothing else; what it refuses it names whole. -/
theorem parse_iff_spells (text : String) :
    (∀ reference, parse text = .ok reference ↔ Spells reference text) ∧
      ((∃ fault, parse text = .error (.format text fault)) ↔
        ¬ ∃ reference, Spells reference text) := by
  refine ⟨fun reference => parse_eq_ok_iff, ?_⟩
  constructor
  · rintro ⟨fault, refused⟩ ⟨reference, spelled⟩
    cases refused.symm.trans (parse_eq_ok_iff.mpr spelled)
  · intro unspelled
    cases found : read text with
    | ok reference => exact absurd ⟨reference, spells_of_read found⟩ unspelled
    | error fault => exact ⟨fault, by rw [parse, found]⟩

end Reference

end DocForm
