import DocForm.Proofs.Reference.Grammar

/-! References in their written form. Main statement: the text of a reference reads back, and a
text that has been read is written again as it was, but for zeros in front of a row. -/

namespace DocForm

namespace Decimal

/-- A zero that adds nothing stands in front of other digits. -/
def IsPadded (digits : List Char) : Prop := ∃ rest, rest ≠ [] ∧ digits = '0' :: rest

theorem code_of_isDigit {digit : Char} (decimal : isDigit digit = true) :
    48 ≤ digit.toNat ∧ digit.toNat ≤ 57 := by
  simpa [isDigit, Char.le_def, UInt32.le_iff_toNat_le] using decimal

theorem digitValue_lt_ten {digit : Char} (decimal : isDigit digit = true) :
    digitValue digit < 10 := by
  have value : digitValue digit = digit.toNat - 48 := rfl
  have code := code_of_isDigit decimal
  omega

theorem digitChar_digitValue {digit : Char} (decimal : isDigit digit = true) :
    Nat.digitChar (digitValue digit) = digit := by
  have value : digitValue digit = digit.toNat - 48 := rfl
  have code := code_of_isDigit decimal
  apply Char.toNat_inj.mp
  rw [Nat.toNat_digitChar_of_lt_ten (digitValue_lt_ten decimal)]
  omega

theorem not_isPadded_digitsOf (n : Nat) : ¬ IsPadded (digitsOf n) := by
  induction n using Nat.strongRecOn with
  | _ n ih =>
    rintro ⟨rest, more, padded⟩
    by_cases small : n < 10
    · rw [digitsOf_of_lt_ten small] at padded
      exact more (List.cons.inj padded).2.symm
    · rw [digitsOf_of_ten_le (by omega)] at padded
      cases front : digitsOf (n / 10) with
      | nil => exact Nat.toDigits_ne_nil front
      | cons first others =>
        rw [front, List.cons_append] at padded
        have zero : first = '0' := (List.cons.inj padded).1
        have alone : others = [] := by
          by_contra several
          exact ih (n / 10) (by omega) ⟨others, several, by rw [front, zero]⟩
        have value := digitsValue_digitsOf (n / 10)
        rw [front, zero, alone] at value
        have nothing : digitsValue ['0'] = 0 := rfl
        omega

theorem digitsOf_digitsValue {digits : List Char} (some : digits ≠ [])
    (decimal : ∀ digit ∈ digits, isDigit digit = true) (bare : ¬ IsPadded digits) :
    digitsOf (digitsValue digits) = digits := by
  induction digits using List.reverseRecOn with
  | nil => exact absurd rfl some
  | append_singleton earlier last ih =>
    have lastDecimal := decimal last (by simp)
    have small := digitValue_lt_ten lastDecimal
    rw [digitsValue_append_singleton]
    by_cases alone : earlier = []
    · subst alone
      have value : 10 * digitsValue [] + digitValue last = digitValue last := Nat.zero_add _
      rw [value, digitsOf_of_lt_ten small, digitChar_digitValue lastDecimal, List.nil_append]
    · have front : digitsOf (digitsValue earlier) = earlier := by
        refine ih alone (fun digit member => decimal digit (by simp [member])) ?_
        rintro ⟨rest, _, rfl⟩
        exact bare ⟨rest ++ [last], by simp, rfl⟩
      -- Worth nothing, the digits in front would be one zero, and the whole would be padded.
      have positive : digitsValue earlier ≠ 0 := by
        intro zero
        rw [zero] at front
        exact bare ⟨[last], by simp, by rw [← front]; rfl⟩
      rw [digitsOf_of_ten_le (by omega)]
      have quotient : (10 * digitsValue earlier + digitValue last) / 10 = digitsValue earlier := by
        omega
      have remainder : (10 * digitsValue earlier + digitValue last) % 10 = digitValue last := by
        omega
      rw [quotient, remainder, front, digitChar_digitValue lastDecimal]

/-- Digits are those of their value exactly when none of them is spare. -/
theorem digitsOf_digitsValue_iff {digits : List Char} (some : digits ≠ [])
    (decimal : ∀ digit ∈ digits, isDigit digit = true) :
    digitsOf (digitsValue digits) = digits ↔ ¬ IsPadded digits :=
  ⟨fun same => same ▸ not_isPadded_digitsOf _, digitsOf_digitsValue some decimal⟩

end Decimal

namespace Reference

variable {reference : Reference} {text : String}

/-- The row that a text ends with begins with a zero that adds nothing. -/
def HasSpareZero (text : String) : Prop :=
  ∃ path rest, rest ≠ "" ∧ text = path ++ "[0" ++ rest ++ "]"

theorem opening_mem_of_hasSpareZero (spare : HasSpareZero text) : '[' ∈ text.toList := by
  obtain ⟨path, rest, _, rfl⟩ := spare
  simp

theorem hasSpareZero_iff {fieldId id digits : String} (fieldIdentifier : isIdentifier fieldId = true)
    (identifier : isIdentifier id = true) (noOpening : '[' ∉ digits.toList) :
    HasSpareZero (fieldId ++ "." ++ id ++ "[" ++ digits ++ "]") ↔
      Decimal.IsPadded digits.toList := by
  have noOpeningBefore :=
    not_mem_path fieldIdentifier identifier '[' isIdentifierRest_opening (by decide)
  constructor
  · rintro ⟨path, rest, more, same⟩
    have same : (fieldId.toList ++ '.' :: id.toList) ++ '[' :: (digits.toList ++ [']']) =
        path.toList ++ '[' :: ('0' :: rest.toList ++ [']']) := by
      simpa using congrArg String.toList same
    rw [List.append_cons_inj_of_notMem noOpeningBefore (by simp [noOpening])] at same
    exact ⟨rest.toList, by simpa using more, List.append_cancel_right same.2.2⟩
  · rintro ⟨rest, more, padded⟩
    refine ⟨fieldId ++ "." ++ id, .ofList rest, by simpa using more, ?_⟩
    apply String.toList_inj.mp
    simp [padded]

/-- A spelled reference is written as it is spelled, unless a zero is spare. -/
theorem render_eq_iff (spelled : Spells reference text) :
    reference.render = text ↔ ¬ HasSpareZero text := by
  cases spelled with
  | field name =>
    refine ⟨fun _ spare => ?_, fun _ => rfl⟩
    exact not_mem_of_isIdentifierChars (isName_iff.mp name) isIdentifierRest_opening
      (opening_mem_of_hasSpareZero spare)
  | option fieldName name =>
    refine ⟨fun _ spare => ?_, fun _ => rfl⟩
    have noOpening := not_mem_path (isName_iff.mp fieldName) (isName_iff.mp name) '['
      isIdentifierRest_opening (by decide)
    exact noOpening (by simpa using opening_mem_of_hasSpareZero spare)
  | @cell fieldId columnId digits fieldName name some decimal word =>
    have noOpening : '[' ∉ digits.toList := fun member =>
      absurd (decimal '[' member) (by decide)
    rw [hasSpareZero_iff (isName_iff.mp fieldName) (isName_iff.mp name) noOpening,
      ← Decimal.digitsOf_digitsValue_iff (by simpa using some)
        (fun digit member => by simpa [Decimal.isDigit] using decimal digit member),
      digitsValue_eq_placeValue, render, ← String.toList_inj]
    simp

/-- A reference survives being written, where a column comes back as an option; a text survives
being read, where only spare zeros of a row are lost. -/
theorem survives_round_trip :
    (∀ reference : Reference, reference.IsNamed → reference.HasWordRow →
      parse reference.render = .ok reference.untyped) ∧
    ∀ text reference, parse text = .ok reference →
      parse reference.render = .ok reference ∧ (reference.render = text ↔ ¬ HasSpareZero text) := by
  constructor
  · intro reference named word
    rw [parse, read_render named word]
  · intro text reference found
    exact ⟨parse_render found, render_eq_iff (parse_eq_ok_iff.mp found)⟩

theorem round_trip_guests :
    parse (column "guests" "born").render = .ok (.option "guests" "born") ∧
      parse "guests.born[007]" = .ok (.cell "guests" "born" 7) ∧
        parse (cell "guests" "born" 7).render = .ok (.cell "guests" "born" 7) ∧
          (cell "guests" "born" 7).render ≠ "guests.born[007]" := by
  have columnRead := survives_round_trip.1 (.column "guests" "born") ⟨by decide, by decide⟩ trivial
  have cellRead : parse "guests.born[007]" = .ok (.cell "guests" "born" 7) := by decide +kernel
  obtain ⟨again, same⟩ := survives_round_trip.2 _ _ cellRead
  exact ⟨columnRead, cellRead, again, fun kept => same.mp kept ⟨"guests.born", "07", by decide⟩⟩

end Reference

end DocForm
