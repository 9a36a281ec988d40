/-! Decimal digit texts and the numbers they stand for. Main statement: the digits of a
number read back as that number. -/

namespace DocForm.Decimal

def isDigit (c : Char) : Bool := '0' ≤ c && c ≤ '9'

def digitValue (c : Char) : Nat := c.toNat - '0'.toNat

def digitsValue (digits : List Char) : Nat :=
  digits.foldl (fun value digit => 10 * value + digitValue digit) 0

def digitsOf (n : Nat) : List Char := Nat.toDigits 10 n

theorem digitsValue_append_singleton (digits : List Char) (digit : Char) :
    digitsValue (digits ++ [digit]) = 10 * digitsValue digits + digitValue digit := by
  simp [digitsValue]

/-- How many digits a number has; zero has one. -/
def digitCount (n : Nat) : Nat := (digitsOf n).length

theorem digitValue_digitChar {n : Nat} (small : n < 10) : digitValue (Nat.digitChar n) = n := by
  simp [digitValue, Nat.toNat_digitChar_of_lt_ten small]

theorem isDigit_digitChar {n : Nat} (small : n < 10) : isDigit (Nat.digitChar n) = true := by
  have code := Nat.toNat_digitChar_of_lt_ten small
  simp [isDigit, Char.le_def, UInt32.le_iff_toNat_le, code]
  omega

theorem digitsOf_of_lt_ten {n : Nat} (small : n < 10) : digitsOf n = [Nat.digitChar n] :=
  Nat.toDigits_of_lt_base small

/-- The last digit of a number with more than one is its remainder. -/
theorem digitsOf_of_ten_le {n : Nat} (large : 10 ≤ n) :
    digitsOf n = digitsOf (n / 10) ++ [Nat.digitChar (n % 10)] := by
  have last : n % 10 < 10 := Nat.mod_lt n (by decide)
  have split := Nat.toDigits_append_toDigits (b := 10) (n := n / 10) (by decide) (by omega) last
  rw [show 10 * (n / 10) + n % 10 = n by omega, Nat.toDigits_of_lt_base last] at split
  exact split.symm

theorem digitsValue_digitsOf (n : Nat) : digitsValue (digitsOf n) = n := by
  induction n using Nat.strongRecOn with
  | _ n ih =>
    by_cases small : n < 10
    · rw [digitsOf_of_lt_ten small]
      simp [digitsValue, digitValue_digitChar small]
    · rw [digitsOf_of_ten_le (by omega), digitsValue_append_singleton, ih (n / 10) (by omega),
        digitValue_digitChar (Nat.mod_lt n (by decide))]
      omega

theorem isDigit_of_mem_digitsOf {c : Char} {n : Nat} (member : c ∈ digitsOf n) :
    isDigit c = true := by
  induction n using Nat.strongRecOn with
  | _ n ih =>
    by_cases small : n < 10
    · rw [digitsOf_of_lt_ten small, List.mem_singleton] at member
      exact member ▸ isDigit_digitChar small
    · rw [digitsOf_of_ten_le (by omega)] at member
      rcases List.mem_append.mp member with earlier | last
      · exact ih (n / 10) (by omega) earlier
      · rw [List.mem_singleton.mp last]
        exact isDigit_digitChar (Nat.mod_lt n (by decide))

end DocForm.Decimal
