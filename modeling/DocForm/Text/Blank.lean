/-! White space as Unicode defines it, and the text that is left when it is taken off
both ends. Main statement: trimming twice is trimming once. -/

namespace DocForm.Text

/-- A character with the Unicode property `White_Space`. -/
def isBlank (c : Char) : Bool :=
  let n := c.toNat
  (0x9 ≤ n && n ≤ 0xD) || n == 0x20 || n == 0x85 || n == 0xA0 || n == 0x1680 ||
    (0x2000 ≤ n && n ≤ 0x200A) || n == 0x2028 || n == 0x2029 || n == 0x202F ||
    n == 0x205F || n == 0x3000

def trimStart (cs : List Char) : List Char := cs.dropWhile isBlank

def trimEnd (cs : List Char) : List Char := (cs.reverse.dropWhile isBlank).reverse

def trimmed (cs : List Char) : List Char := trimEnd (trimStart cs)

def trim (text : String) : String := String.ofList (trimmed text.toList)

/-- The trimmed text, unless nothing is left of it. -/
def trim? (text : String) : Option String :=
  let rest := trim text
  if rest.isEmpty then none else some rest

/-- Either there is no text or its first character is kept by trimming. -/
private theorem dropWhile_fixed {test : Char → Bool} {cs : List Char}
    (kept : ∀ c, cs.head? = some c → test c = false) : cs.dropWhile test = cs := by
  cases cs with
  | nil => rfl
  | cons c rest => simp [List.dropWhile, kept c rfl]

private theorem head_dropWhile {test : Char → Bool} {cs : List Char} {c : Char}
    (first : (cs.dropWhile test).head? = some c) : test c = false := by
  induction cs with
  | nil => simp at first
  | cons d rest ih =>
    by_cases dropped : test d = true
    · exact ih (by simpa [List.dropWhile, dropped] using first)
    · simp [List.dropWhile, dropped] at first
      simpa [first] using dropped

theorem trimStart_idem (cs : List Char) : trimStart (trimStart cs) = trimStart cs :=
  dropWhile_fixed fun _ first => head_dropWhile first

theorem trimEnd_idem (cs : List Char) : trimEnd (trimEnd cs) = trimEnd cs := by
  simp only [trimEnd, List.reverse_reverse]
  exact congrArg List.reverse (trimStart_idem cs.reverse)

private theorem head_trimEnd {cs : List Char} {c : Char}
    (first : (trimEnd cs).head? = some c) : cs.head? = some c := by
  have suffix : cs.reverse.dropWhile isBlank <:+ cs.reverse := List.dropWhile_suffix _
  obtain ⟨blank, split⟩ := suffix
  have whole : cs = trimEnd cs ++ blank.reverse := by
    have flipped := congrArg List.reverse split
    simpa [trimEnd] using flipped.symm
  rw [whole]
  cases shape : trimEnd cs with
  | nil => simp [shape] at first
  | cons d rest => simpa [shape] using first

theorem trimStart_trimmed (cs : List Char) : trimStart (trimmed cs) = trimmed cs :=
  dropWhile_fixed fun _ first => head_dropWhile (head_trimEnd first)

@[simp] theorem trimmed_trimmed (cs : List Char) : trimmed (trimmed cs) = trimmed cs := by
  rw [trimmed, trimStart_trimmed]
  exact trimEnd_idem _

@[simp] theorem trim_trim (text : String) : trim (trim text) = trim text := by
  simp [trim]

end DocForm.Text
