import DocForm.Proofs.Text.Pieces
import DocForm.Table.Slug
import Mathlib

/-! What a slug keeps of its label. Main statement: a slug is made of runs of small letters and
digits with single underscores between them, it has the letters and digits of its label in their
order, its own slug is itself, and what does not show in it only separates. -/

namespace DocForm

variable {c : Char} {cs rest separator word run : List Char} {words : List (List Char)}
  {scan : SlugScan}

/-- A small ASCII letter or an ASCII digit. -/
def isSlugChar (c : Char) : Bool := c.isLower || c.isDigit

/-- The ASCII letters and digits of a text. -/
def lettersAndDigits (text : String) : List Char := text.toList.filter Char.isAlphanum

/-- Characters of one sort, and at least one. -/
structure IsRunOf (sort : Char → Bool) (run : List Char) : Prop where
  some : run ≠ []
  each : ∀ c ∈ run, sort c = true

/-- Runs of small letters and digits with single underscores between them, or nothing at all. -/
inductive IsSlug : String → Prop where
  | empty : IsSlug ""
  | joined {runs : List String} (some : runs ≠ [])
      (each : ∀ run ∈ runs, IsRunOf isSlugChar run.toList) : IsSlug ("_".intercalate runs)

theorem isWordChar_eq (c : Char) : isWordChar c = c.isAlphanum := by
  simp only [isWordChar, Char.isAlphanum, Char.isAlpha, Char.isUpper, Char.isLower, Char.isDigit,
    Char.le_def]
  grind

theorem isWordChar_of_isSlugChar (small : isSlugChar c = true) : isWordChar c = true := by
  rw [isWordChar_eq]
  simp only [isSlugChar, Char.isAlphanum, Char.isAlpha, Bool.or_eq_true] at small ⊢
  exact small.imp_left .inr

theorem not_isUpper_of_isSlugChar (small : isSlugChar c = true) : ¬ c.isUpper = true := by
  rcases (Bool.or_eq_true _ _).mp small with lower | digit
  · exact Char.not_isUpper_of_isLower lower
  · simp only [Char.isUpper, Char.isDigit] at digit ⊢
    grind

/-- Capitals are the letters that change. -/
theorem toLower_of_isSlugChar (small : isSlugChar c = true) : c.toLower = c :=
  Char.toLower_eq_of_not_isUpper (not_isUpper_of_isSlugChar small)

theorem isSlugChar_toLower (shown : isWordChar c = true) : isSlugChar c.toLower = true := by
  rw [isWordChar_eq, Char.isAlphanum, Bool.or_eq_true] at shown
  rw [isSlugChar, Char.isLower_toLower_eq_isAlpha, Bool.or_eq_true]
  refine shown.imp_right fun digit => ?_
  have same : c.toLower = c := toLower_of_isSlugChar ((Bool.or_eq_true _ _).mpr (.inr digit))
  rwa [same]

namespace IsRunOf

theorem toLower (run : IsRunOf isWordChar word) : IsRunOf isSlugChar (word.map Char.toLower) where
  some := by simpa using run.some
  each := by
    intro c inside
    obtain ⟨letter, present, rfl⟩ := List.mem_map.mp inside
    exact isSlugChar_toLower (run.each letter present)

theorem isWord (run : IsRunOf isSlugChar word) : IsRunOf isWordChar word :=
  ⟨run.some, fun c inside => isWordChar_of_isSlugChar (run.each c inside)⟩

theorem map_toLower (run : IsRunOf isSlugChar word) : word.map Char.toLower = word :=
  (List.map_congr_left fun c inside => toLower_of_isSlugChar (run.each c inside)).trans
    (List.map_id word)

end IsRunOf

/-- The runs of letters and digits in a label. -/
def wordsOf (cs : List Char) : List (List Char) :=
  (Text.piecesBy (fun c => !isWordChar c) cs).filter fun word => !word.isEmpty

/-- The words of a label in small letters. -/
def slugWords (cs : List Char) : List (List Char) :=
  (wordsOf cs).map fun word => word.map Char.toLower

/-- The characters of a slug, told without a loop. -/
def slugChars (cs : List Char) : List Char := Text.joinPieces '_' (slugWords cs)

theorem isRunOf_of_mem_wordsOf (member : word ∈ wordsOf cs) : IsRunOf isWordChar word := by
  obtain ⟨piece, some⟩ := List.mem_filter.mp member
  refine ⟨by simpa using some, fun c inside => ?_⟩
  simpa using Text.not_cuts_of_mem_piecesBy piece c inside

/-- A character that does not show divides the words before it from those after it. -/
theorem wordsOf_append_cons (gap : isWordChar c = false) (first rest : List Char) :
    wordsOf (first ++ c :: rest) = wordsOf first ++ wordsOf rest := by
  have cut : (!isWordChar c) = true := by simp [gap]
  rw [wordsOf, Text.piecesBy_eq_splitOnP, List.splitOnP_append_cons first rest cut,
    List.filter_append, ← Text.piecesBy_eq_splitOnP, ← Text.piecesBy_eq_splitOnP, wordsOf, wordsOf]

@[simp] theorem wordsOf_nil : wordsOf [] = [] := rfl

theorem wordsOf_of_isRunOf (run : IsRunOf isWordChar word) : wordsOf word = [word] := by
  have whole : word.splitOnP (fun c => !isWordChar c) = [word] :=
    List.splitOnP_eq_singleton fun c inside => by simp [run.each c inside]
  rw [wordsOf, Text.piecesBy_eq_splitOnP, whole]
  simp [run.some]

theorem wordsOf_gaps_append (gaps : ∀ c ∈ separator, isWordChar c = false) :
    wordsOf (separator ++ rest) = wordsOf rest := by
  induction separator with
  | nil => rfl
  | cons c more ih =>
    obtain ⟨here, later⟩ := List.forall_mem_cons.mp gaps
    exact (wordsOf_append_cons here [] (more ++ rest)).trans (ih later)

/-- Whatever does not show separates, however long it is. -/
theorem wordsOf_append_gaps (some : separator ≠ [])
    (gaps : ∀ c ∈ separator, isWordChar c = false) (first rest : List Char) :
    wordsOf (first ++ separator ++ rest) = wordsOf first ++ wordsOf rest := by
  obtain ⟨c, more, rfl⟩ := List.exists_cons_of_ne_nil some
  obtain ⟨here, later⟩ := List.forall_mem_cons.mp gaps
  rw [List.append_assoc, List.cons_append, wordsOf_append_cons here, wordsOf_gaps_append later]

theorem flatten_wordsOf (cs : List Char) : (wordsOf cs).flatten = cs.filter isWordChar := by
  rw [wordsOf, List.flatten_filter_not_isEmpty, Text.piecesBy_eq_splitOnP]
  induction cs with
  | nil => rfl
  | cons c rest ih =>
    obtain ⟨piece, more, found⟩ := List.exists_cons_of_ne_nil
      (List.splitOnP_ne_nil (fun c => !isWordChar c) rest)
    rw [List.splitOnP_cons_eq_if_modifyHead, List.filter_cons, ← ih, found]
    cases isWordChar c <;> rfl

/-- Joined words are read back. -/
theorem wordsOf_joinPieces (each : ∀ word ∈ words, IsRunOf isWordChar word) :
    wordsOf (Text.joinPieces '_' words) = words := by
  induction words with
  | nil => rfl
  | cons word rest ih =>
    obtain ⟨here, later⟩ := List.forall_mem_cons.mp each
    cases rest with
    | nil => exact wordsOf_of_isRunOf here
    | cons next more =>
      have gap : isWordChar '_' = false := by decide
      rw [Text.joinPieces_cons_cons, wordsOf_append_cons gap, wordsOf_of_isRunOf here, ih later,
        List.singleton_append]

theorem isRunOf_of_mem_slugWords (member : word ∈ slugWords cs) : IsRunOf isSlugChar word := by
  obtain ⟨written, listed, rfl⟩ := List.mem_map.mp member
  exact (isRunOf_of_mem_wordsOf listed).toLower

/-- The words of a slug are those of its label in small letters. -/
theorem wordsOf_slugChars (cs : List Char) : wordsOf (slugChars cs) = slugWords cs :=
  wordsOf_joinPieces fun _ member => (isRunOf_of_mem_slugWords member).isWord

/-- Runs that are small already are the words of what they are joined to. -/
theorem slugWords_joinPieces (each : ∀ word ∈ words, IsRunOf isSlugChar word) :
    slugWords (Text.joinPieces '_' words) = words := by
  rw [slugWords, wordsOf_joinPieces fun word member => (each word member).isWord]
  exact (List.map_congr_left fun word member => (each word member).map_toLower).trans
    (List.map_id words)

theorem slugChars_eq_nil_iff : slugChars cs = [] ↔ wordsOf cs = [] := by
  constructor
  · intro nothing
    have none := wordsOf_slugChars cs
    rw [nothing] at none
    exact List.map_eq_nil_iff.mp none.symm
  · intro nothing
    rw [slugChars, slugWords, nothing]
    rfl

/-- What a scan holds after it has read some characters: it stands between two words, or inside
one that the next character may make longer. -/
inductive SlugScan.Follows (cs : List Char) : SlugScan → Prop where
  | between {scan : SlugScan} (apart : ∀ rest, wordsOf (cs ++ rest) = wordsOf cs ++ wordsOf rest)
      (slug : scan.slug.toList = slugChars cs) (pending : scan.pending = true ∨ scan.slug = "") :
      Follows cs scan
  | inside {slug : String} {words : List (List Char)} {run : List Char}
      (apart : ∀ rest, wordsOf (cs ++ rest) = words ++ wordsOf (run ++ rest))
      (one : IsRunOf isWordChar run)
      (slug_eq : slug.toList =
        Text.joinPieces '_' ((words ++ [run]).map fun word => word.map Char.toLower)) :
      Follows cs ⟨slug, false⟩

namespace SlugScan.Follows

theorem start : Follows [] .start := .between (fun _ => rfl) rfl (.inr rfl)

theorem toList_slug (follows : Follows cs scan) : scan.slug.toList = slugChars cs := by
  cases follows with
  | between apart slug pending => exact slug
  | @inside slug words run apart one slug_eq =>
    have whole : wordsOf cs = words ++ [run] := by simpa [wordsOf_of_isRunOf one] using apart []
    rw [slug_eq, slugChars, slugWords, whole]

theorem read_gap (follows : Follows cs scan) (gap : isWordChar c = false) :
    Follows (cs ++ [c]) (scan.read c) := by
  have next : scan.read c = { scan with pending := true } := by simp [SlugScan.read, gap]
  have ends (first : List Char) : wordsOf (first ++ [c]) = wordsOf first := by
    rw [wordsOf_append_cons gap, wordsOf_nil, List.append_nil]
  have apart (rest : List Char) :
      wordsOf (cs ++ [c] ++ rest) = wordsOf (cs ++ [c]) ++ wordsOf rest := by
    rw [ends, List.append_assoc, List.singleton_append, wordsOf_append_cons gap]
  rw [next]
  refine .between apart ?_ (.inl rfl)
  rw [slugChars, slugWords, ends]
  exact follows.toList_slug

theorem read_letter (follows : Follows cs scan) (shown : isWordChar c = true) :
    Follows (cs ++ [c]) (scan.read c) := by
  cases follows with
  | between apart slug pending =>
    have later (rest : List Char) :
        wordsOf (cs ++ [c] ++ rest) = wordsOf cs ++ wordsOf ([c] ++ rest) := by
      rw [List.append_assoc, apart]
    have one : IsRunOf isWordChar [c] := ⟨by simp, by simpa using shown⟩
    -- In front of the first word no underscore is written, even if one is pending.
    have empty_iff : scan.slug = "" ↔ slugWords cs = [] := by
      rw [← String.toList_eq_nil_iff, slug, slugChars_eq_nil_iff, slugWords, List.map_eq_nil_iff]
    have next : scan.read c =
        ⟨(if slugWords cs = [] then scan.slug else scan.slug.push '_').push c.toLower, false⟩ := by
      rcases pending with pending | nothing
      · simp [SlugScan.read, shown, pending, ← empty_iff]
      · simp [SlugScan.read, shown, nothing, empty_iff.mp nothing]
    rw [next]
    refine .inside later one ?_
    rw [List.map_append, List.map_singleton, Text.joinPieces_append_singleton, ← slugWords]
    by_cases nothing : slugWords cs = []
    · simp [nothing, empty_iff.mpr nothing]
    · simp [nothing, slug, slugChars]
  | @inside slug words run apart one slug_eq =>
    have later (rest : List Char) :
        wordsOf (cs ++ [c] ++ rest) = words ++ wordsOf (run ++ [c] ++ rest) := by
      rw [List.append_assoc, apart, List.append_assoc]
    have longer : IsRunOf isWordChar (run ++ [c]) := by
      refine ⟨by simp, fun d inside => ?_⟩
      rcases List.mem_append.mp inside with before | last
      · exact one.each d before
      · rwa [List.mem_singleton.mp last]
    have next : SlugScan.read ⟨slug, false⟩ c = ⟨slug.push c.toLower, false⟩ := by
      simp [SlugScan.read, shown]
    rw [next]
    refine .inside later longer ?_
    simp [slug_eq, Text.joinPieces_append_singleton]

/-- One more character ends a word, begins one, makes one longer or widens a gap. -/
theorem read (follows : Follows cs scan) (c : Char) : Follows (cs ++ [c]) (scan.read c) := by
  cases shown : isWordChar c with
  | false => exact follows.read_gap shown
  | true => exact follows.read_letter shown

theorem foldl (follows : Follows cs scan) (rest : List Char) :
    Follows (cs ++ rest) (rest.foldl SlugScan.read scan) := by
  induction rest generalizing cs scan with
  | nil => simpa using follows
  | cons c rest ih => simpa using ih (follows.read c)

end SlugScan.Follows

theorem toList_slugify (label : String) : (slugify label).toList = slugChars label.toList :=
  (SlugScan.Follows.start.foldl label.toList).toList_slug

theorem slugify_eq (label : String) :
    slugify label = "_".intercalate ((slugWords label.toList).map String.ofList) := by
  rw [← String.ofList_toList (s := slugify label), toList_slugify]
  exact Text.ofList_joinPieces '_' (slugWords label.toList)

theorem isSlug_slugify (label : String) : IsSlug (slugify label) := by
  rw [slugify_eq]
  by_cases nothing : slugWords label.toList = []
  · rw [nothing]
    exact .empty
  · refine .joined (by simpa using nothing) fun run member => ?_
    obtain ⟨word, listed, rfl⟩ := List.mem_map.mp member
    simpa using isRunOf_of_mem_slugWords listed

/-- Slugs are their own slugs. -/
theorem slugify_of_isSlug {text : String} (slug : IsSlug text) : slugify text = text := by
  cases slug with
  | empty => rfl
  | @joined runs some each =>
    have unwrap : (runs.map String.toList).map String.ofList = runs := by simp
    have small : ∀ word ∈ runs.map String.toList, IsRunOf isSlugChar word := by simpa using each
    have joined : "_".intercalate runs =
        String.ofList (Text.joinPieces '_' (runs.map String.toList)) := by
      rw [Text.ofList_joinPieces, unwrap]
      rfl
    calc slugify ("_".intercalate runs)
      _ = "_".intercalate ((slugWords ("_".intercalate runs).toList).map String.ofList) :=
        slugify_eq _
      _ = "_".intercalate ((runs.map String.toList).map String.ofList) := by
        rw [joined, String.toList_ofList, slugWords_joinPieces small]
      _ = "_".intercalate runs := by rw [unwrap]

theorem slugWords_ne_nil {label : String} (named : slugify label ≠ "") :
    slugWords label.toList ≠ [] := by
  intro nothing
  rw [slugify_eq, nothing] at named
  exact named rfl

theorem slugify_append {label between other : String} (named : slugify label ≠ "")
    (otherNamed : slugify other ≠ "") (some : between ≠ "")
    (gaps : lettersAndDigits between = []) :
    slugify (label ++ between ++ other) = slugify label ++ "_" ++ slugify other := by
  have apart : ∀ c ∈ between.toList, isWordChar c = false := by
    intro c member
    rw [isWordChar_eq]
    simpa using List.filter_eq_nil_iff.mp gaps c member
  have together : slugWords (label ++ between ++ other).toList =
      slugWords label.toList ++ slugWords other.toList := by
    rw [slugWords, String.toList_append, String.toList_append,
      wordsOf_append_gaps (by simpa using some) apart, List.map_append, slugWords, slugWords]
  rw [slugify_eq, together, List.map_append, String.intercalate_append_of_ne_nil, ← slugify_eq,
    ← slugify_eq]
  · simpa using slugWords_ne_nil named
  · simpa using slugWords_ne_nil otherNamed

theorem lettersAndDigits_slugify (label : String) :
    lettersAndDigits (slugify label) = (lettersAndDigits label).map Char.toLower := by
  have whole : isWordChar = Char.isAlphanum := funext isWordChar_eq
  rw [lettersAndDigits, lettersAndDigits, ← whole, toList_slugify, ← flatten_wordsOf,
    ← flatten_wordsOf, wordsOf_slugChars, slugWords, List.map_flatten]

/-- A slug is nothing, or runs of small letters and digits with single underscores between them. It
has the letters and digits of its label in their order. Its own slug is itself, and the slug of two
labels with anything between them that does not show is the one slug, an underscore and the
other. -/
theorem slugify_by_words (label : String) :
    IsSlug (slugify label) ∧
      lettersAndDigits (slugify label) = (lettersAndDigits label).map Char.toLower ∧
      slugify (slugify label) = slugify label ∧
      ∀ between other : String, slugify label ≠ "" → slugify other ≠ "" → between ≠ "" →
        lettersAndDigits between = [] →
          slugify (label ++ between ++ other) = slugify label ++ "_" ++ slugify other :=
  ⟨isSlug_slugify label, lettersAndDigits_slugify label, slugify_of_isSlug (isSlug_slugify label),
    fun _ _ named otherNamed some gaps => slugify_append named otherNamed some gaps⟩

/-- Letters outside ASCII only separate, at the ends and in the middle. -/
theorem slugify_by_words_harvest :
    slugify "Größe (kg) " ≠ "" ∧ slugify "_2024 Ernte" ≠ "" ∧ " – é_" ≠ "" ∧
      lettersAndDigits " – é_" = [] ∧
      slugify ("Größe (kg) " ++ " – é_" ++ "_2024 Ernte") =
        slugify "Größe (kg) " ++ "_" ++ slugify "_2024 Ernte" ∧
      slugify "Größe (kg) " = "gr_e_kg" ∧ slugify "_2024 Ernte" = "2024_ernte" := by
  have named : slugify "Größe (kg) " ≠ "" := by decide
  have otherNamed : slugify "_2024 Ernte" ≠ "" := by decide
  have some : " – é_" ≠ "" := by decide
  have gaps : lettersAndDigits " – é_" = [] := by decide
  exact ⟨named, otherNamed, some, gaps,
    (slugify_by_words "Größe (kg) ").2.2.2 _ _ named otherNamed some gaps, by decide, by decide⟩

end DocForm
