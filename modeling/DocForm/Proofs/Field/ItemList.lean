import DocForm.Field.ItemList
import DocForm.Proofs.Text.Pieces
import Mathlib.Data.List.Forall2

/-! The items of a list, line by line. Main statements: an item behind a bullet is read as it is,
and a bullet with nothing behind it is read as an item too. -/

namespace DocForm

/-- A dash or a star, with a space behind it. -/
def IsBullet (bullet : String) : Prop := bullet = "- " ∨ bullet = "* "

/-- A line that shows an item behind a bullet. -/
def Bullets (item line : String) : Prop := ∃ bullet, IsBullet bullet ∧ line = bullet ++ item

/-- Items and the lines that show them. An item may look like anything, another bullet included. -/
structure WritesItems (items lines : List String) : Prop where
  some : items ≠ []
  each : ∀ item ∈ items, Text.IsLine item
  bulleted : List.Forall₂ Bullets items lines

/-- A line of white space, a bullet and more white space. -/
def IsBareBullet (line : String) : Prop :=
  ∃ before bullet after, Text.IsBlank before ∧ IsBullet bullet ∧ Text.IsBlank after ∧
    line = before ++ bullet ++ after

/-- The item that a line shows; a blank line shows an empty one. -/
def lineItem (line : String) : String := withoutBullet (Text.trim line)

/-- The items that lines show. -/
def lineItems (lines : List String) : List String :=
  (lines.map lineItem).filter fun item => !item.isEmpty

variable {bullet item line : String} {items lines : List String}

theorem lineItems_cons (line : String) (rest : List String) :
    lineItems (line :: rest) =
      (if (lineItem line).isEmpty then [] else [lineItem line]) ++ lineItems rest := by
  rw [lineItems, List.map_cons, List.filter_cons, lineItems]
  cases (lineItem line).isEmpty <;> rfl

theorem lineItem_of_trim (blank : Text.trim line = "") : lineItem line = "" := by
  rw [lineItem, blank]
  decide

/-- Blank lines need not be taken out beforehand. -/
theorem listItems_eq (content : String) :
    listItems content = lineItems (Text.splitOn '\n' content) := by
  rw [listItems, Text.lines]
  generalize Text.splitOn '\n' content = lines
  induction lines with
  | nil => simp [lineItems]
  | cons line rest ih =>
    rw [lineItems_cons, ← ih, List.map_cons]
    by_cases blank : Text.trim line = ""
    · rw [List.filter_cons_of_neg (by simp [blank]), lineItem_of_trim blank]
      rfl
    · rw [List.filter_cons_of_pos (by simpa using blank), List.map_cons, List.filter_cons, lineItem]
      cases (withoutBullet (Text.trim line)).isEmpty <;> rfl

theorem listItems_intercalate (unbroken : ∀ line ∈ lines, '\n' ∉ line.toList) :
    listItems ("\n".intercalate lines) = lineItems lines := by
  by_cases none : lines = []
  · subst none
    decide
  · have cut : Text.splitOn '\n' ("\n".intercalate lines) = lines :=
      Text.splitOn_intercalate unbroken none
    rw [listItems_eq, cut]

theorem IsBullet.exists_sign (isBullet : IsBullet bullet) :
    ∃ sign, bullet.toList = [sign, ' '] ∧ (sign = '-' ∨ sign = '*') := by
  rcases isBullet with rfl | rfl
  · exact ⟨'-', by decide, .inl rfl⟩
  · exact ⟨'*', by decide, .inr rfl⟩

theorem isBlank_of_sign {sign : Char} (isSign : sign = '-' ∨ sign = '*') :
    Text.isBlank sign = false := by
  rcases isSign with rfl | rfl <;> decide

/-- Only one bullet is taken off. -/
theorem withoutBullet_append (isBullet : IsBullet bullet) (rest : String) :
    withoutBullet (bullet ++ rest) = Text.trim rest := by
  rcases isBullet with rfl | rfl
  · rw [withoutBullet, Text.after?_eq_some_iff.mpr rfl]
    rfl
  · have noDash : Text.after? "- " ("* " ++ rest) = none := by
      refine Option.eq_none_iff_forall_ne_some.mpr fun other found => ?_
      have chars := congrArg String.toList (Text.after?_eq_some_iff.mp found)
      simp at chars
    rw [withoutBullet, noDash, Text.after?_eq_some_iff.mpr rfl]
    rfl

theorem isLine_of_bullets (isLine : Text.IsLine item) (bullets : Bullets item line) :
    Text.IsLine line := by
  obtain ⟨bullet, isBullet, rfl⟩ := bullets
  obtain ⟨sign, signed, isSign⟩ := isBullet.exists_sign
  obtain ⟨inside, last, shape, visible⟩ :=
    Text.exists_concat_of_trimmed isLine.trimmed isLine.shown
  have chars : (bullet ++ item).toList = sign :: ((' ' :: inside) ++ [last]) := by
    simp [signed, shape]
  have unbroken : '\n' ∉ bullet.toList := by
    rcases isSign with rfl | rfl <;> simp [signed]
  exact {
    trimmed := Text.trim_eq_self chars (isBlank_of_sign isSign) visible
    shown := fun nothing => by simp [nothing] at chars
    unbroken := by simpa using ⟨unbroken, isLine.unbroken⟩ }

theorem map_withoutBullet (each : ∀ item ∈ items, Text.IsLine item)
    (bulleted : List.Forall₂ Bullets items lines) :
    (∀ line ∈ lines, Text.IsLine line) ∧ lines.map withoutBullet = items := by
  induction bulleted with
  | nil => exact ⟨by simp, rfl⟩
  | @cons item line _ _ bullets _ ih =>
    obtain ⟨here, later⟩ := List.forall_mem_cons.mp each
    obtain ⟨areLines, rest⟩ := ih later
    have bare : withoutBullet line = item := by
      obtain ⟨bullet, isBullet, rfl⟩ := bullets
      rw [withoutBullet_append isBullet, here.trimmed]
    refine ⟨List.forall_mem_cons.mpr ⟨isLine_of_bullets here bullets, areLines⟩, ?_⟩
    rw [List.map_cons, bare, rest]

/-- Items behind their bullets are read in order, each as it is. -/
theorem listItems_of_writesItems (writes : WritesItems items lines) :
    listItems ("\n".intercalate lines) = items := by
  obtain ⟨areLines, bare⟩ := map_withoutBullet writes.each writes.bulleted
  have shown : ∀ item ∈ items, (!item.isEmpty) = true := fun item member => by
    simpa using (writes.each item member).shown
  rw [listItems, Text.lines_intercalate areLines, bare, List.filter_eq_self.mpr shown]

/-- A bare bullet, told by its characters. -/
def isBareBullet (line : String) : Bool :=
  match Text.trimStart line.toList with
  | sign :: ' ' :: rest => (sign = '-' || sign = '*') && rest.all Text.isBlank
  | _ => false

theorem isBareBullet_iff : isBareBullet line = true ↔ IsBareBullet line := by
  constructor
  · intro told
    rw [isBareBullet] at told
    split at told
    · rename_i sign rest left
      simp only [Bool.and_eq_true, Bool.or_eq_true, decide_eq_true_eq, List.all_eq_true] at told
      obtain ⟨isSign, blankRest⟩ := told
      have whole : line.toList = line.toList.takeWhile Text.isBlank ++ sign :: ' ' :: rest := by
        rw [← left]
        exact List.takeWhile_append_dropWhile.symm
      refine ⟨.ofList (line.toList.takeWhile Text.isBlank), .ofList [sign, ' '], .ofList rest,
        fun c member => List.mem_takeWhile_imp (by simpa using member), ?_,
        fun c member => blankRest c (by simpa using member), ?_⟩
      · rcases isSign with rfl | rfl
        · exact .inl (by decide)
        · exact .inr (by decide)
      · apply String.toList_inj.mp
        simpa using whole
    · cases told
  · rintro ⟨before, bullet, after, blankBefore, isBullet, blankAfter, rfl⟩
    obtain ⟨sign, signed, isSign⟩ := isBullet.exists_sign
    have left : Text.trimStart (before ++ bullet ++ after).toList = sign :: ' ' :: after.toList := by
      rw [String.toList_append, String.toList_append, List.append_assoc,
        Text.trimStart_append blankBefore, signed]
      exact Text.trimStart_cons (isBlank_of_sign isSign)
    rw [isBareBullet, left]
    simpa [isSign, Text.IsBlank] using blankAfter

instance : DecidablePred IsBareBullet := fun _ => decidable_of_iff _ isBareBullet_iff

/-- Trimmed first, a bare bullet has lost its space, and then counts as an item. -/
theorem lineItem_of_bareBullet (bare : IsBareBullet line) :
    lineItem line = Text.trim line ∧ Text.trim line ≠ "" := by
  obtain ⟨before, bullet, after, blankBefore, isBullet, blankAfter, rfl⟩ := bare
  have blankSpace : Text.IsBlank (" " ++ after) := by
    intro c member
    rcases List.mem_append.mp (String.toList_append .. ▸ member) with space | inAfter
    · rw [List.mem_singleton.mp space]
      decide
    · exact blankAfter c inAfter
  have left : ∀ sign : String, Text.trim (before ++ (sign ++ " ") ++ after) = Text.trim sign := by
    intro sign
    rw [← Text.trim_padded sign blankBefore blankSpace]
    exact congrArg Text.trim (String.toList_inj.mp (by simp))
  rcases isBullet with rfl | rfl
  · have shown : Text.trim (before ++ "- " ++ after) = "-" := (left "-").trans (by decide)
    rw [lineItem, shown]
    decide
  · have shown : Text.trim (before ++ "* " ++ after) = "*" := (left "*").trans (by decide)
    rw [lineItem, shown]
    decide

/-- A content without the lines that hold a bare bullet. -/
def withoutBareBullets (content : String) : String :=
  "\n".intercalate ((Text.splitOn '\n' content).filter fun line => ¬ IsBareBullet line)

theorem listItems_withoutBareBullets (content : String) :
    listItems (withoutBareBullets content) =
      lineItems ((Text.splitOn '\n' content).filter fun line => ¬ IsBareBullet line) :=
  listItems_intercalate fun _ member => Text.not_mem_of_mem_splitOn (List.mem_of_mem_filter member)

/-- Each line with a bare bullet is one item more. -/
theorem length_lineItems (lines : List String) :
    (lineItems lines).length =
      (lineItems (lines.filter fun line => ¬ IsBareBullet line)).length +
        lines.countP fun line => IsBareBullet line := by
  induction lines with
  | nil => rfl
  | cons line rest ih =>
    by_cases bare : IsBareBullet line
    · obtain ⟨item, shown⟩ := lineItem_of_bareBullet bare
      rw [List.filter_cons_of_neg (by simpa using bare), List.countP_cons_of_pos (by simpa using bare),
        lineItems_cons, item, if_neg (by simpa using shown), List.length_append, ih]
      simp only [List.length_singleton]
      omega
    · rw [List.filter_cons_of_pos (by simpa using bare), List.countP_cons_of_neg (by simpa using bare),
        lineItems_cons, lineItems_cons, List.length_append, List.length_append, ih]
      omega

/-- Taking lines with bare bullets out changes the items whenever there are any. -/
theorem listItems_withoutBareBullets_eq_iff {content : String} :
    listItems (withoutBareBullets content) = listItems content ↔
      ∀ line ∈ Text.splitOn '\n' content, ¬ IsBareBullet line := by
  rw [listItems_withoutBareBullets, listItems_eq]
  constructor
  · intro same line member bare
    have lengths := length_lineItems (Text.splitOn '\n' content)
    rw [same] at lengths
    have none : (Text.splitOn '\n' content).countP (fun line => IsBareBullet line) = 0 := by omega
    exact List.countP_eq_zero.mp none line member (by simpa using bare)
  · intro none
    rw [List.filter_eq_self.mpr fun line member => by simpa using none line member]

/-- Lines with bare bullets, among blank ones, show the bullets as items. -/
theorem lineItems_of_bareBullets (each : ∀ line ∈ lines, IsBareBullet line ∨ Text.trim line = "") :
    lineItems lines = (lines.filter fun line => IsBareBullet line).map Text.trim ∧
      lineItems (lines.filter fun line => ¬ IsBareBullet line) = [] := by
  induction lines with
  | nil => exact ⟨rfl, rfl⟩
  | cons line rest ih =>
    obtain ⟨here, later⟩ := List.forall_mem_cons.mp each
    obtain ⟨bullets, others⟩ := ih later
    by_cases bare : IsBareBullet line
    · obtain ⟨item, shown⟩ := lineItem_of_bareBullet bare
      constructor
      · rw [List.filter_cons_of_pos (by simpa using bare), lineItems_cons, item,
          if_neg (by simpa using shown), bullets, List.map_cons, List.singleton_append]
      · rwa [List.filter_cons_of_neg (by simpa using bare)]
    · have noItem := lineItem_of_trim (here.resolve_left bare)
      constructor
      · rw [List.filter_cons_of_neg (by simpa using bare), lineItems_cons, noItem, bullets]
        rfl
      · rw [List.filter_cons_of_pos (by simpa using bare), lineItems_cons, noItem, others]
        rfl

end DocForm
