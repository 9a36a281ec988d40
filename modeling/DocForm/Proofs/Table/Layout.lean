import DocForm.Proofs.Lookup
import DocForm.Proofs.Table.Inline

/-! Where the texts of a table come to stand. Main statement: without a value fence, two texts share
a line exactly when they lie in one child of the table with no break between them. -/

namespace DocForm

section Parts

variable {α : Type} {cuts : α → Bool} {before : α → α → Prop} {items part : List α}
  {first second : α}

theorem flatten_splitOnP (cuts : α → Bool) (items : List α) :
    (items.splitOnP cuts).flatten = items.filter fun item => !cuts item := by
  induction items with
  | nil => rfl
  | cons item rest ih =>
    obtain ⟨part, more, parts⟩ := List.exists_cons_of_ne_nil (List.splitOnP_ne_nil cuts rest)
    rw [parts] at ih
    rw [List.splitOnP_cons_eq_if_modifyHead, parts]
    cases cut : cuts item <;> simp [cut, ← ih]

theorem mem_of_mem_splitOnP (cut : part ∈ items.splitOnP cuts) (member : first ∈ part) :
    first ∈ items ∧ cuts first = false := by
  have kept : first ∈ items.filter fun item => !cuts item := by
    rw [← flatten_splitOnP]
    exact List.mem_flatten.mpr ⟨part, cut, member⟩
  simpa using kept

section Kept

variable {middle : List α} (kept : ∀ item ∈ middle, cuts item = false)
include kept

theorem exists_splitOnP_append (rest : List α) :
    ∃ part more, (middle ++ rest).splitOnP cuts = (middle ++ part) :: more := by
  induction middle with
  | nil => exact List.exists_cons_of_ne_nil (List.splitOnP_ne_nil cuts rest)
  | cons item middle ih =>
    obtain ⟨here, later⟩ := List.forall_mem_cons.mp kept
    obtain ⟨part, more, parts⟩ := ih later
    exact ⟨part, more, by simp [List.splitOnP_cons_eq_if_modifyHead, here, parts]⟩

/-- Items with no separator among them stay in one part. -/
theorem exists_part_of_kept (front rest : List α) :
    ∃ part ∈ (front ++ (middle ++ rest)).splitOnP cuts, middle ⊆ part := by
  induction front with
  | nil =>
    obtain ⟨part, more, parts⟩ := exists_splitOnP_append kept rest
    exact ⟨middle ++ part, by simp [parts], List.subset_append_left middle part⟩
  | cons item front ih =>
    obtain ⟨part, inside, whole⟩ := ih
    rw [List.cons_append, List.splitOnP_cons_eq_if_modifyHead]
    split
    · exact ⟨part, List.mem_cons_of_mem _ inside, whole⟩
    · -- The item joins the first part, which may be the one that the others stay in.
      obtain ⟨begun, more, parts⟩ := List.exists_cons_of_ne_nil
        (List.splitOnP_ne_nil cuts (front ++ (middle ++ rest)))
      rw [parts] at inside ⊢
      rcases List.mem_cons.mp inside with rfl | later
      · exact ⟨item :: part, by simp, List.subset_cons_of_subset item whole⟩
      · exact ⟨part, by simp [later], whole⟩

end Kept

variable (asymmetric : ∀ a b, before a b → ¬ before b a) (sorted : items.Pairwise before)
include asymmetric sorted

theorem exists_eq_append_of_before (firstMem : first ∈ items) (secondMem : second ∈ items)
    (order : before first second) :
    ∃ front middle rest, items = front ++ first :: (middle ++ second :: rest) := by
  obtain ⟨front, behind, rfl⟩ := List.append_of_mem firstMem
  obtain ⟨-, -, ahead⟩ := List.pairwise_append.mp sorted
  have later : second ∈ behind := by
    rcases List.mem_append.mp secondMem with inFront | inRest
    · exact absurd order (asymmetric _ _ (ahead second inFront first List.mem_cons_self))
    · rcases List.mem_cons.mp inRest with rfl | inRest
      · exact absurd order (asymmetric _ _ order)
      · exact inRest
  obtain ⟨middle, rest, rfl⟩ := List.append_of_mem later
  exact ⟨front, middle, rest, rfl⟩

/-- In a sorted list, two items lie in one part exactly when no separator lies between them. -/
theorem share_splitOnP_iff (firstMem : first ∈ items) (secondMem : second ∈ items)
    (firstKept : cuts first = false) (secondKept : cuts second = false)
    (order : before first second) :
    (∃ part ∈ items.splitOnP cuts, first ∈ part ∧ second ∈ part) ↔
      ∀ stop ∈ items, cuts stop = true → before first stop → ¬ before stop second := by
  constructor
  · rintro ⟨part, cut, firstIn, secondIn⟩ stop member cutsStop earlier later
    -- A part lies in front of the separator or behind it, and so do the two items.
    obtain ⟨front, rest, rfl⟩ := List.append_of_mem member
    obtain ⟨-, behind, ahead⟩ := List.pairwise_append.mp sorted
    rw [List.splitOnP_append_cons _ _ cutsStop, List.mem_append] at cut
    rcases cut with inFront | inRest
    · have secondFront := (mem_of_mem_splitOnP inFront secondIn).1
      exact asymmetric _ _ later (ahead second secondFront stop List.mem_cons_self)
    · have firstRest := (mem_of_mem_splitOnP inRest firstIn).1
      exact asymmetric _ _ earlier (List.rel_of_pairwise_cons behind firstRest)
  · intro free
    obtain ⟨front, middle, rest, rfl⟩ :=
      exists_eq_append_of_before asymmetric sorted firstMem secondMem order
    obtain ⟨-, behind, -⟩ := List.pairwise_append.mp sorted
    obtain ⟨least, between⟩ := List.pairwise_cons.mp behind
    obtain ⟨-, -, ahead⟩ := List.pairwise_append.mp between
    have kept : ∀ item ∈ first :: (middle ++ [second]), cuts item = false := by
      intro item member
      rcases List.mem_cons.mp member with rfl | inside
      · exact firstKept
      rcases List.mem_append.mp inside with inMiddle | last
      · refine Bool.eq_false_iff.mpr fun cut => ?_
        exact free item (by simp [inMiddle]) cut (least item (by simp [inMiddle]))
          (ahead item inMiddle second List.mem_cons_self)
      · rw [List.mem_singleton.mp last]
        exact secondKept
    obtain ⟨part, cut, whole⟩ := exists_part_of_kept kept front rest
    exact ⟨part, by simpa using cut, whole List.mem_cons_self, whole (by simp)⟩

end Parts

namespace Node

/-- A text or a break, with its place: the positions of the nodes on the way down to it. -/
structure Mark where
  place : List Nat
  node : Node

namespace Mark

/-- One mark comes before the other in the order of the document. -/
def Before (first second : Mark) : Prop := first.place < second.place

/-- The mark as the node above has it. -/
def below (position : Nat) (mark : Mark) : Mark := { mark with place := position :: mark.place }

/-- The mark ends a line. -/
def isBreak (mark : Mark) : Bool := mark.node.isBreak

theorem before_asymm (first second : Mark) (order : first.Before second) : ¬ second.Before first :=
  fun back => List.lt_irrefl _ (List.lt_trans order back)

theorem below_before_iff {position : Nat} {first second : Mark} :
    (first.below position).Before (second.below position) ↔ first.Before second := by
  simp [Before, below]

end Mark

/-- The node is a text or a break, where a way down ends. -/
def isMark (node : Node) : Bool := node.isText || node.isBreak

/-- The text or break at a place in a node. -/
def mark? (node : Node) : List Nat → Option Node
  | [] => if node.isMark then some node else none
  | position :: way =>
    if node.isMark then none else node.children[position]?.bind (·.mark? way)

/-- The text or break at a place in a table. The table's own fences and tags are left out. -/
def tableMark? (table : Node) : List Nat → Option Node
  | [] => none
  | position :: way => (table.children[position]?.filter holdsTableText).bind (·.mark? way)

mutual

/-- The texts and breaks in a node, in the order of the document. -/
def marks : Node → List Mark
  | ⟨type, tag, attributes, children, lines⟩ =>
    let node : Node := ⟨type, tag, attributes, children, lines⟩
    if node.isMark then [⟨[], node⟩] else marksAmong 0 children

/-- The texts and breaks in nodes, the first of which has a position. -/
def marksAmong (position : Nat) : List Node → List Mark
  | [] => []
  | child :: rest => child.marks.map (Mark.below position) ++ marksAmong (position + 1) rest

end

/-- The texts and breaks in a child. -/
def block (child : Node × Nat) : List Mark := child.1.marks.map (Mark.below child.2)

/-- The texts and breaks in a table, child by child. -/
def blocks (table : Node) : List (List Mark) :=
  (table.children.zipIdx.filter fun child => child.1.holdsTableText).map block

/-- The texts of a table, line by line. A child begins a line, and a break ends it. -/
def layout (table : Node) : List (List Mark) := table.blocks.flatMap (·.splitOnP Mark.isBreak)

/-- What the texts of a line say. -/
def lineText (line : List Mark) : String := .join (line.map (·.node.ownText))

/-- The mark lies in the table. -/
def Mark.InTable (table : Node) (mark : Mark) : Prop :=
  table.tableMark? mark.place = some mark.node

theorem marksAmong_eq (position : Nat) (nodes : List Node) :
    marksAmong position nodes = (nodes.zipIdx position).flatMap block := by
  induction nodes generalizing position with
  | nil => rfl
  | cons child rest ih => rw [marksAmong, ih, List.zipIdx_cons, List.flatMap_cons, block]

section Marks

variable {node table leaf : Node} {child : Node × Nat} {place : List Nat} {mark other : Mark}

theorem marks_of_isMark (own : node.isMark = true) : node.marks = [⟨[], node⟩] := by
  obtain ⟨type, tag, attributes, children, covered⟩ := node
  rw [marks]
  simp only [own, if_true]

theorem marks_of_children (inner : node.isMark = false) :
    node.marks = marksAmong 0 node.children := by
  obtain ⟨type, tag, attributes, children, covered⟩ := node
  rw [marks]
  simp [inner]

theorem isBreak_of_isText (text : node.isText = true) : node.isBreak = false := by
  have isText : node.type = "text" := by simpa [isText] using text
  simp [isBreak, isText]

theorem isMark_of_mark? (found : node.mark? place = some leaf) : leaf.isMark = true := by
  induction place generalizing node with
  | nil =>
    rw [mark?, Option.ite_none_right_eq_some] at found
    exact Option.some.inj found.2 ▸ found.1
  | cons position way ih =>
    rw [mark?, Option.ite_none_left_eq_some, Option.bind_eq_some_iff] at found
    obtain ⟨-, child, -, below⟩ := found
    exact ih below

theorem isText_iff_of_inTable (inTable : mark.InTable table) :
    mark.node.isText = true ↔ mark.isBreak = false := by
  refine ⟨isBreak_of_isText, fun unbroken => ?_⟩
  have own : mark.node.isMark = true := by
    obtain ⟨_ | ⟨position, way⟩, leaf⟩ := mark
    · cases inTable
    · obtain ⟨child, -, found⟩ := Option.bind_eq_some_iff.mp inTable
      exact isMark_of_mark? found
  rw [Mark.isBreak] at unbroken
  simpa [isMark, unbroken] using own

theorem mem_block_iff :
    ⟨place, leaf⟩ ∈ block child ↔ ∃ way, place = child.2 :: way ∧ ⟨way, leaf⟩ ∈ child.1.marks := by
  constructor
  · intro member
    obtain ⟨⟨way, inner⟩, inside, same⟩ := List.mem_map.mp member
    obtain ⟨rfl, rfl⟩ := Mark.mk.inj same
    exact ⟨way, rfl, inside⟩
  · rintro ⟨way, rfl, inside⟩
    exact List.mem_map.mpr ⟨⟨way, leaf⟩, inside, rfl⟩

theorem mem_marks_iff : ⟨place, leaf⟩ ∈ node.marks ↔ node.mark? place = some leaf := by
  induction place generalizing node with
  | nil =>
    cases own : node.isMark with
    | true => simp [marks_of_isMark own, mark?, own, @eq_comm _ leaf]
    | false => simp [marks_of_children own, marksAmong_eq, mark?, own, mem_block_iff]
  | cons position way ih =>
    cases own : node.isMark with
    | true => simp [marks_of_isMark own, mark?, own]
    | false =>
      simp [marks_of_children own, marksAmong_eq, mark?, own, mem_block_iff,
        List.mem_zipIdx_iff_getElem?, ih, Option.bind_eq_some_iff]

theorem inTable_iff : mark.InTable table ↔
    ∃ child ∈ table.children.zipIdx, child.1.holdsTableText = true ∧ mark ∈ block child := by
  obtain ⟨place, leaf⟩ := mark
  cases place with
  | nil => simp [Mark.InTable, tableMark?, mem_block_iff]
  | cons position way =>
    simp [Mark.InTable, tableMark?, mem_block_iff, List.mem_zipIdx_iff_getElem?, mem_marks_iff,
      Option.bind_eq_some_iff, and_assoc]

/-- A mark of a table lies in the child that its place begins with. -/
theorem mem_block_iff_of_head (inTable : other.InTable table) (inside : child ∈ table.children.zipIdx)
    (member : mark ∈ block child) : other ∈ block child ↔ mark.place.head? = other.place.head? := by
  obtain ⟨found, inFound, -, otherMem⟩ := inTable_iff.mp inTable
  obtain ⟨way, place, -⟩ := mem_block_iff.mp member
  obtain ⟨otherWay, otherPlace, -⟩ := mem_block_iff.mp otherMem
  rw [place, otherPlace]
  constructor
  · intro otherIn
    obtain ⟨_, samePlace, -⟩ := mem_block_iff.mp otherIn
    obtain ⟨samePosition, -⟩ := List.cons.inj (otherPlace.symm.trans samePlace)
    rw [samePosition, List.head?_cons, List.head?_cons]
  · intro sameHead
    have same : found = child := by
      rw [List.mem_zipIdx_iff_getElem?] at inside inFound
      have positions : child.2 = found.2 := by simpa using sameHead
      rw [positions, inFound] at inside
      exact Prod.ext (Option.some.inj inside) positions.symm
    exact same ▸ otherMem

theorem pairwise_flatMap_block {children : List (Node × Nat)}
    (sorted : children.Pairwise fun first second => first.2 < second.2)
    (each : ∀ child ∈ children, child.1.marks.Pairwise Mark.Before) :
    (children.flatMap block).Pairwise Mark.Before := by
  rw [List.pairwise_flatMap]
  constructor
  · intro child member
    rw [block, List.pairwise_map]
    exact (each child member).imp Mark.below_before_iff.mpr
  · refine sorted.imp fun {first second} earlier mark member other otherMember => ?_
    obtain ⟨way, place, -⟩ := mem_block_iff.mp member
    obtain ⟨otherWay, otherPlace, -⟩ := mem_block_iff.mp otherMember
    rw [Mark.Before, place, otherPlace]
    exact List.cons_lt_cons_iff.mpr (.inl earlier)

end Marks

mutual

theorem pairwise_marks : ∀ node : Node, node.marks.Pairwise Mark.Before
  | ⟨type, tag, attributes, children, lines⟩ => by
    let node : Node := ⟨type, tag, attributes, children, lines⟩
    change node.marks.Pairwise Mark.Before
    cases own : node.isMark with
    | true =>
      rw [marks_of_isMark own]
      exact List.pairwise_singleton _ _
    | false =>
      rw [marks_of_children own, marksAmong_eq]
      refine pairwise_flatMap_block (pairwise_zipIdx _) fun child member => ?_
      exact pairwise_marks_of_mem children child.1 (List.fst_mem_of_mem_zipIdx member)

theorem pairwise_marks_of_mem : ∀ (nodes : List Node), ∀ child ∈ nodes,
    child.marks.Pairwise Mark.Before
  | [] => nofun
  | child :: rest =>
    List.forall_mem_cons.mpr ⟨pairwise_marks child, pairwise_marks_of_mem rest⟩

end

theorem pairwise_block (child : Node × Nat) : (block child).Pairwise Mark.Before := by
  have alone := @pairwise_flatMap_block [child] (List.pairwise_singleton _ _)
    fun other _ => pairwise_marks other.1
  simpa using alone

section Lines

variable {table : Node} {mark first second : Mark}

theorem flatten_layout (table : Node) : table.layout.flatten =
    ((table.children.zipIdx.filter fun child => child.1.holdsTableText).flatMap block).filter
      fun mark => !mark.isBreak := by
  rw [layout, blocks, List.flatMap_map, List.filter_flatMap, List.flatten_eq_flatMap,
    List.flatMap_assoc]
  simp only [← List.flatten_eq_flatMap, flatten_splitOnP]

theorem pairwise_layout (table : Node) : table.layout.flatten.Pairwise Mark.Before := by
  rw [flatten_layout]
  refine List.Pairwise.filter _ (pairwise_flatMap_block ?_ fun child _ => pairwise_marks child.1)
  exact (pairwise_zipIdx _).filter _

theorem exists_line_iff :
    (∃ line ∈ table.layout, mark ∈ line) ↔ mark.InTable table ∧ mark.isBreak = false := by
  rw [← List.mem_flatten, flatten_layout, List.mem_filter, inTable_iff]
  simp [and_assoc]

theorem mem_layout_iff {line : List Mark} : line ∈ table.layout ↔
    ∃ child ∈ table.children.zipIdx, child.1.holdsTableText = true ∧
      line ∈ (block child).splitOnP Mark.isBreak := by
  simp [layout, blocks, and_assoc]

/-- What comes between two marks of one child lies in that child. -/
theorem head?_eq_of_between {stop : Mark} (sameHead : first.place.head? = second.place.head?)
    (earlier : first.Before stop) (later : stop.Before second) :
    first.place.head? = stop.place.head? := by
  rw [Mark.Before] at earlier later
  cases stopPlace : stop.place with
  | nil =>
    rw [stopPlace] at earlier
    exact absurd earlier (List.not_lt_nil _)
  | cons position way =>
    cases secondPlace : second.place with
    | nil =>
      rw [secondPlace] at later
      exact absurd later (List.not_lt_nil _)
    | cons last behind =>
      obtain ⟨ahead, firstPlace⟩ : ∃ ahead, first.place = last :: ahead := by
        rw [secondPlace] at sameHead
        exact List.head?_eq_some_iff.mp sameHead
      rw [stopPlace, firstPlace, List.cons_lt_cons_iff] at earlier
      rw [stopPlace, secondPlace, List.cons_lt_cons_iff] at later
      have same : last = position := by omega
      rw [firstPlace, same, List.head?_cons, List.head?_cons]

/-- Two texts share a line exactly when they lie in one child with no break between them. -/
theorem share_layout_iff (firstIn : first.InTable table) (secondIn : second.InTable table)
    (firstKept : first.isBreak = false) (secondKept : second.isBreak = false)
    (order : first.Before second) :
    (∃ line ∈ table.layout, first ∈ line ∧ second ∈ line) ↔
      first.place.head? = second.place.head? ∧
        ∀ stop : Mark, stop.InTable table → stop.isBreak = true →
          first.Before stop → ¬ stop.Before second := by
  have shared (child : Node × Nat) (firstMem : first ∈ block child)
      (secondMem : second ∈ block child) := share_splitOnP_iff Mark.before_asymm
    (pairwise_block child) firstMem secondMem firstKept secondKept order
  constructor
  · rintro ⟨line, inLayout, firstInLine, secondInLine⟩
    -- A break of the table between the two lies in their child, where it would cut the line.
    obtain ⟨child, inside, holds, cut⟩ := mem_layout_iff.mp inLayout
    have firstMem := (mem_of_mem_splitOnP cut firstInLine).1
    have secondMem := (mem_of_mem_splitOnP cut secondInLine).1
    have sameHead := (mem_block_iff_of_head secondIn inside firstMem).mp secondMem
    refine ⟨sameHead, fun stop stopIn cuts earlier later => ?_⟩
    have stopMem : stop ∈ block child := (mem_block_iff_of_head stopIn inside firstMem).mpr
      (head?_eq_of_between sameHead earlier later)
    exact (shared child firstMem secondMem).mp ⟨line, cut, firstInLine, secondInLine⟩
      stop stopMem cuts earlier later
  · rintro ⟨sameHead, free⟩
    obtain ⟨child, inside, holds, firstMem⟩ := inTable_iff.mp firstIn
    have secondMem := (mem_block_iff_of_head secondIn inside firstMem).mpr sameHead
    obtain ⟨line, cut, together⟩ := (shared child firstMem secondMem).mpr fun stop stopMem =>
      free stop (inTable_iff.mpr ⟨child, inside, holds, stopMem⟩)
    exact ⟨line, mem_layout_iff.mpr ⟨child, inside, holds, cut⟩, together⟩

end Lines

/-- Put a mark into the lines. -/
def LineBuffer.put (buffer : LineBuffer) (mark : Mark) : LineBuffer :=
  if mark.isBreak then buffer.endLine else buffer.append mark.node.ownText

theorem put_below (position : Nat) (buffer : LineBuffer) (mark : Mark) :
    buffer.put (mark.below position) = buffer.put mark := rfl

theorem all_foldl_put (marks : List Mark) (buffer : LineBuffer) :
    (marks.foldl LineBuffer.put buffer).all = buffer.complete.reverse ++
      ((marks.splitOnP Mark.isBreak).map lineText).modifyHead (buffer.current ++ ·) := by
  induction marks generalizing buffer with
  | nil => simp [LineBuffer.all, lineText, String.join]
  | cons mark rest ih =>
    obtain ⟨part, more, parts⟩ :=
      List.exists_cons_of_ne_nil (List.splitOnP_ne_nil Mark.isBreak rest)
    rw [List.foldl_cons, ih, List.splitOnP_cons_eq_if_modifyHead, parts]
    cases cut : mark.isBreak with
    | true => simp [LineBuffer.put, cut, LineBuffer.endLine, lineText, String.join]
    | false => simp [LineBuffer.put, cut, LineBuffer.append, lineText, String.append_assoc]

mutual

theorem fillLines_eq : ∀ (buffer : LineBuffer) (node : Node),
    fillLines buffer node = node.marks.foldl LineBuffer.put buffer
  | buffer, ⟨type, tag, attributes, children, lines⟩ => by
    let node : Node := ⟨type, tag, attributes, children, lines⟩
    change fillLines buffer node = node.marks.foldl LineBuffer.put buffer
    cases text : node.isText with
    | true =>
      have unbroken : Mark.isBreak ⟨[], node⟩ = false := isBreak_of_isText text
      rw [fillLines_of_isText text, marks_of_isMark (by simp [isMark, text])]
      simp [LineBuffer.put, unbroken]
    | false =>
      cases broken : node.isBreak with
      | true =>
        have cut : Mark.isBreak ⟨[], node⟩ = true := broken
        rw [fillLines_of_isBreak text broken, marks_of_isMark (by simp [isMark, broken])]
        simp [LineBuffer.put, cut]
      | false =>
        rw [fillLines_of_children text broken, marks_of_children (by simp [isMark, text, broken])]
        exact fillLinesAmong_eq buffer 0 children

theorem fillLinesAmong_eq : ∀ (buffer : LineBuffer) (position : Nat) (nodes : List Node),
    fillLinesAmong buffer nodes = (marksAmong position nodes).foldl LineBuffer.put buffer
  | _, _, [] => rfl
  | buffer, position, child :: rest => by
    rw [fillLinesAmong, marksAmong, List.foldl_append, List.foldl_map, fillLines_eq buffer child,
      fillLinesAmong_eq _ (position + 1) rest]
    rfl

end

theorem shownLines_flatMap {α : Type} (items : List α) (lines : α → List String) :
    shownLines (items.flatMap lines) = items.flatMap fun item => shownLines (lines item) := by
  simp only [shownLines, List.map_flatMap, List.filter_flatMap]

theorem shownLines_block (child : Node × Nat) :
    shownLines (fillLines .empty child.1).lines =
      shownLines (((block child).splitOnP Mark.isBreak).map lineText) := by
  have filled : (fillLines .empty child.1).all =
      ((block child).splitOnP Mark.isBreak).map lineText := by
    have put := all_foldl_put (block child) .empty
    rw [block, List.foldl_map] at put
    simp only [put_below, ← fillLines_eq] at put
    rw [put]
    simp [LineBuffer.empty, block, ← Function.id_def]
  rw [LineBuffer.shownLines_lines, filled]

theorem tableLines_eq (table : Node) :
    table.tableLines = shownLines (table.layout.map lineText) := by
  have children : table.children.filter holdsTableText =
      (table.children.zipIdx.filter fun child => child.1.holdsTableText).map Prod.fst := by
    conv_lhs => rw [← List.zipIdx_map_fst 0 table.children]
    rw [List.filter_map]
    rfl
  change shownLines ((table.children.filter holdsTableText).flatMap fun child =>
    (fillLines .empty child).lines) = shownLines (table.layout.map lineText)
  rw [children, layout, blocks, List.flatMap_map, List.flatMap_map, List.map_flatMap,
    shownLines_flatMap, shownLines_flatMap]
  simp only [shownLines_block]

/-- Lines one below the other. No lines are no text. -/
def joinLines? (lines : List String) : Option String :=
  if lines = [] then none else some ("\n".intercalate lines)

theorem isEmpty_intercalate_iff {lines : List String} (shown : ∀ line ∈ lines, line ≠ "") :
    ("\n".intercalate lines).isEmpty = true ↔ lines = [] := by
  match lines with
  | [] => simp
  | [line] => simpa using shown
  | line :: next :: rest => simp [String.intercalate_cons_cons]

theorem tableText?_eq {table : Node} (bare : table.fenceValue? = none) :
    table.tableText? = joinLines? (shownLines (table.layout.map lineText)) := by
  have each : ∀ line ∈ shownLines (table.layout.map lineText), line ≠ "" := by
    intro line member
    simpa using (List.mem_filter.mp member).2
  rw [tableText?, bare, tableLines_eq, joinLines?]
  simp only [isEmpty_intercalate_iff each]

/-- Where the texts of a table stand, line by line. -/
structure LaysOut (table : Node) (lines : List (List Mark)) : Prop where
  /-- The lines hold the texts of the table and nothing else. -/
  holds : ∀ mark : Mark,
    (∃ line ∈ lines, mark ∈ line) ↔ mark.InTable table ∧ mark.node.isText = true
  /-- The texts stand in the order of the document, each of them once. -/
  ordered : lines.flatten.Pairwise Mark.Before
  /-- Two texts share a line exactly when they lie in one child and no break lies between them. -/
  shared : ∀ first second : Mark, first.InTable table → second.InTable table →
    first.node.isText = true → second.node.isText = true → first.Before second →
      ((∃ line ∈ lines, first ∈ line ∧ second ∈ line) ↔
        first.place.head? = second.place.head? ∧
          ∀ stop : Mark, stop.InTable table → stop.node.isBreak = true →
            first.Before stop → ¬ stop.Before second)
  /-- The text of the table are the lines, trimmed and without those that show nothing. -/
  shown : table.tableText? = joinLines? (shownLines (lines.map lineText))

/-- Without a value fence, the texts of a table stand line by line. What lies in different children
or around a break is apart; blocks inside one child run together. -/
theorem laysOut_layout {table : Node} (bare : table.fenceValue? = none) :
    table.LaysOut table.layout where
  holds mark := by
    rw [exists_line_iff]
    exact and_congr_right fun inTable => (isText_iff_of_inTable inTable).symm
  ordered := pairwise_layout table
  shared first second firstIn secondIn firstText secondText order :=
    share_layout_iff firstIn secondIn (isBreak_of_isText firstText) (isBreak_of_isText secondText)
      order
  shown := tableText?_eq bare

/-- A text. -/
def saying (content : String) : Node :=
  ⟨"text", none, .ofList [("content", .text content)], [], []⟩

/-- A table of guests in two paragraphs, the first of them with a break in it. -/
def guests : Node where
  type := "tag"
  tag := some "table-field"
  attributes := .ofList [("id", .text "guests"), ("label", .text "Guests")]
  children := [
    ⟨"paragraph", none, ∅, [saying "| Name |", ⟨"softbreak", none, ∅, [], []⟩, saying "| --- |"], []⟩,
    ⟨"paragraph", none, ∅, [saying "| Ada |"], []⟩]
  lines := [1]

/-- The table of guests with its paragraphs in a quotation. -/
def quotedGuests : Node :=
  { guests with children := [⟨"blockquote", none, ∅, guests.children, [2]⟩] }

theorem laysOut_guests : guests.fenceValue? = none ∧ guests.LaysOut guests.layout :=
  have bare : guests.fenceValue? = none := by decide +kernel
  ⟨bare, laysOut_layout bare⟩

/-- In a quotation the second paragraph goes on in the last line of the first. -/
theorem joined_quotedGuests :
    guests.tableText? = some "| Name |\n| --- |\n| Ada |" ∧ quotedGuests.fenceValue? = none ∧
      quotedGuests.layout.map (·.map (·.place)) = [[[0, 0, 0]], [[0, 0, 2], [0, 1, 0]]] ∧
      quotedGuests.tableText? = some "| Name |\n| --- || Ada |" := by
  decide +kernel

end Node

end DocForm
