import DocForm.Pattern.Match
import Mathlib.Data.List.Basic

/-! What the search for a pattern finds. Main statement: a text holds a match exactly when the
pattern leads from some place of the text to another, although the search cuts repetitions short
and stops as soon as nothing new is reached. -/

namespace DocForm

/-- So many steps of a relation in a row. -/
inductive Chain (step : Nat → Nat → Prop) : Nat → Nat → Nat → Prop where
  | nil {i : Nat} : Chain step 0 i i
  | cons {count i j k : Nat} (first : step i j) (rest : Chain step count j k) :
      Chain step (count + 1) i k

namespace Chain

variable {step : Nat → Nat → Prop} {count other i j k : Nat}

theorem zero_iff : Chain step 0 i j ↔ j = i := by
  constructor
  · rintro ⟨⟩
    rfl
  · rintro rfl
    exact .nil

theorem succ_iff : Chain step (count + 1) i k ↔ ∃ j, step i j ∧ Chain step count j k := by
  constructor
  · rintro (_ | ⟨here, rest⟩)
    exact ⟨_, here, rest⟩
  · rintro ⟨j, here, rest⟩
    exact .cons here rest

theorem append (first : Chain step count i j) (second : Chain step other j k) :
    Chain step (count + other) i k := by
  induction first with
  | nil => simpa using second
  | cons here _ ih =>
    rw [Nat.add_right_comm]
    exact .cons here (ih second)

theorem split (chain : Chain step (count + other) i k) :
    ∃ j, Chain step count i j ∧ Chain step other j k := by
  induction count generalizing i with
  | zero => exact ⟨i, .nil, by simpa using chain⟩
  | succ count ih =>
    rw [Nat.add_right_comm] at chain
    obtain ⟨⟩ | ⟨here, rest⟩ := chain
    obtain ⟨j, first, second⟩ := ih rest
    exact ⟨j, .cons here first, second⟩

theorem le_of_stays {last : Nat} (stays : ∀ i j, step i j → i ≤ last → j ≤ last)
    (chain : Chain step count i j) (inside : i ≤ last) : j ≤ last := by
  induction chain with
  | nil => exact inside
  | cons here _ ih => exact ih (stays _ _ here inside)

section Forward

variable (forward : ∀ i j, step i j → i ≤ j)

include forward

theorem le (chain : Chain step count i j) : i ≤ j := by
  induction chain with
  | nil => exact Nat.le_refl _
  | cons here _ ih => exact Nat.le_trans (forward _ _ here) ih

/-- Of more steps than places between the ends one stays where it is, and it can be left out or
taken twice. -/
theorem stutter (chain : Chain step (count + 1) i j) (short : j ≤ i + count) :
    Chain step count i j ∧ Chain step (count + 2) i j := by
  induction count generalizing i with
  | zero =>
    obtain ⟨⟩ | ⟨here, ⟨⟩⟩ := chain
    obtain rfl : i = j := Nat.le_antisymm (forward _ _ here) short
    exact ⟨.nil, .cons here (.cons here .nil)⟩
  | succ count ih =>
    obtain ⟨⟩ | @⟨_, _, middle, _, here, rest⟩ := chain
    rcases Nat.eq_or_lt_of_le (forward _ _ here) with rfl | moved
    · exact ⟨rest, .cons here (.cons here rest)⟩
    · obtain ⟨shorter, longer⟩ := ih rest (by omega)
      exact ⟨.cons here shorter, .cons here longer⟩

theorem shrink {extra : Nat} (chain : Chain step (count + extra) i j) (wide : j ≤ i + count) :
    Chain step count i j := by
  induction extra with
  | zero => exact chain
  | succ extra ih =>
    have short : j ≤ i + (count + extra) := by omega
    exact ih (chain.stutter forward short).1

theorem grow {extra : Nat} (chain : Chain step (count + 1) i j) (idle : j ≤ i + count) :
    Chain step (count + 1 + extra) i j := by
  induction extra with
  | zero => exact chain
  | succ extra ih =>
    rw [Nat.add_right_comm] at ih
    have longer := (ih.stutter forward (by omega)).2
    have same : count + extra + 2 = count + 1 + (extra + 1) := by omega
    rwa [same] at longer

/-- A chain with a step that stays where it is can have any number of steps that the way allows. -/
theorem resize (chain : Chain step count i j) (idle : j < i + count) (wide : j ≤ i + other) :
    Chain step other i j := by
  rcases Nat.le_total other count with fewer | more
  · obtain ⟨extra, rfl⟩ := Nat.exists_eq_add_of_le fewer
    exact chain.shrink forward wide
  · obtain ⟨extra, rfl⟩ := Nat.exists_eq_add_of_le more
    have ahead := chain.le forward
    obtain ⟨fewer, rfl⟩ : ∃ fewer, count = fewer + 1 := ⟨count - 1, by omega⟩
    exact chain.grow forward (by omega)

end Forward

end Chain

/-- How a pattern leads from one place of a text to another. A limit below the least number of
repetitions is taken for that number. -/
def Pattern.Spans (text : List Char) : Pattern → Nat → Nat → Prop
  | empty, i, j => j = i
  | char set, i, j => j = i + 1 ∧ ∃ c, text[i]? = some c ∧ set.contains c = true
  | anchor condition, i, j =>
    j = i ∧ ∃ gap, (Gap.listFrom none text)[i]? = some gap ∧ condition.holds gap = true
  | seq first second, i, k => ∃ j, first.Spans text i j ∧ second.Spans text j k
  | either first second, i, j => first.Spans text i j ∨ second.Spans text i j
  | repeated body least most, i, j =>
    ∃ count, least ≤ count ∧ (∀ limit ∈ most, count ≤ max least limit) ∧
      Chain (body.Spans text) count i j

/-- The place belongs to the set. -/
def Marks.Holds (marks : Marks) (place : Nat) : Prop := marks[place]? = some true

/-- Every set of places is taken to the places to which a relation leads from it. -/
structure Marks.Acts (size : Nat) (move : Marks → Marks) (step : Nat → Nat → Prop) : Prop where
  length : ∀ marks : Marks, marks.length = size → (move marks).length = size
  holds_iff : ∀ marks : Marks, marks.length = size → ∀ j,
    (move marks).Holds j ↔ ∃ i, marks.Holds i ∧ step i j

namespace Marks

variable {size count : Nat} {move : Marks → Marks} {step : Nat → Nat → Prop} {marks other : Marks}

theorem holds_union (sameLength : marks.length = other.length) (place : Nat) :
    (marks.union other).Holds place ↔ marks.Holds place ∨ other.Holds place := by
  rw [Holds, Holds, Holds, union, List.getElem?_zipWith]
  by_cases inside : place < marks.length
  · have alsoInside : place < other.length := by omega
    simp [List.getElem?_eq_getElem inside, List.getElem?_eq_getElem alsoInside]
  · have alsoOutside : ¬ place < other.length := by omega
    simp [List.getElem?_eq_none (Nat.le_of_not_lt inside),
      List.getElem?_eq_none (Nat.le_of_not_lt alsoOutside)]

theorem length_union (sameLength : marks.length = other.length) :
    (marks.union other).length = marks.length := by
  simp [union, sameLength]

theorem lt_of_holds {place : Nat} (holds : marks.Holds place) : place < marks.length :=
  (List.getElem?_eq_some_iff.mp holds).1

theorem upTo_of_closed (closed : marks.union (move marks) = marks) (most : Nat) :
    Marks.upTo move most marks = marks := by
  cases most with
  | zero => rfl
  | succ most => simp [Marks.upTo, closed]

/-- Stopping early makes no difference. -/
theorem upTo_succ (move : Marks → Marks) (most : Nat) (marks : Marks) :
    Marks.upTo move (most + 1) marks = Marks.upTo move most (marks.union (move marks)) := by
  rw [Marks.upTo]
  split
  · rename_i closed
    rw [closed, upTo_of_closed closed]
  · rfl

theorem any_iff_exists_holds : marks.any id = true ↔ ∃ place, marks.Holds place := by
  simp [Holds, List.any_eq_true, ← List.mem_iff_getElem?]

namespace Acts

variable {first second : Marks → Marks} {firstStep secondStep : Nat → Nat → Prop}

theorem comp (acts : Acts size first firstStep) (next : Acts size second secondStep) :
    Acts size (fun marks => second (first marks)) fun i k =>
      ∃ j, firstStep i j ∧ secondStep j k where
  length marks covers := next.length _ (acts.length marks covers)
  holds_iff marks covers k := by
    rw [next.holds_iff _ (acts.length marks covers)]
    simp only [acts.holds_iff marks covers]
    constructor
    · rintro ⟨j, ⟨i, held, here⟩, there⟩
      exact ⟨i, held, j, here, there⟩
    · rintro ⟨i, held, j, here, there⟩
      exact ⟨j, ⟨i, held, here⟩, there⟩

theorem union (acts : Acts size first firstStep) (other : Acts size second secondStep) :
    Acts size (fun marks => (first marks).union (second marks)) fun i j =>
      firstStep i j ∨ secondStep i j where
  length marks covers := by
    have sameLength := (acts.length marks covers).trans (other.length marks covers).symm
    exact (length_union sameLength).trans (acts.length marks covers)
  holds_iff marks covers j := by
    have sameLength := (acts.length marks covers).trans (other.length marks covers).symm
    rw [holds_union sameLength, acts.holds_iff marks covers, other.holds_iff marks covers]
    simp only [and_or_left, exists_or]

theorem refl (size : Nat) : Acts size (fun marks => marks) fun i j => j = i where
  length _ covers := covers
  holds_iff marks _ j := by simp

theorem congr (acts : Acts size move firstStep)
    (same : ∀ i < size, ∀ j, firstStep i j ↔ secondStep i j) : Acts size move secondStep where
  length := acts.length
  holds_iff marks covers j := by
    rw [acts.holds_iff marks covers]
    refine exists_congr fun i => and_congr_right fun held => same i ?_ j
    rw [← covers]
    exact lt_of_holds held

theorem times (acts : Acts size move step) (count : Nat) :
    Acts size (Marks.times move count) (Chain step count) := by
  induction count with
  | zero => exact (refl size).congr fun i _ j => Chain.zero_iff.symm
  | succ count ih =>
    have next := (acts.comp ih).congr fun i _ k => Chain.succ_iff.symm
    refine ⟨fun marks covers => ?_, fun marks covers j => ?_⟩
    · rw [Marks.times]
      split
      · exact next.length marks covers
      · exact covers
    · rw [Marks.times]
      split
      · exact next.holds_iff marks covers j
      · -- From no place nothing is reached, in however many steps.
        rename_i unmarked
        rw [any_iff_exists_holds] at unmarked
        exact ⟨fun held => absurd ⟨j, held⟩ unmarked,
          fun ⟨i, held, _⟩ => absurd ⟨i, held⟩ unmarked⟩

theorem upTo (acts : Acts size move step) (most : Nat) :
    Acts size (Marks.upTo move most) fun i j => ∃ count ≤ most, Chain step count i j := by
  induction most with
  | zero => exact (refl size).congr fun i _ j => by simp [Chain.zero_iff]
  | succ most ih =>
    have next := ((refl size).union acts).comp ih
    have moves : Marks.upTo move (most + 1) =
        fun marks => Marks.upTo move most (marks.union (move marks)) :=
      funext (upTo_succ move most)
    rw [moves]
    refine next.congr fun i _ k => ?_
    constructor
    · rintro ⟨j, rfl | here, count, within, rest⟩
      · exact ⟨count, by omega, rest⟩
      · exact ⟨count + 1, by omega, .cons here rest⟩
    · rintro ⟨_ | count, within, chain⟩
      · exact ⟨i, .inl rfl, 0, by omega, chain⟩
      · obtain ⟨j, here, rest⟩ := Chain.succ_iff.mp chain
        exact ⟨j, .inr here, count, by omega, rest⟩

end Acts

end Marks

namespace Pattern

variable {text : List Char}

theorem le_of_spans (pattern : Pattern) : ∀ i j, pattern.Spans text i j → i ≤ j := by
  induction pattern with
  | empty => exact fun i j same => Nat.le_of_eq same.symm
  | char set => exact fun i j spans => spans.1 ▸ Nat.le_succ i
  | anchor condition => exact fun i j spans => Nat.le_of_eq spans.1.symm
  | seq first second ihFirst ihSecond =>
    rintro i k ⟨j, here, there⟩
    exact Nat.le_trans (ihFirst i j here) (ihSecond j k there)
  | either first second ihFirst ihSecond =>
    exact fun i j spans => spans.elim (ihFirst i j) (ihSecond i j)
  | repeated body least most ih =>
    rintro i j ⟨count, _, _, chain⟩
    exact chain.le ih

theorem spans_le_length (pattern : Pattern) :
    ∀ i j, pattern.Spans text i j → i ≤ text.length → j ≤ text.length := by
  induction pattern with
  | empty => exact fun i j same inside => same ▸ inside
  | char set =>
    rintro i j ⟨rfl, c, here, _⟩ _
    exact (List.getElem?_eq_some_iff.mp here).1
  | anchor condition => exact fun i j spans inside => spans.1 ▸ inside
  | seq first second ihFirst ihSecond =>
    rintro i k ⟨j, here, there⟩ inside
    exact ihSecond j k there (ihFirst i j here inside)
  | either first second ihFirst ihSecond =>
    exact fun i j spans => spans.elim (ihFirst i j) (ihSecond i j)
  | repeated body least most ih =>
    rintro i j ⟨count, _, _, chain⟩ inside
    exact chain.le_of_stays ih inside

theorem length_listFrom (before : Option Char) (text : List Char) :
    (Gap.listFrom before text).length = text.length + 1 := by
  induction text generalizing before with
  | nil => rfl
  | cons c rest ih => simp [Gap.listFrom, ih]

theorem acts_advance (set : Unicode.CharSet) (text : List Char) :
    Marks.Acts (text.length + 1) (·.advance set text) ((char set).Spans text) where
  length marks covers := by simp [Marks.advance, covers]
  holds_iff marks covers j := by
    cases j with
    | zero => simp [Marks.Holds, Marks.advance, Spans]
    | succ j =>
      simp only [Marks.Holds, Marks.advance, Spans, List.getElem?_cons_succ,
        List.getElem?_zipWith_eq_some, Bool.and_eq_true, Nat.add_right_cancel_iff]
      constructor
      · rintro ⟨c, _, here, held, rfl, listed⟩
        exact ⟨j, held, rfl, c, here, listed⟩
      · rintro ⟨_, held, rfl, c, here, listed⟩
        exact ⟨c, true, here, held, rfl, listed⟩

theorem acts_restrict (condition : Anchor) (text : List Char) :
    Marks.Acts (text.length + 1) (·.restrict condition (Gap.listFrom none text))
      ((anchor condition).Spans text) where
  length marks covers := by simp [Marks.restrict, covers, length_listFrom]
  holds_iff marks covers j := by
    simp only [Marks.Holds, Marks.restrict, Spans, List.getElem?_zipWith_eq_some,
      Bool.and_eq_true]
    constructor
    · rintro ⟨gap, _, here, held, rfl, suits⟩
      exact ⟨j, held, rfl, gap, here, suits⟩
    · rintro ⟨_, held, rfl, gap, here, suits⟩
      exact ⟨gap, true, here, held, rfl, suits⟩

theorem spans_repeated_iff (body : Pattern) (least : Nat) (most : Option Nat) {i : Nat}
    (inside : i ≤ text.length) (j : Nat) :
    let longest := text.length + 1
    let more := match most with
      | some most => min (most - least) longest
      | none => longest
    (∃ k, Chain (body.Spans text) (min least longest) i k ∧
        ∃ count ≤ more, Chain (body.Spans text) count k j) ↔
      (repeated body least most).Spans text i j := by
  intro longest more
  have forward : ∀ i j, body.Spans text i j → i ≤ j := le_of_spans body
  have ends {count : Nat} (chain : Chain (body.Spans text) count i j) : j ≤ text.length :=
    chain.le_of_stays (spans_le_length body) inside
  have allowed (count : Nat) : count ≤ least + more → ∀ limit ∈ most, count ≤ max least limit := by
    rintro within limit rfl
    simp only [more] at within
    omega
  constructor
  · rintro ⟨k, needed, count, within, rest⟩
    have whole := needed.append rest
    rcases Nat.le_total least longest with few | many
    · rw [Nat.min_eq_left few] at whole
      exact ⟨least + count, Nat.le_add_right _ _, allowed _ (by omega), whole⟩
    · -- Even the cut chain has more steps than the text has places, so it can be filled up again.
      have wide := ends whole
      rw [Nat.min_eq_right many] at whole
      refine ⟨least, Nat.le_refl _, allowed _ (by omega), ?_⟩
      exact whole.resize forward (by omega) (by omega)
  · rintro ⟨count, enough, notMore, chain⟩
    have wide := ends chain
    have needed : min least longest ≤ count := by omega
    by_cases within : count ≤ min least longest + more
    · obtain ⟨extra, rfl⟩ := Nat.exists_eq_add_of_le needed
      obtain ⟨k, first, second⟩ := chain.split
      exact ⟨k, first, extra, by omega, second⟩
    · -- What the cut leaves is still more steps than there are places between the ends.
      have plenty : longest ≤ min least longest + more := by
        cases most with
        | none => exact Nat.le_add_left _ _
        | some limit =>
          have := notMore limit rfl
          simp only [more] at within ⊢
          omega
      have shorter : Chain (body.Spans text) (min least longest + more) i j :=
        chain.resize forward (by omega) (by omega)
      obtain ⟨k, first, second⟩ := shorter.split
      exact ⟨k, first, more, Nat.le_refl _, second⟩

theorem acts_reach (pattern : Pattern) : Marks.Acts (text.length + 1)
    (pattern.reach text (Gap.listFrom none text)) (pattern.Spans text) := by
  induction pattern with
  | empty => exact .refl _
  | char set => exact acts_advance set text
  | anchor condition => exact acts_restrict condition text
  | seq first second ihFirst ihSecond => exact ihFirst.comp ihSecond
  | either first second ihFirst ihSecond => exact ihFirst.union ihSecond
  | repeated body least most ih =>
    exact ((ih.times _).comp (ih.upTo _)).congr fun i below j =>
      spans_repeated_iff body least most (Nat.le_of_lt_succ below) j

/-- A text holds a match exactly when the pattern leads from some place of it to another. -/
theorem isFoundIn_iff (pattern : Pattern) (text : String) :
    pattern.isFoundIn text = true ↔
      ∃ i j, i ≤ text.toList.length ∧ pattern.Spans text.toList i j := by
  have covers : ((Gap.listFrom none text.toList).map fun _ => true).length =
      text.toList.length + 1 := by
    rw [List.length_map, length_listFrom]
  have everywhere (i : Nat) :
      Marks.Holds ((Gap.listFrom none text.toList).map fun _ => true) i ↔
        i ≤ text.toList.length := by
    rw [Marks.Holds, List.getElem?_eq_some_iff, ← Nat.lt_add_one_iff, ← covers]
    simp
  simp only [isFoundIn, Marks.any_iff_exists_holds, (acts_reach pattern).holds_iff _ covers,
    everywhere]
  exact exists_comm

end Pattern

end DocForm
