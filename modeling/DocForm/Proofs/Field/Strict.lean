import DocForm.Field.Parse

/-! What strictness changes in reading a field. Main statement: the strict reading is the lenient
one, unless it refuses a placeholder. -/

namespace DocForm

/-- The error refuses a placeholder. -/
def ParseError.RefusesPlaceholder (error : ParseError) : Prop :=
  ∃ text kind, error.fault = .invalidPlaceholder text kind

/-- One reading does what another does, unless it refuses a placeholder that the other accepts. -/
inductive Tightens {α : Type} (strict lenient : Except ParseError α) : Prop where
  | same (same : strict = lenient)
  | refused {error : ParseError} (placeholder : error.RefusesPlaceholder)
      (refused : strict = .error error)

namespace Tightens

variable {α β : Type} {strict lenient : Except ParseError α}

theorem refl (outcome : Except ParseError α) : Tightens outcome outcome := .same rfl

/-- Of two readings in two steps the first that refuses a placeholder decides. -/
theorem bind {strictNext lenientNext : α → Except ParseError β} (first : Tightens strict lenient)
    (next : ∀ found, Tightens (strictNext found) (lenientNext found)) :
    Tightens (strict >>= strictNext) (lenient >>= lenientNext) := by
  cases first with
  | same same =>
    subst same
    cases strict with
    | error error => exact .same rfl
    | ok found => exact next found
  | refused placeholder refused =>
    subst refused
    exact .refused placeholder rfl

theorem foldlM {strictStep lenientStep : β → α → Except ParseError β}
    (step : ∀ state item, Tightens (strictStep state item) (lenientStep state item))
    (items : List α) (start : β) :
    Tightens (items.foldlM strictStep start) (items.foldlM lenientStep start) := by
  induction items generalizing start with
  | nil => exact .refl _
  | cons item rest ih =>
    rw [List.foldlM_cons, List.foldlM_cons]
    exact (step start item).bind ih

/-- Whatever is read strictly is read leniently. -/
theorem lenient_eq_ok (tightens : Tightens strict lenient) {result : α}
    (read : strict = .ok result) : lenient = .ok result := by
  cases tightens with
  | same same => rw [← same, read]
  | refused _ refused => cases read.symm.trans refused

theorem exists_strict_eq_error (tightens : Tightens strict lenient) {error : ParseError}
    (failed : lenient = .error error) : ∃ refusal, strict = .error refusal := by
  cases tightens with
  | same same => exact ⟨error, same.trans failed⟩
  | refused _ refused => exact ⟨_, refused⟩

/-- Any other error than about a placeholder is met leniently as well. -/
theorem lenient_eq_error (tightens : Tightens strict lenient) {error : ParseError}
    (failed : strict = .error error) (other : ¬ error.RefusesPlaceholder) :
    lenient = .error error := by
  cases tightens with
  | same same => rw [← same, failed]
  | refused placeholder refused =>
    cases failed.symm.trans refused
    exact absurd placeholder other

end Tightens

namespace Heading

variable (heading : Heading) (settings : Settings)

/-- The only place that asks whether the reading is strict. -/
theorem hints_tightens (valid : String → Bool) :
    Tightens (heading.hints true valid) (heading.hints false valid) := by
  unfold hints
  refine Tightens.bind (.refl _) fun placeholder => Tightens.bind (.refl _) fun examples => ?_
  dsimp only
  cases (examples.getD []).find? fun sample => !valid sample with
  | some sample => exact .refl _
  | none =>
    cases placeholder.filter fun text => !valid text with
    | none => exact .refl _
    | some text => exact .refused ⟨text, heading.kind, rfl⟩ rfl

theorem readString_tightens : Tightens (heading.readString { settings with strict := true })
    (heading.readString { settings with strict := false }) := by
  refine Tightens.bind (.refl _) fun required => Tightens.bind (.refl _) fun lengths => ?_
  refine Tightens.bind (.refl _) fun pattern => ?_
  exact Tightens.bind (heading.hints_tightens _) fun hints => .refl _

theorem readNumber_tightens : Tightens (heading.readNumber { settings with strict := true })
    (heading.readNumber { settings with strict := false }) := by
  refine Tightens.bind (.refl _) fun required => Tightens.bind (.refl _) fun min => ?_
  refine Tightens.bind (.refl _) fun max => Tightens.bind (.refl _) fun ordered => ?_
  refine Tightens.bind (.refl _) fun integer => ?_
  exact Tightens.bind (heading.hints_tightens _) fun hints => .refl _

theorem readList_tightens (urls : Bool) :
    Tightens (heading.readList { settings with strict := true } urls)
      (heading.readList { settings with strict := false } urls) := by
  refine Tightens.bind (.refl _) fun required => Tightens.bind (.refl _) fun counts => ?_
  refine Tightens.bind (.refl _) fun lengths => Tightens.bind (.refl _) fun uniqueItems => ?_
  exact Tightens.bind (heading.hints_tightens _) fun hints => .refl _

theorem readUrl_tightens : Tightens (heading.readUrl { settings with strict := true })
    (heading.readUrl { settings with strict := false }) := by
  refine Tightens.bind (.refl _) fun required => ?_
  exact Tightens.bind (heading.hints_tightens _) fun hints => .refl _

theorem readDate_tightens : Tightens (heading.readDate { settings with strict := true })
    (heading.readDate { settings with strict := false }) := by
  refine Tightens.bind (.refl _) fun required => Tightens.bind (.refl _) fun min => ?_
  refine Tightens.bind (.refl _) fun max => Tightens.bind (.refl _) fun ordered => ?_
  exact Tightens.bind (heading.hints_tightens _) fun hints => .refl _

theorem readYear_tightens : Tightens (heading.readYear { settings with strict := true })
    (heading.readYear { settings with strict := false }) := by
  refine Tightens.bind (.refl _) fun required => Tightens.bind (.refl _) fun min => ?_
  refine Tightens.bind (.refl _) fun max => Tightens.bind (.refl _) fun ordered => ?_
  exact Tightens.bind (heading.hints_tightens _) fun hints => .refl _

theorem entry_tightens : Tightens (heading.entry { settings with strict := true })
    (heading.entry { settings with strict := false }) := by
  unfold Heading.entry
  split
  case h_1 => exact heading.readString_tightens settings
  case h_2 => exact heading.readNumber_tightens settings
  case h_3 => exact heading.readList_tightens settings false
  case h_7 => exact heading.readUrl_tightens settings
  case h_8 => exact heading.readList_tightens settings true
  case h_9 => exact heading.readDate_tightens settings
  case h_10 => exact heading.readYear_tightens settings
  case h_4 | h_5 | h_6 | h_11 => exact .refl _

end Heading

/-- A strict reading of a field tag is the lenient one, unless it refuses the placeholder. -/
theorem readField_tightens (settings : Settings) (node : Node) (kind : FieldKind) :
    Tightens (readField { settings with strict := true } node kind)
      (readField { settings with strict := false } node kind) := by
  refine Tightens.bind (.refl _) fun heading => ?_
  exact Tightens.bind (heading.entry_tightens settings) fun entry => .same rfl

end DocForm
