import Mathlib.Data.List.Forall2

/-! Readings in steps. What has been read has gone through each of them, and what has not has failed
in one of them. -/

namespace DocForm

variable {ε α β : Type}

/-- A reading in two steps succeeds through a result of the first. -/
theorem bind_eq_ok {first : Except ε α} {next : α → Except ε β} {result : β} :
    first >>= next = .ok result ↔ ∃ found, first = .ok found ∧ next found = .ok result := by
  cases first with
  | error failure => simp [bind, Except.bind]
  | ok found => simp [bind, Except.bind]

/-- A reading in two steps fails in its first step, or in its second with what the first gives. -/
theorem bind_eq_error {first : Except ε α} {next : α → Except ε β} {failure : ε} :
    first >>= next = .error failure ↔
      first = .error failure ∨ ∃ found, first = .ok found ∧ next found = .error failure := by
  cases first with
  | error other => simp [bind, Except.bind]
  | ok found => simp [bind, Except.bind]

theorem pure_eq_ok {value result : α} : (pure value : Except ε α) = .ok result ↔ value = result := by
  simp [pure, Except.pure]

theorem bind_eq_some {first : Option α} {next : α → Option β} {result : β} :
    first >>= next = some result ↔ ∃ found, first = some found ∧ next found = some result :=
  Option.bind_eq_some_iff

theorem pure_eq_some {value result : α} : (pure value : Option α) = some result ↔ value = result :=
  Option.some_inj

theorem ite_eq_ok {condition : Prop} [Decidable condition] {first second : Except ε α} {result : α} :
    (if condition then first else second) = .ok result ↔
      (condition ∧ first = .ok result) ∨ (¬ condition ∧ second = .ok result) := by
  split <;> simp_all

/-- Reading a list member by member keeps its length and order. -/
theorem mapM_eq_ok {read : α → Except ε β} {items : List α} {results : List β} :
    items.mapM read = .ok results ↔
      List.Forall₂ (fun item result => read item = .ok result) items results := by
  induction items generalizing results with
  | nil => cases results <;> simp [pure, Except.pure]
  | cons item rest ih =>
    rw [List.mapM_cons, bind_eq_ok]
    constructor
    · rintro ⟨first, read, more⟩
      obtain ⟨others, reads, same⟩ := bind_eq_ok.mp more
      cases pure_eq_ok.mp same
      exact .cons read (ih.mp reads)
    · rintro (_ | ⟨read, reads⟩)
      exact ⟨_, read, bind_eq_ok.mpr ⟨_, ih.mpr reads, rfl⟩⟩

/-- Of a list that has been read every member has been read. -/
theorem exists_of_mapM_eq_ok {read : α → Except ε β} {items : List α} {results : List β}
    (reads : items.mapM read = .ok results) {item : α} (member : item ∈ items) :
    ∃ result, read item = .ok result := by
  have related := mapM_eq_ok.mp reads
  clear reads
  induction related with
  | nil => cases member
  | cons first _ ih =>
    rcases List.mem_cons.mp member with rfl | later
    · exact ⟨_, first⟩
    · exact ih later

theorem mapM_eq_some {read : α → Option β} {items : List α} {results : List β} :
    items.mapM read = some results ↔
      List.Forall₂ (fun item result => read item = some result) items results := by
  induction items generalizing results with
  | nil => cases results <;> simp
  | cons item rest ih =>
    rw [List.mapM_cons, bind_eq_some]
    constructor
    · rintro ⟨first, read, more⟩
      obtain ⟨others, reads, same⟩ := bind_eq_some.mp more
      cases pure_eq_some.mp same
      exact .cons read (ih.mp reads)
    · rintro (_ | ⟨read, reads⟩)
      exact ⟨_, read, bind_eq_some.mpr ⟨_, ih.mpr reads, rfl⟩⟩

/-- A reading item by item fails at the first item that cannot be read after those before it. -/
theorem foldlM_eq_error {step : β → α → Except ε β} {items : List α} {start : β} {failure : ε} :
    items.foldlM step start = .error failure ↔
      ∃ earlier item later middle, items = earlier ++ item :: later ∧
        earlier.foldlM step start = .ok middle ∧ step middle item = .error failure := by
  induction items generalizing start with
  | nil => simp [pure, Except.pure]
  | cons first rest ih =>
    rw [List.foldlM_cons, bind_eq_error]
    constructor
    · rintro (failed | ⟨next, taken, failed⟩)
      · exact ⟨[], first, rest, start, rfl, rfl, failed⟩
      · obtain ⟨earlier, item, later, middle, rfl, before, stopped⟩ := ih.mp failed
        refine ⟨first :: earlier, item, later, middle, rfl, ?_, stopped⟩
        rw [List.foldlM_cons]
        exact bind_eq_ok.mpr ⟨next, taken, before⟩
    · rintro ⟨_ | ⟨other, earlier⟩, item, later, middle, split, before, stopped⟩
      · cases split
        cases pure_eq_ok.mp before
        exact .inl stopped
      · cases split
        rw [List.foldlM_cons] at before
        obtain ⟨next, taken, before⟩ := bind_eq_ok.mp before
        exact .inr ⟨next, taken, ih.mpr ⟨earlier, item, later, middle, rfl, before, stopped⟩⟩

/-- What is read through an item has been read up to it, and through it. -/
theorem exists_of_foldlM_eq_ok {step : β → α → Except ε β} {earlier later : List α} {item : α}
    {start result : β} (taken : (earlier ++ item :: later).foldlM step start = .ok result) :
    ∃ middle next, earlier.foldlM step start = .ok middle ∧ step middle item = .ok next := by
  rw [List.foldlM_append] at taken
  obtain ⟨middle, before, rest⟩ := bind_eq_ok.mp taken
  rw [List.foldlM_cons] at rest
  obtain ⟨next, here, _⟩ := bind_eq_ok.mp rest
  exact ⟨middle, next, before, here⟩

theorem toOption_eq_some {outcome : Except ε α} {result : α} :
    outcome.toOption = some result ↔ outcome = .ok result := by
  cases outcome <;> simp [Except.toOption]

/-- What passes a test has been read. -/
theorem exists_ok_of_any {outcome : Except ε (Option α)} {test : α → Bool}
    (found : outcome.toOption.join.any test = true) :
    ∃ result, outcome = .ok (some result) ∧ test result = true := by
  obtain ⟨result, read, passed⟩ := (Option.any_eq_true _ _).mp found
  exact ⟨result, toOption_eq_some.mp (Option.join_eq_some_iff.mp read), passed⟩

/-- Whatever makes a reading fail satisfies a condition. -/
def FailsOnly (condition : ε → Prop) (outcome : Except ε α) : Prop :=
  ∀ failure, outcome = .error failure → condition failure

variable {condition : ε → Prop}

@[simp] theorem failsOnly_ok (result : α) : FailsOnly condition (.ok result : Except ε α) :=
  fun _ failed => nomatch failed

@[simp] theorem failsOnly_pure (result : α) : FailsOnly condition (pure result : Except ε α) :=
  failsOnly_ok result

@[simp] theorem failsOnly_error_iff {failure : ε} :
    FailsOnly condition (.error failure : Except ε α) ↔ condition failure := by
  simp [FailsOnly]

/-- The second step of a reading comes after a first one that has succeeded. -/
@[simp] theorem failsOnly_bind_iff {first : Except ε α} {next : α → Except ε β} :
    FailsOnly condition (first >>= next) ↔
      FailsOnly condition first ∧ ∀ found, first = .ok found → FailsOnly condition (next found) := by
  constructor
  · intro whole
    refine ⟨fun failure failed => whole failure (bind_eq_error.mpr (.inl failed)), ?_⟩
    intro found read failure failed
    exact whole failure (bind_eq_error.mpr (.inr ⟨found, read, failed⟩))
  · rintro ⟨ofFirst, ofNext⟩ failure failed
    rcases bind_eq_error.mp failed with stopped | ⟨found, read, stopped⟩
    · exact ofFirst failure stopped
    · exact ofNext found read failure stopped

/-- What is made of a result makes nothing fail. -/
@[simp] theorem failsOnly_map_iff {make : α → β} {outcome : Except ε α} :
    FailsOnly condition (make <$> outcome) ↔ FailsOnly condition outcome := by
  rw [map_eq_pure_bind, failsOnly_bind_iff]
  exact ⟨And.left, fun fails => ⟨fails, fun _ _ => failsOnly_pure _⟩⟩

theorem FailsOnly.mono {weaker : ε → Prop} {outcome : Except ε α}
    (fails : FailsOnly condition outcome) (implies : ∀ failure, condition failure → weaker failure) :
    FailsOnly weaker outcome :=
  fun failure failed => implies failure (fails failure failed)

theorem failsOnly_mapM {read : α → Except ε β} {items : List α}
    (each : ∀ item ∈ items, FailsOnly condition (read item)) :
    FailsOnly condition (items.mapM read) := by
  induction items with
  | nil => simp
  | cons item rest ih =>
    obtain ⟨ofItem, ofRest⟩ := List.forall_mem_cons.mp each
    rw [List.mapM_cons, failsOnly_bind_iff]
    exact ⟨ofItem, fun _ _ => failsOnly_bind_iff.mpr ⟨ih ofRest, fun _ _ => failsOnly_pure _⟩⟩

end DocForm
