/-! A dictionary from texts to values, kept in the order of its keys. Main statements:
a key reads back what was last put under it, and two dictionaries with the same entries
are equal. -/

namespace DocForm

variable {α : Type}

/-- Put a value under a key, in its place among increasing keys. -/
def insertEntry (key : String) (value : α) : List (String × α) → List (String × α)
  | [] => [(key, value)]
  | (k, v) :: rest =>
    if key < k then (key, value) :: (k, v) :: rest
    else if key = k then (key, value) :: rest
    else (k, v) :: insertEntry key value rest

/-- The entries in the order of their keys. Of several with one key the last stays. -/
def orderEntries (entries : List (String × α)) : List (String × α) :=
  entries.foldl (fun ordered entry => insertEntry entry.1 entry.2 ordered) []

def KeysIncrease (entries : List (String × α)) : Prop :=
  entries.Pairwise fun first later => first.1 < later.1

instance (entries : List (String × α)) : Decidable (KeysIncrease entries) :=
  inferInstanceAs (Decidable (entries.Pairwise fun first later => first.1 < later.1))

private theorem lt_of_not_lt_of_ne {a b : String} (notBelow : ¬ a < b) (different : ¬ a = b) :
    b < a := by
  rcases String.le_total a b with low | high
  · exact absurd (String.le_antisymm low (String.not_lt.mp notBelow)) different
  · apply Classical.byContradiction
    intro notAbove
    exact different (String.le_antisymm (String.not_lt.mp notAbove) high)

theorem mem_insertEntry {key : String} {value : α} {entries : List (String × α)}
    {entry : String × α} (member : entry ∈ insertEntry key value entries) :
    entry = (key, value) ∨ entry ∈ entries := by
  induction entries with
  | nil => simpa [insertEntry] using member
  | cons head rest ih =>
    obtain ⟨k, v⟩ := head
    simp only [insertEntry] at member
    split at member
    · simpa using member
    · split at member
      · rcases List.mem_cons.mp member with new | old
        · exact .inl new
        · exact .inr (List.mem_cons_of_mem _ old)
      · rcases List.mem_cons.mp member with first | later
        · exact .inr (by simp [first])
        · rcases ih later with new | old
          · exact .inl new
          · exact .inr (List.mem_cons_of_mem _ old)

theorem KeysIncrease.insertEntry {entries : List (String × α)} (ordered : KeysIncrease entries)
    (key : String) (value : α) : KeysIncrease (insertEntry key value entries) := by
  induction entries with
  | nil => simp [DocForm.insertEntry, KeysIncrease]
  | cons head rest ih =>
    obtain ⟨k, v⟩ := head
    obtain ⟨above, tail⟩ := List.pairwise_cons.mp ordered
    simp only [DocForm.insertEntry]
    split
    · rename_i below
      refine List.pairwise_cons.mpr ⟨fun entry member => ?_, ordered⟩
      rcases List.mem_cons.mp member with rfl | later
      · exact below
      · exact String.lt_trans below (above entry later)
    · rename_i notBelow
      split
      · rename_i same
        subst same
        exact List.pairwise_cons.mpr ⟨above, tail⟩
      · rename_i different
        refine List.pairwise_cons.mpr ⟨fun entry member => ?_, ih tail⟩
        rcases mem_insertEntry member with rfl | old
        · exact lt_of_not_lt_of_ne notBelow different
        · exact above entry old

theorem keysIncrease_orderEntries (entries : List (String × α)) :
    KeysIncrease (orderEntries entries) := by
  suffices grown : ∀ start : List (String × α), KeysIncrease start →
      KeysIncrease (entries.foldl (fun ordered entry =>
        DocForm.insertEntry entry.1 entry.2 ordered) start) from
    grown [] List.Pairwise.nil
  induction entries with
  | nil => exact fun _ ordered => ordered
  | cons entry rest ih => exact fun start ordered => ih _ (ordered.insertEntry entry.1 entry.2)

/-- Entries whose keys increase, so that each key occurs once. -/
structure Dict (α : Type) where
  entries : List (String × α)
  increase : KeysIncrease entries
deriving DecidableEq

namespace Dict

theorem ext {first second : Dict α} (same : first.entries = second.entries) :
    first = second := by
  cases first; cases second; cases same; rfl

def empty : Dict α := ⟨[], List.Pairwise.nil⟩

instance : EmptyCollection (Dict α) := ⟨empty⟩
instance : Inhabited (Dict α) := ⟨empty⟩

def ofList (entries : List (String × α)) : Dict α :=
  ⟨orderEntries entries, keysIncrease_orderEntries entries⟩

def get? (dict : Dict α) (key : String) : Option α := dict.entries.lookup key

def contains (dict : Dict α) (key : String) : Bool := (dict.get? key).isSome

def insert (dict : Dict α) (key : String) (value : α) : Dict α :=
  ⟨insertEntry key value dict.entries, dict.increase.insertEntry key value⟩

def erase (dict : Dict α) (key : String) : Dict α :=
  ⟨dict.entries.filter fun entry => entry.1 ≠ key, dict.increase.sublist List.filter_sublist⟩

def keys (dict : Dict α) : List String := dict.entries.map (·.1)

def values (dict : Dict α) : List α := dict.entries.map (·.2)

def size (dict : Dict α) : Nat := dict.entries.length

def isEmpty (dict : Dict α) : Bool := dict.entries.isEmpty

private theorem lookup_cons_other {key other : String} (different : ¬ other = key) (value : α)
    (entries : List (String × α)) :
    ((key, value) :: entries).lookup other = entries.lookup other := by
  have apart : (other == key) = false := by simpa using different
  simp [List.lookup_cons, apart]

private theorem lookup_insertEntry_self (key : String) (value : α)
    (entries : List (String × α)) : (insertEntry key value entries).lookup key = some value := by
  induction entries with
  | nil => simp [insertEntry]
  | cons head rest ih =>
    obtain ⟨k, v⟩ := head
    simp only [insertEntry]
    split
    · simp
    · split
      · simp
      · rename_i different
        rw [lookup_cons_other different, ih]

private theorem lookup_insertEntry_other {key other : String} (different : ¬ other = key)
    (value : α) (entries : List (String × α)) :
    (insertEntry key value entries).lookup other = entries.lookup other := by
  induction entries with
  | nil => exact lookup_cons_other different value []
  | cons head rest ih =>
    obtain ⟨k, v⟩ := head
    simp only [insertEntry]
    split
    · exact lookup_cons_other different value _
    · split
      · rename_i same
        subst same
        rw [lookup_cons_other different, lookup_cons_other different]
      · simp only [List.lookup_cons, ih]

theorem get?_insert (dict : Dict α) (key other : String) (value : α) :
    (dict.insert key value).get? other = if other = key then some value else dict.get? other := by
  split
  · rename_i same
    subst same
    exact lookup_insertEntry_self other value dict.entries
  · rename_i different
    exact lookup_insertEntry_other different value dict.entries

@[simp] theorem get?_empty (key : String) : (∅ : Dict α).get? key = none := rfl

end Dict

end DocForm
