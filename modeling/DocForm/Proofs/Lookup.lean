import DocForm.Dict
import Mathlib.Data.List.Induction
import Mathlib.Data.List.Nodup

/-! Looking up in a list by a key, and in a dictionary made of a list. Main statements: what is
found was listed, every listed key is found, and with distinct keys the dictionary is the list in
another order. -/

namespace DocForm

variable {α : Type}

/-- With distinct keys the one item with a key is found. -/
theorem find?_key_eq_some_iff {key : α → String} {items : List α}
    (distinct : (items.map key).Nodup) {name : String} {item : α} :
    items.find? (fun other => key other == name) = some item ↔ item ∈ items ∧ key item = name := by
  constructor
  · intro found
    exact ⟨List.mem_of_find?_eq_some found, by simpa using List.find?_some found⟩
  · rintro ⟨member, rfl⟩
    cases found : items.find? fun other => key other == key item with
    | none => simpa using List.find?_eq_none.mp found item member
    | some other =>
      have same : key other = key item := by simpa using List.find?_some found
      rw [List.inj_on_of_nodup_map distinct (List.mem_of_find?_eq_some found) member same]

theorem pairwise_zipIdx (items : List α) :
    items.zipIdx.Pairwise fun first later => first.2 < later.2 := by
  rw [← List.pairwise_map (f := Prod.snd) (R := (· < ·)), List.zipIdx_map_snd]
  exact List.pairwise_lt_range' 1

theorem insertEntry_perm {key : String} {value : α} {entries : List (String × α)}
    (fresh : key ∉ entries.map (·.1)) :
    (insertEntry key value entries).Perm ((key, value) :: entries) := by
  induction entries with
  | nil => exact List.Perm.refl _
  | cons head rest ih =>
    obtain ⟨k, v⟩ := head
    obtain ⟨different, absent⟩ : ¬ key = k ∧ key ∉ rest.map (·.1) := by simpa using fresh
    simp only [insertEntry, if_neg different]
    split
    · exact List.Perm.refl _
    · exact ((ih absent).cons (k, v)).trans (List.Perm.swap _ _ _)

/-- Entries with distinct keys are only brought into another order. -/
theorem orderEntries_perm {entries : List (String × α)} (distinct : (entries.map (·.1)).Nodup) :
    (orderEntries entries).Perm entries := by
  suffices grown : ∀ (later start : List (String × α)), ((start ++ later).map (·.1)).Nodup →
      (later.foldl (fun ordered entry => insertEntry entry.1 entry.2 ordered) start).Perm
        (start ++ later) from grown entries [] distinct
  intro later
  induction later with
  | nil => intro start _; simp
  | cons entry rest ih =>
    intro start distinct
    have moved : (start ++ entry :: rest).Perm ((entry :: start) ++ rest) := List.perm_middle
    have fresh : entry.1 ∉ start.map (·.1) := by
      have first := (moved.map (·.1)).nodup_iff.mp distinct
      simp only [List.cons_append, List.map_cons, List.nodup_cons, List.map_append,
        List.mem_append, not_or] at first
      exact first.1.1
    have placed : (insertEntry entry.1 entry.2 start ++ rest).Perm ((entry :: start) ++ rest) :=
      (insertEntry_perm fresh).append_right rest
    exact (ih _ (((placed.trans moved.symm).map (·.1)).nodup_iff.mpr distinct)).trans
      (placed.trans moved.symm)

theorem insertEntry_of_above {key : String} {value : α} {entries : List (String × α)}
    (above : ∀ entry ∈ entries, entry.1 < key) :
    insertEntry key value entries = entries ++ [(key, value)] := by
  induction entries with
  | nil => rfl
  | cons head rest ih =>
    obtain ⟨below, others⟩ := List.forall_mem_cons.mp above
    have notAbove : ¬ key < head.1 := fun under =>
      String.lt_irrefl _ (String.lt_trans under below)
    have different : ¬ key = head.1 := fun same => String.lt_irrefl key (same ▸ below)
    rw [insertEntry, if_neg notAbove, if_neg different, ih others]
    rfl

theorem orderEntries_concat (entries : List (String × α)) (entry : String × α) :
    orderEntries (entries ++ [entry]) = insertEntry entry.1 entry.2 (orderEntries entries) := by
  simp [orderEntries]

/-- Entries that are in order already stay as they are. -/
theorem KeysIncrease.orderEntries_eq {entries : List (String × α)}
    (ordered : KeysIncrease entries) : orderEntries entries = entries := by
  induction entries using List.reverseRecOn with
  | nil => rfl
  | append_singleton rest entry ih =>
    obtain ⟨first, _, below⟩ := List.pairwise_append.mp ordered
    have above : ∀ earlier ∈ rest, earlier.1 < entry.1 := fun earlier member =>
      below earlier member entry (List.mem_singleton_self entry)
    rw [orderEntries_concat, ih first]
    exact insertEntry_of_above above

theorem mem_of_mem_orderEntries {entries : List (String × α)} {entry : String × α}
    (member : entry ∈ orderEntries entries) : entry ∈ entries := by
  suffices grown : ∀ (later start : List (String × α)),
      entry ∈ later.foldl (fun ordered next => insertEntry next.1 next.2 ordered) start →
        entry ∈ start ∨ entry ∈ later by
    simpa using grown entries [] member
  intro later
  induction later with
  | nil => intro start found; exact .inl found
  | cons next rest ih =>
    intro start found
    rcases ih _ found with earlier | later
    · rcases mem_insertEntry earlier with same | old
      · exact .inr (by simp [same])
      · exact .inl old
    · exact .inr (List.mem_cons_of_mem _ later)

namespace Dict

theorem nodup_keys (dict : Dict α) : dict.keys.Nodup :=
  (List.pairwise_map.mpr dict.increase).imp fun below same => by
    subst same
    exact String.lt_irrefl _ below

/-- A value is found under a key when they form an entry. -/
theorem get?_eq_some_iff {dict : Dict α} {key : String} {value : α} :
    dict.get? key = some value ↔ (key, value) ∈ dict.entries := by
  have distinct := dict.nodup_keys
  unfold get?
  unfold keys at distinct
  generalize dict.entries = entries at distinct
  induction entries with
  | nil => simp
  | cons head rest ih =>
    obtain ⟨k, v⟩ := head
    rw [List.map_cons, List.nodup_cons] at distinct
    rw [List.lookup_cons]
    by_cases same : key = k
    · subst same
      have absent : (key, value) ∉ rest := fun member =>
        distinct.1 (List.mem_map_of_mem (f := (·.1)) member)
      simp [absent, eq_comm]
    · have apart : (key == k) = false := by simpa using same
      simp [apart, same, ih distinct.2]

theorem contains_iff {dict : Dict α} {key : String} :
    dict.contains key = true ↔ key ∈ dict.keys := by
  simp [contains, keys, Option.isSome_iff_exists, get?_eq_some_iff]

theorem isEmpty_iff {dict : Dict α} : dict.isEmpty = true ↔ dict = .empty := by
  constructor
  · intro empty
    exact ext (List.isEmpty_iff.mp empty)
  · rintro rfl
    rfl

theorem ofList_entries (dict : Dict α) : ofList dict.entries = dict :=
  ext dict.increase.orderEntries_eq

theorem mem_of_get?_ofList {entries : List (String × α)} {key : String} {value : α}
    (found : (ofList entries).get? key = some value) : (key, value) ∈ entries :=
  mem_of_mem_orderEntries (get?_eq_some_iff.mp found)

/-- The keys of a dictionary with one more entry. -/
theorem contains_insert (dict : Dict α) (key other : String) (value : α) :
    (dict.insert key value).contains other = (other == key || dict.contains other) := by
  rw [contains, get?_insert, contains]
  by_cases same : other = key <;> simp [same]

theorem get?_erase (dict : Dict α) (key other : String) :
    (dict.erase key).get? other = if other = key then none else dict.get? other := by
  ext value
  rw [get?_eq_some_iff, erase, List.mem_filter, ← get?_eq_some_iff]
  by_cases same : other = key <;> simp [same]

/-- Only a key that is there can be taken away. -/
theorem erase_eq_self_iff {dict : Dict α} {key : String} :
    dict.erase key = dict ↔ dict.contains key = false := by
  rw [← Bool.not_eq_true, contains_iff, keys, List.mem_map]
  constructor
  · rintro same ⟨entry, member, rfl⟩
    rw [← same, erase, List.mem_filter] at member
    simp at member
  · intro absent
    refine ext (List.filter_eq_self.mpr fun entry member => ?_)
    simpa using fun same => absent ⟨entry, member, same⟩

theorem ofList_concat (entries : List (String × α)) (key : String) (value : α) :
    ofList (entries ++ [(key, value)]) = (ofList entries).insert key value := by
  exact ext (orderEntries_concat entries (key, value))

/-- Every listed key is found. -/
theorem contains_ofList {entries : List (String × α)} {key : String} :
    (ofList entries).contains key = true ↔ key ∈ entries.map (·.1) := by
  induction entries using List.reverseRecOn with
  | nil => simp [contains, ofList, orderEntries, get?]
  | append_singleton rest entry ih =>
    rw [ofList_concat, contains_insert]
    simp only [Bool.or_eq_true, beq_iff_eq, ih, List.map_append, List.mem_append]
    simp [or_comm]

theorem get?_ofList {entries : List (String × α)} (distinct : (entries.map (·.1)).Nodup)
    {key : String} {value : α} :
    (ofList entries).get? key = some value ↔ (key, value) ∈ entries := by
  rw [get?_eq_some_iff]
  exact (orderEntries_perm distinct).mem_iff

/-- Of the values listed under one key the last is found. -/
theorem get?_ofList_append {before after : List (String × α)} {key : String} {value : α}
    (last : key ∉ after.map (·.1)) :
    (ofList (before ++ (key, value) :: after)).get? key = some value := by
  induction after using List.reverseRecOn with
  | nil => rw [ofList_concat, get?_insert, if_pos rfl]
  | append_singleton rest entry ih =>
    obtain ⟨name, other⟩ := entry
    rw [List.map_append, List.mem_append, not_or, List.map_singleton, List.mem_singleton] at last
    rw [← List.cons_append, ← List.append_assoc, ofList_concat, get?_insert, if_neg last.2,
      ih last.1]

/-- Changing the listed values changes what is found under their keys. -/
theorem get?_ofList_map {β : Type} (change : String → α → β) (entries : List (String × α))
    (key : String) :
    (ofList (entries.map fun entry => (entry.1, change entry.1 entry.2))).get? key =
      ((ofList entries).get? key).map (change key) := by
  induction entries using List.reverseRecOn with
  | nil => rfl
  | append_singleton rest entry ih =>
    obtain ⟨name, value⟩ := entry
    rw [List.map_append, List.map_singleton, ofList_concat, ofList_concat, get?_insert,
      get?_insert, ih]
    split
    · rename_i same
      rw [same, Option.map_some]
    · rfl

theorem keys_ofList {entries : List (String × α)} (distinct : (entries.map (·.1)).Nodup) :
    (ofList entries).keys.Perm (entries.map (·.1)) :=
  (orderEntries_perm distinct).map _

theorem size_ofList {entries : List (String × α)} (distinct : (entries.map (·.1)).Nodup) :
    (ofList entries).size = entries.length :=
  (orderEntries_perm distinct).length_eq

theorem values_ofList {entries : List (String × α)} (distinct : (entries.map (·.1)).Nodup) :
    (ofList entries).values.Perm (entries.map (·.2)) :=
  (orderEntries_perm distinct).map _

end Dict

end DocForm
