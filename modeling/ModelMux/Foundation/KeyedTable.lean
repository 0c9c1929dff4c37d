/-
Tables with a primary key and one further unique constraint.

Both constraints are fields of the table, so a statement that would break them
cannot be written.  `lookup` is the view through the primary key; every
statement is described by what it does to each lookup, and the proofs above
this module never look at the row list again.
-/

import Mathlib.Data.List.Nodup

namespace ModelMux

@[ext]
structure KeyedTable {Row Key Unique : Type} (key : Row → Key) (unique : Row → Unique) where
  rows : List Row
  primaryKey : (rows.map key).Nodup
  uniqueKey : (rows.map unique).Nodup

namespace KeyedTable

variable {Row Key Unique : Type} {key : Row → Key} {unique : Row → Unique}

def empty : KeyedTable key unique :=
  { rows := []
    primaryKey := List.nodup_nil
    uniqueKey := List.nodup_nil }

theorem eq_of_key {table : KeyedTable key unique} {left right : Row}
    (leftMember : left ∈ table.rows) (rightMember : right ∈ table.rows)
    (same : key left = key right) : left = right :=
  List.inj_on_of_nodup_map table.primaryKey leftMember rightMember same

theorem eq_of_unique {table : KeyedTable key unique} {left right : Row}
    (leftMember : left ∈ table.rows) (rightMember : right ∈ table.rows)
    (same : unique left = unique right) : left = right :=
  List.inj_on_of_nodup_map table.uniqueKey leftMember rightMember same

/-- `UPDATE ... SET set WHERE matches`. The assigned columns keep both keys. -/
def update (table : KeyedTable key unique) (matches' : Row → Bool) (set : Row → Row)
    (keepsKey : ∀ row, key (set row) = key row)
    (keepsUnique : ∀ row, unique (set row) = unique row) : KeyedTable key unique :=
  { rows := table.rows.map (fun row => if matches' row then set row else row)
    primaryKey := by
      have same : (table.rows.map (fun row => if matches' row then set row else row)).map key =
          table.rows.map key := by
        rw [List.map_map]
        apply List.map_congr_left
        intro row _member
        simp only [Function.comp_apply]
        split
        · exact keepsKey row
        · rfl
      rw [same]
      exact table.primaryKey
    uniqueKey := by
      have same : (table.rows.map (fun row => if matches' row then set row else row)).map unique =
          table.rows.map unique := by
        rw [List.map_map]
        apply List.map_congr_left
        intro row _member
        simp only [Function.comp_apply]
        split
        · exact keepsUnique row
        · rfl
      rw [same]
      exact table.uniqueKey }

theorem update_eq_self {table : KeyedTable key unique} {matches' : Row → Bool} (set : Row → Row)
    (keepsKey : ∀ row, key (set row) = key row)
    (keepsUnique : ∀ row, unique (set row) = unique row)
    (unmatched : ∀ row ∈ table.rows, matches' row = false) :
    table.update matches' set keepsKey keepsUnique = table := by
  apply KeyedTable.ext
  have same : ∀ row ∈ table.rows, (if matches' row then set row else row) = row := by
    intro row member
    simp [unmatched row member]
  exact (List.map_congr_left same).trans (List.map_id table.rows)

def delete (table : KeyedTable key unique) (matches' : Row → Bool) : KeyedTable key unique :=
  { rows := table.rows.filter (fun row => !matches' row)
    primaryKey := table.primaryKey.sublist (List.filter_sublist.map key)
    uniqueKey := table.uniqueKey.sublist (List.filter_sublist.map unique) }

/-- The single row a statement returns when its condition fixes the key. -/
def select (table : KeyedTable key unique) (matches' : Row → Bool) : Option Row :=
  table.rows.find? matches'

theorem select_mem {table : KeyedTable key unique} {matches' : Row → Bool} {row : Row}
    (found : table.select matches' = some row) : row ∈ table.rows ∧ matches' row = true :=
  ⟨List.mem_of_find?_eq_some found, List.find?_some found⟩

theorem select_none {table : KeyedTable key unique} {matches' : Row → Bool}
    (missing : table.select matches' = none) : ∀ row ∈ table.rows, matches' row = false := by
  intro row member
  simpa using List.find?_eq_none.mp missing row member

section Lookup

variable [DecidableEq Key]

def lookup (table : KeyedTable key unique) (wanted : Key) : Option Row :=
  table.rows.find? (fun row => decide (key row = wanted))

theorem lookup_eq_some_iff {table : KeyedTable key unique} {wanted : Key} {row : Row} :
    table.lookup wanted = some row ↔ row ∈ table.rows ∧ key row = wanted := by
  constructor
  · intro found
    have member := List.mem_of_find?_eq_some found
    have holds := List.find?_some found
    exact ⟨member, by simpa using holds⟩
  · rintro ⟨member, same⟩
    cases found : table.lookup wanted with
    | none =>
        have absent := List.find?_eq_none.mp found row member
        simp [same] at absent
    | some other =>
        have otherMember := List.mem_of_find?_eq_some found
        have otherKey := List.find?_some found
        rw [eq_of_key otherMember member (by simpa [same] using otherKey)]

theorem lookup_key {table : KeyedTable key unique} {wanted : Key} {row : Row}
    (found : table.lookup wanted = some row) : key row = wanted :=
  (lookup_eq_some_iff.mp found).2

theorem lookup_mem {table : KeyedTable key unique} {wanted : Key} {row : Row}
    (found : table.lookup wanted = some row) : row ∈ table.rows :=
  (lookup_eq_some_iff.mp found).1

theorem lookup_of_mem {table : KeyedTable key unique} {row : Row}
    (member : row ∈ table.rows) : table.lookup (key row) = some row :=
  lookup_eq_some_iff.mpr ⟨member, rfl⟩

theorem lookup_eq_none_iff {table : KeyedTable key unique} {wanted : Key} :
    table.lookup wanted = none ↔ ∀ row ∈ table.rows, key row ≠ wanted := by
  unfold lookup
  simp

theorem select_eq_some_iff {table : KeyedTable key unique} {matches' : Row → Bool} {wanted : Key}
    (keyed : ∀ row, matches' row = true → key row = wanted) {row : Row} :
    table.select matches' = some row ↔ table.lookup wanted = some row ∧ matches' row = true := by
  constructor
  · intro found
    obtain ⟨member, holds⟩ := select_mem found
    exact ⟨lookup_eq_some_iff.mpr ⟨member, keyed row holds⟩, holds⟩
  · rintro ⟨found, holds⟩
    cases chosen : table.select matches' with
    | none =>
        have absent := select_none chosen row (lookup_mem found)
        rw [holds] at absent
        cases absent
    | some other =>
        obtain ⟨otherMember, otherHolds⟩ := select_mem chosen
        have same : key other = key row := (keyed other otherHolds).trans (lookup_key found).symm
        rw [eq_of_key otherMember (lookup_mem found) same]

@[simp] theorem lookup_empty (wanted : Key) :
    (empty : KeyedTable key unique).lookup wanted = none := rfl

theorem lookup_update (table : KeyedTable key unique) (matches' : Row → Bool) (set : Row → Row)
    (keepsKey : ∀ row, key (set row) = key row)
    (keepsUnique : ∀ row, unique (set row) = unique row) (wanted : Key) :
    (table.update matches' set keepsKey keepsUnique).lookup wanted =
      (table.lookup wanted).map (fun row => if matches' row then set row else row) := by
  unfold lookup update
  rw [List.find?_map]
  congr 2
  funext row
  simp only [Function.comp_apply]
  split
  · rw [keepsKey]
  · rfl

/-- An update whose condition fixes the key changes at most that one row. -/
theorem update_keyed_cases (table : KeyedTable key unique) (matches' : Row → Bool)
    (set : Row → Row) (keepsKey : ∀ row, key (set row) = key row)
    (keepsUnique : ∀ row, unique (set row) = unique row) {wanted : Key}
    (keyed : ∀ row, matches' row = true → key row = wanted) :
    (table.select matches' = none ∧ ∀ other,
        (table.update matches' set keepsKey keepsUnique).lookup other = table.lookup other) ∨
      ∃ row, table.select matches' = some row ∧ table.lookup wanted = some row ∧
        matches' row = true ∧
        (table.update matches' set keepsKey keepsUnique).lookup wanted = some (set row) ∧
        ∀ other, other ≠ wanted →
          (table.update matches' set keepsKey keepsUnique).lookup other = table.lookup other := by
  cases chosen : table.select matches' with
  | none =>
      refine Or.inl ⟨rfl, ?_⟩
      intro other
      rw [lookup_update]
      cases found : table.lookup other with
      | none => rfl
      | some row => simp [select_none chosen row (lookup_mem found)]
  | some row =>
      obtain ⟨found, holds⟩ := (select_eq_some_iff keyed).mp chosen
      refine Or.inr ⟨row, rfl, found, holds, ?_, ?_⟩
      · rw [lookup_update, found]
        simp [holds]
      · intro other different
        rw [lookup_update]
        cases otherFound : table.lookup other with
        | none => rfl
        | some otherRow =>
            have unmatched : matches' otherRow = false := by
              cases otherHolds : matches' otherRow with
              | false => rfl
              | true =>
                  exact absurd ((lookup_key otherFound).symm.trans (keyed otherRow otherHolds))
                    different
            simp [unmatched]

theorem lookup_delete (table : KeyedTable key unique) (matches' : Row → Bool) (wanted : Key) :
    (table.delete matches').lookup wanted =
      (table.lookup wanted).filter (fun row => !matches' row) := by
  cases found : table.lookup wanted with
  | none =>
      rw [lookup_eq_none_iff] at found
      apply lookup_eq_none_iff.mpr
      intro row member
      exact found row (List.mem_filter.mp member).1
  | some row =>
      obtain ⟨member, same⟩ := lookup_eq_some_iff.mp found
      cases removed : matches' row with
      | false =>
          have kept : row ∈ (table.delete matches').rows :=
            List.mem_filter.mpr ⟨member, by simp [removed]⟩
          rw [lookup_eq_some_iff.mpr ⟨kept, same⟩, Option.filter, removed]
          rfl
      | true =>
          have gone : (table.delete matches').lookup wanted = none := by
            apply lookup_eq_none_iff.mpr
            intro other otherMember otherKey
            obtain ⟨inTable, notMatched⟩ := List.mem_filter.mp otherMember
            rw [eq_of_key inTable member (otherKey.trans same.symm)] at notMatched
            simp [removed] at notMatched
          rw [gone, Option.filter, removed]
          rfl

end Lookup

section Insert

variable [DecidableEq Key] [DecidableEq Unique]

inductive InsertResult (key : Row → Key) (unique : Row → Unique) where
  | inserted (table : KeyedTable key unique)
  | conflict
  | duplicateKey

/-- `INSERT ... ON CONFLICT (unique) DO NOTHING`. Only the named constraint is
an arbiter: a clash of primary keys is still raised as an error. -/
def insert (table : KeyedTable key unique) (row : Row) : InsertResult key unique :=
  if taken : unique row ∈ table.rows.map unique then .conflict
  else if duplicate : key row ∈ table.rows.map key then .duplicateKey
  else .inserted
    { rows := table.rows ++ [row]
      primaryKey := by
        rw [List.map_append, List.nodup_append]
        refine ⟨table.primaryKey, by simp, ?_⟩
        intro left leftMember right rightMember same
        simp only [List.map_cons, List.map_nil, List.mem_singleton] at rightMember
        rw [same, rightMember] at leftMember
        exact duplicate leftMember
      uniqueKey := by
        rw [List.map_append, List.nodup_append]
        refine ⟨table.uniqueKey, by simp, ?_⟩
        intro left leftMember right rightMember same
        simp only [List.map_cons, List.map_nil, List.mem_singleton] at rightMember
        rw [same, rightMember] at leftMember
        exact taken leftMember }

theorem insert_inserted {table next : KeyedTable key unique} {row : Row}
    (done : table.insert row = .inserted next) :
    next.rows = table.rows ++ [row] ∧ unique row ∉ table.rows.map unique ∧
      key row ∉ table.rows.map key := by
  unfold insert at done
  split at done
  · cases done
  · rename_i free
    split at done
    · cases done
    · rename_i fresh
      cases done
      exact ⟨rfl, free, fresh⟩

theorem insert_conflict {table : KeyedTable key unique} {row : Row}
    (clash : table.insert row = .conflict) :
    ∃ existing ∈ table.rows, unique existing = unique row := by
  unfold insert at clash
  split at clash
  · rename_i taken
    exact List.mem_map.mp taken
  · split at clash <;> cases clash

theorem insert_duplicateKey {table : KeyedTable key unique} {row : Row}
    (clash : table.insert row = .duplicateKey) : ∃ existing ∈ table.rows, key existing = key row := by
  unfold insert at clash
  split at clash
  · cases clash
  · split at clash
    · rename_i duplicate
      exact List.mem_map.mp duplicate
    · cases clash

theorem lookup_insert {table next : KeyedTable key unique} {row : Row}
    (done : table.insert row = .inserted next) (wanted : Key) :
    next.lookup wanted = if key row = wanted then some row else table.lookup wanted := by
  obtain ⟨rowsEq, _free, fresh⟩ := insert_inserted done
  by_cases same : key row = wanted
  · rw [if_pos same]
    apply lookup_eq_some_iff.mpr
    exact ⟨by simp [rowsEq], same⟩
  · rw [if_neg same]
    unfold lookup
    rw [rowsEq, List.find?_append]
    simp [same]

theorem lookup_fresh {table next : KeyedTable key unique} {row : Row}
    (done : table.insert row = .inserted next) : table.lookup (key row) = none := by
  obtain ⟨_rowsEq, _free, fresh⟩ := insert_inserted done
  apply lookup_eq_none_iff.mpr
  intro other member same
  exact fresh (same ▸ List.mem_map_of_mem member)

end Insert

end KeyedTable

end ModelMux
