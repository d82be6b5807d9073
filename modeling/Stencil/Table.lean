import Stencil.Text

set_option autoImplicit false

namespace Stencil

section

variable {α β : Type} {key other : Text} {value : α} {entries : List (Text × α)}

/-- Writes to a list of entries: in place if the key is there, else at the end. -/
def insertEntry (key : Text) (value : α) : List (Text × α) → List (Text × α)
  | [] => [(key, value)]
  | (other, old) :: entries =>
      if other = key then (key, value) :: entries
      else (other, old) :: insertEntry key value entries

/-- The value of the first entry under a key, as the library looks it up. -/
abbrev findEntry (key : Text) (entries : List (Text × α)) : Option α :=
  entries.lookup key

theorem keys_insertEntry :
    (insertEntry key value entries).map Prod.fst =
      if key ∈ entries.map Prod.fst then entries.map Prod.fst
      else entries.map Prod.fst ++ [key] := by
  induction entries with
  | nil => simp [insertEntry]
  | cons entry entries ih =>
      obtain ⟨first, old⟩ := entry
      by_cases same : first = key
      · simp [insertEntry, same]
      · simp only [insertEntry, same, ↓reduceIte, List.map_cons, List.mem_cons, ih, Ne.symm same,
          false_or]
        split <;> rfl

theorem mem_keys_insertEntry :
    other ∈ (insertEntry key value entries).map Prod.fst ↔
      other = key ∨ other ∈ entries.map Prod.fst := by
  rw [keys_insertEntry]
  split
  · rename_i known
    constructor
    · exact Or.inr
    · rintro (rfl | found)
      · exact known
      · exact found
  · rw [List.mem_append, List.mem_singleton, or_comm]

theorem nodup_insertEntry (distinct : (entries.map Prod.fst).Nodup) :
    ((insertEntry key value entries).map Prod.fst).Nodup := by
  rw [keys_insertEntry]
  split
  · exact distinct
  · rename_i absent
    refine List.nodup_append.2 ⟨distinct, by simp, ?_⟩
    intro other found last there same
    rw [List.mem_singleton.1 there] at same
    exact absent (same ▸ found)

theorem insertEntry_of_not_mem (fresh : key ∉ entries.map Prod.fst) :
    insertEntry key value entries = entries ++ [(key, value)] := by
  induction entries with
  | nil => rfl
  | cons entry entries ih =>
      obtain ⟨first, held⟩ := entry
      simp only [List.map_cons, List.mem_cons, not_or] at fresh
      simp only [insertEntry, Ne.symm fresh.1, ↓reduceIte, ih fresh.2, List.cons_append]

theorem lookup_cons_eq_ite (key name : Text) (value : α) (entries : List (Text × α)) :
    ((key, value) :: entries).lookup name =
      if name = key then some value else entries.lookup name := by
  by_cases same : name = key
  · simp [same]
  · have apart : (name == key) = false := by simpa using same
    simp only [List.lookup_cons, apart, same, ↓reduceIte]

theorem lookup_insertEntry :
    (insertEntry key value entries).lookup other =
      if other = key then some value else entries.lookup other := by
  induction entries with
  | nil => exact lookup_cons_eq_ite key other value []
  | cons entry entries ih =>
      obtain ⟨first, old⟩ := entry
      by_cases same : first = key
      · simp only [insertEntry, same, ↓reduceIte, lookup_cons_eq_ite]
        split <;> rfl
      · simp only [insertEntry, same, ↓reduceIte, lookup_cons_eq_ite, ih]
        grind

theorem lookup_map (f : α → β) (key : Text) (entries : List (Text × α)) :
    (entries.map fun entry => (entry.1, f entry.2)).lookup key = (entries.lookup key).map f := by
  induction entries with
  | nil => rfl
  | cons entry entries ih =>
      obtain ⟨first, value⟩ := entry
      simp only [List.map_cons, lookup_cons_eq_ite, ih]
      split <;> rfl

theorem isSome_lookup : (entries.lookup key).isSome ↔ key ∈ entries.map Prod.fst := by
  rw [List.lookup_isSome_iff, List.mem_map]
  exact exists_congr fun entry => and_congr Iff.rfl (beq_iff_eq.trans eq_comm)

theorem lookup_of_not_mem (absent : key ∉ entries.map Prod.fst) :
    entries.lookup key = none := by
  rwa [← isSome_lookup, Option.not_isSome_iff_eq_none] at absent

/-- Under distinct keys every entry is the first one under its key. -/
theorem lookup_eq_some_iff_mem (distinct : (entries.map Prod.fst).Nodup) :
    entries.lookup key = some value ↔ (key, value) ∈ entries := by
  induction entries with
  | nil => simp
  | cons entry entries ih =>
      obtain ⟨first, held⟩ := entry
      simp only [List.map_cons, List.nodup_cons] at distinct
      rw [lookup_cons_eq_ite]
      by_cases same : key = first
      · subst same
        have later : (key, value) ∉ entries := fun found =>
          distinct.1 (List.mem_map.2 ⟨_, found, rfl⟩)
        simp [later, eq_comm]
      · simp [same, ih distinct.2]

theorem lookup_perm {first second : List (Text × α)} (order : first.Perm second)
    (distinct : (second.map Prod.fst).Nodup) (key : Text) :
    first.lookup key = second.lookup key := by
  have also : (first.map Prod.fst).Nodup := (order.map Prod.fst).nodup_iff.2 distinct
  ext value
  rw [lookup_eq_some_iff_mem also, lookup_eq_some_iff_mem distinct, order.mem_iff]

/-- Entries with distinct keys are determined by the keys in order and what is found under them. -/
theorem eq_of_lookup {first second : List (Text × α)}
    (distinct : (first.map Prod.fst).Nodup) (keys : first.map Prod.fst = second.map Prod.fst)
    (found : ∀ key, first.lookup key = second.lookup key) : first = second := by
  induction first generalizing second with
  | nil => exact (List.map_eq_nil_iff.1 keys.symm).symm
  | cons entry first ih =>
      obtain ⟨key, value⟩ := entry
      cases second with
      | nil => cases keys
      | cons other second =>
          obtain ⟨name, held⟩ := other
          simp only [List.map_cons, List.cons.injEq] at keys
          obtain ⟨rfl, behind⟩ := keys
          simp only [List.map_cons, List.nodup_cons] at distinct
          simp only [lookup_cons_eq_ite] at found
          have here : value = held := by simpa using found key
          have tail : first = second := by
            apply ih distinct.2 behind
            intro name
            by_cases same : name = key
            · rw [same, lookup_of_not_mem distinct.1, lookup_of_not_mem (behind ▸ distinct.1)]
            · simpa only [same, ↓reduceIte] using found name
          rw [here, tail]

end

/-- Entries with distinct keys, in the order in which the keys first came. -/
structure Table (α : Type) where
  entries : List (Text × α)
  distinct : (entries.map Prod.fst).Nodup

namespace Table

variable {α β : Type}

@[ext] theorem ext {first second : Table α} (same : first.entries = second.entries) :
    first = second := by
  cases first
  cases second
  cases same
  rfl

instance [DecidableEq α] : DecidableEq (Table α) := fun first second =>
  decidable_of_iff (first.entries = second.entries) ⟨ext, fun same => same ▸ rfl⟩

def empty : Table α := ⟨[], by simp⟩

instance : EmptyCollection (Table α) := ⟨empty⟩

instance : Inhabited (Table α) := ⟨empty⟩

def insert (table : Table α) (key : Text) (value : α) : Table α :=
  ⟨insertEntry key value table.entries, nodup_insertEntry table.distinct⟩

def get? (table : Table α) (key : Text) : Option α := findEntry key table.entries

def contains (table : Table α) (key : Text) : Bool := (table.get? key).isSome

def keys (table : Table α) : List Text := table.entries.map Prod.fst

def values (table : Table α) : List α := table.entries.map Prod.snd

def size (table : Table α) : Nat := table.entries.length

def isEmpty (table : Table α) : Bool := table.entries.isEmpty

def insertAll (table : Table α) (entries : List (Text × α)) : Table α :=
  entries.foldl (fun table entry => table.insert entry.1 entry.2) table

/-- The table of a list of entries: a repeated key keeps its place and takes its last value. -/
def ofList (entries : List (Text × α)) : Table α := empty.insertAll entries

def map (f : α → β) (table : Table α) : Table β :=
  ⟨table.entries.map fun entry => (entry.1, f entry.2), by
    simpa [List.map_map, Function.comp_def] using table.distinct⟩

/-- The same entries in the order of their keys. -/
def sorted (table : Table α) : Table α :=
  ⟨table.entries.mergeSort fun a b => Text.le a.1 b.1,
    (((List.mergeSort_perm table.entries _).map Prod.fst).nodup_iff).2 table.distinct⟩

@[simp] theorem get?_empty (key : Text) : (∅ : Table α).get? key = none := rfl

@[simp] theorem get?_insert (table : Table α) (key other : Text) (value : α) :
    (table.insert key value).get? other =
      if other = key then some value else table.get? other :=
  lookup_insertEntry

@[simp] theorem get?_map (f : α → β) (table : Table α) (key : Text) :
    (table.map f).get? key = (table.get? key).map f :=
  lookup_map f key table.entries

theorem eq_of_get? {first second : Table α} (keys : first.keys = second.keys)
    (values : ∀ key, first.get? key = second.get? key) : first = second :=
  ext (eq_of_lookup first.distinct keys values)

theorem get?_eq_some_iff {table : Table α} {key : Text} {value : α} :
    table.get? key = some value ↔ (key, value) ∈ table.entries :=
  lookup_eq_some_iff_mem table.distinct

theorem contains_iff_mem_keys (table : Table α) (key : Text) :
    table.contains key ↔ key ∈ table.keys :=
  isSome_lookup

@[simp] theorem get?_sorted (table : Table α) (key : Text) :
    table.sorted.get? key = table.get? key :=
  lookup_perm (List.mergeSort_perm table.entries _) table.distinct key

theorem get?_eq_none_iff {table : Table α} {key : Text} :
    table.get? key = none ↔ key ∉ table.keys := by
  rw [← contains_iff_mem_keys, contains, Option.not_isSome_iff_eq_none]

theorem mem_keys_insert (table : Table α) (key other : Text) (value : α) :
    other ∈ (table.insert key value).keys ↔ other = key ∨ other ∈ table.keys :=
  mem_keys_insertEntry

theorem keys_insert (table : Table α) (key : Text) (value : α) :
    (table.insert key value).keys =
      if key ∈ table.keys then table.keys else table.keys ++ [key] :=
  keys_insertEntry

@[simp] theorem insertAll_nil (table : Table α) : table.insertAll [] = table := rfl

@[simp] theorem insertAll_cons (table : Table α) (key : Text) (value : α)
    (entries : List (Text × α)) :
    table.insertAll ((key, value) :: entries) = (table.insert key value).insertAll entries := rfl

theorem insertAll_append (table : Table α) (first second : List (Text × α)) :
    table.insertAll (first ++ second) = (table.insertAll first).insertAll second := by
  simp [insertAll, List.foldl_append]

/-- Entries with new and distinct keys are added behind those of the table. -/
theorem entries_insertAll {table : Table α} {entries : List (Text × α)}
    (distinct : ((table.entries ++ entries).map Prod.fst).Nodup) :
    (table.insertAll entries).entries = table.entries ++ entries := by
  induction entries generalizing table with
  | nil => simp
  | cons entry entries ih =>
      obtain ⟨key, value⟩ := entry
      have fresh : key ∉ table.entries.map Prod.fst := by
        intro known
        rw [List.map_append, List.nodup_append] at distinct
        exact distinct.2.2 key known key (by simp) rfl
      have here : (table.insert key value).entries = table.entries ++ [(key, value)] :=
        insertEntry_of_not_mem fresh
      rw [insertAll_cons, ih (by simpa [here] using distinct), here, List.append_assoc]
      rfl

theorem entries_ofList {entries : List (Text × α)} (distinct : (entries.map Prod.fst).Nodup) :
    (ofList entries).entries = entries :=
  @entries_insertAll α empty entries distinct

theorem mem_keys_insertAll (table : Table α) (entries : List (Text × α)) (key : Text) :
    key ∈ (table.insertAll entries).keys ↔ key ∈ table.keys ∨ key ∈ entries.map Prod.fst := by
  induction entries generalizing table with
  | nil => simp
  | cons entry entries ih =>
      obtain ⟨first, value⟩ := entry
      rw [insertAll_cons, ih, mem_keys_insert, List.map_cons, List.mem_cons]
      grind

theorem mem_keys_ofList (entries : List (Text × α)) (key : Text) :
    key ∈ (ofList entries).keys ↔ key ∈ entries.map Prod.fst := by
  rw [ofList, mem_keys_insertAll]
  simp [empty, keys]

theorem eraseDups_filter (keep : Text → Bool) (keys : List Text) :
    (keys.filter keep).eraseDups = keys.eraseDups.filter keep := by
  -- The first key is taken out of the others before their repetitions are.
  induction same : keys.length using Nat.strongRecOn generalizing keys with
  | ind size ih =>
      cases keys with
      | nil => rfl
      | cons key keys =>
          let others := keys.filter fun other => !other == key
          have shorter : others.length < size := by
            have bound : others.length ≤ keys.length := List.length_filter_le _ keys
            rw [List.length_cons] at same
            omega
          have kept := ih _ shorter others rfl
          rw [List.eraseDups_cons]
          cases here : keep key with
          | true =>
              rw [List.filter_cons_of_pos here, List.filter_cons_of_pos here, List.eraseDups_cons,
                ← kept, List.filter_filter, List.filter_filter]
              simp only [Bool.and_comm]
          | false =>
              have gone : ¬ keep key = true := by simp [here]
              have absent : keys.filter keep = others.filter keep := by
                rw [List.filter_filter]
                apply List.filter_congr
                intro other _
                by_cases equal : other = key <;> simp [equal, here]
              rw [List.filter_cons_of_neg gone, List.filter_cons_of_neg gone, absent, kept]

/-- A table after entries were written to an older one. Keys that were there keep their places, new
ones follow in the order in which they first come, and each has the newest value. -/
structure Updated (old : Table α) (entries : List (Text × α)) (new : Table α) : Prop where
  keys : new.keys = old.keys ++ ((entries.map Prod.fst).filter (· ∉ old.keys)).eraseDups
  newest : ∀ key, new.get? key = (entries.reverse.lookup key).or (old.get? key)

theorem updated_nil (table : Table α) : table.Updated [] table where
  keys := by simp
  newest key := by simp

theorem Updated.cons {old new : Table α} {key : Text} {value : α} {entries : List (Text × α)}
    (updated : (old.insert key value).Updated entries new) :
    old.Updated ((key, value) :: entries) new where
  keys := by
    rw [updated.keys, keys_insert]
    by_cases known : key ∈ old.keys
    · simp [known]
    · have later : ((entries.map Prod.fst).filter (· ∉ old.keys ++ [key])) =
          ((entries.map Prod.fst).filter (· ∉ old.keys)).filter (fun other => !other == key) := by
        rw [List.filter_filter]
        apply List.filter_congr
        intro other _
        by_cases same : other = key <;> simp [same]
      simp only [known, ↓reduceIte, List.map_cons, not_false_eq_true, decide_true,
        List.filter_cons_of_pos, List.eraseDups_cons, later, List.append_assoc, List.cons_append,
        List.nil_append]
  newest other := by
    rw [updated.newest, get?_insert, List.reverse_cons, List.lookup_append, Option.or_assoc,
      lookup_cons_eq_ite]
    congr 1
    by_cases same : other = key <;> simp [same]

theorem updated_insertAll (table : Table α) (entries : List (Text × α)) :
    table.Updated entries (table.insertAll entries) := by
  induction entries generalizing table with
  | nil => exact table.updated_nil
  | cons entry entries ih =>
      obtain ⟨key, value⟩ := entry
      exact (ih (table.insert key value)).cons

theorem Updated.keys_of_empty {new : Table α} {entries : List (Text × α)}
    (updated : (∅ : Table α).Updated entries new) :
    new.keys = (entries.map Prod.fst).eraseDups := by
  have fresh : (entries.map Prod.fst).filter (· ∉ (∅ : Table α).keys) = entries.map Prod.fst :=
    List.filter_eq_self.2 fun _ _ => rfl
  rw [updated.keys, fresh]
  rfl

theorem Updated.get?_of_empty {new : Table α} {entries : List (Text × α)}
    (updated : (∅ : Table α).Updated entries new) (key : Text) :
    new.get? key = entries.reverse.lookup key := by
  rw [updated.newest, get?_empty, Option.or_none]

/-- Two lists of entries that make the same table from nothing make the same of every table. -/
theorem insertAll_congr {first second : List (Text × α)} (same : ofList first = ofList second)
    (table : Table α) : table.insertAll first = table.insertAll second := by
  have fresh (entries : List (Text × α)) : (∅ : Table α).Updated entries (ofList entries) :=
    updated_insertAll ∅ entries
  have keys : (first.map Prod.fst).eraseDups = (second.map Prod.fst).eraseDups := by
    rw [← (fresh first).keys_of_empty, ← (fresh second).keys_of_empty, same]
  have one := table.updated_insertAll first
  have other := table.updated_insertAll second
  apply eq_of_get?
  · rw [one.keys, other.keys, eraseDups_filter, eraseDups_filter, keys]
  · intro key
    rw [one.newest, other.newest, ← (fresh first).get?_of_empty, ← (fresh second).get?_of_empty,
      same]

/-- Where the entries of another table are written to a table, its values come first, whatever order
they are written in. -/
theorem get?_insertAll_of_perm (table other : Table α) {visits : List (Text × α)}
    (order : visits.Perm other.entries) (key : Text) :
    (table.insertAll visits).get? key = (other.get? key).or (table.get? key) := by
  have same : visits.reverse.lookup key = other.get? key :=
    lookup_perm (visits.reverse_perm.trans order) other.distinct key
  rw [(table.updated_insertAll visits).newest, same]

theorem get?_insertAll_entries (table other : Table α) (key : Text) :
    (table.insertAll other.entries).get? key = (other.get? key).or (table.get? key) :=
  table.get?_insertAll_of_perm other (List.Perm.refl _) key

/-- The entries and the older table determine the newer one. -/
theorem Updated.unique {old first second : Table α} {entries : List (Text × α)}
    (one : old.Updated entries first) (other : old.Updated entries second) : first = second := by
  have keys : first.keys = second.keys := one.keys.trans other.keys.symm
  apply eq_of_get? keys
  intro key
  rw [one.newest, other.newest]

end Table

end Stencil
