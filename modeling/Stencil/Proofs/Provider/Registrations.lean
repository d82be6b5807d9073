import Mathlib.Data.Finset.Card
import Stencil.Engine

set_option autoImplicit false

namespace Stencil

/-- The newest of the registrations under any spelling of a name. -/
def Newest {α : Type} (fold : Text → Text) (registrations : List (Text × α)) (name : Text)
    (entry : α) : Prop :=
  ∃ before written after, registrations = before ++ (written, entry) :: after ∧
    fold written = fold name ∧ ∀ later ∈ after, fold later.1 ≠ fold name

section Newest

variable {α : Type} {fold : Text → Text} {registrations others : List (Text × α)} {name : Text}
  {entry : α}

def folded (fold : Text → Text) (registrations : List (Text × α)) : List (Text × α) :=
  (registrations.map fun entry => (fold entry.1, entry.2)).reverse

theorem newest_iff_lookup :
    Newest fold registrations name entry ↔
      (folded fold registrations).lookup (fold name) = some entry := by
  rw [List.lookup_eq_some_iff]
  constructor
  · rintro ⟨before, written, after, rfl, same, apart⟩
    refine ⟨folded fold after, folded fold before, by simp [folded, same], ?_⟩
    intro later member
    obtain ⟨other, held, rfl⟩ := List.mem_map.1 (List.mem_reverse.1 member)
    simpa using Ne.symm (apart other held)
  · rintro ⟨newer, older, whole, apart⟩
    have mapped : registrations.map (fun entry => (fold entry.1, entry.2)) =
        older.reverse ++ (fold name, entry) :: newer.reverse := by
      rw [← List.reverse_reverse (registrations.map _)]
      change (folded fold registrations).reverse = _
      simp [whole]
    obtain ⟨before, rest, rfl, _, behind⟩ := List.map_eq_append_iff.1 mapped
    obtain ⟨⟨written, held⟩, after, rfl, here, later⟩ := List.map_eq_cons_iff.1 behind
    obtain ⟨same, rfl⟩ := Prod.mk.inj here
    refine ⟨before, written, after, rfl, same, ?_⟩
    intro other member
    have inside : (fold other.1, other.2) ∈ newer := by
      rw [← List.mem_reverse, ← later]
      exact List.mem_map.2 ⟨other, member, rfl⟩
    have different := apart _ inside
    simpa using Ne.symm (by simpa using different)

theorem not_newest_nil : ¬ Newest fold ([] : List (Text × α)) name entry := by
  simp [newest_iff_lookup, folded]

theorem newest_append_iff :
    Newest fold (registrations ++ others) name entry ↔
      Newest fold others name entry ∨
        (∀ other, ¬ Newest fold others name other) ∧ Newest fold registrations name entry := by
  have parts : folded fold (registrations ++ others) =
      folded fold others ++ folded fold registrations := by simp [folded]
  simp only [newest_iff_lookup, parts, List.lookup_append, Option.or_eq_some_iff,
    Option.eq_none_iff_forall_ne_some, ne_eq]

theorem newest_singleton_iff {written : Text} {held : α} :
    Newest fold [(written, held)] name entry ↔ fold name = fold written ∧ held = entry := by
  rw [newest_iff_lookup]
  simp [folded, lookup_cons_eq_ite]

end Newest

/-- A table that holds the newest registration under the form of each name, and nothing else. -/
structure Table.Records {α : Type} (fold : Text → Text) (registrations : List (Text × α))
    (table : Table α) : Prop where
  newest : ∀ name entry,
    table.get? (fold name) = some entry ↔ Newest fold registrations name entry
  keys : ∀ key, key ∈ table.keys ↔ key ∈ registrations.map fun entry => fold entry.1

namespace Table

variable {α : Type} {fold : Text → Text} {registrations others : List (Text × α)}
  {table other : Table α}

theorem records_empty (fold : Text → Text) : (∅ : Table α).Records fold [] where
  newest name entry := by simp [not_newest_nil]
  keys key := by
    rw [List.map_nil]
    exact Iff.rfl

theorem Records.insert (records : table.Records fold registrations) (name : Text) (entry : α) :
    (table.insert (fold name) entry).Records fold (registrations ++ [(name, entry)]) where
  newest asked held := by
    rw [get?_insert, newest_append_iff, newest_singleton_iff, ← records.newest]
    by_cases same : fold asked = fold name
    · simp [same, newest_singleton_iff]
    · simp [same, newest_singleton_iff]
  keys key := by
    rw [mem_keys_insert, records.keys, List.map_append, List.mem_append, or_comm]
    simp

/-- A merge may visit the entries of the other table in any order. -/
theorem Records.insertAll (records : table.Records fold registrations)
    (merged : other.Records fold others) {visits : List (Text × α)}
    (order : visits.Perm other.entries) :
    (table.insertAll visits).Records fold (registrations ++ others) where
  newest name entry := by
    rw [get?_insertAll_of_perm table other order, Option.or_eq_some_iff, newest_append_iff,
      records.newest, merged.newest, Option.eq_none_iff_forall_ne_some]
    simp only [ne_eq, merged.newest]
  keys key := by
    have visited : key ∈ visits.map Prod.fst ↔ key ∈ other.keys := (order.map Prod.fst).mem_iff
    rw [mem_keys_insertAll, visited, records.keys, merged.keys, List.map_append, List.mem_append]

theorem Records.size (records : table.Records fold registrations) :
    table.size = (registrations.map fun entry => fold entry.1).toFinset.card := by
  have same : table.keys.toFinset = (registrations.map fun entry => fold entry.1).toFinset := by
    ext key
    rw [List.mem_toFinset, List.mem_toFinset, records.keys]
  have distinct : table.keys.Nodup := table.distinct
  rw [← same, List.toFinset_card_of_nodup distinct, Table.keys, List.length_map]
  rfl

theorem Records.contains (records : table.Records fold registrations) (name : Text) :
    (table.get? (fold name)).isSome = true ↔ ∃ entry, Newest fold registrations name entry := by
  simp only [Option.isSome_iff_exists, records.newest]

theorem Records.missing (records : table.Records fold registrations) (name : Text) :
    table.get? (fold name) = none ↔ ∀ entry, ¬ Newest fold registrations name entry := by
  simp only [Option.eq_none_iff_forall_ne_some, ne_eq, records.newest]

end Table

namespace Registry

/-- Registries with the registrations that they come from, the oldest first. A merge registers what
the other registry holds, and may visit it in any order. -/
inductive Built : Registry → List (Text × Factory) → Prop where
  | empty : Built .empty []
  | add {registry : Registry} {registrations : List (Text × Factory)}
      (built : Built registry registrations) (name : Text) (factory : Factory) :
      Built (registry.add name factory) (registrations ++ [(name, factory)])
  | addFixed {registry : Registry} {registrations : List (Text × Factory)}
      (built : Built registry registrations) (name : Text) (values : Table Value) :
      Built (registry.addFixed name values) (registrations ++ [(name, .fixed values)])
  | merge {registry other : Registry} {registrations others visits : List (Text × Factory)}
      (built : Built registry registrations) (merged : Built other others)
      (order : visits.Perm other.factories.entries) :
      Built ⟨registry.factories.insertAll visits⟩ (registrations ++ others)

theorem Built.records {registry : Registry} {registrations : List (Text × Factory)}
    (built : registry.Built registrations) :
    registry.factories.Records Text.lower registrations := by
  induction built with
  | empty => exact Table.records_empty Text.lower
  | add _ name factory ih => exact ih.insert name factory
  | addFixed _ name values ih => exact ih.insert name (.fixed values)
  | merge _ _ order ih merged => exact ih.insertAll merged order

/-- A registry answers for each namespace by what was registered last under any spelling of it. -/
structure Answers (registry : Registry) (registrations : List (Text × Factory)) : Prop where
  asks : ∀ name factory,
    registry.factory? name = some factory ↔ Newest Text.lower registrations name factory
  provides : ∀ context name provider,
    registry.resolve context name = some provider ↔
      ∃ factory, Newest Text.lower registrations name factory ∧ factory context = some provider
  declines : ∀ context name,
    registry.resolve context name = none ↔
      (∀ factory, ¬ Newest Text.lower registrations name factory) ∨
        ∃ factory, Newest Text.lower registrations name factory ∧ factory context = none
  size : registry.size = (registrations.map fun entry => Text.lower entry.1).toFinset.card

theorem Built.answers {registry : Registry} {registrations : List (Text × Factory)}
    (built : registry.Built registrations) : registry.Answers registrations := by
  have asks (name : Text) (factory : Factory) :
      registry.factory? name = some factory ↔ Newest Text.lower registrations name factory :=
    built.records.newest name factory
  have missing (name : Text) : registry.factory? name = none ↔
      ∀ factory, ¬ Newest Text.lower registrations name factory :=
    built.records.missing name
  refine ⟨asks, ?_, ?_, built.records.size⟩
  · intro context name provider
    simp only [resolve, Option.bind_eq_some_iff, asks]
  · intro context name
    simp only [resolve, Option.bind_eq_none_iff, asks, ← missing]
    cases found : registry.factory? name with
    | none => simp [← asks, found]
    | some factory => simp [← asks, found]

end Registry

namespace Filters

/-- Filters with the registrations that they come from, the oldest first. -/
inductive Built : Filters → List (Text × Filter) → Prop where
  | empty : Built .empty []
  | add {filters : Filters} {registrations : List (Text × Filter)}
      (built : Built filters registrations) (name : Text) (filter : Filter) :
      Built (filters.add name filter) (registrations ++ [(name, filter)])

theorem Built.records {filters : Filters} {registrations : List (Text × Filter)}
    (built : filters.Built registrations) : filters.table.Records Text.upper registrations := by
  induction built with
  | empty => exact Table.records_empty Text.upper
  | add _ name filter ih => exact ih.insert name filter

/-- Filters are applied by what was registered last under any spelling of a name. -/
structure Answers (filters : Filters) (registrations : List (Text × Filter)) : Prop where
  contains : ∀ name, filters.contains name = true ↔
    ∃ filter, Newest Text.upper registrations name filter
  applies : ∀ name filter, Newest Text.upper registrations name filter →
    ∀ field value, filters.apply name field value = filter field value
  unknown : ∀ name, (∀ filter, ¬ Newest Text.upper registrations name filter) →
    ∀ field value, filters.apply name field value = .error (.unknown name)
  size : filters.names.length = (registrations.map fun entry => Text.upper entry.1).toFinset.card

theorem Built.answers {filters : Filters} {registrations : List (Text × Filter)}
    (built : filters.Built registrations) : filters.Answers registrations where
  contains := built.records.contains
  applies name filter newest field value := by
    have found : filters.find? name = some filter := (built.records.newest name filter).2 newest
    simp only [apply, found]
  unknown name absent field value := by
    have missing : filters.find? name = none := (built.records.missing name).2 absent
    simp only [apply, missing]
  size := by
    rw [← built.records.size, names, Table.keys, List.length_map]
    rfl

end Filters

namespace Engine

/-- The factory that a built engine asks for a namespace: that of the user if there is one. With the
built-in namespaces it is else the one over the configured sections or the built-in one. -/
def Asks (config : Config) (registrations : List (Text × Factory)) (name : Text)
    (factory : Factory) : Prop :=
  Newest Text.lower registrations name factory ∨
    config.builtinProviders = true ∧
      (∀ user, ¬ Newest Text.lower registrations name user) ∧
      (Text.lower name = Registry.sectionsName ∧ factory = .sections config.sections ∨
        Text.lower name = Registry.requestName ∧ factory = .request ∨
        Text.lower name = Registry.queryName ∧ factory = .query ∨
        Text.lower name = Registry.postName ∧ factory = .post ∨
        Text.lower name = Registry.metadataName ∧ factory = .metadata)

theorem factory?_builtin (config : Config) (name : Text) (factory : Factory) :
    (Registry.builtin.add Registry.sectionsName (.sections config.sections)).factory? name =
        some factory ↔
      Text.lower name = Registry.sectionsName ∧ factory = .sections config.sections ∨
        Text.lower name = Registry.requestName ∧ factory = .request ∨
        Text.lower name = Registry.queryName ∧ factory = .query ∨
        Text.lower name = Registry.postName ∧ factory = .post ∨
        Text.lower name = Registry.metadataName ∧ factory = .metadata := by
  have lowered : Text.lower Registry.sectionsName = Registry.sectionsName ∧
      Text.lower Registry.requestName = Registry.requestName ∧
      Text.lower Registry.queryName = Registry.queryName ∧
      Text.lower Registry.postName = Registry.postName ∧
      Text.lower Registry.metadataName = Registry.metadataName := by decide
  have distinct : [Registry.sectionsName, Registry.requestName, Registry.queryName,
      Registry.postName, Registry.metadataName].Nodup := by decide
  have absent : Registry.empty.factory? name = none := rfl
  simp only [Registry.builtin, Registry.factory?_add, lowered, absent]
  grind

theorem factory?_build {given : Registry} {registrations : List (Text × Factory)}
    (built : given.Built registrations) (config : Config) (filters : Filters) (name : Text)
    (factory : Factory) :
    (build config given filters).registry.factory? name = some factory ↔
      Asks config registrations name factory := by
  have answers := built.answers
  cases wanted : config.builtinProviders with
  | false =>
      simp only [build, registryFor, wanted, Asks, Bool.false_eq_true, ↓reduceIte, answers.asks,
        false_and, or_false]
  | true =>
      have missing : given.factory? name = none ↔
          ∀ user, ¬ Newest Text.lower registrations name user := built.records.missing name
      simp only [build, registryFor, wanted, Asks, ↓reduceIte, true_and, Registry.factory?_merge,
        Option.or_eq_some_iff, answers.asks, missing, factory?_builtin]

/-- Namespaces and filters stand for what was registered last under any spelling of their names.
Registries with the same registrations answer alike, in whatever order their merges have visited the
entries. A built engine asks the user's factory first, then the one over the configured sections,
then the built-in one. -/
theorem newest_registration_answers :
    (∀ registry registrations, Registry.Built registry registrations →
      registry.Answers registrations) ∧
    (∀ first second registrations, Registry.Built first registrations →
      Registry.Built second registrations →
        (∀ context name, first.resolve context name = second.resolve context name) ∧
          first.size = second.size) ∧
    (∀ filters registrations, Filters.Built filters registrations →
      filters.Answers registrations) ∧
    ∀ given registrations, Registry.Built given registrations →
      ∀ config filters name factory,
        (build config given filters).registry.factory? name = some factory ↔
          Asks config registrations name factory := by
  refine ⟨fun _ _ built => built.answers, ?_, fun _ _ built => built.answers,
    fun _ _ built config filters => factory?_build built config filters⟩
  intro first second registrations built again
  refine ⟨?_, built.answers.size.trans again.answers.size.symm⟩
  intro context name
  ext provider
  rw [built.answers.provides, again.answers.provides]

/-- Names in other letters, and a merge that visits its entries from the last to the first. A
factory that declines hides the one before it, and a user's factory the sections. -/
theorem newest_registration_answers_merged :
    let given := Registry.empty.addFixed "User".toList ∅
    let other := (Registry.empty.add "USER".toList .declining).add "Cfg".toList .query
    let merged : Registry := ⟨given.factories.insertAll other.factories.entries.reverse⟩
    let registrations : List (Text × Factory) :=
      [("User".toList, .fixed ∅), ("USER".toList, .declining), ("Cfg".toList, .query)]
    let filters := (Filters.empty.add "Up".toList Filter.lower).add "UP".toList Filter.upper
    merged.Built registrations ∧ merged.size = 2 ∧ merged.resolve default "user".toList = none ∧
      (∀ context name, merged.resolve context name = (given.merge other).resolve context name) ∧
      (build {} merged filters).registry.factory? "cfG".toList = some .query ∧
      (build {} merged filters).registry.factory? "Meta".toList = some .metadata ∧
      filters.apply "up".toList [] (.string ['a']) = Filter.upper [] (.string ['a']) := by
  intro given other merged registrations filters
  have user : given.Built [("User".toList, .fixed ∅)] := .addFixed .empty _ _
  have others : other.Built [("USER".toList, .declining), ("Cfg".toList, .query)] :=
    .add (.add .empty _ _) _ _
  have built : merged.Built registrations := .merge user others (List.reverse_perm _)
  have again : (given.merge other).Built registrations := .merge user others (List.Perm.refl _)
  have filtered : filters.Built [("Up".toList, Filter.lower), ("UP".toList, Filter.upper)] :=
    .add (.add .empty _ _) _ _
  obtain ⟨answers, alike, applies, asks⟩ := newest_registration_answers
  have declining : Newest Text.lower registrations "user".toList .declining :=
    ⟨[("User".toList, .fixed ∅)], "USER".toList, [("Cfg".toList, .query)], rfl, by decide,
      by decide⟩
  have query : Newest Text.lower registrations "cfG".toList .query :=
    ⟨[("User".toList, .fixed ∅), ("USER".toList, .declining)], "Cfg".toList, [], rfl, by decide,
      by decide⟩
  have upper : Newest Text.upper [("Up".toList, Filter.lower), ("UP".toList, Filter.upper)]
      "up".toList Filter.upper :=
    ⟨[("Up".toList, Filter.lower)], "UP".toList, [], rfl, by decide, by decide⟩
  refine ⟨built, ?_, ?_, (alike _ _ _ built again).1, ?_, ?_, ?_⟩
  · rw [(answers _ _ built).size]
    decide
  · exact ((answers _ _ built).declines _ _).2 (Or.inr ⟨_, declining, rfl⟩)
  · exact (asks _ _ built _ _ _ _).2 (Or.inl query)
  · refine (asks _ _ built _ _ _ _).2 (Or.inr ⟨rfl, ?_, ?_⟩)
    · intro user newest
      have absent : merged.factory? "Meta".toList = none := rfl
      have found := ((answers _ _ built).asks _ _).2 newest
      rw [absent] at found
      cases found
    · exact Or.inr (Or.inr (Or.inr (Or.inr ⟨by decide, rfl⟩)))
  · exact (applies _ _ filtered).applies _ _ upper _ _

end Engine

end Stencil
