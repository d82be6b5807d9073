import Mathlib.Data.List.Nodup
import Mathlib.Data.List.Pairwise
import Mathlib.Data.List.Perm.Subperm
import Stencil.Directive.Loop
import Stencil.Provider.Builtin

set_option autoImplicit false

namespace Stencil

namespace Provider

/-- A field is contained, found and listed, or none of these, and it is listed with the value that
is found. -/
structure Agrees (provider : Provider) : Prop where
  contains_iff_get : ∀ name,
    provider.contains name = true ↔ ∃ value, provider.get name = .ok value
  contains_iff_listed : ∀ name, provider.contains name = true ↔ name ∈ provider.all.keys
  listed_of_get : ∀ name value,
    provider.get name = .ok value → provider.all.get? name = some value

theorem agrees_ofLookup {find : Text → Option Value} {all : Table Value} :
    (ofLookup find all).Agrees ↔ ∀ name, find name = all.get? name := by
  constructor
  · intro agrees name
    cases found : find name with
    | some value => exact (agrees.listed_of_get name value (get_ofLookup.2 found)).symm
    | none =>
        have missing : (ofLookup find all).contains name = false := by
          simp [ofLookup, found]
        have unlisted : name ∉ all.keys := by
          intro listed
          have contained := (agrees.contains_iff_listed name).2 listed
          rw [missing] at contained
          exact Bool.false_ne_true contained
        exact (Table.get?_eq_none_iff.2 unlisted).symm
  · intro same
    refine ⟨fun name => ?_, fun name => ?_, fun name value found => ?_⟩
    · simp only [get_ofLookup]
      exact Option.isSome_iff_exists
    · rw [← Table.contains_iff_mem_keys]
      show (find name).isSome = true ↔ (all.get? name).isSome = true
      rw [same]
    · exact (same name).symm.trans (get_ofLookup.1 found)

theorem agrees_ofTable (values : Table Value) : (ofTable values).Agrees :=
  agrees_ofLookup.2 fun _ => rfl

theorem agrees_ofTexts (texts : Table Text) : (ofTexts texts).Agrees :=
  agrees_ofTable (texts.map .string)

theorem agrees_of_ofValue? {value : Value} {provider : Provider}
    (made : ofValue? value = some provider) : provider.Agrees := by
  obtain ⟨fields, _, rfl⟩ := Option.map_eq_some_iff.1 made
  exact agrees_ofTable fields

end Provider

theorem Factory.agrees_of_flat {values : Table Value} {factory : Factory}
    (flat : factory ∈ [fixed values, request, query, post, metadata]) {context : Context}
    {provider : Provider} (made : factory context = some provider) : provider.Agrees := by
  simp only [List.mem_cons, List.not_mem_nil, or_false] at flat
  rcases flat with rfl | rfl | rfl | rfl | rfl
  · cases made
    exact Provider.agrees_ofTable values
  · cases made
    exact Provider.agrees_ofTexts _
  · cases made
    exact Provider.agrees_ofTexts _
  · unfold post at made
    split at made
    · cases made
    · cases made
      exact Provider.agrees_ofTexts _
  · cases made
    exact Provider.agrees_ofTexts _

namespace Provider

variable {sections : Table Value} {heading key name : Text} {value : Value}

/-- A section is an object and holds a value under the key. -/
def Configures (sections : Table Value) (heading key : Text) (value : Value) : Prop :=
  ∃ held fields, sections.get? heading = some held ∧ held.asObject? = some fields ∧
    fields.get? key = some value

/-- No section that holds anything has an at sign in its heading. -/
def Addressable (sections : Table Value) : Prop :=
  ∀ heading key value, Configures sections heading key value → '@' ∉ heading

/-- The values of all sections that are objects, in order. -/
def configured (sections : Table Value) : List Value :=
  (sections.values.filterMap Value.asObject?).flatMap Table.values

theorem findInSections_eq_some_iff :
    findInSections sections name = some value ↔
      ∃ heading key, '@' ∉ heading ∧ name = heading ++ '@' :: key ∧
        Configures sections heading key value := by
  simp only [findInSections, splitName?, Option.bind_eq_bind, Option.bind_eq_some_iff, Prod.exists,
    Text.cut?_singleton_iff, Configures]
  grind

def listed (heading : Text) (value : Value) : List (Text × Value) :=
  match value.asObject? with
  | none => []
  | some fields => fields.entries.map fun entry => (heading ++ '@' :: entry.1, entry.2)

theorem flatten_eq (sections : Table Value) :
    flatten sections = sections.entries.flatMap fun entry => listed entry.1 entry.2 := rfl

theorem mem_listed_iff {held : Value} :
    (name, value) ∈ listed heading held ↔
      ∃ fields key, held.asObject? = some fields ∧ fields.get? key = some value ∧
        name = heading ++ '@' :: key := by
  unfold listed
  cases held.asObject? with
  | none => simp
  | some fields =>
      simp only [List.mem_map, Prod.mk.injEq, Prod.exists, Option.some.injEq,
        Table.get?_eq_some_iff]
      grind

theorem mem_flatten_iff :
    (name, value) ∈ flatten sections ↔
      ∃ heading key, name = heading ++ '@' :: key ∧ Configures sections heading key value := by
  simp only [flatten_eq, List.mem_flatMap, Prod.exists, mem_listed_iff, ← Table.get?_eq_some_iff,
    Configures]
  grind

theorem values_flatten (sections : Table Value) :
    (flatten sections).map Prod.snd = configured sections := by
  rw [flatten_eq, configured, Table.values, List.map_flatMap, List.filterMap_map]
  induction sections.entries with
  | nil => rfl
  | cons entry entries ih =>
      rw [List.flatMap_cons, ih, List.filterMap_cons, Function.comp_apply, listed]
      cases entry.2.asObject? with
      | none => rfl
      | some fields => simp [Table.values]

/-- Two headings without at signs are told apart behind a key. -/
theorem heading_unique {other suffix : Text} (plain : '@' ∉ heading) (bare : '@' ∉ other)
    (same : heading ++ '@' :: key = other ++ '@' :: suffix) : heading = other := by
  have one : Text.cut? ['@'] (heading ++ '@' :: key) = some (heading, key) :=
    Text.cut?_singleton_iff.2 ⟨plain, rfl⟩
  have two := Text.cut?_singleton_iff.2 ⟨bare, same⟩
  rw [one, Option.some.injEq, Prod.mk.injEq] at two
  exact two.1

theorem nodup_listed (heading : Text) (held : Value) :
    ((listed heading held).map Prod.fst).Nodup := by
  unfold listed
  cases held.asObject? with
  | none => simp
  | some fields =>
      have injective : Function.Injective fun key => heading ++ '@' :: key := by
        intro first second same
        simpa using same
      have distinct := fields.distinct.map injective
      simpa [Function.comp_def] using distinct

theorem nodup_flatten (addressable : Addressable sections) :
    ((flatten sections).map Prod.fst).Nodup := by
  rw [flatten_eq, List.map_flatMap, List.nodup_flatMap]
  refine ⟨fun entry _ => nodup_listed entry.1 entry.2, ?_⟩
  apply (List.Nodup.of_map Prod.fst sections.distinct).pairwise_of_forall_ne
  rintro ⟨heading, held⟩ here ⟨other, more⟩ there apart name first second
  obtain ⟨⟨_, value⟩, listed, rfl⟩ := List.mem_map.1 first
  obtain ⟨⟨_, _⟩, relisted, same⟩ := List.mem_map.1 second
  obtain ⟨fields, key, object, found, rfl⟩ := mem_listed_iff.1 listed
  obtain ⟨others, suffix, objects, refound, rfl⟩ := mem_listed_iff.1 relisted
  have plain : '@' ∉ heading :=
    addressable heading key value ⟨held, fields, Table.get?_eq_some_iff.2 here, object, found⟩
  have bare : '@' ∉ other :=
    addressable other suffix _ ⟨more, others, Table.get?_eq_some_iff.2 there, objects, refound⟩
  have equal : heading = other := heading_unique plain bare same.symm
  subst equal
  have one := Table.get?_eq_some_iff.2 here
  have two := Table.get?_eq_some_iff.2 there
  rw [one, Option.some.injEq] at two
  exact apart (by rw [two])

/-- What is configured under a heading with an at sign is looked up in another section. If it is
found there, its name is listed twice. -/
theorem not_nodup_flatten (agrees : (ofSections sections).Agrees)
    (configures : Configures sections heading key value) (marked : '@' ∈ heading) :
    ¬ ((flatten sections).map Prod.fst).Nodup := by
  have member : (heading ++ '@' :: key, value) ∈ flatten sections :=
    mem_flatten_iff.2 ⟨heading, key, rfl, configures⟩
  have keyed : heading ++ '@' :: key ∈ (ofSections sections).all.keys :=
    (Table.mem_keys_ofList _ _).2 (List.mem_map.2 ⟨_, member, rfl⟩)
  have contained := (agrees.contains_iff_listed _).2 keyed
  -- What is looked up stands under a heading without an at sign, so it is another section's.
  obtain ⟨found, got⟩ := (agrees.contains_iff_get _).1 contained
  obtain ⟨other, rest, bare, same, held, fields, here, object, inside⟩ :=
    findInSections_eq_some_iff.1 (get_ofLookup.1 got)
  obtain ⟨more, others, there, objects, within⟩ := configures
  have apart : other ≠ heading := fun equal => bare (equal ▸ marked)
  intro distinct
  rw [flatten_eq, List.map_flatMap, List.nodup_flatMap] at distinct
  have symmetric : Std.Symm (Function.onFun List.Disjoint fun entry : Text × Value =>
      (listed entry.1 entry.2).map Prod.fst) := ⟨fun _ _ => List.disjoint_symm⟩
  have disjoint := distinct.2.forall (Table.get?_eq_some_iff.1 here)
    (Table.get?_eq_some_iff.1 there) fun equal => apart (congrArg Prod.fst equal)
  apply disjoint
  · exact List.mem_map.2 ⟨_, mem_listed_iff.2 ⟨fields, rest, object, inside, same⟩, rfl⟩
  · exact List.mem_map.2 ⟨_, mem_listed_iff.2 ⟨others, key, objects, within, rfl⟩, rfl⟩

theorem entries_ofSections (addressable : Addressable sections) :
    (ofSections sections).all.entries = flatten sections :=
  Table.entries_ofList (nodup_flatten addressable)

theorem agrees_ofSections (addressable : Addressable sections) : (ofSections sections).Agrees := by
  apply agrees_ofLookup.2
  intro name
  have same (value : Value) : findInSections sections name = some value ↔
      (Table.ofList (flatten sections)).get? name = some value := by
    have entries : (Table.ofList (flatten sections)).entries = flatten sections :=
      entries_ofSections addressable
    rw [Table.get?_eq_some_iff, entries, mem_flatten_iff, findInSections_eq_some_iff]
    grind [Addressable]
  exact Option.ext same

/-- As many values are listed as are configured only if no two of them have one name. -/
theorem nodup_flatten_of_values
    (complete : (ofSections sections).all.values = configured sections) :
    ((flatten sections).map Prod.fst).Nodup := by
  have subset : (ofSections sections).all.keys ⊆ (flatten sections).map Prod.fst := by
    intro key member
    exact (Table.mem_keys_ofList _ _).1 member
  have lengths :
      ((flatten sections).map Prod.fst).length ≤ (ofSections sections).all.keys.length := by
    have counted := congrArg List.length complete
    rw [← values_flatten] at counted
    simp only [Table.values, List.length_map] at counted
    simp only [Table.keys, List.length_map, counted, Nat.le_refl]
  have fewer := List.Nodup.subperm (ofSections sections).all.distinct subset
  exact (fewer.perm_of_length_le lengths).nodup_iff.1 (ofSections sections).all.distinct

/-- The views of configuration sections agree, and every configured value is listed, just where no
heading of a section with fields holds an at sign. -/
theorem agrees_ofSections_iff (sections : Table Value) :
    (ofSections sections).Agrees ∧ (ofSections sections).all.values = configured sections ↔
      Addressable sections := by
  constructor
  · rintro ⟨agrees, complete⟩ heading key value configures marked
    exact not_nodup_flatten agrees configures marked (nodup_flatten_of_values complete)
  · intro addressable
    refine ⟨agrees_ofSections addressable, ?_⟩
    rw [Table.values, entries_ofSections addressable, values_flatten]

theorem listed_ofSections (addressable : Addressable sections)
    (configures : Configures sections heading key value) :
    (ofSections sections).all.get? (heading ++ '@' :: key) = some value := by
  rw [Table.get?_eq_some_iff, entries_ofSections addressable, mem_flatten_iff]
  exact ⟨heading, key, rfl, configures⟩

end Provider

/-- A loop over all values of the configuration goes over the values that are listed. -/
theorem Loop.elements_of_sections {registry : Registry} {context : Context} {target : Target}
    {sections : Table Value} (whole : isAll target.field = true)
    (serves : registry.factory? target.name = some (.sections sections)) :
    elements registry context target = (Provider.ofSections sections).all.values := by
  have resolved : registry.resolve context target.name = some (.ofSections sections) := by
    rw [Registry.resolve, serves]
    rfl
  simp only [elements, whole, ↓reduceIte, resolved]

namespace Factory

open Provider (Addressable Configures configured)

/-- The views of what the factories of the library hand out. Those of tables, of objects, of texts
and of a request agree. Those of configuration sections do so, with every configured value in the
list, just where no heading of a section with fields holds an at sign. There each value is listed
under its heading and its key, and a loop over all values of the configuration goes over every one
of them. -/
theorem views_agree (values : Table Value) (context : Context) :
    (∀ factory ∈ [fixed values, request, query, post, metadata], ∀ provider,
      factory context = some provider → provider.Agrees) ∧
    (∀ value provider, Provider.ofValue? value = some provider → provider.Agrees) ∧
    (∀ texts, (Provider.ofTexts texts).Agrees) ∧
    (∀ provider, sections values context = some provider →
      (provider.Agrees ∧ provider.all.values = configured values ↔ Addressable values)) ∧
    (Addressable values →
      (∀ heading key value, Configures values heading key value →
        (Provider.ofSections values).all.get? (heading ++ '@' :: key) = some value) ∧
      ∀ (registry : Registry) (target : Target),
        registry.factory? target.name = some (sections values) →
        Loop.isAll target.field = true →
        Loop.elements registry context target = configured values) := by
  refine ⟨?_, ?_, Provider.agrees_ofTexts, ?_, ?_⟩
  · intro factory flat provider made
    exact agrees_of_flat flat made
  · intro value provider made
    exact Provider.agrees_of_ofValue? made
  · intro provider made
    cases made
    exact Provider.agrees_ofSections_iff values
  · intro addressable
    refine ⟨fun _ _ _ configures => Provider.listed_ofSections addressable configures, ?_⟩
    intro registry target serves whole
    rw [Loop.elements_of_sections whole serves]
    exact ((Provider.agrees_ofSections_iff values).2 addressable).2

/-- Two sections with fields, one of them with an at sign in a key, and a marked heading without
any. -/
theorem views_agree_sections :
    let core : Value := .object [("port".toList, .bool true), ("a@b".toList, .null)]
    let site : Value := .object [("name".toList, .string "Corner".toList)]
    let values := Table.ofList [("core".toList, core), ("x@y".toList, .bool false),
      ("site".toList, site)]
    let target : Target := ⟨Registry.sectionsName, "All".toList⟩
    let registry := Registry.empty.add Registry.sectionsName (sections values)
    Addressable values ∧ (Provider.ofSections values).Agrees ∧
      Loop.elements registry default target = [.bool true, .null, .string "Corner".toList] := by
  intro core site values target registry
  have addressable : Addressable values := by
    intro heading key value configures
    obtain ⟨held, fields, found, object, _⟩ := configures
    have entries : values.entries = [("core".toList, core), ("x@y".toList, .bool false),
        ("site".toList, site)] := rfl
    rw [Table.get?_eq_some_iff, entries] at found
    simp only [List.mem_cons, List.not_mem_nil, or_false, Prod.mk.injEq] at found
    rcases found with ⟨rfl, _⟩ | ⟨_, rfl⟩ | ⟨rfl, _⟩
    · decide
    · cases object
    · decide
  obtain ⟨_, _, _, agree, visit⟩ := views_agree values default
  have serves : registry.factory? Registry.sectionsName = some (sections values) := rfl
  have whole := (agree _ rfl).2 addressable
  exact ⟨addressable, whole.1,
    (visit addressable).2 registry target serves (by decide)⟩

/-- Of a section with an at sign in its heading a field is listed under a name that is not found. -/
theorem not_views_agree :
    let held : Value := .object [("y".toList, .number (.int 2))]
    let provider := Provider.ofSections (Table.ofList [("s@x".toList, held)])
    ¬ provider.Agrees ∧ provider.all.keys = ["s@x@y".toList] ∧
      provider.contains "s@x@y".toList = false ∧
      provider.get "s@x@y".toList = .error (.missingField "s@x@y".toList) := by
  intro held provider
  have listed : provider.all.keys = ["s@x@y".toList] := by decide
  have missing : provider.contains "s@x@y".toList = false := by decide
  refine ⟨fun agrees => ?_, listed, missing, rfl⟩
  have contained := (agrees.contains_iff_listed "s@x@y".toList).2 (by simp [listed])
  rw [missing] at contained
  exact Bool.false_ne_true contained

end Factory

end Stencil
