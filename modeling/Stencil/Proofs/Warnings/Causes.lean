import Stencil.Proofs.Include.Pass

set_option autoImplicit false

namespace Stencil

/-- What the items of a list raise, in their order: one event for each item that raises one. -/
inductive Raised {α : Type} (raises : α → Event → Prop) : List α → List Event → Prop where
  | none : Raised raises [] []
  | quiet {item : α} {items : List α} {events : List Event}
      (silent : ∀ event, ¬ raises item event) (others : Raised raises items events) :
      Raised raises (item :: items) events
  | loud {item : α} {event : Event} {items : List α} {events : List Event}
      (raised : raises item event) (others : Raised raises items events) :
      Raised raises (item :: items) (event :: events)

namespace Raised

variable {α : Type} {raises : α → Event → Prop}

theorem append {first second : List α} {ahead behind : List Event}
    (front : Raised raises first ahead) (back : Raised raises second behind) :
    Raised raises (first ++ second) (ahead ++ behind) := by
  induction front with
  | none => exact back
  | quiet silent _ ih => exact .quiet silent ih
  | loud raised _ ih => exact .loud raised ih

theorem of_silent {item : α} (silent : ∀ event, ¬ raises item event) :
    Raised raises [item] [] :=
  .quiet silent .none

theorem of_raised {item : α} {event : Event} (raised : raises item event) :
    Raised raises [item] [event] :=
  .loud raised .none

/-- The warnings of a scan are raised by its directives if those of each replacement are. -/
theorem rewrite {replace : Text → α → Emission}
    (each : ∀ written parts,
      Raised raises [parts] ((replace written parts).log.filter Event.isWarning))
    (cut : Cut α) :
    Raised raises cut.parts ((cut.rewrite replace).log.filter Event.isWarning) := by
  induction cut with
  | last gap => exact .none
  | next gap written parts more ih =>
      have joined := (each written parts).append ih
      simpa [Cut.rewrite, Cut.parts, Cut.directives] using joined

theorem substitute {g : Grammar α} {spells : Spelling α} (reads : g.Reads spells)
    {replace : Text → α → Emission}
    (each : ∀ written parts,
      Raised raises [parts] ((replace written parts).log.filter Event.isWarning))
    (text : Text) :
    ∃ cut, Cut.Only spells text cut ∧
      Raised raises cut.parts ((g.substitute replace text).log.filter Event.isWarning) := by
  refine ⟨g.cut text, reads.only_cut text, ?_⟩
  rw [Grammar.substitute_eq_rewrite]
  exact rewrite each (g.cut text)

end Raised

namespace Registry

/-- The provider of a target's namespace holds the field and hands out the value. -/
def Finds (registry : Registry) (context : Context) (target : Target) (value : Value) : Prop :=
  ∃ provider, registry.resolve context target.name = some provider ∧
    provider.contains target.field = true ∧ provider.get target.field = .ok value

/-- The provider of a target's namespace holds the field and fails to hand out its value. -/
def Fails (registry : Registry) (context : Context) (target : Target) (error : ProviderError) :
    Prop :=
  ∃ provider, registry.resolve context target.name = some provider ∧
    provider.contains target.field = true ∧ provider.get target.field = .error error

end Registry

namespace Target

variable {registry : Registry} {context : Context} {target : Target}

theorem lookup_eq_found_iff {value : Value} :
    target.lookup registry context = .found value ↔ registry.Finds context target value := by
  simp only [lookup, Registry.lookup, Registry.Finds]
  cases registry.resolve context target.name with
  | none => simp
  | some provider =>
      cases held : provider.contains target.field with
      | false => simp [Provider.fetch, held]
      | true => cases got : provider.get target.field <;> simp [Provider.fetch, held, got]

theorem lookup_eq_failed_iff {error : ProviderError} :
    target.lookup registry context = .failed error ↔ registry.Fails context target error := by
  simp only [lookup, Registry.lookup, Registry.Fails]
  cases registry.resolve context target.name with
  | none => simp
  | some provider =>
      cases held : provider.contains target.field with
      | false => simp [Provider.fetch, held]
      | true => cases got : provider.get target.field <;> simp [Provider.fetch, held, got]

@[simp] theorem filter_isWarning_asking :
    (target.asking registry).filter Event.isWarning = [] := by
  unfold asking
  split <;> rfl

end Target

/-- A usage of a name that no definition has. -/
inductive Macro.Unknown (definitions : List Definition) (usage : Usage) : Event → Prop where
  | undefined (absent : ∀ definition ∈ definitions, definition.name ≠ usage.name) :
      Unknown definitions usage (.unknownMacro usage.name)

/-- Why there is no body for an include path: it leaves the include root, it names no file, or its
file cannot be read. -/
inductive Include.Refused (config : Config) (files : Files) (path : Text) : Event → Prop where
  | escapes (leaving : locate config path = none) : Refused config files path (.includeEscapes path)
  | notFound {file : Text} (located : locate config path = some file)
      (absent : files.isFile file = false) : Refused config files path (.includeNotFound path file)
  | unreadable {file : Text} {error : FileError} (located : locate config path = some file)
      (there : files.isFile file = true) (failed : files.read file = .error error) :
      Refused config files path (.includeUnreadable path error)

/-- A body that the cache holds for a directive, if bodies are taken from it. -/
def Include.Holds (config : Config) (cache : Cache) (written body : Text) : Prop :=
  config.cacheIncludes = true ∧ cache.bodies.get? written = some body

/-- What the include stage leaves of a cut text, and with which warnings. A directive gives way to a
body and does not warn, or it stays in place with one warning. -/
inductive Include.Leaves (config : Config) (files : Files) (cache : Cache) :
    Cut Text → Text → List Event → Prop where
  | last {gap : Text} : Leaves config files cache (.last gap) gap []
  | held {gap written path body text : Text} {more : Cut Text} {events : List Event}
      (holds : Holds config cache written body)
      (others : Leaves config files cache more text events) :
      Leaves config files cache (.next gap written path more) (gap ++ body ++ text) events
  | loaded {gap written path body text : Text} {more : Cut Text} {events : List Event}
      (missed : ∀ body, ¬ Holds config cache written body)
      (found : load config files path = .ok body)
      (others : Leaves config files cache more text events) :
      Leaves config files cache (.next gap written path more) (gap ++ body ++ text) events
  | stays {gap written path text : Text} {more : Cut Text} {event : Event} {events : List Event}
      (missed : ∀ body, ¬ Holds config cache written body)
      (refused : Refused config files path event)
      (others : Leaves config files cache more text events) :
      Leaves config files cache (.next gap written path more) (gap ++ written ++ text)
        (event :: events)

/-- A loop over a field whose lookup fails. Nothing is looked up for all values. -/
inductive Loop.Fails (registry : Registry) (context : Context) (block : Block) : Event → Prop where
  | lookup {error : ProviderError} (single : isAll block.target.field = false)
      (failed : registry.Fails context block.target error) :
      Fails registry context block (.loopFailed block.target.name block.target.field error)

/-- A conditional whose lookup fails. -/
inductive Conditional.Fails (registry : Registry) (context : Context) (block : Block) :
    Event → Prop where
  | lookup {error : ProviderError} (failed : registry.Fails context block.target error) :
      Fails registry context block (.conditionFailed block.target.name block.target.field error)

/-- A reference whose lookup fails, or whose filter is not there or fails on the value. -/
inductive Reference.Fails (registry : Registry) (filters : Filters) (context : Context)
    (reference : Reference) : Event → Prop where
  | lookup {error : ProviderError} (failed : registry.Fails context reference.target error) :
      Fails registry filters context reference
        (.referenceFailed reference.target.name reference.target.field error)
  | unknownFilter {name : Text} {value : Value} (wanted : reference.filter = some name)
      (found : registry.Finds context reference.target value)
      (absent : filters.find? name = none) :
      Fails registry filters context reference
        (.filterFailed reference.target.name reference.target.field (.unknown name))
  | failedFilter {name : Text} {value : Value} {filter : Filter} {error : FilterError}
      (wanted : reference.filter = some name)
      (found : registry.Finds context reference.target value)
      (there : filters.find? name = some filter)
      (failed : filter reference.target.field value = .error error) :
      Fails registry filters context reference
        (.filterFailed reference.target.name reference.target.field error)

theorem Macro.get?_tableOf_eq_none_iff {definitions : List Definition} {name : Text} :
    (tableOf definitions).get? name = none ↔
      ∀ definition ∈ definitions, definition.name ≠ name := by
  rw [Table.get?_eq_none_iff, tableOf, Table.mem_keys_ofList]
  simp

theorem Macro.raised_emit (definitions : List Definition) (written : Text) (usage : Usage) :
    Raised (Unknown definitions) [usage]
      ((emit (tableOf definitions) written usage).log.filter Event.isWarning) := by
  cases known : (tableOf definitions).get? usage.name with
  | none =>
      simp only [emit, known]
      exact .of_raised (.undefined (get?_tableOf_eq_none_iff.1 known))
  | some definition =>
      simp only [emit, known, Emission.silent_log, List.filter_nil]
      refine .of_silent ?_
      rintro event ⟨absent⟩
      rw [get?_tableOf_eq_none_iff.2 absent] at known
      cases known

/-- Loading gives a body or says why there is none. -/
theorem Include.refused_iff {config : Config} {files : Files} {path : Text} {event : Event} :
    Refused config files path event ↔ load config files path = .error event := by
  constructor
  · rintro (leaving | ⟨located, absent⟩ | ⟨located, there, failed⟩)
    · simp only [load, leaving]
    · simp [load, located, absent]
    · simp [load, located, there, failed]
  · intro refused
    unfold load at refused
    split at refused
    · rename_i leaving
      cases refused
      exact .escapes leaving
    · rename_i file located
      split at refused
      · rename_i there
        split at refused
        · cases refused
        · rename_i error failed
          cases refused
          exact .unreadable located there failed
      · rename_i absent
        cases refused
        exact .notFound located (by simpa using absent)

theorem Include.Refused.isWarning {config : Config} {files : Files} {path : Text} {event : Event}
    (refused : Refused config files path event) : event.isWarning = true := by
  cases refused <;> rfl

theorem Include.settle_of_missed {config : Config} {cache : Cache} {written : Text}
    (missed : ∀ body, ¬ Holds config cache written body) (files : Files) (path : Text) :
    settle config files cache written path = emit written (load config files path) := by
  cases caching : config.cacheIncludes with
  | false => exact settle_of_not_caching caching files cache written path
  | true =>
      cases cached : cache.bodies.get? written with
      | none => exact settle_of_absent cached files path
      | some body => exact absurd ⟨caching, cached⟩ (missed body)

theorem Include.leaves_rewrite (config : Config) (files : Files) (cache : Cache) (cut : Cut Text) :
    Leaves config files cache cut (cut.rewrite (settle config files cache)).text
      ((cut.rewrite (settle config files cache)).log.filter Event.isWarning) := by
  induction cut with
  | last gap => exact .last
  | next gap written path more ih =>
      simp only [Cut.rewrite, Emission.append_text, Emission.silent_text, Emission.append_log,
        Emission.silent_log, List.nil_append, List.filter_append, ← List.append_assoc]
      by_cases holds : ∃ body, Holds config cache written body
      · obtain ⟨body, caching, cached⟩ := holds
        rw [settle_of_cached caching cached]
        exact .held ⟨caching, cached⟩ ih
      · have missed : ∀ body, ¬ Holds config cache written body := not_exists.1 holds
        rw [settle_of_missed missed]
        cases loaded : load config files path with
        | ok body => exact .loaded missed loaded ih
        | error event =>
            have refused := refused_iff.2 loaded
            have shown : [event].filter Event.isWarning = [event] := by
              simp only [List.filter_cons, refused.isWarning, ↓reduceIte, List.filter_nil]
            simp only [emit, shown]
            exact .stays missed refused ih

theorem Loop.raised_emit (registry : Registry) (context : Context) (block : Block) :
    Raised (Fails registry context) [block]
      ((emit registry context block).log.filter Event.isWarning) := by
  simp only [emit, report, List.filter_append, Target.filter_isWarning_asking, List.nil_append]
  cases all : isAll block.target.field with
  | true =>
      refine .of_silent ?_
      rintro event ⟨single, _⟩
      rw [all] at single
      cases single
  | false =>
      cases looked : block.target.lookup registry context with
      | failed error => exact .of_raised (.lookup all (Target.lookup_eq_failed_iff.1 looked))
      | _ =>
          refine .of_silent ?_
          rintro event ⟨_, failed⟩
          rw [← Target.lookup_eq_failed_iff, looked] at failed
          cases failed

theorem Conditional.raised_emit (registry : Registry) (context : Context) (written : Text)
    (block : Block) :
    Raised (Fails registry context) [block]
      ((emit registry context written block).log.filter Event.isWarning) := by
  simp only [emit]
  cases looked : block.target.lookup registry context with
  | failed error =>
      simp only [List.filter_append, Target.filter_isWarning_asking, List.nil_append]
      exact .of_raised (.lookup (Target.lookup_eq_failed_iff.1 looked))
  | _ =>
      simp only [Target.filter_isWarning_asking]
      refine .of_silent ?_
      rintro event ⟨failed⟩
      rw [← Target.lookup_eq_failed_iff, looked] at failed
      cases failed

/-- A reference whose value is found warns about its filter or not at all. -/
theorem Reference.fails_iff_of_found {registry : Registry} {filters : Filters} {context : Context}
    {reference : Reference} {value : Value} {event : Event}
    (found : registry.Finds context reference.target value) :
    Fails registry filters context reference event ↔
      ∃ error, filtered filters reference value = .error error ∧
        event = .filterFailed reference.target.name reference.target.field error := by
  have looked := Target.lookup_eq_found_iff.2 found
  constructor
  · rintro (failed | ⟨wanted, _, absent⟩ | ⟨wanted, held, there, failed⟩)
    · rw [Target.lookup_eq_failed_iff.2 failed] at looked
      cases looked
    · exact ⟨_, by simp only [filtered, wanted, Filters.apply, absent], rfl⟩
    · rw [Target.lookup_eq_found_iff.2 held] at looked
      cases looked
      exact ⟨_, by simpa only [filtered, wanted, Filters.apply, there] using failed, rfl⟩
  · rintro ⟨error, failed, rfl⟩
    cases wanted : reference.filter with
    | none =>
        simp only [filtered, wanted] at failed
        cases failed
    | some name =>
        simp only [filtered, wanted, Filters.apply] at failed
        split at failed
        · rename_i filter there
          exact .failedFilter wanted found there failed
        · rename_i absent
          cases failed
          exact .unknownFilter wanted found absent

theorem Reference.raised_emit (registry : Registry) (filters : Filters) (context : Context)
    (reference : Reference) :
    Raised (Fails registry filters context) [reference]
      ((emit registry filters context reference).log.filter Event.isWarning) := by
  simp only [emit, Emission.append_log, List.filter_append, Target.filter_isWarning_asking,
    List.nil_append]
  cases looked : reference.target.lookup registry context with
  | failed error => exact .of_raised (.lookup (Target.lookup_eq_failed_iff.1 looked))
  | found value =>
      have found := Target.lookup_eq_found_iff.1 looked
      cases passed : filtered filters reference value with
      | ok result =>
          simp only [emitLookup, passed, Emission.silent_log, List.filter_nil]
          refine .of_silent ?_
          intro event fails
          obtain ⟨error, failed, _⟩ := (fails_iff_of_found found).1 fails
          rw [passed] at failed
          cases failed
      | error error =>
          simp only [emitLookup, passed]
          exact .of_raised ((fails_iff_of_found found).2 ⟨error, passed, rfl⟩)
  | _ =>
      refine .of_silent ?_
      rintro event (failed | ⟨_, found, _⟩ | ⟨_, found, _, _⟩)
      · rw [Target.lookup_eq_failed_iff.2 failed] at looked
        cases looked
      · rw [Target.lookup_eq_found_iff.2 found] at looked
        cases looked
      · rw [Target.lookup_eq_found_iff.2 found] at looked
        cases looked

end Stencil
