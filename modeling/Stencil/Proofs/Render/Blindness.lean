import Stencil.Proofs.Metadata.Record
import Stencil.Proofs.Provider.Registrations

set_option autoImplicit false

namespace Stencil

namespace Context

theorem addAllMetadata_append (context : Context) (first second : List (Text × Text)) :
    context.addAllMetadata (first ++ second) =
      (context.addAllMetadata first).addAllMetadata second := by
  simp only [addAllMetadata, Table.insertAll_append]

end Context

/-- The factories that come with the library. -/
inductive Factory.Stock : Factory → Prop where
  | request : Stock .request
  | query : Stock .query
  | post : Stock .post
  | metadata : Stock .metadata
  | sections (values : Table Value) : Stock (.sections values)
  | fixed (values : Table Value) : Stock (.fixed values)

/-- No factory of the library reads the extras of a request. -/
theorem Factory.Stock.blind {factory : Factory} (stock : factory.Stock) (context : Context)
    (extras : Table Text) : factory { context with extras := extras } = factory context := by
  cases stock <;> rfl

namespace Registry

/-- Two requests that get the same providers, whatever metadata is recorded in both. -/
def Confuses (registry : Registry) (first second : Context) : Prop :=
  ∀ entries name,
    registry.resolve (first.addAllMetadata entries) name =
      registry.resolve (second.addAllMetadata entries) name

variable {registry : Registry} {first second : Context}

theorem Confuses.resolve (confused : registry.Confuses first second) :
    registry.resolve first = registry.resolve second := by
  funext name
  exact confused [] name

theorem Confuses.addAllMetadata (confused : registry.Confuses first second)
    (entries : List (Text × Text)) :
    registry.Confuses (first.addAllMetadata entries) (second.addAllMetadata entries) := by
  intro others name
  rw [← Context.addAllMetadata_append, ← Context.addAllMetadata_append]
  exact confused (entries ++ others) name

theorem confuses_of_stock (stock : ∀ name factory, registry.factory? name = some factory →
    factory.Stock) (context : Context) (extras : Table Text) :
    registry.Confuses context { context with extras := extras } := by
  intro entries name
  have moved : ({ context with extras := extras } : Context).addAllMetadata entries =
      { context.addAllMetadata entries with extras := extras } := rfl
  rw [moved, resolve, resolve]
  cases found : registry.factory? name with
  | none => rfl
  | some factory => exact ((stock name factory found).blind _ _).symm

theorem confuses_of_fixed (fixed : ∀ name factory, registry.factory? name = some factory →
    ∃ values, factory = .fixed values) (first second : Context) :
    registry.Confuses first second := by
  intro entries name
  rw [resolve, resolve]
  cases found : registry.factory? name with
  | none => rfl
  | some factory =>
      obtain ⟨values, rfl⟩ := fixed name factory found
      rfl

/-- A lookup sees of a request what the registry resolves for it. -/
theorem lookup_congr (same : registry.resolve first = registry.resolve second) (name field : Text) :
    registry.lookup first name field = registry.lookup second name field := by
  rw [lookup, lookup, same]

end Registry

section Stages

variable {registry : Registry} {first second : Context}

theorem Loop.unroll_congr (same : registry.resolve first = registry.resolve second) (text : Text) :
    unroll registry first text = unroll registry second text := by
  have emitted : emit registry first = emit registry second := by
    funext block
    simp only [emit, elements, report, Target.lookup, same, Registry.lookup_congr same]
  rw [unroll, unroll, emitted]

theorem Conditional.settle_congr (same : registry.resolve first = registry.resolve second)
    (text : Text) : settle registry first text = settle registry second text := by
  have emitted : emit registry first = emit registry second := by
    funext written block
    simp only [emit, Target.lookup, Registry.lookup_congr same]
  rw [settle, settle, emitted]

theorem Reference.resolve_congr (same : registry.resolve first = registry.resolve second)
    (filters : Filters) (text : Text) :
    resolve registry filters first text = resolve registry filters second text := by
  have emitted : emit registry filters first = emit registry filters second := by
    funext reference
    simp only [emit, Target.lookup, Registry.lookup_congr same]
  rw [resolve, resolve, emitted]

end Stages

/-- Two renders that have come equally far for requests that the registry cannot tell apart. -/
structure Progress.Agrees (registry : Registry) (first second : Progress) : Prop where
  text : first.text = second.text
  cache : first.cache = second.cache
  log : first.log = second.log
  confused : registry.Confuses first.context second.context

namespace Engine

variable {engine : Engine} {first second : Progress}

open Progress (Agrees)

theorem runStage_agrees (agrees : Agrees engine.registry first second) (files : Files)
    (stage : Stage) :
    Agrees engine.registry (engine.runStage files first stage)
      (engine.runStage files second stage) := by
  obtain ⟨text, context, cache, log⟩ := first
  obtain ⟨_, other, _, _⟩ := second
  obtain ⟨rfl, rfl, rfl, confused⟩ := agrees
  have same := confused.resolve
  cases stage with
  | metadata => exact ⟨rfl, rfl, rfl, confused.addAllMetadata (Metadata.entries text)⟩
  | macros => exact ⟨rfl, rfl, rfl, confused⟩
  | includes => exact ⟨rfl, rfl, rfl, confused⟩
  | loops =>
      simp only [runStage, Progress.take, Loop.unroll_congr same]
      exact ⟨rfl, rfl, rfl, confused⟩
  | conditionals =>
      simp only [runStage, Progress.take, Conditional.settle_congr same]
      exact ⟨rfl, rfl, rfl, confused⟩
  | references =>
      simp only [runStage, Progress.take, Reference.resolve_congr same]
      exact ⟨rfl, rfl, rfl, confused⟩

theorem step_agrees (agrees : Agrees engine.registry first second) (files : Files) (stage : Stage) :
    Agrees engine.registry (engine.step files first stage) (engine.step files second stage) := by
  have reported : Agrees engine.registry (first.report (.stageStarted stage))
      (second.report (.stageStarted stage)) :=
    ⟨agrees.text, agrees.cache, congrArg (· ++ [Event.stageStarted stage]) agrees.log,
      agrees.confused⟩
  unfold step
  rw [← agrees.text]
  split
  · exact runStage_agrees reported files stage
  · exact agrees

theorem foldl_step_agrees (agrees : Agrees engine.registry first second) (files : Files)
    (stages : List Stage) :
    Agrees engine.registry (stages.foldl (engine.step files) first)
      (stages.foldl (engine.step files) second) := by
  induction stages generalizing first second with
  | nil => exact agrees
  | cons stage stages ih => exact ih (step_agrees agrees files stage)

/-- Requests that the registry cannot tell apart are rendered alike. -/
theorem render_agrees {context other : Context} (heeding : context.ignoresSyntax = false)
    (attending : other.ignoresSyntax = false) (confused : engine.registry.Confuses context other)
    (files : Files) (cache : Cache) (document : Text) :
    Agrees engine.registry (engine.render files cache context document)
      (engine.render files cache other document) := by
  have start : Agrees engine.registry ⟨document, context, cache, []⟩ ⟨document, other, cache, []⟩ :=
    ⟨rfl, rfl, rfl, confused⟩
  unfold render
  simp only [heeding, attending, Bool.false_eq_true, ↓reduceIte]
  split
  · exact start
  · exact foldl_step_agrees start files Stage.all

/-- The metadata after a render depends on the metadata before it and on nothing else of a
request. -/
theorem render_metadata_eq {context other : Context} (heeding : context.ignoresSyntax = false)
    (attending : other.ignoresSyntax = false) (same : context.metadata = other.metadata)
    (engine : Engine) (files : Files) (cache : Cache) (document : Text) :
    (engine.render files cache context document).context.metadata =
      (engine.render files cache other document).context.metadata := by
  cases enabled : engine.config.enabled with
  | true =>
      rw [render_context enabled heeding, render_context enabled attending]
      exact congrArg (Table.insertAll · (Metadata.entries document)) same
  | false =>
      rw [render_context_idle (Or.inl enabled), render_context_idle (Or.inl enabled), same]

theorem stock_build {given : Registry}
    (stock : ∀ name factory, given.factory? name = some factory → factory.Stock) (config : Config)
    (filters : Filters) (name : Text) (factory : Factory)
    (found : (build config given filters).registry.factory? name = some factory) :
    factory.Stock := by
  simp only [build, registryFor] at found
  split at found
  · rw [Registry.factory?_merge, Option.or_eq_some_iff, factory?_builtin] at found
    rcases found with user | ⟨_, ⟨_, rfl⟩ | ⟨_, rfl⟩ | ⟨_, rfl⟩ | ⟨_, rfl⟩ | ⟨_, rfl⟩⟩
    · exact stock name factory user
    · exact .sections config.sections
    · exact .request
    · exact .query
    · exact .post
    · exact .metadata
  · exact stock name factory found

/-- Where every namespace is a built-in one, one over sections or a fixed one, requests that differ
in their extras only are rendered alike: text, metadata, cache and reports are the same. Where the
built-in namespaces are left out and every other is fixed, text, cache and reports are the same for
all requests. -/
theorem render_blind (config : Config) (given : Registry) (filters : Filters) :
    let engine := build config given filters
    ((∀ name factory, given.factory? name = some factory → factory.Stock) →
      ∀ (files : Files) (cache : Cache) (context : Context) (extras : Table Text) (document : Text),
        context.ignoresSyntax = false →
          let one := engine.render files cache context document
          let other := engine.render files cache { context with extras := extras } document
          one.text = other.text ∧ one.context.metadata = other.context.metadata ∧
            one.cache = other.cache ∧ one.log = other.log) ∧
    (config.builtinProviders = false →
      (∀ name factory, given.factory? name = some factory → ∃ values, factory = .fixed values) →
      ∀ (files : Files) (cache : Cache) (first second : Context) (document : Text),
        first.ignoresSyntax = false → second.ignoresSyntax = false →
          let one := engine.render files cache first document
          let other := engine.render files cache second document
          one.text = other.text ∧ one.cache = other.cache ∧ one.log = other.log) := by
  intro engine
  refine ⟨?_, ?_⟩
  · intro stock files cache context extras document heeding
    let moved : Context := { context with extras := extras }
    have attending : moved.ignoresSyntax = false := heeding
    have confused : engine.registry.Confuses context moved :=
      Registry.confuses_of_stock (stock_build stock config filters) context extras
    have agrees := render_agrees heeding attending confused files cache document
    have recorded := render_metadata_eq heeding attending rfl engine files cache document
    exact ⟨agrees.text, recorded, agrees.cache, agrees.log⟩
  · intro bare fixed files cache first second document heeding attending
    have given : engine.registry = given := by
      simp only [engine, build, registryFor, bare, Bool.false_eq_true, ↓reduceIte]
    have confused : engine.registry.Confuses first second := by
      rw [given]
      exact Registry.confuses_of_fixed fixed first second
    have agrees := render_agrees heeding attending confused files cache document
    exact ⟨agrees.text, agrees.cache, agrees.log⟩

/-- A token among the extras, and a request for another path with form parameters. -/
theorem render_blind_token :
    let given := Registry.empty.addFixed "user".toList (.ofList [(['a'], .string ['1'])])
    let standing := build {} given .builtin
    let bare := build { builtinProviders := false } given .builtin
    let context := Context.new ['/']
    let extras : Table Text := .ofList [("token".toList, "secret".toList)]
    let other := (Context.new "/b".toList).withPost ['a'] ['2']
    let document := "{{request.path}}{{user.a}}{{post.a}}".toList
    (standing.render .none .empty context document).text = "/1".toList ∧
      (standing.render .none .empty { context with extras := extras } document).text = "/1".toList ∧
      (bare.render .none .empty context document).text = ['1'] ∧
      (bare.render .none .empty other document).text = ['1'] := by
  intro given standing bare context extras other document
  have fixed : ∀ name factory, given.factory? name = some factory →
      ∃ values, factory = .fixed values := by
    intro name factory found
    simp only [given, Registry.addFixed, Registry.factory?_add] at found
    split at found
    · cases found
      exact ⟨_, rfl⟩
    · cases found
  have stock : ∀ name factory, given.factory? name = some factory → factory.Stock := by
    intro name factory found
    obtain ⟨values, rfl⟩ := fixed name factory found
    exact .fixed values
  have same := (render_blind {} given .builtin).1 stock .none .empty context extras document rfl
  have blind := (render_blind { builtinProviders := false } given .builtin).2 rfl fixed .none .empty
    context other document rfl rfl
  have shown : (standing.render .none .empty context document).text = "/1".toList := by
    decide +kernel
  have kept : (bare.render .none .empty context document).text = ['1'] := by decide +kernel
  exact ⟨shown, same.1.symm.trans shown, kept, blind.1.symm.trans kept⟩

end Engine

end Stencil
