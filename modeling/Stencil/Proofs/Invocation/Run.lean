import Stencil.Program
import Stencil.Proofs.Invocation.Sources
import Stencil.Proofs.Json.Scalar
import Stencil.Proofs.Provider.Registrations
import Stencil.Proofs.Warnings.Causes

set_option autoImplicit false

namespace Stencil

def Registry.addTables (registry : Registry) (loaded : List (Text × Table Value)) : Registry :=
  loaded.foldl (fun registry entry => registry.addFixed entry.1 entry.2) registry

namespace Invocation

/-- The settings of a command line: those of the configuration file, which has to hold some, or the
defaults, with the options that override them. -/
inductive Configures (invocation : Invocation) (files : Files) : Config → Prop where
  | given {path text : Text} {config : Config} (named : invocation.config = some path)
      (holds : files.Holds path text) (parses : Config.ofYaml text = .ok config) :
      Configures invocation files (invocation.override (config.relativeTo path))
  | default (unnamed : invocation.config = none) :
      Configures invocation files
        (invocation.override { includeRoot := Path.directory invocation.template })

/-- Every data file holds an object, and these are their fields. -/
inductive Loads (files : Files) : List (Text × Text) → List (Text × Table Value) → Prop where
  | none : Loads files [] []
  | more {name path : Text} {values : Table Value} {data : List (Text × Text)}
      {loaded : List (Text × Table Value)} (holds : Data.Holds files path values)
      (others : Loads files data loaded) :
      Loads files ((name, path) :: data) ((name, values) :: loaded)

/-- Why a command line has no settings: its configuration file holds none that can be read. -/
inductive Misconfigures (invocation : Invocation) (files : Files) : RunError → Prop where
  | unread {path : Text} {error : FileError} (named : invocation.config = some path)
      (failed : files.Fails path error) :
      Misconfigures invocation files (.config path (.unreadable path error))
  | malformed {path text : Text} {error : Yaml.Error} (named : invocation.config = some path)
      (holds : files.Holds path text) (malformed : Config.ofYaml text = .error error) :
      Misconfigures invocation files (.config path (.malformed error))

/-- Why a run fails: the first of its steps that fails, with all steps before it done. -/
inductive Fails (invocation : Invocation) (files : Files) : RunError → Prop where
  | config {error : RunError} (misconfigures : Misconfigures invocation files error) :
      Fails invocation files error
  | data {config : Config} {before after : List (Text × Text)} {name path : Text}
      {loaded : List (Text × Table Value)} {error : DataError}
      (configures : Configures invocation files config)
      (split : invocation.data = before ++ (name, path) :: after)
      (loads : Loads files before loaded) (refused : Data.Refused files path error) :
      Fails invocation files (.data error)
  | template {config : Config} {loaded : List (Text × Table Value)} {error : FileError}
      (configures : Configures invocation files config)
      (loads : Loads files invocation.data loaded)
      (failed : files.Fails invocation.template error) :
      Fails invocation files (.template ⟨invocation.template, error⟩)

variable {invocation : Invocation} {files : Files}

theorem resolveConfig_eq_ok_iff {config : Config} :
    invocation.resolveConfig files = .ok config ↔ Configures invocation files config := by
  constructor
  · intro resolved
    unfold resolveConfig baseConfig Config.ofFile at resolved
    split at resolved
    · rename_i unnamed
      cases resolved
      exact .default unnamed
    · rename_i path named
      split at resolved <;> cases resolved
      rename_i config loaded
      split at loaded
      · cases loaded
      · rename_i text got
        split at loaded <;> cases loaded
        rename_i config parses
        exact .given named (Files.readText_eq_ok_iff.1 got) parses
  · rintro (⟨named, holds, parses⟩ | unnamed)
    · simp only [resolveConfig, baseConfig, named, Config.ofFile, Files.readText_eq_ok_iff.2 holds,
        parses]
      rfl
    · simp only [resolveConfig, baseConfig, unnamed]
      rfl

theorem resolveConfig_eq_error_iff {error : RunError} :
    invocation.resolveConfig files = .error error ↔ Misconfigures invocation files error := by
  constructor
  · intro failed
    unfold resolveConfig baseConfig Config.ofFile at failed
    split at failed
    · cases failed
    · rename_i path named
      split at failed <;> cases failed
      rename_i failure loaded
      split at loaded
      · rename_i unread
        cases loaded
        exact .unread named (Files.readText_eq_error_iff.1 unread)
      · rename_i text got
        split at loaded <;> cases loaded
        rename_i malformed
        exact .malformed named (Files.readText_eq_ok_iff.1 got) malformed
  · rintro (⟨named, failed⟩ | ⟨named, holds, malformed⟩)
    · simp only [resolveConfig, baseConfig, named, Config.ofFile,
        Files.readText_eq_error_iff.2 failed]
      rfl
    · simp only [resolveConfig, baseConfig, named, Config.ofFile, Files.readText_eq_ok_iff.2 holds,
        malformed]
      rfl

theorem loadData_eq_ok_iff {registry reached : Registry} {data : List (Text × Text)} :
    loadData files registry data = .ok reached ↔
      ∃ loaded, Loads files data loaded ∧ reached = registry.addTables loaded := by
  induction data generalizing registry with
  | nil =>
      simp only [loadData, Except.ok.injEq]
      constructor
      · rintro rfl
        exact ⟨[], .none, rfl⟩
      · rintro ⟨_, ⟨⟩, rfl⟩
        rfl
  | cons entry data ih =>
      obtain ⟨name, path⟩ := entry
      simp only [loadData]
      constructor
      · intro done
        split at done
        · cases done
        · rename_i values got
          obtain ⟨loaded, loads, rfl⟩ := ih.1 done
          exact ⟨(name, values) :: loaded, .more (Data.load_eq_ok_iff.1 got) loads, rfl⟩
      · rintro ⟨_, loads, rfl⟩
        cases loads with
        | more holds others =>
            simp only [Data.load_eq_ok_iff.2 holds]
            exact ih.2 ⟨_, others, rfl⟩

/-- Loading stops at the first file that holds no object. -/
theorem loadData_eq_error_iff {registry : Registry} {data : List (Text × Text)} {error : RunError} :
    loadData files registry data = .error error ↔
      ∃ before name path after loaded failure, data = before ++ (name, path) :: after ∧
        Loads files before loaded ∧ Data.Refused files path failure ∧ error = .data failure := by
  induction data generalizing registry with
  | nil => simp [loadData]
  | cons entry data ih =>
      obtain ⟨name, path⟩ := entry
      simp only [loadData]
      constructor
      · intro failed
        split at failed
        · rename_i failure refused
          cases failed
          exact ⟨[], name, path, data, [], failure, rfl, .none,
            Data.load_eq_error_iff.1 refused, rfl⟩
        · rename_i values got
          obtain ⟨before, other, there, after, loaded, failure, rfl, loads, refused⟩ := ih.1 failed
          exact ⟨(name, path) :: before, other, there, after, (name, values) :: loaded, failure,
            rfl, .more (Data.load_eq_ok_iff.1 got) loads, refused⟩
      · rintro ⟨before, other, there, after, loaded, failure, whole, loads, refused, rfl⟩
        cases loads with
        | none =>
            simp only [List.nil_append, List.cons.injEq, Prod.mk.injEq] at whole
            obtain ⟨⟨rfl, rfl⟩, rfl⟩ := whole
            simp only [Data.load_eq_error_iff.2 refused]
        | more holds others =>
            simp only [List.cons_append, List.cons.injEq, Prod.mk.injEq] at whole
            obtain ⟨⟨rfl, rfl⟩, rfl⟩ := whole
            simp only [Data.load_eq_ok_iff.2 holds]
            exact ih.2 ⟨_, _, _, _, _, failure, rfl, others, refused, rfl⟩

def setup (config : Config) (loaded : List (Text × Table Value)) : Engine :=
  .build config (Registry.empty.addTables loaded) .builtin

theorem engine_eq_ok_iff {engine : Engine} :
    invocation.engine files = .ok engine ↔
      ∃ config loaded, Configures invocation files config ∧ Loads files invocation.data loaded ∧
        engine = setup config loaded := by
  constructor
  · intro made
    unfold Invocation.engine at made
    split at made
    · cases made
    · rename_i config resolved
      split at made <;> cases made
      rename_i registry got
      obtain ⟨loaded, loads, rfl⟩ := loadData_eq_ok_iff.1 got
      exact ⟨config, loaded, resolveConfig_eq_ok_iff.1 resolved, loads, rfl⟩
  · rintro ⟨config, loaded, configures, loads, rfl⟩
    have got : loadData files .empty invocation.data = .ok (Registry.empty.addTables loaded) :=
      loadData_eq_ok_iff.2 ⟨loaded, loads, rfl⟩
    simp only [Invocation.engine, resolveConfig_eq_ok_iff.2 configures, got]
    rfl

theorem run_eq_ok_iff {progress : Progress} :
    invocation.run files = .ok progress ↔
      ∃ config loaded document, Configures invocation files config ∧
        Loads files invocation.data loaded ∧ files.Holds invocation.template document ∧
        let rendered := (setup config loaded).render files .empty invocation.context document
        progress = { rendered with log := .templateRead invocation.template :: rendered.log } := by
  constructor
  · intro done
    unfold run Engine.renderFile at done
    split at done
    · cases done
    · rename_i engine made
      obtain ⟨config, loaded, configures, loads, rfl⟩ := engine_eq_ok_iff.1 made
      split at done <;> cases done
      rename_i rendered
      split at rendered <;> cases rendered
      rename_i document got
      exact ⟨config, loaded, document, configures, loads, Files.readText_eq_ok_iff.1 got, rfl⟩
  · rintro ⟨config, loaded, document, configures, loads, holds, rfl⟩
    have made := engine_eq_ok_iff.2 ⟨config, loaded, configures, loads, rfl⟩
    simp only [run, made, Engine.renderFile, Files.readText_eq_ok_iff.2 holds]

theorem run_eq_error_iff {error : RunError} :
    invocation.run files = .error error ↔ Fails invocation files error := by
  constructor
  · intro failed
    unfold run at failed
    split at failed
    · rename_i failure unmade
      cases failed
      unfold Invocation.engine at unmade
      split at unmade
      · rename_i unresolved
        cases unmade
        exact .config (resolveConfig_eq_error_iff.1 unresolved)
      · rename_i config resolved
        split at unmade <;> cases unmade
        rename_i unloaded
        obtain ⟨before, name, path, after, loaded, failure, split, loads, refused, rfl⟩ :=
          loadData_eq_error_iff.1 unloaded
        exact .data (resolveConfig_eq_ok_iff.1 resolved) split loads refused
    · rename_i engine made
      obtain ⟨config, loaded, configures, loads, _⟩ := engine_eq_ok_iff.1 made
      split at failed <;> cases failed
      rename_i failure unrendered
      unfold Engine.renderFile at unrendered
      split at unrendered <;> cases unrendered
      rename_i unread
      exact .template configures loads (Files.readText_eq_error_iff.1 unread)
  · rintro (misconfigures | ⟨configures, split, loads, refused⟩ | ⟨configures, loads, unread⟩)
    · simp only [run, Invocation.engine, resolveConfig_eq_error_iff.2 misconfigures]
    · have unloaded : loadData files .empty invocation.data = .error _ :=
        loadData_eq_error_iff.2 ⟨_, _, _, _, _, _, split, loads, refused, rfl⟩
      simp only [run, Invocation.engine, resolveConfig_eq_ok_iff.2 configures, unloaded]
    · have made := engine_eq_ok_iff.2 ⟨_, _, configures, loads, rfl⟩
      simp only [run, made, Engine.renderFile, Files.readText_eq_error_iff.2 unread]

theorem exists_loads {data : List (Text × Text)} :
    (∃ loaded, Loads files data loaded) ↔
      ∀ entry ∈ data, ∃ values, Data.Holds files entry.2 values := by
  constructor
  · rintro ⟨loaded, loads⟩
    induction loads with
    | none => simp
    | more holds _ ih =>
        simp only [List.forall_mem_cons]
        exact ⟨⟨_, holds⟩, ih⟩
  · intro all
    induction data with
    | nil => exact ⟨[], .none⟩
    | cons entry data ih =>
        simp only [List.forall_mem_cons] at all
        obtain ⟨⟨values, holds⟩, others⟩ := all
        obtain ⟨loaded, loads⟩ := ih others
        exact ⟨_, .more holds loads⟩

theorem Loads.names {data : List (Text × Text)} {loaded : List (Text × Table Value)}
    (loads : Loads files data loaded) : loaded.map Prod.fst = data.map Prod.fst := by
  induction loads with
  | none => rfl
  | more _ _ ih => simp [ih]

/-- The newest data file of a namespace gives the newest table. -/
theorem Loads.newest {data : List (Text × Text)} {loaded : List (Text × Table Value)}
    (loads : Loads files data loaded) {fold : Text → Text} {name path : Text} {values : Table Value}
    (newest : Newest fold data name path) (holds : Data.Holds files path values) :
    Newest fold loaded name values := by
  obtain ⟨before, written, after, rfl, same, apart⟩ := newest
  induction before generalizing loaded with
  | nil =>
      cases loads with
      | more held others =>
          have equal := (Data.load_eq_ok_iff.2 held).symm.trans (Data.load_eq_ok_iff.2 holds)
          cases equal
          refine ⟨[], written, _, rfl, same, fun later member => ?_⟩
          have named : later.1 ∈ after.map Prod.fst :=
            others.names ▸ List.mem_map.2 ⟨later, member, rfl⟩
          obtain ⟨entry, there, equal⟩ := List.mem_map.1 named
          exact equal ▸ apart entry there
  | cons entry before ih =>
      cases loads with
      | more held others =>
          obtain ⟨front, written, behind, rfl, same, apart⟩ := ih others
          exact ⟨_ :: front, written, behind, rfl, same, apart⟩

theorem built_addTables {registry : Registry} {registrations : List (Text × Factory)}
    (built : registry.Built registrations) (loaded : List (Text × Table Value)) :
    (registry.addTables loaded).Built
      (registrations ++ loaded.map fun entry => (entry.1, .fixed entry.2)) := by
  induction loaded generalizing registry registrations with
  | nil => simpa [Registry.addTables] using built
  | cons entry loaded ih =>
      have more := ih (.addFixed built entry.1 entry.2)
      rwa [List.append_assoc] at more

theorem resolve_setup {loaded : List (Text × Table Value)}
    (loads : Loads files invocation.data loaded) {name path : Text} {values : Table Value}
    (newest : Newest Text.lower invocation.data name path)
    (holds : Data.Holds files path values) (config : Config) (context : Context) :
    (setup config loaded).registry.resolve context name = some (.ofTable values) := by
  obtain ⟨before, written, after, rfl, same, apart⟩ := loads.newest newest holds
  have registered : Newest Text.lower
      ((before ++ (written, values) :: after).map fun entry => (entry.1, Factory.fixed entry.2))
      name (.fixed values) := by
    refine ⟨before.map fun entry => (entry.1, Factory.fixed entry.2), written,
      after.map fun entry => (entry.1, Factory.fixed entry.2), by simp, same, ?_⟩
    intro later member
    obtain ⟨entry, there, rfl⟩ := List.mem_map.1 member
    exact apart entry there
  have asked := (Engine.factory?_build (built_addTables .empty _) config .builtin name _).2
    (.inl registered)
  simp only [Registry.resolve, setup, asked, Option.bind_some]
  rfl

theorem context_query (invocation : Invocation) :
    invocation.context.query = (∅ : Table Text).insertAll invocation.params := by
  have all (params : List (Text × Text)) (context : Context) :
      (params.foldl (fun context param => context.withQuery param.1 param.2) context).query =
        context.query.insertAll params := by
    induction params generalizing context with
    | nil => rfl
    | cons param params ih => exact ih _
  exact all invocation.params (.new invocation.path)

/-- A parameter has the last value that is given for it. -/
theorem get?_query_iff {key value : Text} :
    invocation.context.query.get? key = some value ↔ Newest id invocation.params key value := by
  rw [context_query, (Table.updated_insertAll ∅ invocation.params).get?_of_empty,
    newest_iff_lookup]
  simp [folded]

/-- An engine answers for the options of a command line: for a namespace by the last file that is
given for it in any letters, and for a parameter by the last value that is given for it, unless a
file takes the place of the namespace of parameters. -/
structure Answers (invocation : Invocation) (files : Files) (engine : Engine) : Prop where
  namespaces : ∀ name path values context, Newest Text.lower invocation.data name path →
    Data.Holds files path values → engine.registry.resolve context name = some (.ofTable values)
  params : ∀ name key value context, Text.lower name = Registry.queryName →
    Newest id invocation.params key value → engine.config.builtinProviders = true →
    (∀ entry ∈ invocation.data, Text.lower entry.1 ≠ Registry.queryName) →
    context.query = invocation.context.query →
    engine.registry.Finds context ⟨name, key⟩ (.string value)

theorem answers_setup {loaded : List (Text × Table Value)}
    (loads : Loads files invocation.data loaded) (config : Config) :
    Answers invocation files (setup config loaded) where
  namespaces _ _ _ context newest holds := resolve_setup loads newest holds config context
  params name key value context spelled newest builtin free same := by
    have unnamed (factory : Factory) : ¬ Newest Text.lower
        (loaded.map fun entry => (entry.1, Factory.fixed entry.2)) name factory := by
      rintro ⟨before, written, after, split, equal, _⟩
      have member : written ∈ loaded.map Prod.fst := by
        have inside : (written, factory) ∈
            loaded.map fun entry => (entry.1, Factory.fixed entry.2) := by simp [split]
        obtain ⟨entry, there, same⟩ := List.mem_map.1 inside
        exact List.mem_map.2 ⟨entry, there, (Prod.mk.inj same).1⟩
      rw [loads.names] at member
      obtain ⟨entry, there, rfl⟩ := List.mem_map.1 member
      exact free entry there (equal.trans spelled)
    have asked := (Engine.factory?_build (built_addTables .empty loaded) config .builtin
      name .query).2 (.inr ⟨builtin, unnamed, .inr (.inr (.inl ⟨spelled, rfl⟩))⟩)
    have held : context.query.get? key = some value := same ▸ get?_query_iff.2 newest
    have sorted : (context.query.sorted.map Value.string).get? key = some (.string value) := by
      rw [Table.get?_map, Table.get?_sorted, held]
      rfl
    refine ⟨.ofTexts context.query.sorted, ?_, ?_, Provider.get_ofLookup.2 sorted⟩
    · simp only [Registry.resolve, setup, asked, Option.bind_some]
      rfl
    · simp [Provider.ofTexts, Provider.ofTable, Provider.ofLookup, held]

/-- A run fails on what it reads before the render and on nothing else, with the error of the first
step that fails. Where none does, it ends with the text and the metadata of the template rendered
under the settings, for an engine that answers for the options. -/
theorem run_ends (invocation : Invocation) (files : Files) :
    (∀ error, invocation.run files = .error error ↔ Fails invocation files error) ∧
    ((∃ progress, invocation.run files = .ok progress) ↔
      (∃ config, Configures invocation files config) ∧
        (∀ entry ∈ invocation.data, ∃ values, Data.Holds files entry.2 values) ∧
        ∃ document, files.Holds invocation.template document) ∧
    ∀ progress, invocation.run files = .ok progress →
      ∃ config loaded document, Configures invocation files config ∧
        Loads files invocation.data loaded ∧ files.Holds invocation.template document ∧
        let engine := setup config loaded
        let rendered := engine.render files .empty invocation.context document
        progress.text = rendered.text ∧
          progress.context.metadata = rendered.context.metadata ∧
          Answers invocation files engine := by
  refine ⟨fun error => run_eq_error_iff, ?_, ?_⟩
  · simp only [run_eq_ok_iff, ← exists_loads]
    constructor
    · rintro ⟨progress, config, loaded, document, configures, loads, holds, _⟩
      exact ⟨⟨config, configures⟩, ⟨loaded, loads⟩, document, holds⟩
    · rintro ⟨⟨config, configures⟩, ⟨loaded, loads⟩, document, holds⟩
      exact ⟨_, config, loaded, document, configures, loads, holds, rfl⟩
  · intro progress done
    obtain ⟨config, loaded, document, configures, loads, holds, rfl⟩ := run_eq_ok_iff.1 done
    exact ⟨config, loaded, document, configures, loads, holds, rfl, rfl,
      answers_setup loads config⟩

/-- A namespace given twice in different letters, and a document with directives that come to
nothing. With a list in the first file, the run fails on it though the second takes its place, and
though there is no template. -/
theorem run_ends_replaced :
    let line : Invocation :=
      { template := "t".toList
        data := [("user".toList, "old.json".toList), ("USER".toList, "new.JSON".toList)]
        params := [("k".toList, "1".toList), ("k".toList, "2".toList)] }
    let object := ("new.JSON".toList, Except.ok (Utf8.encode "\x7b\"n\":true\x7d".toList))
    let whole := Files.ofReadings [("old.json".toList, .ok (Utf8.encode "\x7b\x7d".toList)), object,
      ("t".toList, .ok (Utf8.encode "{{User.n}}{{get.k || NONE}}{{include:none}}".toList))]
    let broken := Files.ofReadings [("old.json".toList, .ok (Utf8.encode "[]".toList)), object]
    (∃ progress config loaded, line.run whole = .ok progress ∧
      let engine := setup config loaded
      engine.registry.resolve line.context "User".toList =
        some (.ofTable (.ofList [(['n'], .bool true)])) ∧
      (config.builtinProviders = true →
        engine.registry.Finds line.context ⟨"Get".toList, "k".toList⟩ (.string ['2']))) ∧
      line.run broken = .error (.data (.notObject "old.json".toList)) := by
  intro line object whole broken
  have json : Path.HasExtension "old.json".toList "json".toList :=
    Path.extension?_eq_some_iff.1 (by decide)
  have capital : Path.HasExtension "new.JSON".toList "JSON".toList :=
    Path.extension?_eq_some_iff.1 (by decide)
  have lower : Data.Names "json".toList .json := .json (by decide)
  have upper : Data.Names "JSON".toList .json := .json (by decide)
  have empty : Json.read? "\x7b\x7d".toList = some (.object []) := by
    simp [Json.read?, Json.readValue, Json.skipSpace, Json.isSpace, Json.maxDepth]
  have items : Json.read? "[]".toList = some (.array []) := by
    simp [Json.read?, Json.readValue, Json.skipSpace, Json.isSpace, Json.maxDepth]
  have field : Json.read? "\x7b\"n\":true\x7d".toList = some (.object [(['n'], .bool true)]) := by
    have key : Json.readString ['n', '"', ':', 't', 'r', 'u', 'e', '\x7d'] =
        some (['n'], [':', 't', 'r', 'u', 'e', '\x7d']) :=
      Json.readString_flatMap Json.denotes_escape ['n'] _
    simp [Json.read?, Json.readValue, Json.readFields, key, Json.skipSpace, Json.isSpace,
      Json.maxDepth]
    rfl
  have old : Data.Holds whole "old.json".toList (.ofList []) :=
    ⟨_, _, _, [], rfl, json, lower, .json empty, rfl⟩
  have new : Data.Holds whole "new.JSON".toList (.ofList [(['n'], .bool true)]) :=
    ⟨_, _, _, [(['n'], .bool true)], rfl, capital, upper, .json field, rfl⟩
  have list : Data.Refused broken "old.json".toList (.notObject "old.json".toList) :=
    .notObject rfl json lower (.json items) (by simp)
  have user : Newest Text.lower line.data "User".toList "new.JSON".toList :=
    ⟨[("user".toList, "old.json".toList)], "USER".toList, [], rfl, by decide, by simp⟩
  have last : Newest id line.params "k".toList ['2'] :=
    ⟨[("k".toList, ['1'])], "k".toList, [], rfl, rfl, by simp⟩
  have first : line.data = [] ++ ("user".toList, "old.json".toList) ::
      [("USER".toList, "new.JSON".toList)] := rfl
  have free : ∀ entry ∈ line.data, Text.lower entry.1 ≠ Registry.queryName :=
    List.forall_mem_cons.2 ⟨by decide, List.forall_mem_singleton.2 (by decide)⟩
  obtain ⟨_, succeeds, renders⟩ := run_ends line whole
  obtain ⟨progress, done⟩ := succeeds.2 ⟨⟨_, .default rfl⟩,
    List.forall_mem_cons.2 ⟨⟨_, old⟩, List.forall_mem_singleton.2 ⟨_, new⟩⟩, _, rfl⟩
  obtain ⟨config, loaded, _, _, _, _, _, _, answers⟩ := renders progress done
  refine ⟨⟨progress, config, loaded, done, answers.namespaces _ _ _ _ user new, ?_⟩, ?_⟩
  · intro builtin
    exact answers.params _ _ _ _ (by decide) last builtin free rfl
  · exact ((run_ends line broken).1 _).2 (.data (.default rfl) first .none list)

end Invocation

end Stencil
