import Stencil.Proofs.Include.Render
import Stencil.Session

/-
Transparency of the include cache. As long as the files stay and nobody else stores a body, every
cached body is the one that loading its directive would give, and then a render with the cache and a
render without it differ in the cache only.
-/

set_option autoImplicit false

namespace Stencil

namespace Include

/-- Every body of a directive in a cache is the one that loading the directive would give. -/
def Faithful (config : Config) (files : Files) (cache : Cache) : Prop :=
  ∀ written path body, Spells path written → cache.bodies.get? written = some body →
    load config files path = .ok body

variable {config : Config} {files : Files} {cache : Cache}

theorem faithful_empty (config : Config) (files : Files) : Faithful config files .empty := by
  intro written path body spelled cached
  cases cached

theorem Faithful.settle_eq (faithful : Faithful config files cache) {written path : Text}
    (spelled : Spells path written) :
    settle config files cache written path = emit written (load config files path) := by
  cases caching : config.cacheIncludes with
  | false => exact settle_of_not_caching caching files cache written path
  | true =>
      cases cached : cache.bodies.get? written with
      | none => exact settle_of_absent cached files path
      | some body =>
          rw [settle_of_cached caching cached, faithful written path body spelled cached]
          rfl

end Include

open Include (Faithful)

namespace Engine

variable {engine : Engine} {files : Files} {cache : Cache}

def uncached (engine : Engine) : Engine :=
  { engine with config := { engine.config with cacheIncludes := false } }

theorem sameLookups_uncached (engine : Engine) : SameLookups engine engine.uncached := ⟨rfl, rfl⟩

/-- A render adds bodies that it has loaded, so a faithful cache stays one. -/
theorem faithful_render (faithful : Faithful engine.config files cache) (context : Context)
    (document : Text) :
    Faithful engine.config files (engine.render files cache context document).cache := by
  intro written path body spelled cached
  rcases (get?_render ..).1 cached with held | ⟨_, _, _, other, member, loaded⟩
  · exact faithful written path body spelled held
  · have proper := Include.reads_directive.proper_cut (engine.prepare cache context document).text
    rw [spelled.path_unique (proper.spelled written other member)]
    exact loaded

theorem step_uncached {progress : Progress}
    (faithful : Faithful engine.config files progress.cache) (other : Cache) :
    (engine.step files progress .includes).withCache other =
      (engine.uncached.step files progress .includes).withCache other := by
  have proper := Include.reads_directive.proper_cut progress.text
  have same : (Include.directive.cut progress.text).rewrite
        (Include.settle engine.config files progress.cache) =
      (Include.directive.cut progress.text).rewrite
        (Include.settle engine.uncached.config files progress.cache) := by
    apply Cut.rewrite_congr
    intro written path member
    rw [faithful.settle_eq (proper.spelled written path member), Include.settle_of_not_caching rfl]
    rfl
  rw [step_includes, step_includes, same]
  split <;> rfl

theorem render_uncached (faithful : Faithful engine.config files cache) (context : Context)
    (document : Text) (other : Cache) :
    (engine.render files cache context document).withCache other =
      engine.uncached.render files other context document := by
  have lookups := sameLookups_uncached engine
  rw [render_withCache rfl files cache other]
  cases running : engine.runs context with
  | false =>
      have idle : engine.uncached.runs context = false := running
      rw [render_of_not_runs running, render_of_not_runs idle]
      rfl
  | true =>
      have working : engine.uncached.runs context = true := running
      have prepared : engine.uncached.prepare cache context document =
          engine.prepare cache context document := by
        rw [prepare_eq lookups cache, Progress.withCache_of_eq (prepare_cache ..)]
      have faithful :
          Faithful engine.config files (engine.prepare cache context document).cache := by
        rw [prepare_cache]
        exact faithful
      rw [render_of_runs running, render_of_runs working, prepared, ← finish_withCache lookups,
        step_uncached faithful, finish_withCache (.refl engine.uncached)]

/-- Renders documents one after another with the cache that each of them leaves. -/
def renderAll (engine : Engine) (files : Files) : Cache → List (Context × Text) → List Progress
  | _, [] => []
  | cache, (context, document) :: jobs =>
      let progress := engine.render files cache context document
      progress :: engine.renderAll files progress.cache jobs

theorem renderAll_uncached (faithful : Faithful engine.config files cache)
    (jobs : List (Context × Text)) (other : Cache) :
    (engine.renderAll files cache jobs).map (·.withCache other) =
      jobs.map fun job => engine.uncached.render files other job.1 job.2 := by
  induction jobs generalizing cache with
  | nil => rfl
  | cons job jobs ih =>
      obtain ⟨context, document⟩ := job
      simp only [renderAll, List.map_cons, render_uncached faithful,
        ih (faithful_render faithful context document)]

end Engine

/-- Renders and metadata recorded by hand leave the files alone, and the cache to the renders. -/
def Action.Renders : Action → Prop
  | .render .. => True
  | .renderFile .. => True
  | .addMetadata .. => True
  | _ => False

namespace Session

/-- A session and one without caching that stand at the same point. -/
structure Mirrors (session plain : Session) : Prop where
  engine : plain.engine = session.engine.uncached
  files : plain.files = session.files
  contexts : plain.contexts = session.contexts
  faithful : Faithful session.engine.config session.files.files session.cache

variable {session plain : Session}

theorem Mirrors.context (mirrors : Mirrors session plain) (index : Nat) :
    plain.context index = session.context index := by
  simp only [Session.context, mirrors.contexts]

theorem Mirrors.render (mirrors : Mirrors session plain) (index : Nat) (document : Text) :
    plain.engine.render plain.files.files plain.cache (plain.context index) document =
      (session.engine.render session.files.files session.cache (session.context index)
        document).withCache plain.cache := by
  rw [mirrors.engine, mirrors.files, mirrors.context, Engine.render_uncached mirrors.faithful]

theorem Mirrors.keep (mirrors : Mirrors session plain) (index : Nat) (progress : Progress)
    (faithful : Faithful session.engine.config session.files.files progress.cache)
    (cache : Cache) :
    (plain.keep index (progress.withCache cache)).1 = (session.keep index progress).1 ∧
      Mirrors (session.keep index progress).2
        (plain.keep index (progress.withCache cache)).2 := by
  refine ⟨rfl, mirrors.engine, mirrors.files, ?_, faithful⟩
  simp only [Session.keep, Progress.withCache_context, mirrors.contexts]

/-- Actions that render get the same answers from either session, and lead to the same point. -/
theorem Mirrors.perform (mirrors : Mirrors session plain) {action : Action}
    (renders : action.Renders) :
    (plain.perform action).1 = (session.perform action).1 ∧
      Mirrors (session.perform action).2 (plain.perform action).2 := by
  cases action with
  | render index document =>
      have faithful :=
        Engine.faithful_render mirrors.faithful (session.context index) document
      simp only [Session.perform, mirrors.render]
      exact mirrors.keep index _ faithful plain.cache
  | renderFile index path =>
      simp only [Session.perform, Engine.renderFile, mirrors.files]
      cases session.files.files.readText path with
      | error error => exact ⟨rfl, mirrors⟩
      | ok document =>
          have faithful :=
            Engine.faithful_render mirrors.faithful (session.context index) document
          have same := mirrors.render index document
          rw [mirrors.files] at same
          simp only [same]
          let progress :=
            session.engine.render session.files.files session.cache (session.context index) document
          exact mirrors.keep index { progress with log := .templateRead path :: progress.log }
            faithful plain.cache
  | addMetadata index key value =>
      have same := mirrors.context index
      refine ⟨?_, mirrors.engine, mirrors.files, ?_, mirrors.faithful⟩
      · simp only [Session.perform, same]
      · simp only [Session.perform, same, mirrors.contexts]
  | write path bytes => cases renders
  | makeDirectory path => cases renders
  | remove path => cases renders
  | askCache key => cases renders
  | storeCache key body => cases renders
  | clearCache => cases renders

theorem Mirrors.run (mirrors : Mirrors session plain) {actions : List Action}
    (renders : ∀ action ∈ actions, action.Renders) :
    (plain.run actions).1 = (session.run actions).1 := by
  induction actions generalizing session plain with
  | nil => rfl
  | cons action actions ih =>
      obtain ⟨same, after⟩ := mirrors.perform (renders action (by simp))
      have behind := ih after fun action member => renders action (by simp [member])
      simp only [Session.run, same, behind]

end Session

/-- What a render shows: its text, the metadata and the reports. -/
def Progress.outcome (progress : Progress) : Text × Table Text × List Event :=
  (progress.text, progress.context.metadata, progress.log)

/-- The include cache cannot be seen. Documents rendered one after another with a cache that was
empty at first turn out as each of them does alone and without caching, and so do the answers of a
session that only renders. -/
theorem Engine.cache_transparent (engine : Engine) :
    (∀ (files : Files) (jobs : List (Context × Text)),
      (engine.renderAll files .empty jobs).map Progress.outcome =
        jobs.map fun job =>
          (engine.uncached.render files .empty job.1 job.2).outcome) ∧
    ∀ (files : Tree) (contexts : List Context) (actions : List Action),
      (∀ action ∈ actions, action.Renders) →
        (Session.run ⟨engine, files, .empty, contexts⟩ actions).1 =
          (Session.run ⟨engine.uncached, files, .empty, contexts⟩ actions).1 := by
  constructor
  · intro files jobs
    have same := renderAll_uncached (Include.faithful_empty engine.config files) jobs .empty
    have shown := congrArg (List.map Progress.outcome) same
    rw [List.map_map, List.map_map] at shown
    exact shown
  · intro files contexts actions renders
    have start : Session.Mirrors ⟨engine, files, .empty, contexts⟩
        ⟨engine.uncached, files, .empty, contexts⟩ :=
      ⟨rfl, rfl, rfl, Include.faithful_empty engine.config files.files⟩
    exact (start.run renders).symm

/-- A file that is included by two documents and by a template, and a missing one. -/
theorem Engine.cache_transparent_repeated :
    let files : Tree := ⟨[("a".toList, .file [104, 105]),
      ("page".toList, .file "{{include:a}}".toUTF8.toList)]⟩
    let actions : List Action := [.render 0 "{{include:a}}{{include:b}}".toList,
      .renderFile 0 "page".toList, .render 0 "{{include:b}}{{include:a}}".toList]
    (Session.run ⟨standard, files, .empty, [default]⟩ actions).1 =
      (Session.run ⟨standard.uncached, files, .empty, [default]⟩ actions).1 :=
  (cache_transparent standard).2 _ _ _ (by simp [Action.Renders])

end Stencil
