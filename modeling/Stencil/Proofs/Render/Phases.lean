import Stencil.Proofs.Include.Pass

set_option autoImplicit false

namespace Stencil

namespace Progress

def withCache (progress : Progress) (cache : Cache) : Progress := { progress with cache := cache }

@[simp] theorem withCache_text (progress : Progress) (cache : Cache) :
    (progress.withCache cache).text = progress.text := rfl

@[simp] theorem withCache_context (progress : Progress) (cache : Cache) :
    (progress.withCache cache).context = progress.context := rfl

theorem withCache_of_eq {progress : Progress} {cache : Cache} (same : progress.cache = cache) :
    progress.withCache cache = progress := by
  rw [← same]
  rfl

end Progress

namespace Engine

/-- Two engines with the same providers and filters differ in the include stage only. -/
structure SameLookups (first second : Engine) : Prop where
  registry : second.registry = first.registry
  filters : second.filters = first.filters

theorem SameLookups.refl (engine : Engine) : SameLookups engine engine := ⟨rfl, rfl⟩

variable {first second : Engine} {stages : List Stage}

theorem runStage_withCache (same : SameLookups first second) {stage : Stage}
    (other : stage ≠ .includes) (files elsewhere : Files) (progress : Progress) (cache : Cache) :
    second.runStage elsewhere (progress.withCache cache) stage =
      (first.runStage files progress stage).withCache cache := by
  cases stage with
  | includes => exact absurd rfl other
  | _ =>
      simp only [runStage, same.registry, same.filters]
      rfl

theorem step_withCache (same : SameLookups first second) {stage : Stage}
    (other : stage ≠ .includes) (files elsewhere : Files) (progress : Progress) (cache : Cache) :
    second.step elsewhere (progress.withCache cache) stage =
      (first.step files progress stage).withCache cache := by
  have run := runStage_withCache same other files elsewhere
    (progress.report (.stageStarted stage)) cache
  by_cases found : applies stage progress.text = true
  · simp only [step, Progress.withCache_text, found, ↓reduceIte]
    exact run
  · simp only [step, Progress.withCache_text, found, Bool.false_eq_true, ↓reduceIte]

theorem foldl_step_withCache (same : SameLookups first second) (others : .includes ∉ stages)
    (files elsewhere : Files) (progress : Progress) (cache : Cache) :
    stages.foldl (second.step elsewhere) (progress.withCache cache) =
      (stages.foldl (first.step files) progress).withCache cache := by
  induction stages generalizing progress with
  | nil => rfl
  | cons stage stages ih =>
      simp only [List.mem_cons, not_or] at others
      rw [List.foldl_cons, step_withCache same (Ne.symm others.1) files elsewhere, ih others.2,
        List.foldl_cons]

theorem foldl_step_cache (engine : Engine) (others : .includes ∉ stages) (files : Files)
    (progress : Progress) : (stages.foldl (engine.step files) progress).cache = progress.cache := by
  have carried := foldl_step_withCache (.refl engine) others files files progress progress.cache
  have same := congrArg Progress.cache carried
  exact same

theorem foldl_step_files (engine : Engine) (others : .includes ∉ stages) (files elsewhere : Files)
    (progress : Progress) :
    stages.foldl (engine.step elsewhere) progress = stages.foldl (engine.step files) progress := by
  calc
    _ = (stages.foldl (engine.step files) progress).withCache progress.cache :=
      foldl_step_withCache (.refl engine) others files elsewhere progress progress.cache
    _ = stages.foldl (engine.step files) progress :=
      Progress.withCache_of_eq (foldl_step_cache engine others files progress)

/-- A render up to the include stage. -/
def prepare (engine : Engine) (cache : Cache) (context : Context) (document : Text) : Progress :=
  [Stage.metadata, .macros].foldl (engine.step .none) ⟨document, context, cache, []⟩

/-- A render from behind the include stage. -/
def finish (engine : Engine) (progress : Progress) : Progress :=
  [Stage.loops, .conditionals, .references].foldl (engine.step .none) progress

def runs (engine : Engine) (context : Context) : Bool :=
  engine.config.enabled && !context.ignoresSyntax

@[simp] theorem prepare_cache (engine : Engine) (cache : Cache) (context : Context)
    (document : Text) : (engine.prepare cache context document).cache = cache :=
  foldl_step_cache engine (by decide) .none ⟨document, context, cache, []⟩

@[simp] theorem finish_cache (engine : Engine) (progress : Progress) :
    (engine.finish progress).cache = progress.cache :=
  foldl_step_cache engine (by decide) .none progress

theorem prepare_eq (same : SameLookups first second) (one other : Cache) (context : Context)
    (document : Text) :
    second.prepare other context document = (first.prepare one context document).withCache other :=
  foldl_step_withCache same (by decide) .none .none ⟨document, context, one, []⟩ other

theorem finish_withCache (same : SameLookups first second) (progress : Progress) (cache : Cache) :
    second.finish (progress.withCache cache) = (first.finish progress).withCache cache :=
  foldl_step_withCache same (by decide) .none .none progress cache

theorem render_of_runs {engine : Engine} {context : Context} (running : engine.runs context = true)
    (files : Files) (cache : Cache) (document : Text) :
    engine.render files cache context document =
      engine.finish (engine.step files (engine.prepare cache context document) .includes) := by
  simp only [runs, Bool.and_eq_true, Bool.not_eq_true'] at running
  have whole : engine.render files cache context document =
      [Stage.loops, .conditionals, .references].foldl (engine.step files)
        (engine.step files
          ([Stage.metadata, .macros].foldl (engine.step files) ⟨document, context, cache, []⟩)
          .includes) := by
    simp only [render, running, Bool.not_true, Bool.false_eq_true, ↓reduceIte, Stage.all,
      List.foldl_cons, List.foldl_nil]
  rw [whole, foldl_step_files engine (by decide) .none files,
    foldl_step_files engine (by decide) .none files]
  rfl

/-- A render that runs no stage leaves the document and the cache as they are. -/
theorem render_of_not_runs {engine : Engine} {context : Context}
    (idle : engine.runs context = false) (files : Files) (cache : Cache) (document : Text) :
    engine.render files cache context document =
      ⟨document, context, cache,
        if engine.config.enabled then [.syntaxIgnored context.path] else []⟩ := by
  simp only [runs, Bool.and_eq_false_iff, Bool.not_eq_false'] at idle
  rcases idle with disabled | ignoring
  · simp [render, disabled]
  · cases enabled : engine.config.enabled <;> simp [render, enabled, ignoring, Progress.report]

end Engine

end Stencil
