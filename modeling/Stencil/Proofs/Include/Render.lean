import Stencil.Proofs.Render.Phases

set_option autoImplicit false

namespace Stencil.Engine

open Include (directive settle load)

theorem step_includes (engine : Engine) (files : Files) (progress : Progress) :
    engine.step files progress .includes =
      if applies .includes progress.text then
        ((progress.report (.stageStarted .includes)).take
          ((directive.cut progress.text).rewrite
            (settle engine.config files progress.cache))).withCache
          ((directive.cut progress.text).rewriteWith (Include.replace engine.config files)
            progress.cache).2
      else progress := by
  have spelled := (Include.reads_directive.proper_cut progress.text).spelled
  rw [← Include.rewriteWith_replace_fst engine.config files progress.cache spelled]
  simp only [step, runStage, Include.inline_eq]
  rfl

/-- A text that the stage does not apply to is a single gap. -/
theorem cut_of_not_applies {text : Text} (none : ¬ applies .includes text = true) :
    directive.cut text = .last text :=
  Grammar.cut_of_not_occursIn (Bool.not_eq_true _ ▸ none)

theorem step_includes_text (engine : Engine) (files : Files) (progress : Progress) :
    (engine.step files progress .includes).text =
      ((directive.cut progress.text).rewrite (settle engine.config files progress.cache)).text := by
  rw [step_includes]
  split
  · rfl
  · rename_i none
    rw [cut_of_not_applies none]
    rfl

theorem get?_step_includes (engine : Engine) (files : Files) (progress : Progress)
    (key body : Text) :
    (engine.step files progress .includes).cache.bodies.get? key = some body ↔
      progress.cache.bodies.get? key = some body ∨
        engine.config.cacheIncludes = true ∧ progress.cache.bodies.get? key = none ∧
          ∃ path, (key, path) ∈ (directive.cut progress.text).directives ∧
            load engine.config files path = .ok body := by
  have spelled := (Include.reads_directive.proper_cut progress.text).spelled
  rw [step_includes]
  split
  · exact Include.get?_rewriteWith_replace engine.config files progress.cache spelled key body
  · rename_i none
    simp [cut_of_not_applies none, Cut.directives]

/-- The bodies after a render: those of before, and one for each directive met by the include stage
that had none and could be loaded. -/
theorem get?_render (engine : Engine) (files : Files) (cache : Cache) (context : Context)
    (document key body : Text) :
    (engine.render files cache context document).cache.bodies.get? key = some body ↔
      cache.bodies.get? key = some body ∨
        engine.runs context = true ∧ engine.config.cacheIncludes = true ∧
          cache.bodies.get? key = none ∧
            ∃ path, (key, path) ∈
                (directive.cut (engine.prepare cache context document).text).directives ∧
              load engine.config files path = .ok body := by
  cases running : engine.runs context with
  | false => simp [render_of_not_runs running]
  | true =>
      rw [render_of_runs running, finish_cache, get?_step_includes, prepare_cache]
      simp

theorem step_includes_withCache {engine : Engine} (uncached : engine.config.cacheIncludes = false)
    (files : Files) (progress : Progress) (cache : Cache) :
    engine.step files (progress.withCache cache) .includes =
      (engine.step files progress .includes).withCache cache := by
  have settled (cache : Cache) : settle engine.config files cache =
      fun written path => Include.emit written (load engine.config files path) := by
    funext written path
    exact Include.settle_of_not_caching uncached files cache written path
  rw [step_includes, step_includes, settled, settled,
    Include.rewriteWith_replace_of_not_caching uncached,
    Include.rewriteWith_replace_of_not_caching uncached]
  by_cases found : applies .includes progress.text = true
  · simp only [Progress.withCache_text, found, ↓reduceIte]
    rfl
  · simp only [Progress.withCache_text, found, Bool.false_eq_true, ↓reduceIte]

theorem render_withCache {engine : Engine} (uncached : engine.config.cacheIncludes = false)
    (files : Files) (first second : Cache) (context : Context) (document : Text) :
    engine.render files second context document =
      (engine.render files first context document).withCache second := by
  cases running : engine.runs context with
  | false =>
      rw [render_of_not_runs running, render_of_not_runs running]
      rfl
  | true =>
      rw [render_of_runs running, render_of_runs running, prepare_eq (.refl engine) first second,
        step_includes_withCache uncached, finish_withCache (.refl engine)]

end Stencil.Engine
