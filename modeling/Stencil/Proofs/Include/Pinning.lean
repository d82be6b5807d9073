import Stencil.Proofs.Include.Render
import Stencil.Session

set_option autoImplicit false

namespace Stencil

namespace Engine

variable {engine : Engine} {context : Context} {document : Text} {cut : Cut Text}

/-- A render runs its stages, and its include stage meets the directives of a cut. -/
structure Meets (engine : Engine) (context : Context) (document : Text) (cut : Cut Text) :
    Prop where
  runs : engine.runs context = true
  only : Cut.Only Include.Spells (engine.prepare .empty context document).text cut

theorem prepare_text (engine : Engine) (cache : Cache) (context : Context) (document : Text) :
    (engine.prepare cache context document).text =
      (engine.prepare .empty context document).text := by
  rw [prepare_eq (.refl engine) .empty cache]
  rfl

theorem meets_cut (running : engine.runs context = true) (cache : Cache) (document : Text) :
    engine.Meets context document
      (Include.directive.cut (engine.prepare cache context document).text) where
  runs := running
  only := by
    rw [← prepare_text engine cache context document]
    exact Include.reads_directive.only_cut _

theorem Meets.eq_cut (meets : engine.Meets context document cut) (cache : Cache) :
    cut = Include.directive.cut (engine.prepare cache context document).text :=
  (meets_cut meets.runs cache document).only.unique cut meets.only.proper meets.only.whole

theorem Meets.spelled (meets : engine.Meets context document cut) : cut.Spelled Include.Spells :=
  meets.only.proper.spelled

theorem Meets.render (meets : engine.Meets context document cut) (files : Files) (cache : Cache) :
    ∃ included, engine.render files cache context document = engine.finish included ∧
      included.text = (cut.rewrite (Include.settle engine.config files cache)).text := by
  refine ⟨_, render_of_runs meets.runs files cache document, ?_⟩
  rw [step_includes_text, prepare_cache, ← meets.eq_cut cache]

/-- What a render does with a cache: the bodies after it against those of before. -/
structure OnlyAdds (engine : Engine) (files : Files) (cache : Cache) (context : Context)
    (document : Text) : Prop where
  /-- A body that is there stays. -/
  kept : ∀ key body, cache.bodies.get? key = some body →
    (engine.render files cache context document).cache.bodies.get? key = some body
  /-- A new body is that of a directive which was met and could be loaded. -/
  added : ∀ key body, cache.bodies.get? key = none →
    (engine.render files cache context document).cache.bodies.get? key = some body →
      ∃ cut path, engine.Meets context document cut ∧ (key, path) ∈ cut.directives ∧
        Include.load engine.config files path = .ok body
  /-- The include stage goes on with what the directives become. -/
  settled : ∀ cut, engine.Meets context document cut →
    ∃ included, engine.render files cache context document = engine.finish included ∧
      included.text = (cut.rewrite (Include.settle engine.config files cache)).text
  /-- Nothing is stored for a directive that becomes itself, with a report. -/
  left : ∀ cut written path event, engine.Meets context document cut →
    (written, path) ∈ cut.directives →
      Include.settle engine.config files cache written path = ⟨written, [event]⟩ →
        (engine.render files cache context document).cache.bodies.get? written = none

theorem render_only_adds (caching : engine.config.cacheIncludes = true) (files : Files)
    (cache : Cache) (context : Context) (document : Text) :
    engine.OnlyAdds files cache context document where
  kept key body held := (get?_render ..).2 (Or.inl held)
  added key body absent now := by
    rcases (get?_render ..).1 now with held | ⟨running, _, _, path, member, loaded⟩
    · rw [absent] at held
      cases held
    · exact ⟨_, path, meets_cut running cache document, member, loaded⟩
  settled cut meets := meets.render files cache
  left cut written path event meets member stays := by
    cases cached : cache.bodies.get? written with
    | some body =>
        rw [Include.settle_of_cached caching cached] at stays
        cases stays
    | none =>
        rw [Include.settle_of_absent cached] at stays
        rw [Option.eq_none_iff_forall_ne_some]
        intro body now
        rcases (get?_render ..).1 now with held | ⟨_, _, _, other, again, loaded⟩
        · rw [cached] at held
          cases held
        · rw [← meets.eq_cut cache] at again
          have same := (meets.spelled written path member).path_unique
            (meets.spelled written other again)
          rw [same, loaded] at stays
          cases stays

end Engine

/-- The cache is cleared, or a body is stored under the key by hand. -/
def Action.Unpins (key : Text) : Action → Prop
  | .storeCache other _ => other = key
  | .clearCache => True
  | _ => False

namespace Session

variable {session : Session} {key body : Text}

/-- A body is cached under the text of a directive, and the include stage of every render puts it
wherever it meets the directive. -/
structure Pins (session : Session) (key body : Text) : Prop where
  held : session.cache.bodies.get? key = some body
  replaced : ∀ context document cut, session.engine.Meets context document cut →
    ∃ included,
      session.engine.render session.files.files session.cache context document =
        session.engine.finish included ∧
      included.text = (cut.rewrite fun written path =>
        if written = key then .silent body
        else Include.settle session.engine.config session.files.files session.cache written
          path).text

theorem pins_of_held (caching : session.engine.config.cacheIncludes = true)
    (held : session.cache.bodies.get? key = some body) : session.Pins key body where
  held := held
  replaced context document cut meets := by
    obtain ⟨included, rendered, text⟩ := meets.render session.files.files session.cache
    let settle := Include.settle session.engine.config session.files.files session.cache
    have same : cut.rewrite settle =
        cut.rewrite fun written path =>
          if written = key then .silent body else settle written path := by
      apply Cut.rewrite_congr
      intro written path _
      split
      · rename_i found
        rw [found]
        exact Include.settle_of_cached caching held session.files.files path
      · rfl
    exact ⟨included, rendered, by rw [text, same]⟩

theorem perform_engine (session : Session) (action : Action) :
    (session.perform action).2.engine = session.engine := by
  cases action with
  | renderFile index path =>
      simp only [perform]
      split <;> rfl
  | _ => rfl

theorem run_engine (session : Session) (actions : List Action) :
    (session.run actions).2.engine = session.engine := by
  induction actions generalizing session with
  | nil => rfl
  | cons action actions ih =>
      exact (ih (session.perform action).2).trans (perform_engine session action)

theorem held_perform (held : session.cache.bodies.get? key = some body) {action : Action}
    (pins : ¬ action.Unpins key) :
    (session.perform action).2.cache.bodies.get? key = some body := by
  cases action with
  | render index document => exact (Engine.get?_render ..).2 (Or.inl held)
  | renderFile index path =>
      simp only [perform, Engine.renderFile]
      cases session.files.files.readText path with
      | error error => exact held
      | ok document => exact (Engine.get?_render ..).2 (Or.inl held)
  | addMetadata index name value => exact held
  | write path bytes => exact held
  | makeDirectory path => exact held
  | remove path => exact held
  | askCache other =>
      simp only [perform, Cache.ask_bodies]
      exact held
  | storeCache other stored =>
      have apart : key ≠ other := fun same => pins same.symm
      simp only [perform, Cache.store_bodies, Table.get?_insert, apart, ↓reduceIte]
      exact held
  | clearCache => exact absurd trivial pins

theorem held_run (held : session.cache.bodies.get? key = some body) {actions : List Action}
    (pins : ∀ action ∈ actions, ¬ action.Unpins key) :
    (session.run actions).2.cache.bodies.get? key = some body := by
  induction actions generalizing session with
  | nil => exact held
  | cons action actions ih =>
      exact ih (held_perform held (pins action (by simp))) fun action member =>
        pins action (by simp [member])

/-- Cached include bodies are pinned. With caching a body stays, and stands for its directive, as
long as it is neither cleared nor stored anew by hand, and renders only add bodies. Without caching
renders neither look at the cache nor change it. -/
theorem include_bodies_pinned (session : Session) :
    (session.engine.config.cacheIncludes = true →
      (∀ (key body : Text) (actions : List Action), session.cache.bodies.get? key = some body →
        (∀ action ∈ actions, ¬ action.Unpins key) → (session.run actions).2.Pins key body) ∧
      ∀ (files : Files) (cache : Cache) (context : Context) (document : Text),
        session.engine.OnlyAdds files cache context document) ∧
    (session.engine.config.cacheIncludes = false →
      ∀ (files : Files) (first second : Cache) (context : Context) (document : Text),
        (session.engine.render files first context document).cache = first ∧
          session.engine.render files second context document =
            (session.engine.render files first context document).withCache second) := by
  constructor
  · intro caching
    refine ⟨?_, Engine.render_only_adds caching⟩
    intro key body actions held pins
    have still : (session.run actions).2.engine.config.cacheIncludes = true := by
      rw [run_engine]
      exact caching
    exact pins_of_held still (held_run held pins)
  · intro uncached files first second context document
    refine ⟨?_, Engine.render_withCache uncached files first second context document⟩
    have carried := Engine.render_withCache uncached files first first context document
    rw [carried]
    rfl

/-- A body stays while its file is written anew and taken away, and an engine without caching pays
no heed to it. -/
theorem include_bodies_pinned_removed :
    let cache : Cache := Cache.empty.store "{{include:a}}".toList "old".toList
    let session : Session := ⟨.standard, ⟨[("a".toList, .file [104, 105])]⟩, cache, [default]⟩
    let actions : List Action := [.render 0 "{{include:a}}{{include:b}}".toList,
      .write "a".toList [110, 111], .storeCache "{{include:b}}".toList [], .remove "a".toList,
      .askCache "{{include:a}}".toList, .renderFile 0 "a".toList]
    let uncached : Engine := .build { cacheIncludes := false } .empty .builtin
    (session.run actions).2.Pins "{{include:a}}".toList "old".toList ∧
      (uncached.render .none cache default "{{include:a}}".toList).cache = cache :=
  ⟨((include_bodies_pinned _).1 rfl).1 _ _ _ rfl (by simp [Action.Unpins]),
    ((include_bodies_pinned ⟨.build { cacheIncludes := false } .empty .builtin, {}, .empty, []⟩).2
      rfl .none _ .empty _ _).1⟩

end Session

end Stencil
