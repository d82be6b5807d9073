import Stencil.Proofs.Scan.Stages

/-
One pass of the include stage. The cache goes from directive to directive, and yet what a directive
becomes depends on the cache at the start of the pass only: a body that the pass itself has stored
is the one that loading it again would give.
-/

set_option autoImplicit false

namespace Stencil

namespace Include

theorem Spells.path_unique {first second written : Text} (one : Spells first written)
    (other : Spells second written) : first = second := by
  have same : opener ++ first ++ closer = opener ++ second ++ closer := by
    rw [← one.2, ← other.2]
  exact List.append_cancel_left (List.append_cancel_right same)

/-- What a directive becomes in a pass that starts with a given cache. -/
def settle (config : Config) (files : Files) (cache : Cache) (written path : Text) : Emission :=
  match config.cacheIncludes, cache.bodies.get? written with
  | true, some body => .silent body
  | _, _ => emit written (load config files path)

theorem settle_of_cached {config : Config} {cache : Cache} {written body : Text}
    (caching : config.cacheIncludes = true) (cached : cache.bodies.get? written = some body)
    (files : Files) (path : Text) : settle config files cache written path = .silent body := by
  simp only [settle, caching, cached]

theorem settle_of_absent {config : Config} {cache : Cache} {written : Text}
    (absent : cache.bodies.get? written = none) (files : Files) (path : Text) :
    settle config files cache written path = emit written (load config files path) := by
  cases caching : config.cacheIncludes <;> simp only [settle, caching, absent]

theorem settle_of_not_caching {config : Config} (uncached : config.cacheIncludes = false)
    (files : Files) (cache : Cache) (written path : Text) :
    settle config files cache written path = emit written (load config files path) := by
  simp only [settle, uncached]

theorem replace_of_not_caching {config : Config} (uncached : config.cacheIncludes = false)
    (files : Files) (cache : Cache) (written path : Text) :
    replace config files cache written path =
      (settle config files cache written path, cache) := by
  simp only [replace, uncached, Bool.false_eq_true, ↓reduceIte, settle]

theorem replace_fst (config : Config) (files : Files) (cache : Cache) (written path : Text) :
    (replace config files cache written path).1 = settle config files cache written path := by
  cases caching : config.cacheIncludes with
  | false => rw [replace_of_not_caching caching]
  | true =>
      simp only [replace, caching, ↓reduceIte, Cache.ask]
      cases cached : cache.bodies.get? written with
      | some body => simp only [settle_of_cached caching cached]
      | none =>
          simp only [settle_of_absent cached]
          cases load config files path <;> rfl

/-- A replacement stores at most the body it has loaded, and only where there was none. -/
theorem get?_replace (config : Config) (files : Files) (cache : Cache) (written path : Text)
    (key body : Text) :
    (replace config files cache written path).2.bodies.get? key = some body ↔
      cache.bodies.get? key = some body ∨
        config.cacheIncludes = true ∧ key = written ∧ cache.bodies.get? key = none ∧
          load config files path = .ok body := by
  cases caching : config.cacheIncludes with
  | false => simp [replace_of_not_caching caching]
  | true =>
      simp only [replace, caching, ↓reduceIte, Cache.ask]
      cases cached : cache.bodies.get? written with
      | some held =>
          simp only [true_and, iff_self_or]
          rintro ⟨rfl, absent, _⟩
          rw [cached] at absent
          cases absent
      | none =>
          cases loaded : load config files path with
          | error event => simp
          | ok found =>
              simp only [Cache.store_bodies, Table.get?_insert, true_and, Except.ok.injEq]
              by_cases same : key = written
              · simp [same, cached]
              · simp [same]

/-- Replacing one directive does not change what any directive becomes. -/
theorem settle_replace (config : Config) (files : Files) (cache : Cache)
    {first path written other : Text} (spelled : Spells path first) (again : Spells other written) :
    settle config files (replace config files cache first path).2 written other =
      settle config files cache written other := by
  cases caching : config.cacheIncludes with
  | false => rw [settle_of_not_caching caching, settle_of_not_caching caching]
  | true =>
      have stored := get?_replace config files cache first path written
      cases cached : cache.bodies.get? written with
      | some body =>
          rw [settle_of_cached caching cached,
            settle_of_cached caching ((stored body).2 (Or.inl cached))]
      | none =>
          rw [settle_of_absent cached]
          cases now : (replace config files cache first path).2.bodies.get? written with
          | none => rw [settle_of_absent now]
          | some body =>
              rcases (stored body).1 now with held | ⟨_, rfl, _, loaded⟩
              · rw [cached] at held
                cases held
              · rw [spelled.path_unique again] at loaded
                rw [settle_of_cached caching now, loaded]
                rfl

/-- The cache that a pass leaves is never looked at by the pass itself. -/
theorem rewriteWith_replace_fst (config : Config) (files : Files) (cache : Cache) {cut : Cut Text}
    (spelled : cut.Spelled Spells) :
    (cut.rewriteWith (replace config files) cache).1 =
      cut.rewrite (settle config files cache) := by
  induction cut generalizing cache with
  | last gap => rfl
  | next gap written path more ih =>
      have here := spelled.head
      have behind := spelled.tail
      have unchanged :
          more.rewrite (settle config files (replace config files cache written path).2) =
            more.rewrite (settle config files cache) :=
        Cut.rewrite_congr fun written path member =>
          settle_replace config files cache here (behind written path member)
      simp only [Cut.rewriteWith, Cut.rewrite, replace_fst, ih _ behind, unchanged]

/-- Without caching a pass carries the cache along unread. -/
theorem rewriteWith_replace_of_not_caching {config : Config}
    (uncached : config.cacheIncludes = false) (files : Files) (cache : Cache) (cut : Cut Text) :
    cut.rewriteWith (replace config files) cache =
      (cut.rewrite fun written path => emit written (load config files path), cache) := by
  induction cut with
  | last gap => rfl
  | next gap written path more ih =>
      simp only [Cut.rewriteWith, Cut.rewrite, replace_of_not_caching uncached,
        settle_of_not_caching uncached, ih]

/-- A pass keeps every body, and adds one for each directive that had none and could be loaded. -/
theorem get?_rewriteWith_replace (config : Config) (files : Files) (cache : Cache) {cut : Cut Text}
    (spelled : cut.Spelled Spells) (key body : Text) :
    (cut.rewriteWith (replace config files) cache).2.bodies.get? key = some body ↔
      cache.bodies.get? key = some body ∨
        config.cacheIncludes = true ∧ cache.bodies.get? key = none ∧
          ∃ path, (key, path) ∈ cut.directives ∧ load config files path = .ok body := by
  induction cut generalizing cache with
  | last gap => simp [Cut.rewriteWith, Cut.directives]
  | next gap written path more ih =>
      have behind := spelled.tail
      have stored := get?_replace config files cache written path key
      simp only [Cut.rewriteWith, ih _ behind]
      cases held : cache.bodies.get? key with
      | some kept => simp [(stored kept).2 (Or.inl held)]
      | none =>
          cases now : (replace config files cache written path).2.bodies.get? key with
          | some added =>
              have split := (stored added).1 now
              rw [held] at split
              obtain ⟨caching, rfl, _, loaded⟩ := split.resolve_left (by simp)
              constructor
              · rintro (same | ⟨_, absent, _⟩)
                · cases same
                  exact Or.inr ⟨caching, rfl, path, by simp [Cut.directives], loaded⟩
                · cases absent
              · rintro (impossible | ⟨_, _, other, member, found⟩)
                · cases impossible
                · rw [(spelled key other member).path_unique spelled.head, loaded] at found
                  cases found
                  exact Or.inl rfl
          | none =>
              -- The directive itself adds nothing under the key, so the rest of the pass decides.
              have missed (caching : config.cacheIncludes = true) (same : key = written) :
                  load config files path ≠ .ok body := by
                intro loaded
                have impossible := (stored body).2 (Or.inr ⟨caching, same, held, loaded⟩)
                rw [now] at impossible
                cases impossible
              simp only [reduceCtorEq, true_and, false_or]
              constructor
              · rintro ⟨caching, other, member, loaded⟩
                exact ⟨caching, other, by simp [Cut.directives, member], loaded⟩
              · rintro ⟨caching, other, member, loaded⟩
                rcases List.mem_cons.1 member with same | member
                · cases same
                  exact absurd loaded (missed caching rfl)
                · exact ⟨caching, other, member, loaded⟩

end Include

end Stencil
