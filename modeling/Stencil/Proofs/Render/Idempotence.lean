import Stencil.Proofs.Render.Template

set_option autoImplicit false

namespace Stencil

namespace Value

theorem not_mem_brace_text {value : Value} (plain : '{' ∉ value.json) : '{' ∉ value.text := by
  cases value with
  | string text =>
      intro inside
      apply plain
      have kept : '{' ∈ Json.escape '{' := by decide
      simp only [json, Json.quote, List.mem_cons, List.mem_append, List.mem_flatMap]
      exact Or.inl (Or.inr ⟨'{', inside, kept⟩)
  | null => simp [text]
  | _ => exact plain

theorem not_mem_brace_items {items : List Value} (plain : '{' ∉ jsonItems items) :
    ∀ item ∈ items, '{' ∉ item.json := by
  induction items with
  | nil => simp
  | cons first items ih =>
      cases items with
      | nil => simpa [jsonItems] using plain
      | cons next items =>
          simp only [jsonItems, List.mem_append, List.mem_cons, not_or] at plain
          intro item member
          rcases List.mem_cons.1 member with same | later
          · rw [same]
            exact plain.1
          · exact ih plain.2.2 item later

/-- The items of an array are part of its text. -/
theorem not_mem_brace_of_array {items : List Value} (plain : '{' ∉ (array items).text) :
    ∀ item ∈ items, '{' ∉ item.text := by
  intro item member
  have inside : '{' ∉ jsonItems items := fun found => plain (by simp [text, json, found])
  exact not_mem_brace_text (not_mem_brace_items inside item member)

end Value

namespace Engine

/-- No opening brace in the text of a value that is found or listed for a context, nor in that of a
filter's result for a value that is found. -/
structure Unbraced (engine : Engine) (context : Context) : Prop where
  found : ∀ (target : Target) (value : Value),
    target.lookup engine.registry context = .found value → '{' ∉ value.text
  listed : ∀ (name : Text) (provider : Provider),
    engine.registry.resolve context name = some provider →
    ∀ value ∈ provider.all.values, '{' ∉ value.text
  filtered : ∀ (target : Target) (filter : Text) (value result : Value),
    target.lookup engine.registry context = .found value →
    engine.filters.apply filter target.field value = .ok result → '{' ∉ result.text

namespace Unbraced

variable {engine : Engine} {context : Context}

theorem elements (unbraced : engine.Unbraced context) (target : Target) :
    ∀ element ∈ Loop.elements engine.registry context target, '{' ∉ element.text := by
  intro element member
  unfold Loop.elements at member
  split at member
  · cases resolved : engine.registry.resolve context target.name with
    | none => simp [resolved] at member
    | some provider =>
        rw [resolved] at member
        exact unbraced.listed target.name provider resolved element member
  · cases looked : target.lookup engine.registry context with
    | found value =>
        cases value with
        | array items =>
            rw [looked] at member
            exact Value.not_mem_brace_of_array (unbraced.found target _ looked) element member
        | _ => simp [looked, Loop.elementsOf] at member
    | _ => simp [looked, Loop.elementsOf] at member

theorem reference (unbraced : engine.Unbraced context) (reference : Reference) :
    '{' ∉ reference.text engine.registry engine.filters context := by
  rw [Reference.text, Reference.value?_eq]
  cases looked : reference.target.lookup engine.registry context with
  | found value =>
      cases filter : reference.filter with
      | none =>
          simp only [Reference.filtered, filter]
          exact unbraced.found reference.target value looked
      | some name =>
          cases result : engine.filters.apply name reference.target.field value with
          | error error => simp [Reference.filtered, filter, result, Except.toOption]
          | ok outcome =>
              simp only [Reference.filtered, filter, result]
              exact unbraced.filtered reference.target name value outcome looked result
  | _ => simp

/-- An engine that serves one table for all its namespaces, with filters that add no brace. -/
theorem of_fixed {values : Table Value} (plain : ∀ value ∈ values.values, '{' ∉ value.text)
    (serves : ∀ name factory, engine.registry.factory? name = some factory →
      factory = .fixed values)
    (keeps : ∀ filter field value result, '{' ∉ value.text →
      engine.filters.apply filter field value = .ok result → '{' ∉ result.text) :
    engine.Unbraced context := by
  have served {name : Text} {provider : Provider}
      (resolved : engine.registry.resolve context name = some provider) :
      provider = .ofTable values := by
    obtain ⟨factory, known, made⟩ := Option.bind_eq_some_iff.1 resolved
    rw [serves name factory known] at made
    exact (Option.some.inj made).symm
  have found (target : Target) (value : Value)
      (looked : target.lookup engine.registry context = .found value) : '{' ∉ value.text := by
    obtain ⟨provider, resolved, got⟩ := Registry.get_of_lookup looked
    rw [served resolved] at got
    have held := Table.get?_eq_some_iff.1 (Provider.get_ofLookup.1 got)
    exact plain value (List.mem_map.2 ⟨_, held, rfl⟩)
  refine ⟨found, ?_, ?_⟩
  · intro name provider resolved value member
    rw [served resolved] at member
    exact plain value member
  · intro target filter value result looked applied
    exact keeps filter target.field value result (found target value looked) applied

end Unbraced

variable {engine : Engine} {context : Context}

/-- A render leaves nothing to do in a template. -/
theorem settled_render (enabled : engine.config.enabled = true)
    (heeding : context.ignoresSyntax = false) (files : Files) (cache : Cache) {document : Text}
    (template : Template [.metadata, .loops, .conditionals, .references] document)
    (unbraced : engine.Unbraced (context.addAllMetadata (Metadata.entries document))) :
    Settled engine.registry (context.addAllMetadata (Metadata.entries document))
      (engine.render files cache context document).text := by
  have stripped := template.strip
  have undefined : ¬ Macro.opener <:+: Metadata.strip document :=
    (stripped.lacks_opener .macros (by decide) (by decide) (by decide)).not_isInfix (by decide)
  have unincluded : ¬ Include.opener <:+: Metadata.strip document :=
    (stripped.lacks_opener .includes (by decide) (by decide) (by decide)).not_isInfix (by decide)
  rw [render_text_of_unexpanded enabled heeding files cache undefined unincluded]
  apply Reference.settled_resolve unbraced.reference
  exact (stripped.unroll unbraced.elements).settle

/-- A render leaves a document alone in which nothing is left to do. -/
theorem render_of_settled (enabled : engine.config.enabled = true)
    (heeding : context.ignoresSyntax = false) (files : Files) (cache : Cache) {text : Text}
    (settled : Settled engine.registry context text) :
    let after := engine.render files cache context text
    after.text = text ∧ after.context = context := by
  intro after
  -- Conditionals may be left, and these stay as they are; all other stages find nothing.
  have idle (stage : Stage) (other : stage ≠ .conditionals) (usages : stage ≠ .macros) :
      applies stage text = false :=
    not_applies_of_unopened stage usages (settled.not_opener_infix stage other)
  have blockless := idle .metadata (by decide) (by decide)
  have loopless := idle .loops (by decide) (by decide)
  have unreferred := idle .references (by decide) (by decide)
  have stripped : Metadata.strip text = text := Grammar.remove_of_not_occursIn blockless
  have recorded : context.addAllMetadata (Metadata.entries text) = context := by
    rw [Metadata.entries_of_not_occursIn blockless]
    rfl
  have looped : Loop.unroll engine.registry context text = .silent text :=
    Grammar.substitute_of_not_occursIn loopless _
  have resolved : Reference.resolve engine.registry engine.filters context text = .silent text :=
    Grammar.substitute_of_not_occursIn unreferred _
  constructor
  · have undefined : ¬ Macro.opener <:+: Metadata.strip text :=
      stripped.symm ▸ settled.not_opener_infix .macros (by decide)
    have unincluded : ¬ Include.opener <:+: Metadata.strip text :=
      stripped.symm ▸ settled.not_opener_infix .includes (by decide)
    have staged := render_text_of_unexpanded enabled heeding files cache undefined unincluded
    simp only [recorded, stripped, looped, Emission.silent_text, settled.settle_text, resolved]
      at staged
    exact staged
  · rw [← recorded]
    exact render_context enabled heeding files cache text

/-- Rendering is idempotent on templates, where the values hold no opening brace in the context that
the first render leaves. Unless stages are not run at all, that render leaves nothing to do, and in
that context a second one leaves the text and the context as they are, whatever the files and the
cache have become. -/
theorem render_idempotent (files elsewhere : Files) (cache kept : Cache) {document : Text}
    (template : Template [.metadata, .loops, .conditionals, .references] document)
    (unbraced : engine.Unbraced (engine.render files cache context document).context) :
    let once := engine.render files cache context document
    let twice := engine.render elsewhere kept once.context once.text
    (engine.runs context = true → Settled engine.registry once.context once.text) ∧
      twice.text = once.text ∧ twice.context = once.context := by
  intro once twice
  cases running : engine.runs context with
  | false =>
      have still (files : Files) (cache : Cache) :
          (engine.render files cache context document).text = document ∧
            (engine.render files cache context document).context = context := by
        rw [render_of_not_runs running]
        exact ⟨rfl, rfl⟩
      have text : once.text = document := (still files cache).1
      have same : once.context = context := (still files cache).2
      have again : twice = engine.render elsewhere kept context document := by
        simp only [twice, text, same]
      refine ⟨fun runs => absurd runs Bool.false_ne_true, ?_⟩
      rw [again, text, same]
      exact still elsewhere kept
  | true =>
      simp only [runs, Bool.and_eq_true, Bool.not_eq_true'] at running
      have recorded : once.context = context.addAllMetadata (Metadata.entries document) :=
        render_context running.1 running.2 files cache document
      have heeding : once.context.ignoresSyntax = false := by
        rw [recorded]
        exact running.2
      have settled : Settled engine.registry once.context once.text := by
        rw [recorded]
        rw [render_context running.1 running.2] at unbraced
        exact settled_render running.1 running.2 files cache template unbraced
      exact ⟨fun _ => settled, render_of_settled running.1 heeding elsewhere kept settled⟩

/-- A block of metadata, a filtered reference and one to nowhere, a loop, and a conditional that
stays. -/
theorem render_idempotent_stuck :
    let values : Table Value := Table.ofList [("name".toList, .string "Ann".toList),
      ("tags".toList, .array [.string ['x'], .null, .string ['y']])]
    let loud : Filter := fun _ value => .ok (.string (value.text ++ ['!']))
    let engine := build { builtinProviders := false } (Registry.empty.addFixed "u".toList values)
      (Filters.empty.add "f".toList loud)
    let name := "{{u.name}}".toList
    let tags := Loop.header ⟨"u".toList, "tags".toList⟩ ['t'] ++
      ("<".toList ++ Loop.placeholder ['t'] ++ name ++ ">".toList) ++ Loop.closer
    let absent := Conditional.header true ⟨"u".toList, "absent".toList⟩ ++
      ("by ".toList ++ name) ++ Conditional.closer
    let block := Metadata.opener ++ ("[k: ".toList ++ name ++ "]".toList) ++ Metadata.closer
    let document := block ++ ['}', ' '] ++ "{{u.name || f}}".toList ++ "{{n.body}}".toList ++
      tags ++ absent
    let once := engine.render .none .empty default document
    let twice := engine.render .none .empty once.context once.text
    once.text = ['}', ' '] ++ "Ann!<xAnn><yAnn>".toList ++
        (Conditional.header true ⟨"u".toList, "absent".toList⟩ ++ "by Ann".toList ++
          Conditional.closer) ∧
      twice.text = once.text ∧ twice.context = once.context := by
  intro values loud engine name tags absent block document once twice
  have reads : Reference.Written name :=
    ⟨⟨⟨"u".toList, "name".toList⟩, none⟩, ⟨by decide, by decide⟩, [], rfl, rfl⟩
  have louder : Reference.Written "{{u.name || f}}".toList :=
    ⟨⟨⟨"u".toList, "name".toList⟩, some "f".toList⟩, ⟨by decide, by decide⟩, " || f".toList,
      ⟨by decide, [' '], [' '], [], by decide, by decide, by decide, rfl⟩, rfl⟩
  have nobody : Reference.Written "{{n.body}}".toList :=
    ⟨⟨⟨"n".toList, "body".toList⟩, none⟩, ⟨by decide, by decide⟩, [], rfl, rfl⟩
  have template : Template [.metadata, .loops, .conditionals, .references] document := by
    have single {stage : Stage} {written : Text} (directive : Directive stage written)
        (member : stage ∈ [Stage.metadata, .loops, .conditionals, .references]) :
        Template [.metadata, .loops, .conditionals, .references] written :=
      .of_piece ⟨stage, member, directive⟩
    have recorded : Directive .metadata block := .metadata (by decide +kernel)
    have loop : Directive .loops tags := by
      apply @Directive.loop ⟨⟨"u".toList, "tags".toList⟩, ['t'], _⟩ _
        ⟨⟨by decide, by decide⟩, by decide, rfl⟩
      exact (((Composed.of_plain (by decide)).append (.of_piece (Or.inr rfl))).append
        (.of_piece (Or.inl reads))).append (.of_plain (by decide))
    have conditional : Directive .conditionals absent := by
      apply @Directive.conditional ⟨true, ⟨"u".toList, "absent".toList⟩, _⟩ _
        ⟨⟨by decide, by decide⟩, rfl⟩
      exact (Composed.of_plain (by decide)).append (.of_piece reads)
    exact (((((single recorded (by decide)).append (.of_plain (by decide))).append
      (single (.reference louder) (by decide))).append
      (single (.reference nobody) (by decide))).append (single loop (by decide))).append
      (single conditional (by decide))
  have plain : ∀ value ∈ values.values, '{' ∉ value.text := by
    have held : values.values =
        [.string "Ann".toList, .array [.string ['x'], .null, .string ['y']]] := rfl
    rw [held]
    decide
  have unbraced : engine.Unbraced once.context := by
    apply Unbraced.of_fixed plain
    · intro other factory known
      have served : engine.registry.factory? other =
          if Text.lower other = Text.lower "u".toList then some (.fixed values) else none :=
        Registry.factory?_add .empty "u".toList other _
      rw [served] at known
      split at known
      · exact (Option.some.inj known).symm
      · cases known
    · intro filter field value result kept applied
      have found : engine.filters.find? filter =
          if Text.upper filter = Text.upper "f".toList then some loud else none :=
        Table.get?_insert ∅ (Text.upper "f".toList) (Text.upper filter) loud
      rw [Filters.apply, found] at applied
      by_cases same : Text.upper filter = Text.upper "f".toList
      · simp only [same, ↓reduceIte, loud, Except.ok.injEq] at applied
        rw [← applied]
        simpa [Value.text] using kept
      · rw [if_neg same] at applied
        cases applied
  exact ⟨by decide +kernel, (render_idempotent .none .none .empty .empty template unbraced).2⟩

end Engine

end Stencil
