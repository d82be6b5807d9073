import Stencil.Proofs.Loop.Unrolled
import Stencil.Proofs.Render.Unopened

set_option autoImplicit false

namespace Stencil

namespace Loop

/-- A loop that writes each element between brackets. -/
def listing (target : Target) (item : Text) : Text :=
  header target item ++ (['['] ++ placeholder item ++ [']']) ++ closer

/-- Texts between brackets, one after another. -/
def bracketed (texts : List Text) : Text := texts.flatMap fun text => ['['] ++ text ++ [']']

theorem spells_listing {target : Target} {item : Text} (formed : target.WellFormed)
    (run : Text.IsRun Text.isWord item) :
    Spells ⟨target, item, ['['] ++ placeholder item ++ [']']⟩ (listing target item) :=
  ⟨formed, run, rfl⟩

theorem elements_of_fixed {registry : Registry} {target : Target} {values : Table Value}
    {items : List Value} (single : isAll target.field = false)
    (serves : registry.factory? target.name = some (.fixed values))
    (held : values.get? target.field = some (.array items)) (context : Context) :
    elements registry context target = items := by
  have resolved : registry.resolve context target.name = some (.ofTable values) := by
    rw [Registry.resolve, serves]
    rfl
  have found : target.lookup registry context = .found (.array items) := by
    simp only [Target.lookup, Registry.lookup, resolved, Provider.fetch, Provider.ofTable,
      Provider.ofLookup, held]
    rfl
  simp only [elements, single, Bool.false_eq_true, ↓reduceIte, found, elementsOf]

theorem unrolled_listing (item : Text) (texts : List Text) :
    unrolled item (['['] ++ placeholder item ++ [']']) (texts.map .string) = bracketed texts := by
  have each (text : Text) :
      instantiate item (['['] ++ placeholder item ++ [']']) (.string text) =
        ['['] ++ text ++ [']'] :=
    instantiate_between (by decide) (by decide) (.string text)
  induction texts with
  | nil => rfl
  | cons text texts ih =>
      have split :
          unrolled item (['['] ++ placeholder item ++ [']']) ((text :: texts).map .string) =
            instantiate item (['['] ++ placeholder item ++ [']']) (.string text) ++
              unrolled item (['['] ++ placeholder item ++ [']']) (texts.map .string) := rfl
      rw [split, each, ih]
      rfl

theorem lacks_body {mark item : Text} (lacks : Text.Lacks ('{' :: mark) (placeholder item)) :
    Text.Lacks ('{' :: mark) (['['] ++ placeholder item ++ [']']) :=
  ((Text.lacks_of_not_mem (by decide)).append lacks).append (Text.lacks_of_not_mem (by decide))

theorem unroll_listing {registry : Registry} {target : Target} {item : Text} {values : Table Value}
    {texts : List Text} (formed : target.WellFormed) (run : Text.IsRun Text.isWord item)
    (single : isAll target.field = false)
    (serves : registry.factory? target.name = some (.fixed values))
    (held : values.get? target.field = some (.array (texts.map .string))) (context : Context) :
    (unroll registry context (listing target item)).text = bracketed texts := by
  have inside : Text.Lacks ['{', '/'] (['['] ++ placeholder item ++ [']']) :=
    lacks_body (lacks_closer_placeholder run)
  have unclosed : ¬ closer <:+: ['['] ++ placeholder item ++ [']'] := inside.not_infix_closer _
  have read (rest : Text) := readBlock_append (spells_listing formed run) unclosed rest
  have turned : block.Turns (fun _ block => emit registry context block) (listing target item) _ :=
    Grammar.turns_of_read read
  have looped : (unroll registry context (listing target item)).text = _ := turned.substitute_text
  rw [looped, emit, elements_of_fixed single serves held, unrolled_listing]

/-- Nothing before the loops finds anything in a listing. -/
theorem lacks_listing {target : Target} {item : Text} (formed : target.WellFormed)
    (run : Text.IsRun Text.isWord item) {stage : Stage} (notLoops : stage ≠ .loops)
    (notReferences : stage ≠ .references) :
    Text.Lacks stage.opener (listing target item) := by
  apply (spells_listing formed run).lacks_opener notLoops
  have inside := lacks_opener_placeholder run notReferences
  cases stage <;> exact lacks_body inside

theorem lacks_bracketed {mark : Text} {texts : List Text} (closes : ']' ∉ '{' :: mark)
    (absent : ∀ text ∈ texts, ¬ '{' :: mark <:+: text) :
    Text.Lacks ('{' :: mark) (bracketed texts) := by
  induction texts with
  | nil => exact Text.lacks_nil _
  | cons text texts ih =>
      have here : Text.Lacks ('{' :: mark) (text ++ [']']) :=
        Text.lacks_append_singleton closes (absent text (by simp))
      have behind := ih fun other member => absent other (by simp [member])
      have front : Text.Lacks ('{' :: mark) ['['] := Text.lacks_of_not_mem (by simp)
      have whole := (front.append here).append behind
      simpa [bracketed] using whole

end Loop

namespace Engine

open Loop (listing bracketed isAll)

/-- A listing of a static array comes out of the loop stage with each text of the array as it is. A
render then settles the conditionals and resolves the references of the whole, so that the texts
stay as they are if there are none, and there are none if no text holds an opener of either. -/
theorem render_listing {engine : Engine} {context : Context} {target : Target} {item : Text}
    {values : Table Value} {texts : List Text} (enabled : engine.config.enabled = true)
    (heeding : context.ignoresSyntax = false) (formed : target.WellFormed)
    (run : Text.IsRun Text.isWord item) (single : isAll target.field = false)
    (serves : engine.registry.factory? target.name = some (.fixed values))
    (held : values.get? target.field = some (.array (texts.map .string))) (files : Files)
    (cache : Cache) :
    let document := listing target item
    let listed := bracketed texts
    let after := engine.render files cache context document
    (Loop.unroll engine.registry context document).text = listed ∧
      after.text = (Reference.resolve engine.registry engine.filters context
        (Conditional.settle engine.registry context listed).text).text ∧
      (Conditional.block.occursIn listed = false → Reference.reference.occursIn listed = false →
        after.text = listed) ∧
      ((∀ text ∈ texts, ¬ Conditional.opener <:+: text ∧ ¬ Reference.opener <:+: text) →
        after.text = listed) := by
  intro document listed after
  have unrolled : (Loop.unroll engine.registry context document).text = listed :=
    Loop.unroll_listing formed run single serves held context
  have unopened (stage : Stage) (notLoops : stage ≠ .loops) (notReferences : stage ≠ .references) :
      ¬ stage.opener <:+: document := by
    have lacks := Loop.lacks_listing formed run notLoops notReferences
    cases stage <;> exact lacks.not_isInfix (by decide)
  have blockless : applies .metadata document = false :=
    not_applies_of_unopened .metadata (by decide) (unopened .metadata (by decide) (by decide))
  have stripped : Metadata.strip document = document := Grammar.remove_of_not_occursIn blockless
  have recorded : context.addAllMetadata (Metadata.entries document) = context := by
    rw [Metadata.entries_of_not_occursIn blockless]
    rfl
  have shown : after.text = (Reference.resolve engine.registry engine.filters context
      (Conditional.settle engine.registry context listed).text).text := by
    have undefined := unopened .macros (by decide) (by decide)
    have unincluded := unopened .includes (by decide) (by decide)
    rw [← stripped] at undefined unincluded
    have staged := render_text_of_unexpanded enabled heeding files cache undefined unincluded
    simp only [recorded, stripped] at staged
    rw [← unrolled]
    exact staged
  have verbatim (unconditional : Conditional.block.occursIn listed = false)
      (unreferred : Reference.reference.occursIn listed = false) : after.text = listed := by
    have settled : Conditional.settle engine.registry context listed = .silent listed :=
      Grammar.substitute_of_not_occursIn unconditional _
    have resolved : Reference.resolve engine.registry engine.filters context listed =
        .silent listed :=
      Grammar.substitute_of_not_occursIn unreferred _
    rw [shown, settled, Emission.silent_text, resolved, Emission.silent_text]
  refine ⟨unrolled, shown, verbatim, ?_⟩
  intro plain
  have unconditional : ¬ Conditional.opener <:+: listed :=
    (Loop.lacks_bracketed (by decide) fun text member => (plain text member).1).not_isInfix
      (by decide)
  have unreferred : ¬ Reference.opener <:+: listed :=
    (Loop.lacks_bracketed (by decide) fun text member => (plain text member).2).not_isInfix
      (by decide)
  exact verbatim (not_applies_of_unopened .conditionals (by decide) unconditional)
    (not_applies_of_unopened .references (by decide) unreferred)

/-- Texts with directives of the earlier stages in them, the loop's own placeholder among them. -/
theorem render_listing_loops :
    let texts := [Loop.opener ++ "user.tags -> t".toList ++ ['}'], Loop.placeholder "t".toList, [],
      Metadata.opener ++ "[k: v]".toList ++ Metadata.closer, "#m(\"\")#".toList]
    let values : Table Value := Table.empty.insert "tags".toList (.array (texts.map .string))
    let engine := build {} (Registry.empty.addFixed "user".toList values) .builtin
    let document := listing ⟨"user".toList, "tags".toList⟩ "t".toList
    (engine.render .none .empty default document).text = bracketed texts := by
  intro texts values engine document
  have formed : Target.WellFormed ⟨"user".toList, "tags".toList⟩ := ⟨by decide, by decide⟩
  have held : values.get? "tags".toList = some (.array (texts.map .string)) := rfl
  have serves : engine.registry.factory? "user".toList = some (.fixed values) := rfl
  obtain ⟨_, _, verbatim, _⟩ :=
    @render_listing engine default ⟨"user".toList, "tags".toList⟩ "t".toList values texts rfl rfl
      formed (by decide) (by decide) serves held .none .empty
  exact verbatim (by decide +kernel) (by decide +kernel)

/-- A render does not always leave the text of an element: a reference in it is resolved. -/
theorem not_render_listing_verbatim :
    ¬ ∀ (engine : Engine) (files : Files) (cache : Cache) (context : Context) (target : Target)
      (item : Text) (values : Table Value) (texts : List Text), engine.config.enabled = true →
        context.ignoresSyntax = false → target.WellFormed → Text.IsRun Text.isWord item →
        isAll target.field = false →
        engine.registry.factory? target.name = some (.fixed values) →
        values.get? target.field = some (.array (texts.map .string)) →
        (engine.render files cache context (listing target item)).text = bracketed texts := by
  intro verbatim
  let port : List (Text × Value) := [("port".toList, .number (.int 8080))]
  let sections : Table Value := Table.empty.insert "core".toList (.object port)
  let texts := [Reference.opener ++ "cfg.core@port".toList ++ Reference.closer]
  let values : Table Value := Table.empty.insert "tags".toList (.array (texts.map .string))
  let given := Registry.empty.addFixed "user".toList values
  let engine := build { sections := sections } given .builtin
  let target : Target := ⟨"user".toList, "tags".toList⟩
  have claimed := verbatim engine .none .empty default target "t".toList values texts rfl rfl
    ⟨by decide, by decide⟩ (by decide) (by decide) rfl rfl
  have rendered : (engine.render .none .empty default (listing target "t".toList)).text =
      "[8080]".toList := by
    decide +kernel
  have different : bracketed texts ≠ "[8080]".toList := by decide
  exact different (claimed.symm.trans rendered)

end Engine

end Stencil
