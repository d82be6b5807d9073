import Stencil.Proofs.Loop.Unrolled
import Stencil.Proofs.Warnings.Causes

set_option autoImplicit false

namespace Stencil

namespace Loop

/-- What a loop runs over: all values of the provider if the field is `ALL` in any letters, else the
items of the field's array, and nothing if there is no array to be had. -/
inductive RunsOver (registry : Registry) (context : Context) (target : Target) :
    List Value → Prop where
  | unprovided (declined : registry.resolve context target.name = none) :
      RunsOver registry context target []
  | all {provider : Provider} (resolved : registry.resolve context target.name = some provider)
      (every : target.field.map Char.toLower = ['a', 'l', 'l']) :
      RunsOver registry context target provider.all.values
  | missing {provider : Provider} (resolved : registry.resolve context target.name = some provider)
      (single : target.field.map Char.toLower ≠ ['a', 'l', 'l'])
      (absent : provider.contains target.field = false) : RunsOver registry context target []
  | failing {error : ProviderError} (single : target.field.map Char.toLower ≠ ['a', 'l', 'l'])
      (failed : registry.Fails context target error) : RunsOver registry context target []
  | scalar {value : Value} (single : target.field.map Char.toLower ≠ ['a', 'l', 'l'])
      (found : registry.Finds context target value) (plain : ∀ items, value ≠ .array items) :
      RunsOver registry context target []
  | items {items : List Value} (single : target.field.map Char.toLower ≠ ['a', 'l', 'l'])
      (found : registry.Finds context target (.array items)) :
      RunsOver registry context target items

theorem isAll_iff {field : Text} :
    isAll field = true ↔ field.map Char.toLower = ['a', 'l', 'l'] :=
  Text.sameLetters_iff

theorem isAll_eq_false_iff {field : Text} :
    isAll field = false ↔ field.map Char.toLower ≠ ['a', 'l', 'l'] := by
  rw [← Bool.not_eq_true, isAll_iff]

variable {registry : Registry} {context : Context} {target : Target} {item body : Text}

theorem RunsOver.eq_elements {items : List Value} (runs : RunsOver registry context target items) :
    items = elements registry context target := by
  cases runs with
  | unprovided declined =>
      simp [elements, declined, Target.lookup, Registry.lookup, elementsOf]
  | all resolved every => simp [elements, isAll_iff.2 every, resolved]
  | missing resolved single absent =>
      simp [elements, isAll_eq_false_iff.2 single, Target.lookup, Registry.lookup, resolved,
        Provider.fetch, absent, elementsOf]
  | failing single failed =>
      simp [elements, isAll_eq_false_iff.2 single, Target.lookup_eq_failed_iff.2 failed, elementsOf]
  | @scalar value single found plain =>
      rw [elements, isAll_eq_false_iff.2 single, Target.lookup_eq_found_iff.2 found]
      cases value with
      | array items => exact absurd rfl (plain items)
      | _ => rfl
  | items single found =>
      simp [elements, isAll_eq_false_iff.2 single, Target.lookup_eq_found_iff.2 found, elementsOf]

theorem exists_runsOver (registry : Registry) (context : Context) (target : Target) :
    ∃ items, RunsOver registry context target items := by
  cases resolved : registry.resolve context target.name with
  | none => exact ⟨_, .unprovided resolved⟩
  | some provider =>
      by_cases every : target.field.map Char.toLower = ['a', 'l', 'l']
      · exact ⟨_, .all resolved every⟩
      · cases held : provider.contains target.field with
        | false => exact ⟨_, .missing resolved every held⟩
        | true =>
            cases got : provider.get target.field with
            | error error => exact ⟨_, .failing every ⟨provider, resolved, held, got⟩⟩
            | ok value =>
                have found : registry.Finds context target value := ⟨provider, resolved, held, got⟩
                cases value with
                | array items => exact ⟨_, .items every found⟩
                | _ => exact ⟨_, .scalar every found (by simp)⟩

theorem instantiate_eq_fill (item body : Text) (element : Value) :
    instantiate item body element = ((slot item).cut body).fill fun _ _ => element.text := by
  rw [instantiate_eq, Grammar.substitute_eq_rewrite, Cut.rewrite_silent, Emission.silent_text]

/-- A loop begins in no text without a header, whatever header comes behind. -/
theorem clear_of_unheaded {front : Text}
    (unheaded : ∀ (target : Target) item, target.WellFormed → Text.IsRun Text.isWord item →
      ¬ header target item <:+: front) (rest : Text) :
    Spelling.Clear Spells front ('{' :: rest) := by
  refine @Spelling.clear_of_marked _ Spells '{' front ('{' :: rest) ?_ (by simp)
  rintro block written ⟨formed, run, rfl⟩
  have target := formed.not_mem_brace
  have item : '{' ∉ block.item := run.not_mem (by decide)
  refine ⟨(header block.target block.item).tail, ?_, ?_, unheaded _ _ formed run⟩
  · simp [header, opener, arrow, target, item]
  · exact ⟨block.body ++ closer, by simp [header, opener]⟩

theorem unroll_gap_append (registry : Registry) (context : Context) {gap rest : Text}
    (clear : Spelling.Clear Spells gap rest) :
    unroll registry context (gap ++ rest) = .silent gap ++ unroll registry context rest :=
  reads_block.substitute_gap_append clear _

theorem unroll_written_append (registry : Registry) (context : Context) {block : Block}
    {written : Text} (spelled : Spells block written) (unclosed : ¬ closer <:+: block.body)
    (rest : Text) :
    unroll registry context (written ++ rest) =
      emit registry context block ++ unroll registry context rest := by
  have read : Loop.block.read (written ++ rest) = some (block, rest) :=
    readBlock_append spelled unclosed rest
  exact Grammar.substitute_of_read read _

/-- Behind a text without a header a loop becomes its body once for each element that is not null,
in order. In the body, cut at the item's placeholders in the one way there is, the placeholders
become the text of the element and all else stays. Elements of two lists one behind the other are
gone through one list behind the other. -/
theorem unroll_block {front : Text}
    (unheaded : ∀ (target : Target) item, target.WellFormed → Text.IsRun Text.isWord item →
      ¬ header target item <:+: front)
    (formed : target.WellFormed) (run : Text.IsRun Text.isWord item)
    (unclosed : ¬ closer <:+: body) (registry : Registry) (context : Context) (rest : Text) :
    ∃ cut, Cut.Only (SpellsPlaceholder item) body cut ∧
      let copies (elements : List Value) : Text :=
        (elements.filter fun element => !element.isNull).flatMap fun element =>
          cut.fill fun _ _ => element.text
      (∃ elements, RunsOver registry context target elements) ∧
      (∀ elements, RunsOver registry context target elements →
        (unroll registry context (front ++ header target item ++ body ++ closer ++ rest)).text =
          front ++ copies elements ++ (unroll registry context rest).text) ∧
      ∀ first second, copies (first ++ second) = copies first ++ copies second := by
  refine ⟨(slot item).cut body, (reads_slot item).only_cut body, exists_runsOver _ _ _, ?_, ?_⟩
  · intro elements runs
    let written := header target item ++ body ++ closer
    have spelled : Spells ⟨target, item, body⟩ written := ⟨formed, run, rfl⟩
    have clear : Spelling.Clear Spells front (written ++ rest) := clear_of_unheaded unheaded _
    have regroup : front ++ header target item ++ body ++ closer ++ rest =
        front ++ (written ++ rest) := by simp [written]
    have filled : instantiate item body =
        fun element => ((slot item).cut body).fill fun _ _ => element.text :=
      funext (instantiate_eq_fill item body)
    rw [regroup, unroll_gap_append registry context clear,
      unroll_written_append registry context spelled unclosed, runs.eq_elements]
    simp only [Emission.append_text, Emission.silent_text, emit, unrolled, filled,
      List.append_assoc]
  · intro first second
    simp only [List.filter_append, List.flatMap_append]

/-- A loop behind an unfinished header, with a header in its body, over an element that is the
item's placeholder, a null one and one that is no string. -/
theorem unroll_block_unfinished :
    let elements := [.string "{{t}}".toList, .null, .bool true]
    let values := Table.ofList [("tags".toList, .array elements)]
    let registry := Registry.empty.addFixed "user".toList values
    let target : Target := ⟨"User".toList, "tags".toList⟩
    let front := '{' :: "#foreach user.tags -> t".toList
    let body := '{' :: placeholder ['t'] ++ header target ['u']
    let unrolled :=
      unroll registry default (front ++ header target ['t'] ++ body ++ closer ++ closer)
    (∃ cut, Cut.Only (SpellsPlaceholder ['t']) body cut ∧
      unrolled.text = front ++ ((cut.fill fun _ _ => "{{t}}".toList) ++
        (cut.fill fun _ _ => "true".toList)) ++ closer) ∧
      unrolled.text = front ++ ('{' :: placeholder ['t'] ++ header target ['u'] ++
        ('{' :: "true".toList ++ header target ['u'])) ++ closer := by
  intro elements values registry target front body unrolled
  have unheaded (other : Target) (item : Text) (_ : other.WellFormed)
      (_ : Text.IsRun Text.isWord item) : ¬ header other item <:+: front := by
    intro inside
    have closing : '}' ∈ front := inside.subset (by simp [header])
    exact absurd closing (by decide)
  have found : registry.Finds default target (.array elements) := ⟨.ofTable values, rfl, rfl, rfl⟩
  obtain ⟨cut, only, _, copied, _⟩ := @unroll_block target ['t'] body front unheaded
    ⟨by decide, by decide⟩ (by decide) (by decide +kernel) registry default closer
  refine ⟨⟨cut, only, ?_⟩, by decide +kernel⟩
  have shown := copied elements (.items (by decide) found)
  have last : (unroll registry default closer).text = closer := by decide +kernel
  rw [last] at shown
  simpa [elements, unrolled, Value.isNull, Value.text, Value.json] using shown

end Loop

end Stencil
