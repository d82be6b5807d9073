import Stencil.Proofs.Loop.Repetition
import Stencil.Proofs.Macro.Call

set_option autoImplicit false

namespace Stencil

namespace Loop

variable {item : Text}

theorem not_placeholder_prefix_of_ne {word : Text} (run : Text.IsRun Text.isWord item)
    (named : Text.IsRun Text.isWord word) (other : word ≠ item) (rest : Text) :
    ¬ placeholder item <+: placeholder word ++ rest := by
  rintro ⟨behind, whole⟩
  have inner : item ++ '}' :: '}' :: behind = word ++ '}' :: '}' :: rest := by
    simpa [placeholder] using whole
  have ended (text : Text) : Text.Stops Text.isWord ('}' :: text) := Text.stops_cons (by decide) _
  exact other (run.append_inj named (ended _) (ended _) inner).1.symm

/-- No placeholder of the item begins in that of another word, whatever follows. -/
theorem clear_placeholder {word : Text} (run : Text.IsRun Text.isWord item)
    (named : Text.IsRun Text.isWord word) (other : word ≠ item) (rest : Text) :
    (SpellsPlaceholder item).Clear (placeholder word) rest := by
  have unbraced : '{' ∉ word ++ ['}', '}'] := by
    have plain : '{' ∉ word := named.not_mem (by decide)
    simp [plain]
  exact clear_of_not_prefix run (by simp) unbraced
    (not_placeholder_prefix_of_ne run named other rest)

/-- The scan for all placeholders that replaces one word only is the scan for that one. -/
theorem fill_placeholder_eq_fill_slot (run : Text.IsRun Text.isWord item) (new body : Text) :
    ((Macro.placeholder.cut body).fill fun written word => if word = item then new else written) =
      ((slot item).cut body).fill fun _ _ => new := by
  induction body using Grammar.pieces.induct (g := Macro.placeholder) with
  | case1 => simp [Cut.fill]
  | case2 c text word rest found ih =>
      obtain ⟨_, ⟨named, rfl⟩, split⟩ := Macro.reads_placeholder.sound found
      have whole : c :: text = placeholder word ++ rest := split
      rw [whole] at found ⊢
      rw [Grammar.cut_of_read found]
      by_cases same : word = item
      · subst same
        rw [Grammar.cut_of_read (read_slot word rest)]
        simp only [Cut.fill, if_pos, ih]
      · have clear := clear_placeholder run named same rest
        rw [(reads_slot item).cut_gap_append clear, Cut.fill_prepend]
        simp only [Cut.fill, if_neg same, ih, List.nil_append]
  | case3 c text unread ih =>
      have absent := Macro.reads_placeholder.read_eq_none_iff.1 unread
      have unslotted : (slot item).read (c :: text) = none := by
        apply (reads_slot item).read_eq_none_iff.2
        rintro front behind whole ⟨_, same⟩
        exact absent front behind whole ⟨item, run, same⟩
      rw [Grammar.cut_of_not_read unread, Grammar.cut_of_not_read unslotted, Cut.fill_push,
        Cut.fill_push, ih]

/-- A macro of one parameter expands as the body of a loop with that item is unrolled. -/
theorem expand_eq_unrolled {name : Text} (run : Text.IsRun Text.isWord item) (value body : Text) :
    Macro.Definition.expand ⟨name, [item], body⟩ [value] = unrolled item body [.string value] := by
  have bound (written word : Text) : ((Macro.assign [item] [value]).get? word).getD written =
      if word = item then value else written := by
    have newest : (Macro.assign [item] [value]).get? word = [(item, value)].lookup word :=
      (Table.updated_insertAll ∅ [(item, value)]).get?_of_empty word
    rw [newest, lookup_cons_eq_ite]
    split <;> rfl
  calc
    Macro.Definition.expand ⟨name, [item], body⟩ [value] =
        (Macro.placeholder.cut body).fill fun written word =>
          if word = item then value else written := by
      simp only [Macro.expand_eq_fill, bound]
    _ = ((slot item).cut body).fill fun _ _ => value := fill_placeholder_eq_fill_slot run value body
    _ = unrolled item body [.string value] := by
      simp [unrolled, Value.isNull, instantiate_eq_fill, Value.text]

/-- A macro with one parameter and a call of it with one argument become the text of a loop with the
parameter as its item over the argument as its one element. -/
theorem expand_eq_unroll {name body value : Text} {registry : Registry} {context : Context}
    {target : Target} (named : Text.IsRun Text.isWord name) (run : Text.IsRun Text.isWord item)
    (undefined : ¬ Macro.closer <:+: body) (unclosed : ¬ closer <:+: body)
    (unquoted : '"' ∉ value) (plain : ¬ Macro.opener <:+: value) (formed : target.WellFormed)
    (single : target.field.map Char.toLower ≠ ['a', 'l', 'l'])
    (found : registry.Finds context target (.array [.string value])) :
    (Macro.expand (Macro.definitionText name (' ' :: item) body ++
        (['#'] ++ name ++ ['(', '"'] ++ value ++ ['"', ')', '#']))).text =
      (unroll registry context (header target item ++ body ++ closer)).text := by
  let written := header target item ++ body ++ closer
  let call := ['#'] ++ name ++ ['(', '"'] ++ value ++ ['"', ')', '#']
  have listed : Macro.SpellsParameters [item] (' ' :: item) := by
    have spelled : Macro.SpellsParameters [item] ([' '] ++ item ++ []) :=
      .more (by decide) (by simp) run (.none (by decide))
    simpa using spelled
  have called : Macro.SpellsUsage ⟨name, [value]⟩ call := by
    have quoted : Macro.SpellsArguments [value] ([] ++ '"' :: value ++ '"' :: []) :=
      .more (by decide) unquoted (.none (by decide))
    exact ⟨named, [], _, by decide, quoted, by simp [call]⟩
  have expanded := Macro.expand_definition_call (listed.spells named body) undefined called
    (by simpa using plain)
  have looped : Spells ⟨target, item, body⟩ written := ⟨formed, run, rfl⟩
  have runs : [.string value] = elements registry context target :=
    (RunsOver.items single found).eq_elements
  have turned : block.Turns (fun _ block => emit registry context block) written _ :=
    Grammar.turns_of_read (readBlock_append looped unclosed)
  have done : (unroll registry context written).text = _ := turned.substitute_text
  calc
    (Macro.expand (Macro.definitionText name (' ' :: item) body ++ call)).text =
        Macro.Definition.expand ⟨name, [item], body⟩ [value] := by
      rw [expanded, Emission.silent_text]
    _ = unrolled item body [.string value] := expand_eq_unrolled run value body
    _ = (unroll registry context written).text := by
      rw [done, emit, runs]

/-- A body with braces around a placeholder, one begun within another and one of another word, and a
value that is the placeholder and a call. -/
theorem expand_eq_unroll_nested :
    let behind := "{{xx}}{{ x }}".toList
    let body := "{{{x}}}".toList ++ '{' :: '{' :: 'x' :: (placeholder ['x'] ++ behind)
    let value := "{{x}}#m()#".toList
    let values := Table.ofList [("tags".toList, .array [.string value])]
    let registry := Registry.empty.addFixed "user".toList values
    let target : Target := ⟨"user".toList, "tags".toList⟩
    let expanded := (Macro.expand (Macro.definitionText ['m'] [' ', 'x'] body ++
      (['#'] ++ ['m'] ++ ['(', '"'] ++ value ++ ['"', ')', '#']))).text
    expanded = (unroll registry default (header target ['x'] ++ body ++ closer)).text ∧
      expanded = '{' :: value ++ '}' :: '{' :: '{' :: 'x' :: (value ++ behind) := by
  intro behind body value values registry target expanded
  have found : registry.Finds default target (.array [.string value]) :=
    ⟨.ofTable values, rfl, rfl, rfl⟩
  refine ⟨?_, by decide +kernel⟩
  exact expand_eq_unroll (by decide) (by decide) (by decide +kernel) (by decide +kernel) (by decide)
    (by decide +kernel) ⟨by decide, by decide⟩ (by decide) found

end Loop

end Stencil
