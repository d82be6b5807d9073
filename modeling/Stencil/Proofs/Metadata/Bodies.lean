import Stencil.Proofs.Macro.Header
import Stencil.Proofs.Metadata.Record
import Stencil.Proofs.Scan.Composed

set_option autoImplicit false

namespace Stencil

namespace Metadata

/-- Texts in which every block that begins also ends. -/
inductive Closed : Text → Prop where
  | last {gap : Text} (unopened : ¬ opener <:+: gap) : Closed gap
  | next {gap body rest : Text} (unopened : ¬ opener <:+: gap) (unclosed : ¬ closer <:+: body)
      (others : Closed rest) : Closed (gap ++ (opener ++ body ++ closer) ++ rest)

/-- No opener begins in a text without one and ends behind it, unless a brace and a colon follow. -/
theorem clear_brace {gap : Text} (unopened : ¬ opener <:+: gap) {c : Char} (other : c ≠ ':')
    (rest : Text) : Spelling.Clear Spells gap ('{' :: c :: rest) := by
  intro before inside whole nonempty
  apply beginsWith_opener.absent
  intro begins
  -- With less than an opener's length of the gap, the brace lies inside the opener.
  match inside with
  | [] => exact nonempty rfl
  | [_] => simp [opener, other.symm] at begins
  | [_, _] => simp [opener] at begins
  | first :: second :: third :: more =>
      simp only [opener, List.cons_append, List.cons_prefix_cons, List.nil_prefix,
        and_true] at begins
      obtain ⟨rfl, rfl, rfl⟩ := begins
      exact unopened ⟨before, more, by rw [whole]; simp [opener]⟩

theorem cut_of_unopened {text : Text} (unopened : ¬ opener <:+: text) :
    block.cut text = .last text :=
  Grammar.cut_of_not_occursIn (reads_block.not_occursIn_of_unopened beginsWith_opener unopened)

theorem cut_gap_block {gap body : Text} (unopened : ¬ opener <:+: gap)
    (unclosed : ¬ closer <:+: body) (rest : Text) :
    block.cut (gap ++ (opener ++ body ++ closer) ++ rest) =
      .next gap (opener ++ body ++ closer) body (block.cut rest) := by
  have read : block.read (opener ++ body ++ closer ++ rest) = some (body, rest) :=
    readBlock_append unclosed rest
  have clear : Spelling.Clear Spells gap (opener ++ body ++ closer ++ rest) :=
    clear_brace unopened (by decide) _
  rw [List.append_assoc, reads_block.cut_gap_append clear, Grammar.cut_of_read read]
  simp [Cut.prepend]

/-- A text whose blocks are closed and what follows it are scanned apart. -/
theorem Closed.cut_append {text : Text} (closed : Closed text) {c : Char} (other : c ≠ ':')
    (rest : Text) :
    block.cut (text ++ '{' :: c :: rest) =
      (block.cut text).append (block.cut ('{' :: c :: rest)) := by
  induction closed with
  | last unopened =>
      rw [reads_block.cut_gap_append (clear_brace unopened other rest), cut_of_unopened unopened]
      rfl
  | next unopened unclosed others ih =>
      rw [List.append_assoc, cut_gap_block unopened unclosed, cut_gap_block unopened unclosed, ih]
      rfl

theorem strip_eq_gaps (text : Text) : strip text = (block.cut text).gaps :=
  Grammar.remove_eq_gaps block text

theorem entries_of_unopened {text : Text} (unopened : ¬ opener <:+: text) : entries text = [] := by
  rw [entries_eq, cut_of_unopened unopened]
  rfl

theorem lacks_definitionHeader {name list : Text} (heads : Macro.Heads name list) :
    Text.Lacks opener (Macro.definitionHeader name list) := by
  have plain := heads.not_mem_brace
  simp only [List.mem_append, not_or] at plain
  exact Text.lacks_brace (by simp) (by simp [plain])

theorem lacks_definitionCloser : Text.Lacks opener Macro.closer :=
  Text.lacks_brace (by simp) (by decide)

/-- The header of a definition holds no part of a block. -/
theorem cut_definition {front name list : Text} (unopened : ¬ opener <:+: front)
    (heads : Macro.Heads name list) (body rest : Text) :
    block.cut (front ++ Macro.definitionText name list body ++ rest) =
      (block.cut (body ++ Macro.closer ++ rest)).prepend
        (front ++ Macro.definitionHeader name list) := by
  let behind := body ++ Macro.closer ++ rest
  have ahead : Spelling.Clear Spells front (Macro.definitionHeader name list ++ behind) :=
    clear_brace unopened (c := '#') (by decide) _
  have header : Spelling.Clear Spells (Macro.definitionHeader name list) behind :=
    beginsWith_opener.clear (lacks_definitionHeader heads) behind
  have regroup : front ++ Macro.definitionText name list body ++ rest =
      front ++ Macro.definitionHeader name list ++ behind := by
    simp [behind, Macro.definitionText]
  rw [regroup, reads_block.cut_gap_append (ahead.append header)]

/-- A body whose blocks are closed and what follows the definition are scanned apart. -/
theorem Closed.cut_body {body : Text} (closed : Closed body) (rest : Text) :
    block.cut (body ++ Macro.closer ++ rest) =
      (block.cut body).append ((block.cut rest).prepend Macro.closer) := by
  have apart : block.cut (body ++ (Macro.closer ++ rest)) =
      (block.cut body).append (block.cut (Macro.closer ++ rest)) :=
    closed.cut_append (c := '/') (by decide) _
  rw [List.append_assoc, apart,
    reads_block.cut_gap_append (beginsWith_opener.clear lacks_definitionCloser rest)]

/-- A block that a body leaves open ends with the first closer behind the definition. -/
theorem Closed.cut_open {before inner more : Text} (closed : Closed before)
    (unclosed : ¬ closer <:+: inner ++ Macro.closer ++ more) (rest : Text) :
    block.cut (before ++ opener ++ inner ++ Macro.closer ++ (more ++ closer ++ rest)) =
      (block.cut before).append
        (.next [] (opener ++ (inner ++ Macro.closer ++ more) ++ closer)
          (inner ++ Macro.closer ++ more) (block.cut rest)) := by
  let body := inner ++ Macro.closer ++ more
  have regroup : before ++ opener ++ inner ++ Macro.closer ++ (more ++ closer ++ rest) =
      before ++ (opener ++ body ++ closer ++ rest) := by
    simp [body]
  have apart : block.cut (before ++ (opener ++ body ++ closer ++ rest)) =
      (block.cut before).append (block.cut (opener ++ body ++ closer ++ rest)) :=
    closed.cut_append (c := '{') (by decide) _
  have here : block.cut (opener ++ body ++ closer ++ rest) =
      .next [] (opener ++ body ++ closer) body (block.cut rest) :=
    Grammar.cut_of_read (readBlock_append unclosed rest)
  rw [regroup, apart, here]

theorem Closed.entries_body {body : Text} (closed : Closed body) (rest : Text) :
    entries (body ++ Macro.closer ++ rest) = entries body ++ entries rest := by
  rw [entries_eq, closed.cut_body, Cut.parts_append, Cut.parts_prepend, List.flatMap_append,
    ← entries_eq, ← entries_eq]

theorem Closed.entries_open {before inner more : Text} (closed : Closed before)
    (unclosed : ¬ closer <:+: inner ++ Macro.closer ++ more) (rest : Text) :
    entries (before ++ opener ++ inner ++ Macro.closer ++ (more ++ closer ++ rest)) =
      entries before ++ entriesOf (inner ++ Macro.closer ++ more) ++ entries rest := by
  rw [entries_eq, closed.cut_open unclosed, Cut.parts_append, List.flatMap_append, ← entries_eq,
    List.append_assoc (entries before), entries_eq rest]
  rfl

end Metadata

namespace Engine

/-- The metadata after a render of a document with a definition in it. -/
def recorded (engine : Engine) (files : Files) (cache : Cache) (context : Context)
    (front name list body rest : Text) : Table Text :=
  (engine.render files cache context
    (front ++ Macro.definitionText name list body ++ rest)).context.metadata

/-- Behind a text that opens no block, the blocks in the body of a definition are recorded like
those behind it, and taken out of the body. A block that the body leaves open goes on through the
closer of the definition to the first closer of a block. Two bodies record the same for every
request exactly if the entries from there on make the same table, which they do for all bodies that
open no block. -/
theorem render_records_bodies {engine : Engine} (enabled : engine.config.enabled = true)
    (files : Files) (cache : Cache) {front name list : Text}
    (unopened : ¬ Metadata.opener <:+: front) (heads : Macro.Heads name list) :
    let after (context : Context) (body rest : Text) :=
      engine.recorded files cache context front name list body rest
    (∀ (context : Context) body rest, context.ignoresSyntax = false → Metadata.Closed body →
      context.metadata.Updated (Metadata.entries body ++ Metadata.entries rest)
          (after context body rest) ∧
        Metadata.strip (front ++ Macro.definitionText name list body ++ rest) =
          front ++ Macro.definitionText name list (Metadata.strip body) ++ Metadata.strip rest) ∧
    (∀ (context : Context) before inner more rest, context.ignoresSyntax = false →
      Metadata.Closed before → ¬ Metadata.closer <:+: inner ++ Macro.closer ++ more →
        context.metadata.Updated
          (Metadata.entries before ++ Metadata.entriesOf (inner ++ Macro.closer ++ more) ++
            Metadata.entries rest)
          (after context (before ++ Metadata.opener ++ inner)
            (more ++ Metadata.closer ++ rest))) ∧
    (∀ body other rest,
      (∀ context : Context, context.ignoresSyntax = false →
          after context body rest = after context other rest) ↔
        Table.ofList (Metadata.entries (body ++ Macro.closer ++ rest)) =
          Table.ofList (Metadata.entries (other ++ Macro.closer ++ rest))) ∧
    ∀ (context : Context) body other rest, context.ignoresSyntax = false →
      ¬ Metadata.opener <:+: body → ¬ Metadata.opener <:+: other →
        after context body rest = after context other rest := by
  intro after
  have writes (context : Context) (body rest : Text) (heeding : context.ignoresSyntax = false) :
      after context body rest =
        context.metadata.insertAll (Metadata.entries (body ++ Macro.closer ++ rest)) := by
    simp only [after, recorded]
    rw [render_context enabled heeding, Metadata.entries_eq,
      Metadata.cut_definition unopened heads, Cut.parts_prepend, ← Metadata.entries_eq]
    rfl
  refine ⟨?_, ?_, ?_, ?_⟩
  · intro context body rest heeding closed
    refine ⟨?_, ?_⟩
    · rw [writes context body rest heeding, closed.entries_body]
      exact context.metadata.updated_insertAll _
    · rw [Metadata.strip_eq_gaps, Metadata.cut_definition unopened heads, Cut.gaps_prepend,
        closed.cut_body, Cut.gaps_append, Cut.gaps_prepend, ← Metadata.strip_eq_gaps,
        ← Metadata.strip_eq_gaps]
      simp only [Macro.definitionText, List.append_assoc]
  · intro context before inner more rest heeding closed unclosed
    rw [writes _ _ _ heeding, closed.entries_open unclosed]
    exact context.metadata.updated_insertAll _
  · intro body other rest
    constructor
    · intro same
      have fresh := same default rfl
      rw [writes _ _ _ rfl, writes _ _ _ rfl] at fresh
      exact fresh
    · intro same context heeding
      rw [writes _ _ _ heeding, writes _ _ _ heeding]
      exact Table.insertAll_congr same context.metadata
  · intro context body other rest heeding plain blank
    rw [writes _ _ _ heeding, writes _ _ _ heeding, (Metadata.Closed.last plain).entries_body,
      (Metadata.Closed.last blank).entries_body, Metadata.entries_of_unopened plain,
      Metadata.entries_of_unopened blank]

/-- A key in a body and behind it, and a block that a body leaves open. -/
theorem render_records_bodies_across :
    let after := standard.recorded .none .empty default ['a', '{'] ['m'] " p".toList
    let first := Metadata.opener ++ "[k: 1]".toList ++ Metadata.closer
    let second := Metadata.opener ++ "[k: 2]".toList ++ Metadata.closer
    (∅ : Table Text).Updated [(['k'], ['1']), (['k'], ['2'])] (after first second) ∧
      (∅ : Table Text).Updated [(['k'], ['1']), (['j'], ['2'])]
        (after (Metadata.opener ++ "[k: 1]".toList) ("[j: 2]".toList ++ Metadata.closer)) ∧
      after ['x'] second = after ['y'] second := by
  intro after first second
  have heads : Macro.Heads ['m'] " p".toList :=
    ⟨by decide, List.all_eq_true.1 (by decide), Text.stops_cons (by decide) ['p']⟩
  have closed : Metadata.Closed first :=
    @Metadata.Closed.next [] "[k: 1]".toList [] (by decide) (by decide +kernel) (.last (by decide))
  have nothing : Metadata.Closed [] := .last (by decide)
  obtain ⟨inside, across, _, plain⟩ :=
    @render_records_bodies standard rfl .none .empty ['a', '{'] _ _ (by decide) heads
  have one := (inside default first second rfl closed).1
  have two := across default [] "[k: 1]".toList "[j: 2]".toList [] rfl nothing
    (by decide +kernel)
  have listed : Metadata.entries first ++ Metadata.entries second =
      [(['k'], ['1']), (['k'], ['2'])] := by decide +kernel
  have gathered : Metadata.entries [] ++
      Metadata.entriesOf ("[k: 1]".toList ++ Macro.closer ++ "[j: 2]".toList) ++
        Metadata.entries [] = [(['k'], ['1']), (['j'], ['2'])] := by decide +kernel
  rw [listed] at one
  rw [gathered] at two
  exact ⟨one, two, plain default ['x'] ['y'] second rfl (by decide) (by decide)⟩

/-- Bodies do not leave the metadata alone. -/
theorem not_recorded_of_bodies :
    ¬ ∀ (engine : Engine) (files : Files) (cache : Cache) (context : Context)
      (front name list body other rest : Text),
      engine.config.enabled = true → context.ignoresSyntax = false →
        ¬ Metadata.opener <:+: front → ¬ Macro.opener <:+: front → Macro.Heads name list →
          ¬ Macro.closer <:+: body → ¬ Macro.closer <:+: other →
            engine.recorded files cache context front name list body rest =
              engine.recorded files cache context front name list other rest := by
  intro blind
  let body := Metadata.opener ++ "[k: v]".toList ++ Metadata.closer
  have heads : Macro.Heads ['m'] [] := ⟨by decide, by simp, by simp [Text.Stops]⟩
  have same : standard.recorded .none .empty default [] ['m'] [] body [] =
      standard.recorded .none .empty default [] ['m'] [] [] [] :=
    blind standard .none .empty default [] ['m'] [] body [] [] rfl rfl (by decide) (by decide) heads
      (by decide +kernel) (by decide)
  revert same
  decide +kernel

end Engine

end Stencil
