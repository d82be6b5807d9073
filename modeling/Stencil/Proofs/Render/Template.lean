import Stencil.Proofs.Loop.Unrolled
import Stencil.Proofs.Render.Unopened

/-
Templates: documents put together from texts without an opening brace and from whole directives. A
stage replaces its own directives and copies the others, so that a template stays one until nothing
is left of it but conditionals without a value.
-/

set_option autoImplicit false

namespace Stencil

/-- A reference to some field, with a filter or without one. -/
def Reference.Written (written : Text) : Prop := ∃ reference, Reference.Spells reference written

namespace Conditional

/-- A conditional whose target has no value, with a body put together from pieces of a kind. -/
def Stuck (registry : Registry) (context : Context) (kind : Text → Prop) (written : Text) : Prop :=
  ∃ block, Spells block written ∧
    (∀ value, block.target.lookup registry context ≠ .found value) ∧ Composed kind block.body

end Conditional

/-- A directive of a stage as it stands in a template. -/
inductive Directive : Stage → Text → Prop where
  | metadata {body : Text} (unclosed : ¬ Metadata.closer <:+: body) :
      Directive .metadata (Metadata.opener ++ body ++ Metadata.closer)
  | loop {block : Loop.Block} {written : Text} (spelled : Loop.Spells block written)
      (inside : Composed
        (fun piece => Reference.Written piece ∨ piece = Loop.placeholder block.item) block.body) :
      Directive .loops written
  | conditional {block : Conditional.Block} {written : Text}
      (spelled : Conditional.Spells block written)
      (inside : Composed Reference.Written block.body) : Directive .conditionals written
  | reference {written : Text} (reads : Reference.Written written) : Directive .references written

/-- A text put together from texts without an opening brace and from directives of some stages. -/
def Template (stages : List Stage) : Text → Prop :=
  Composed fun written => ∃ stage ∈ stages, Directive stage written

theorem Reference.Written.lacks_opener {written : Text} (reads : Reference.Written written)
    {stage : Stage} (other : stage ≠ .references) : Text.Lacks stage.opener written := by
  obtain ⟨reference, spelled⟩ := reads
  exact spelled.lacks_opener other

/-- A directive holds no opener but those of its stage and of the references, unless it is a
metadata block. -/
theorem Directive.lacks_opener {stage other : Stage} {written : Text}
    (directive : Directive stage written) (bounded : stage ≠ .metadata) (apart : other ≠ stage)
    (notReferences : other ≠ .references) : Text.Lacks other.opener written := by
  cases directive with
  | metadata unclosed => exact absurd rfl bounded
  | @loop block _ spelled inside =>
      apply spelled.lacks_opener apart
      apply inside.lacks_opener
      intro piece made
      rcases made with reads | same
      · exact reads.lacks_opener notReferences
      · rw [same]
        exact Loop.lacks_opener_placeholder spelled.2.1 notReferences
  | conditional spelled inside =>
      apply spelled.lacks_opener apart
      exact inside.lacks_opener fun _ reads => reads.lacks_opener notReferences
  | reference reads => exact reads.lacks_opener notReferences

namespace Template

variable {stages : List Stage} {text : Text}

theorem lacks_opener (template : Template stages text) (stage : Stage)
    (bounded : .metadata ∉ stages) (apart : stage ∉ stages) (notReferences : stage ≠ .references) :
    Text.Lacks stage.opener text := by
  apply Composed.lacks_opener _ template
  rintro written ⟨other, member, directive⟩
  apply directive.lacks_opener _ _ notReferences
  · exact fun same => bounded (same ▸ member)
  · exact fun same => apart (same ▸ member)

/-- A scan for the directives of one stage replaces these, piece by piece, and copies those of the
other stages. -/
theorem substitute (stage : Stage) {α : Type} {g : Grammar α} {spells : Spelling α}
    {replace : Text → α → Emission} {result : Text → Prop} (reads : g.Reads spells)
    (begins : spells.BeginsWith stage.opener) (bounded : .metadata ∉ stages)
    (apart : stage ∉ stages) (notReferences : stage ≠ .references)
    (own : ∀ written, Directive stage written →
      ∃ out, Composed result out ∧ g.Turns replace written out)
    (others : ∀ other ∈ stages, ∀ written, Directive other written → result written)
    (template : Template (stage :: stages) text) :
    Composed result (g.substitute replace text).text := by
  have each : ∀ written, (∃ other ∈ stage :: stages, Directive other written) →
      ∃ out, Composed result out ∧ g.Turns replace written out := by
    rintro written ⟨other, member, directive⟩
    rcases List.mem_cons.1 member with same | member
    · exact own written (same ▸ directive)
    · have lacks : Text.Lacks stage.opener written := by
        apply directive.lacks_opener _ _ notReferences
        · exact fun same => bounded (same ▸ member)
        · exact fun same => apart (same ▸ member)
      exact ⟨written, .of_piece (others other member written directive),
        reads.turns_of_lacks begins lacks⟩
  obtain ⟨more, same⟩ := stage.opener_eq
  rw [same] at begins
  obtain ⟨out, made, turned⟩ := Composed.turns reads begins each template
  rw [turned.substitute_text]
  exact made

theorem strip (template : Template [.metadata, .loops, .conditionals, .references] text) :
    Template [.loops, .conditionals, .references] (Metadata.strip text) := by
  apply template.substitute .metadata Metadata.reads_block Metadata.beginsWith_opener (by decide)
    (by decide) (by decide)
  · intro written directive
    cases directive with
    | metadata unclosed =>
        exact ⟨[], .nothing, Grammar.turns_of_read (Metadata.readBlock_append unclosed)⟩
  · intro other member written directive
    exact ⟨other, member, directive⟩

/-- The loops of a template become what their bodies are with the elements put in. -/
theorem unroll {registry : Registry} {context : Context}
    (unbraced : ∀ target, ∀ element ∈ Loop.elements registry context target, '{' ∉ element.text)
    (template : Template [.loops, .conditionals, .references] text) :
    Template [.conditionals, .references] (Loop.unroll registry context text).text := by
  apply template.substitute .loops Loop.reads_block Loop.beginsWith_opener (by decide) (by decide)
    (by decide)
  · intro written directive
    cases directive with
    | @loop block _ spelled inside =>
        have slashless : Text.Lacks ['{', '/'] block.body := by
          apply inside.lacks
          intro piece made
          rcases made with ⟨reference, reads⟩ | same
          · exact reads.lacks_closer
          · rw [same]
            exact Loop.lacks_closer_placeholder spelled.2.1
        have unclosed : ¬ Loop.closer <:+: block.body := slashless.not_infix_closer _
        have made : Composed Reference.Written (Loop.emit registry context block).text := by
          apply Loop.composed_unrolled (unbraced block.target) _ inside
          rintro piece ⟨reference, reads⟩ rest
          exact Loop.clear_reference spelled.2.1 reads rest
        refine ⟨_, made.mono ?_, Grammar.turns_of_read (Loop.readBlock_append spelled unclosed)⟩
        intro piece reads
        exact ⟨.references, by simp, .reference reads⟩
  · intro other member written directive
    exact ⟨other, member, directive⟩

/-- The conditionals of a template become their bodies or vanish, but for those without a value. -/
theorem settle {registry : Registry} {context : Context}
    (template : Template [.conditionals, .references] text) :
    Composed (fun written => Reference.Written written ∨
        Conditional.Stuck registry context Reference.Written written)
      (Conditional.settle registry context text).text := by
  apply template.substitute .conditionals Conditional.reads_block Conditional.beginsWith_opener
    (by decide) (by decide) (by decide)
  · intro written directive
    cases directive with
    | @conditional block _ spelled inside =>
        have slashless : Text.Lacks ['{', '/'] block.body := by
          apply inside.lacks
          rintro piece ⟨reference, reads⟩
          exact reads.lacks_closer
        have unclosed : ¬ Conditional.closer <:+: block.body := slashless.not_infix_closer _
        refine ⟨_, ?_, Grammar.turns_of_read (Conditional.readBlock_append spelled unclosed)⟩
        by_cases valued : ∃ value, block.target.lookup registry context = .found value
        · obtain ⟨value, found⟩ := valued
          rw [Conditional.emit_text_of_found found]
          split
          · exact inside.mono fun _ reads => Or.inl reads
          · exact .nothing
        · have valueless : ∀ value, block.target.lookup registry context ≠ .found value :=
            fun value found => valued ⟨value, found⟩
          rw [Conditional.emit_text_of_not_found valueless]
          exact .of_piece (Or.inr ⟨block, spelled, valueless, inside⟩)
  · intro other member written directive
    simp only [List.mem_cons, List.not_mem_nil, or_false] at member
    subst member
    cases directive with
    | reference reads => exact Or.inl reads

end Template

/-- A document in which nothing is left to do: texts without an opening brace, and conditionals
without a value and with such a text for a body. -/
def Settled (registry : Registry) (context : Context) : Text → Prop :=
  Composed (Conditional.Stuck registry context fun _ => False)

namespace Reference

variable {registry : Registry} {filters : Filters} {context : Context} {text : Text}

theorem Written.turns
    (unbraced : ∀ reference, '{' ∉ Reference.text registry filters context reference)
    (kind : Text → Prop) {written : Text} (reads : Written written) :
    ∃ out, Composed kind out ∧ reference.Turns
      (fun _ reference => emit registry filters context reference) written out := by
  obtain ⟨target, spelled⟩ := reads
  have turned : reference.Turns (fun _ reference => emit registry filters context reference) written
      (emit registry filters context target).text :=
    Grammar.turns_of_read fun rest => readReference_append rest spelled
  rw [emit_text] at turned
  exact ⟨_, .of_plain (unbraced target), turned⟩

/-- Where no value holds an opening brace, nothing is left to do behind the references. -/
theorem settled_resolve
    (unbraced : ∀ reference, '{' ∉ Reference.text registry filters context reference)
    (composed : Composed (fun written => Written written ∨
      Conditional.Stuck registry context Written written) text) :
    Settled registry context (resolve registry filters context text).text := by
  have each : ∀ written, Written written ∨ Conditional.Stuck registry context Written written →
      ∃ out, Settled registry context out ∧ reference.Turns
        (fun _ reference => emit registry filters context reference) written out := by
    intro written piece
    rcases piece with reads | ⟨block, ⟨formed, rfl⟩, valueless, inside⟩
    · exact reads.turns unbraced _
    · -- The header and the closer are copied, and no brace is left in the body between them.
      obtain ⟨body, made, turned⟩ := inside.turns reads_reference beginsWith_opener
        fun _ reads => reads.turns unbraced fun _ => False
      have copied {written : Text} (leftover : Leftover written) : reference.Turns
          (fun _ reference => emit registry filters context reference) written written :=
        reads_reference.turns_of_clear leftover.clear
      have header := copied (.condition block.negated formed)
      have stuck : Conditional.Stuck registry context (fun _ => False)
          (Conditional.header block.negated block.target ++ body ++ Conditional.closer) :=
        ⟨{ block with body := body }, ⟨formed, rfl⟩, valueless, made⟩
      exact ⟨_, .of_piece stuck, (header.append turned).append (copied .conditionEnd)⟩
  obtain ⟨out, made, turned⟩ := composed.turns reads_reference beginsWith_opener each
  have resolved : (resolve registry filters context text).text = out := turned.substitute_text
  rw [resolved]
  exact made

end Reference

namespace Settled

variable {registry : Registry} {context : Context} {text : Text}

/-- Nothing but conditionals is found in a settled document. -/
theorem lacks_opener (settled : Settled registry context text) (stage : Stage)
    (other : stage ≠ .conditionals) : Text.Lacks stage.opener text := by
  apply Composed.lacks_opener _ settled
  rintro written ⟨block, spelled, _, inside⟩
  apply spelled.lacks_opener other
  obtain ⟨more, same⟩ := stage.opener_eq
  rw [same]
  exact Text.lacks_of_not_mem inside.not_mem_brace

theorem not_opener_infix (settled : Settled registry context text) (stage : Stage)
    (other : stage ≠ .conditionals) : ¬ stage.opener <:+: text := by
  have nonempty : stage.opener ≠ [] := by
    cases stage <;> decide
  exact (settled.lacks_opener stage other).not_isInfix nonempty

theorem settle_text (settled : Settled registry context text) :
    (Conditional.settle registry context text).text = text := by
  have turned : Conditional.block.Turns (Conditional.emit registry context) text text := by
    apply settled.turns_self Conditional.reads_block Conditional.beginsWith_opener
    rintro written ⟨block, spelled, valueless, inside⟩
    have unclosed : ¬ Conditional.closer <:+: block.body :=
      (Text.lacks_of_not_mem inside.not_mem_brace).not_infix_closer _
    have turned : Conditional.block.Turns (Conditional.emit registry context) written
        (Conditional.emit registry context written block).text :=
      Grammar.turns_of_read (Conditional.readBlock_append spelled unclosed)
    rwa [Conditional.emit_text_of_not_found valueless] at turned
  exact turned.substitute_text

end Settled

end Stencil
