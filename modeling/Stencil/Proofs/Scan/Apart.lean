import Stencil.Proofs.Reference.Locality
import Stencil.Proofs.Scan.Composed

set_option autoImplicit false

namespace Stencil

/-- Two braces and a word are the front of a reference, and of nothing else. -/
theorem Stage.lacks_braced_word (stage : Stage) (other : stage ≠ .references) {name tail : Text}
    {c : Char} (run : Text.IsRun Text.isWord name) (apart : c ∉ stage.opener) (plain : '{' ∉ tail) :
    Text.Lacks stage.opener ('{' :: '{' :: name ++ c :: tail) := by
  cases stage with
  | metadata | includes =>
      exact Text.lacks_braced_word (d := ':') run (by decide) (by decide) (by decide) apart plain
  | macros | loops | conditionals =>
      exact Text.lacks_braced_word (d := '#') run (by decide) (by decide) (by decide) apart plain
  | references => exact absurd rfl other

/-- No stage finds anything in a block unless it does so in the header or in the body. -/
theorem Stage.lacks_block (stage : Stage) {header body name : Text}
    (ahead : Text.Lacks stage.opener header) (inside : Text.Lacks stage.opener body)
    (plain : '{' ∉ name) : Text.Lacks stage.opener (header ++ body ++ '{' :: '/' :: name) := by
  have ended : Text.Lacks stage.opener ('{' :: '/' :: name) := by
    cases stage <;> exact Text.lacks_brace (by simp) (by simpa using plain)
  exact (ahead.append inside).append ended

theorem Text.Lacks.not_infix_closer {text : Text} (lacks : Text.Lacks ['{', '/'] text)
    (name : Text) : ¬ '{' :: '/' :: name <:+: text :=
  (lacks.of_prefix (List.prefix_append ['{', '/'] name)).not_isInfix (List.cons_ne_nil _ _)

namespace Reference

/-- A reference is two braces, a word, a dot, and then no opening brace. -/
theorem Spells.shape {reference : Reference} {written : Text} (spelled : reference.Spells written) :
    ∃ name tail, Text.IsRun Text.isWord name ∧ '{' ∉ tail ∧
      written = '{' :: '{' :: name ++ '.' :: tail := by
  obtain ⟨formed, list, listed, rfl⟩ := spelled
  have field : '{' ∉ reference.target.field := formed.2.not_mem (by decide)
  have filter := listed.not_mem_brace
  refine ⟨reference.target.name, reference.target.field ++ list ++ closer, formed.1, ?_, ?_⟩
  · simp [field, filter, closer]
  · simp [opener, Target.written]

theorem Spells.lacks_opener {reference : Reference} {written : Text}
    (spelled : reference.Spells written) {stage : Stage} (other : stage ≠ .references) :
    Text.Lacks stage.opener written := by
  obtain ⟨name, tail, run, plain, rfl⟩ := spelled.shape
  have undotted : '.' ∉ stage.opener := by
    cases stage <;> decide
  exact stage.lacks_braced_word other run undotted plain

theorem Spells.lacks_closer {reference : Reference} {written : Text}
    (spelled : reference.Spells written) : Text.Lacks ['{', '/'] written := by
  obtain ⟨name, tail, run, plain, rfl⟩ := spelled.shape
  exact Text.lacks_braced_word (d := '/') run (by decide) (by decide) (by decide) (by decide) plain

end Reference

namespace Loop

def placeholder (item : Text) : Text := '{' :: '{' :: item ++ ['}', '}']

theorem lacks_opener_placeholder {item : Text} (run : Text.IsRun Text.isWord item) {stage : Stage}
    (other : stage ≠ .references) : Text.Lacks stage.opener (placeholder item) := by
  have unclosed : '}' ∉ stage.opener := by
    cases stage <;> decide
  exact stage.lacks_braced_word other run unclosed (by decide)

theorem lacks_closer_placeholder {item : Text} (run : Text.IsRun Text.isWord item) :
    Text.Lacks ['{', '/'] (placeholder item) :=
  Text.lacks_braced_word (d := '/') run (by decide) (by decide) (by decide) (by decide) (by decide)

theorem lacks_opener_header {target : Target} {item : Text} (formed : target.WellFormed)
    (run : Text.IsRun Text.isWord item) {stage : Stage} (other : stage ≠ .loops) :
    Text.Lacks stage.opener (header target item) := by
  have target := formed.not_mem_brace
  have item : '{' ∉ item := run.not_mem (by decide)
  cases stage with
  | loops => exact absurd rfl other
  | _ => exact Text.lacks_brace (by simp [arrow]) (by simp [arrow, target, item])

/-- No other stage finds anything in a loop unless it does so in the body. -/
theorem Spells.lacks_opener {block : Block} {written : Text} (spelled : Spells block written)
    {stage : Stage} (other : stage ≠ .loops) (inside : Text.Lacks stage.opener block.body) :
    Text.Lacks stage.opener written := by
  obtain ⟨formed, run, rfl⟩ := spelled
  exact stage.lacks_block (lacks_opener_header formed run other) inside (by decide)

end Loop

namespace Conditional

theorem lacks_opener_header (negated : Bool) {target : Target} (formed : target.WellFormed)
    {stage : Stage} (other : stage ≠ .conditionals) :
    Text.Lacks stage.opener (header negated target) := by
  have target := formed.not_mem_brace
  cases stage with
  | conditionals => exact absurd rfl other
  | _ => exact Text.lacks_brace (by simp) (by cases negated <;> simp [target])

theorem Spells.lacks_opener {block : Block} {written : Text} (spelled : Spells block written)
    {stage : Stage} (other : stage ≠ .conditionals) (inside : Text.Lacks stage.opener block.body) :
    Text.Lacks stage.opener written := by
  obtain ⟨formed, rfl⟩ := spelled
  exact stage.lacks_block (lacks_opener_header block.negated formed other) inside (by decide)

end Conditional

end Stencil
