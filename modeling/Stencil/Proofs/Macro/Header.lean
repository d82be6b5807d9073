import Stencil.Proofs.Scan.Readers

set_option autoImplicit false

namespace Stencil

namespace Macro

/-- A name and a list of parameters, with the blanks between them, that can stand in a header. -/
structure Heads (name list : Text) : Prop where
  named : Text.IsRun Text.isWord name
  listed : ∀ c ∈ list, isParameterList c = true
  stops : Text.Stops Text.isWord list

def definitionHeader (name list : Text) : Text := opener ++ name ++ list ++ ['}']

def definitionText (name list body : Text) : Text := definitionHeader name list ++ body ++ closer

theorem Heads.spells {name list : Text} (heads : Heads name list) (body : Text) :
    SpellsDefinition ⟨name, Text.words list, body⟩ (definitionText name list body) :=
  ⟨heads.named, list, heads.listed, heads.stops, rfl, rfl⟩

theorem Heads.not_mem_brace {name list : Text} (heads : Heads name list) : '{' ∉ name ++ list := by
  have name : '{' ∉ name := heads.named.not_mem (by decide)
  have list : '{' ∉ list := by
    intro member
    have listed := heads.listed '{' member
    revert listed
    decide
  simp [name, list]

/-- The ways to write parameters, each a word behind blanks, and blanks at the end. -/
inductive SpellsParameters : List Text → Text → Prop where
  | none {blank : Text} (blanks : Text.AllBlank blank) : SpellsParameters [] blank
  | more {blank parameter list : Text} {parameters : List Text} (blanks : Text.AllBlank blank)
      (apart : blank ≠ []) (run : Text.IsRun Text.isWord parameter)
      (others : SpellsParameters parameters list) :
      SpellsParameters (parameter :: parameters) (blank ++ parameter ++ list)

namespace SpellsParameters

variable {parameters : List Text} {list : Text}

/-- Parameters begin with a blank, if there is anything of them. -/
theorem stops (spelled : SpellsParameters parameters list) {inside : Char → Bool}
    (outside : ∀ {c}, Text.isBlank c = true → inside c = false) : Text.Stops inside list := by
  cases spelled with
  | none blanks => exact blanks.stops outside
  | @more blank parameter list parameters blanks apart run others =>
      obtain ⟨c, blank, rfl⟩ := List.exists_cons_of_ne_nil apart
      exact Text.stops_cons (outside (blanks c (by simp))) _

theorem isParameterList (spelled : SpellsParameters parameters list) :
    ∀ c ∈ list, isParameterList c = true := by
  induction spelled with
  | none blanks =>
      intro c member
      simp [Macro.isParameterList, blanks c member]
  | more blanks apart run others ih =>
      intro c member
      rw [List.mem_append, List.mem_append] at member
      rcases member with (blank | word) | behind
      · simp [Macro.isParameterList, blanks c blank]
      · simp [Macro.isParameterList, run.2 c word]
      · exact ih c behind

theorem words (spelled : SpellsParameters parameters list) : Text.words list = parameters := by
  induction spelled with
  | @none blank blanks =>
      have nothing := Text.words_blank_append blanks []
      rwa [List.append_nil] at nothing
  | @more blank parameter list parameters blanks apart run others ih =>
      have visible : Text.IsRun (fun c => !Text.isBlank c) parameter :=
        ⟨run.1, fun c member => by simp [Text.isBlank_of_isWord (run.2 c member)]⟩
      have ended : Text.Stops (fun c => !Text.isBlank c) list :=
        others.stops fun blank => by simp [blank]
      rw [List.append_assoc, Text.words_blank_append blanks, Text.words_run_append visible ended,
        ih]

theorem heads (spelled : SpellsParameters parameters list) {name : Text}
    (named : Text.IsRun Text.isWord name) : Heads name list where
  named := named
  listed := spelled.isParameterList
  stops := spelled.stops Text.isWord_of_isBlank

theorem spells (spelled : SpellsParameters parameters list) {name : Text}
    (named : Text.IsRun Text.isWord name) (body : Text) :
    SpellsDefinition ⟨name, parameters, body⟩ (definitionText name list body) := by
  have written := (spelled.heads named).spells body
  rwa [spelled.words] at written

end SpellsParameters

end Macro

end Stencil
