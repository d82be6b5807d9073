import Stencil.Proofs.Macro.Placement

set_option autoImplicit false

namespace Stencil

namespace Macro

/-- What a word in a body stands for: a parameter for the argument at its last position, which is
empty where the arguments do not reach, and any other word for nothing. -/
inductive StandsFor (parameters arguments : List Text) (word : Text) : Option Text → Prop where
  | parameter {position : Nat} (named : parameters[position]? = some word)
      (last : ∀ later, position < later → parameters[later]? ≠ some word) :
      StandsFor parameters arguments word (some (arguments[position]?.getD []))
  | other (absent : word ∉ parameters) : StandsFor parameters arguments word none

theorem pair_cons (parameter : Text) (parameters arguments : List Text) :
    pair (parameter :: parameters) arguments =
      (parameter, arguments.head?.getD []) :: pair parameters arguments.tail := by
  cases arguments <;> rfl

/-- One more parameter in front has its say only where no later one is of its name. -/
theorem StandsFor.cons {parameters arguments : List Text} {word : Text} {found : Option Text}
    (behind : StandsFor parameters arguments.tail word found) (parameter : Text) :
    StandsFor (parameter :: parameters) arguments word
      (found.or (if word = parameter then some (arguments.head?.getD []) else none)) := by
  cases behind with
  | @parameter position named last =>
      rw [Option.some_or, List.getElem?_tail]
      refine .parameter (by simpa using named) ?_
      intro later after
      have positive := Nat.zero_lt_of_lt after
      obtain ⟨later, rfl⟩ := Nat.exists_eq_add_one_of_ne_zero (Nat.ne_of_gt positive)
      simpa using last later (by omega)
  | other absent =>
      rw [Option.none_or]
      by_cases same : word = parameter
      · rw [if_pos same, List.head?_eq_getElem?]
        refine .parameter (by simp [same]) ?_
        intro later after again
        obtain ⟨later, rfl⟩ := Nat.exists_eq_add_one_of_ne_zero (Nat.ne_of_gt after)
        exact absent (List.mem_of_getElem? (by simpa using again))
      · rw [if_neg same]
        exact .other (by simp [absent, same])

theorem standsFor_assign (parameters arguments : List Text) (word : Text) :
    StandsFor parameters arguments word ((assign parameters arguments).get? word) := by
  have updated := Table.updated_insertAll ∅ (pair parameters arguments)
  have newest : (assign parameters arguments).get? word =
      (pair parameters arguments).reverse.lookup word := updated.get?_of_empty word
  rw [newest]
  clear updated newest
  induction parameters generalizing arguments with
  | nil => exact .other (by simp)
  | cons parameter parameters ih =>
      rw [pair_cons, List.reverse_cons, List.lookup_append, lookup_cons_eq_ite]
      exact (ih arguments.tail).cons parameter

theorem expand_eq_fill (definition : Definition) (arguments : List Text) :
    definition.expand arguments =
      (placeholder.cut definition.body).fill fun written word =>
        ((assign definition.parameters arguments).get? word).getD written := by
  simp only [Definition.expand, Grammar.substitute_eq_rewrite, Cut.rewrite_silent,
    Emission.silent_text]

theorem not_opener_infix_of_not_mem {text : Text} (unbraced : '{' ∉ text) : ¬ opener <:+: text :=
  fun inside => unbraced (inside.subset (by simp [opener]))

/-- The opener of a definition reaches across no quote, so that it is in an argument or nowhere. -/
theorem SpellsArguments.unopened {arguments : List Text} {list : Text}
    (spelled : SpellsArguments arguments list)
    (plain : ∀ argument ∈ arguments, ¬ opener <:+: argument) : ¬ opener <:+: list := by
  induction spelled with
  | none blanks => exact not_opener_infix_of_not_mem (blanks.not_mem (by decide))
  | more blanks unquoted others ih =>
      intro inside
      rcases Text.infix_append_cons (by decide) inside with ahead | behind
      · rcases Text.infix_append_cons (by decide) ahead with blank | within
        · exact not_opener_infix_of_not_mem (blanks.not_mem (by decide)) blank
        · exact plain _ (by simp) within
      · exact ih (fun argument member => plain argument (List.mem_cons_of_mem _ member)) behind

theorem SpellsUsage.unopened {usage : Usage} {written : Text} (spelled : SpellsUsage usage written)
    (plain : ∀ argument ∈ usage.arguments, ¬ opener <:+: argument) : ¬ opener <:+: written := by
  obtain ⟨named, blank, list, blanks, listed, rfl⟩ := spelled
  have front : '{' ∉ '#' :: (usage.name ++ blank) := by
    have name : '{' ∉ usage.name := named.not_mem (by decide)
    have blank : '{' ∉ blank := blanks.not_mem (by decide)
    simp [name, blank]
  intro inside
  have split : opener <:+: '#' :: (usage.name ++ blank) ++ '(' :: (list ++ ')' :: ['#']) := by
    simpa using inside
  rcases Text.infix_append_cons (by decide) split with ahead | behind
  · exact not_opener_infix_of_not_mem front ahead
  · rcases Text.infix_append_cons (by decide) behind with arguments | last
    · exact listed.unopened plain arguments
    · exact not_opener_infix_of_not_mem (by decide) last

theorem expand_definition_call {definition : Definition} {written call : Text}
    {arguments : List Text} (spelled : SpellsDefinition definition written)
    (unclosed : ¬ closer <:+: definition.body)
    (called : SpellsUsage ⟨definition.name, arguments⟩ call)
    (plain : ∀ argument ∈ arguments, ¬ opener <:+: argument) :
    expand (written ++ call) = .silent (definition.expand arguments) := by
  let document : Cut Definition := .next [] written definition (.last call)
  have placed : Placed document :=
    { unopened := by
        rintro _ (_ | ⟨_, _ | ⟨_, none⟩⟩)
        · decide
        · exact called.unopened plain
        · cases none
      spelled := by
        rintro _ _ (_ | ⟨_, none⟩)
        · exact spelled
        · cases none
      unclosed := by
        rintro _ (_ | ⟨_, none⟩)
        · exact unclosed
        · cases none }
  have read : usage.read (call ++ []) = some (⟨definition.name, arguments⟩, []) :=
    readUsage_append [] called
  have cut : usage.cut call = .next [] call ⟨definition.name, arguments⟩ (.last []) := by
    have whole := Grammar.cut_of_read read
    rwa [List.append_nil, Grammar.cut_nil] at whole
  have known : lastOf document.parts definition.name = some definition := by
    simp [lastOf, document, Cut.parts, Cut.directives]
  calc
    expand (written ++ call) = expand document.whole := rfl
    _ = (usage.cut call).rewrite (answer document.parts) := expand_of_proper placed.proper
    _ = answer document.parts call ⟨definition.name, arguments⟩ ++ .empty := by
      rw [cut]
      rfl
    _ = .silent (definition.expand arguments) := by
      rw [answer, known, Emission.append_empty]

/-- A definition and a call of it become the body, cut at its placeholders in the one way there is,
with the argument at the last position of its parameter for each placeholder and all others as they
are. -/
theorem expand_call {name list body call : Text} {parameters arguments : List Text}
    (named : Text.IsRun Text.isWord name) (listed : SpellsParameters parameters list)
    (unclosed : ¬ closer <:+: body) (called : SpellsUsage ⟨name, arguments⟩ call)
    (plain : ∀ argument ∈ arguments, ¬ opener <:+: argument) :
    ∃ (cut : Cut Text) (meaning : Text → Option Text), Cut.Only SpellsPlaceholder body cut ∧
      (∀ word, StandsFor parameters arguments word (meaning word)) ∧
      expand (definitionText name list body ++ call) =
        .silent (cut.fill fun written word => (meaning word).getD written) := by
  refine ⟨placeholder.cut body, (assign parameters arguments).get?,
    reads_placeholder.only_cut body, standsFor_assign parameters arguments, ?_⟩
  have spelled := listed.spells named body
  rw [expand_definition_call spelled unclosed called plain, expand_eq_fill]

/-- A repeated parameter, one without an argument, a word that is none, and arguments that look like
placeholders and like a call. -/
theorem expand_call_last_position :
    let body := "{{a}}{{b}}{{c}}{{d}}".toList ++ '{' :: "{{a}}".toList
    let parameters := ["a".toList, "b".toList, "a".toList, "c".toList]
    let arguments := ["x".toList, "{{a}})##m()#".toList, "{{b}}".toList]
    let call := "#m (\"x\"\"{{a}})##m()#\"\n\"{{b}}\" )#".toList
    let document := definitionText ['m'] "\ta\u2003b a  c".toList body ++ call
    (∃ (cut : Cut Text) (meaning : Text → Option Text), Cut.Only SpellsPlaceholder body cut ∧
      (∀ word, StandsFor parameters arguments word (meaning word)) ∧
      expand document = .silent (cut.fill fun written word => (meaning word).getD written)) ∧
      (expand document).text = "{{b}}{{a}})##m()#{{d}}".toList ++ '{' :: "{{b}}".toList := by
  intro body parameters arguments call document
  have listed : SpellsParameters parameters "\ta\u2003b a  c".toList :=
    @SpellsParameters.more ['\t'] ['a'] _ _ (by decide) (by decide) (by decide)
      (@SpellsParameters.more ['\u2003'] ['b'] _ _ (by decide) (by decide) (by decide)
        (@SpellsParameters.more [' '] ['a'] _ _ (by decide) (by decide) (by decide)
          (@SpellsParameters.more [' ', ' '] ['c'] [] _ (by decide) (by decide) (by decide)
            (.none (by decide)))))
  have quoted : SpellsArguments arguments "\"x\"\"{{a}})##m()#\"\n\"{{b}}\" ".toList :=
    @SpellsArguments.more [] _ _ _ (by decide) (by decide)
      (@SpellsArguments.more [] _ _ _ (by decide) (by decide)
        (@SpellsArguments.more ['\n'] _ [' '] _ (by decide) (by decide) (.none (by decide))))
  have called : SpellsUsage ⟨['m'], arguments⟩ call :=
    ⟨by decide, [' '], _, by decide, quoted, rfl⟩
  exact ⟨expand_call (by decide) listed (by decide +kernel) called (by decide +kernel),
    by decide +kernel⟩

end Macro

end Stencil
