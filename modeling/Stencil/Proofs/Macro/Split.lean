import Stencil.Proofs.Macro.Call

set_option autoImplicit false

namespace Stencil

namespace Text

variable {inside : Char → Bool}

/-- The maximal runs of characters of one class in a text, in order. A run ends where its class
does, and everything between runs and at the two ends is outside the class. -/
inductive Runs (inside : Char → Bool) : List Text → Text → Prop where
  | none {gap : Text} (outside : ∀ c ∈ gap, inside c = false) : Runs inside [] gap
  | more {gap run rest : Text} {runs : List Text} (outside : ∀ c ∈ gap, inside c = false)
      (within : IsRun inside run) (ends : Stops inside rest) (others : Runs inside runs rest) :
      Runs inside (run :: runs) (gap ++ run ++ rest)

namespace Runs

theorem isRun {runs : List Text} {text : Text} (split : Runs inside runs text) :
    ∀ run ∈ runs, IsRun inside run := by
  induction split with
  | none _ => simp
  | more _ within _ _ ih => exact List.forall_mem_cons.2 ⟨within, ih⟩

theorem cons_outside {runs : List Text} {text : Text} {c : Char} (outside : inside c = false)
    (split : Runs inside runs text) : Runs inside runs (c :: text) := by
  cases split with
  | none plain => exact .none (List.forall_mem_cons.2 ⟨outside, plain⟩)
  | more plain within ends others =>
      exact @more _ (c :: _) _ _ _ (List.forall_mem_cons.2 ⟨outside, plain⟩) within ends others

theorem cons_inside {runs : List Text} {text : Text} {c d : Char} (here : inside c = true)
    (next : inside d = true) (split : Runs inside runs (d :: text)) :
    ∃ longer, Runs inside longer (c :: d :: text) := by
  generalize behind : d :: text = whole at split
  cases split with
  | none plain =>
      have outside := plain d (behind ▸ List.mem_cons_self)
      rw [next] at outside
      cases outside
  | @more gap run rest runs plain within ends others =>
      cases gap with
      | nil => exact ⟨_, @more _ [] (c :: run) rest runs (by simp)
          ⟨by simp, List.forall_mem_cons.2 ⟨here, within.2⟩⟩ ends others⟩
      | cons first gap =>
          obtain ⟨rfl, _⟩ := List.cons.inj behind
          have outside := plain d List.mem_cons_self
          rw [next] at outside
          cases outside

end Runs

theorem exists_runs (inside : Char → Bool) (text : Text) : ∃ runs, Runs inside runs text := by
  induction text with
  | nil => exact ⟨[], .none (by simp)⟩
  | cons c text ih =>
      obtain ⟨runs, split⟩ := ih
      cases here : inside c with
      | false => exact ⟨runs, split.cons_outside here⟩
      | true =>
          have alone : IsRun inside [c] := ⟨by simp, by simp [here]⟩
          cases text with
          | nil =>
              exact ⟨_, @Runs.more _ [] [c] [] [] (by simp) alone (by simp [Stops])
                (.none (by simp))⟩
          | cons d text =>
              cases next : inside d with
              | true => exact split.cons_inside here next
              | false =>
                  exact ⟨_, @Runs.more _ [] [c] _ _ (by simp) alone (stops_cons next text) split⟩

/-- Between words a list of parameters has blanks only, so that its words are its runs. -/
theorem Runs.words_eq {runs : List Text} {list : Text} (split : Runs isWord runs list)
    (listed : ∀ c ∈ list, Macro.isParameterList c = true) : words list = runs := by
  have blank {c : Char} (member : c ∈ list) (outside : isWord c = false) : isBlank c = true := by
    simpa [Macro.isParameterList, outside] using listed c member
  induction split with
  | @none gap plain =>
      have blanks : AllBlank gap := fun c member => blank member (plain c member)
      have nothing := words_blank_append blanks []
      rwa [List.append_nil] at nothing
  | @more gap run rest runs plain within ends others ih =>
      have blanks : AllBlank gap := fun c member => blank (by simp [member]) (plain c member)
      have visible : IsRun (fun c => !isBlank c) run :=
        ⟨within.1, fun c member => by simp [isBlank_of_isWord (within.2 c member)]⟩
      have ended : Stops (fun c => !isBlank c) rest := by
        intro c front
        have member := List.mem_of_mem_head? front
        simp [blank (by simp [member]) (ends c front)]
      have behind := ih (fun c member => listed c (by simp [member]))
        fun member outside => blank (by simp [member]) outside
      rw [List.append_assoc, words_blank_append blanks, words_run_append visible ended, behind]

theorem runs_words {list : Text} (listed : ∀ c ∈ list, Macro.isParameterList c = true) :
    Runs isWord (words list) list := by
  obtain ⟨runs, split⟩ := exists_runs isWord list
  rwa [split.words_eq listed]

end Text

namespace Macro

/-- A header begins with the name of its definition and holds nothing but the runs of the name and
of the parameters, and blanks between them. -/
structure Splits (found : Definition) (header : Text) : Prop where
  begins : found.name <+: header
  listed : ∀ c ∈ header, isParameterList c = true
  runs : Text.Runs Text.isWord (found.name :: found.parameters) header

theorem spellsDefinition_iff {found : Definition} {written : Text} :
    SpellsDefinition found written ↔
      ∃ header, Splits found header ∧
        written = opener ++ header ++ ['}'] ++ found.body ++ closer := by
  constructor
  · rintro ⟨named, list, listed, stop, split, rfl⟩
    have word : ∀ c ∈ found.name, isParameterList c = true := fun c member => by
      simp [isParameterList, named.2 c member]
    refine ⟨found.name ++ list, ⟨List.prefix_append _ _, ?_, ?_⟩, by simp⟩
    · exact fun c member => (List.mem_append.1 member).elim (word c) (listed c)
    · rw [split]
      exact @Text.Runs.more _ [] _ _ _ (by simp) named stop (Text.runs_words listed)
  · rintro ⟨header, ⟨begins, listed, runs⟩, rfl⟩
    generalize names : found.name :: found.parameters = all at runs
    cases runs with
    | none _ => cases names
    | @more gap run list others plain named stop split =>
        obtain ⟨same, rest⟩ := List.cons.inj names
        subst same rest
        -- The name stands at the very front, where no gap can be.
        have front : gap = [] := by
          cases gap with
          | nil => rfl
          | cons c gap =>
              obtain ⟨first, name, whole⟩ := List.exists_cons_of_ne_nil named.1
              rw [whole, List.cons_append, List.cons_append, List.cons_prefix_cons] at begins
              have outside := plain c List.mem_cons_self
              rw [← begins.1, named.2 first (by simp [whole])] at outside
              cases outside
        subst front
        have behind : ∀ c ∈ list, isParameterList c = true :=
          fun c member => listed c (by simp [member])
        exact ⟨named, list, behind, stop, (split.words_eq behind).symm, by simp⟩

theorem readDefinition_eq_some_iff {text rest : Text} {found : Definition} :
    readDefinition text = some (found, rest) ↔
      ∃ written, SpellsDefinition found written ∧ ¬ closer <:+: found.body ∧
        text = written ++ rest := by
  constructor
  · intro read
    have unclosed : ¬ closer <:+: found.body := by
      simp only [readDefinition, Option.bind_eq_bind, Option.bind_eq_some_iff, Option.pure_def,
        Option.some.injEq, Prod.mk.injEq, Prod.exists] at read
      obtain ⟨_, _, _, _, _, _, _, _, _, closed, rfl, _⟩ := read
      exact Text.not_infix_of_cut? (by decide) closed
    obtain ⟨written, spelled, whole⟩ := spells_of_readDefinition read
    exact ⟨written, spelled, unclosed, whole⟩
  · rintro ⟨written, spelled, unclosed, rfl⟩
    exact readDefinition_append spelled unclosed rest

theorem map_fst_pair (parameters arguments : List Text) :
    (pair parameters arguments).map Prod.fst = parameters := by
  induction parameters generalizing arguments with
  | nil => rfl
  | cons parameter parameters ih => rw [pair_cons, List.map_cons, ih]

/-- The parameters are bound in the order in which they first come, each once. -/
theorem keys_assign (parameters arguments : List Text) :
    (assign parameters arguments).keys = parameters.eraseDups := by
  have updated := Table.updated_insertAll ∅ (pair parameters arguments)
  have keys : (assign parameters arguments).keys = _ := updated.keys_of_empty
  rw [keys, map_fst_pair]

/-- A definition is read just where a header is split into its name and its parameters, with a body
that ends at the first closer. Each of its parameters is read back as a placeholder, and arguments
are bound to all of them and to nothing else. -/
theorem header_split (text rest : Text) (found : Definition) :
    (definition.read text = some (found, rest) ↔
      ∃ header, text = opener ++ header ++ ['}'] ++ found.body ++ closer ++ rest ∧
        Splits found header ∧ ¬ closer <:+: found.body) ∧
    (definition.read text = some (found, rest) →
      (∀ parameter ∈ found.parameters, ∀ behind,
        placeholder.read (['{', '{'] ++ parameter ++ ['}', '}'] ++ behind) =
          some (parameter, behind)) ∧
      ∀ arguments, (assign found.parameters arguments).keys = found.parameters.eraseDups) := by
  have split : definition.read text = some (found, rest) ↔
      ∃ header, text = opener ++ header ++ ['}'] ++ found.body ++ closer ++ rest ∧
        Splits found header ∧ ¬ closer <:+: found.body := by
    refine readDefinition_eq_some_iff.trans ⟨?_, ?_⟩
    · rintro ⟨written, spelled, unclosed, rfl⟩
      obtain ⟨header, splits, rfl⟩ := spellsDefinition_iff.1 spelled
      exact ⟨header, rfl, splits, unclosed⟩
    · rintro ⟨header, rfl, splits, unclosed⟩
      exact ⟨_, spellsDefinition_iff.2 ⟨header, splits, rfl⟩, unclosed, rfl⟩
  refine ⟨split, fun read => ⟨fun parameter member behind => ?_, fun arguments => ?_⟩⟩
  · obtain ⟨header, _, splits, _⟩ := split.1 read
    have word := splits.runs.isRun parameter (List.mem_cons_of_mem _ member)
    exact readPlaceholder_append behind ⟨word, rfl⟩
  · exact keys_assign found.parameters arguments

/-- Three kinds of blanks, one of them at the end, and a repeated parameter. -/
theorem header_split_blanks :
    let found : Definition := ⟨"m_1".toList, ["a".toList, "b2".toList, "a".toList], "x".toList⟩
    let written := definitionText "m_1".toList "\u2003a\u00A0\tb2\na\u3000".toList "x".toList
    definition.read (written ++ "y".toList) = some (found, "y".toList) ∧
      (∃ header, Splits found header ∧
        written ++ "y".toList =
          opener ++ header ++ ['}'] ++ found.body ++ closer ++ "y".toList) ∧
      (∀ behind, placeholder.read ("{{b2}}".toList ++ behind) = some ("b2".toList, behind)) ∧
      (assign found.parameters ["1".toList]).keys = ["a".toList, "b2".toList] := by
  intro found written
  have read : definition.read (written ++ "y".toList) = some (found, "y".toList) := by
    decide +kernel
  obtain ⟨split, bound⟩ := header_split (written ++ "y".toList) "y".toList found
  obtain ⟨header, whole, splits, _⟩ := split.1 read
  obtain ⟨addressed, keys⟩ := bound read
  exact ⟨read, ⟨header, splits, whole⟩, addressed "b2".toList (by decide), keys ["1".toList]⟩

end Macro

end Stencil
