import Stencil.Proofs.Scan.Locality
import Stencil.Filter.Builtin

set_option autoImplicit false

namespace Stencil

theorem Target.WellFormed.not_mem_brace {target : Target} (formed : target.WellFormed) :
    '{' ∉ target.written := by
  have name := formed.1.not_mem (c := '{') (by decide)
  have field := formed.2.not_mem (c := '{') (by decide)
  simp [written, name, field]

namespace Reference

theorem SpellsFilter.not_mem_brace {filter : Option Text} {written : Text}
    (spelled : SpellsFilter filter written) : '{' ∉ written := by
  cases filter with
  | none =>
      have empty : written = [] := spelled
      simp [empty]
  | some name =>
      obtain ⟨run, before, between, behind, blanks₁, blanks₂, blanks₃, rfl⟩ := spelled
      have name := run.not_mem (c := '{') (by decide)
      have first := blanks₁.not_mem (c := '{') (by decide)
      have second := blanks₂.not_mem (c := '{') (by decide)
      have third := blanks₃.not_mem (c := '{') (by decide)
      simp [bars, name, first, second, third]

theorem braced : Spelling.Braced Spells := by
  rintro reference written ⟨formed, list, listed, rfl⟩
  obtain ⟨nonempty, word⟩ := formed.1
  have plain := formed.not_mem_brace
  have unbraced := listed.not_mem_brace
  rw [Target.written] at plain ⊢
  obtain ⟨c, name, named⟩ := List.exists_cons_of_ne_nil nonempty
  rw [named] at plain word ⊢
  refine ⟨c, name ++ '.' :: reference.target.field ++ list ++ closer, by simp [opener],
    word c (by simp), ?_⟩
  simp only [List.cons_append] at plain
  simpa [closer, unbraced] using plain

/-- The value of a reference. There is one if the namespace has a provider, if that contains the
field and finds it, and if the filter is known and does not fail. -/
def value? (registry : Registry) (filters : Filters) (context : Context)
    (reference : Reference) : Option Value := do
  let provider ← registry.resolve context reference.target.name
  guard (provider.contains reference.target.field)
  let value ← (provider.get reference.target.field).toOption
  match reference.filter with
  | none => return value
  | some name =>
      let filter ← filters.find? name
      (filter reference.target.field value).toOption

/-- The text that stands for a reference: that of its value, or none. -/
def text (registry : Registry) (filters : Filters) (context : Context) (reference : Reference) :
    Text :=
  match reference.value? registry filters context with
  | some value => value.text
  | none => []

theorem filtered_toOption (filters : Filters) (reference : Reference) (value : Value) :
    (filtered filters reference value).toOption =
      match reference.filter with
      | none => some value
      | some name =>
          (filters.find? name).bind fun filter =>
            (filter reference.target.field value).toOption := by
  cases filter : reference.filter with
  | none => simp only [filtered, filter]; rfl
  | some name =>
      simp only [filtered, filter, Filters.apply]
      cases filters.find? name <;> rfl

theorem value?_eq (registry : Registry) (filters : Filters) (context : Context)
    (reference : Reference) :
    reference.value? registry filters context =
      match reference.target.lookup registry context with
      | .found value => (filtered filters reference value).toOption
      | _ => none := by
  unfold value? Target.lookup Registry.lookup
  cases registry.resolve context reference.target.name with
  | none => rfl
  | some provider =>
      dsimp only [Provider.fetch, Option.bind_eq_bind, Option.bind_some]
      cases provider.contains reference.target.field with
      | false => rfl
      | true =>
          cases provider.get reference.target.field with
          | error error => rfl
          | ok value =>
              apply Eq.trans _ (filtered_toOption filters reference value).symm
              cases reference.filter <;> rfl

theorem emit_text (registry : Registry) (filters : Filters) (context : Context)
    (reference : Reference) :
    (emit registry filters context reference).text = reference.text registry filters context := by
  rw [text, value?_eq, emit, Emission.append_text, List.nil_append]
  cases reference.target.lookup registry context with
  | unavailable => rfl
  | missing => rfl
  | failed error => rfl
  | found value =>
      simp only [emitLookup]
      cases filtered filters reference value <;> rfl

variable (registry : Registry) (filters : Filters) (context : Context)

theorem resolve_eq (text : Text) :
    resolve registry filters context text =
      (reference.cut text).rewrite fun _ reference =>
        emit registry filters context reference := by
  rw [resolve, Grammar.substitute_eq_rewrite]

/-- References are resolved apart on the two sides of a brace that no word follows. -/
theorem resolve_append_brace {d : Char} (wordless : Text.isWord d = false) (front text : Text) :
    resolve registry filters context (front ++ '{' :: d :: text) =
      resolve registry filters context front ++
        resolve registry filters context ('{' :: d :: text) := by
  have stops := reads_reference.stopsBefore_brace braced wordless text
  simp only [resolve_eq, Grammar.cut_append stops front, Cut.rewrite_append]

theorem resolve_written_append {target : Reference} {written : Text}
    (spelled : target.Spells written) (rest : Text) :
    resolve registry filters context (written ++ rest) =
      emit registry filters context target ++ resolve registry filters context rest := by
  have read : reference.read (written ++ rest) = some (target, rest) :=
    readReference_append rest spelled
  exact Grammar.substitute_of_read read _

theorem resolve_written {target : Reference} {written : Text} (spelled : target.Spells written) :
    (resolve registry filters context written).text = target.text registry filters context := by
  have split := resolve_written_append registry filters context spelled []
  have nothing : (resolve registry filters context []).text = [] := by
    rw [resolve_eq, Grammar.cut_nil]
    rfl
  rw [List.append_nil] at split
  rw [split, Emission.append_text, emit_text, nothing, List.append_nil]

theorem resolve_gap_append {gap rest : Text} (clear : Spelling.Clear Spells gap rest) :
    resolve registry filters context (gap ++ rest) =
      .silent gap ++ resolve registry filters context rest :=
  reads_reference.substitute_gap_append clear _

theorem resolve_around_written {target : Reference} {written : Text}
    (spelled : target.Spells written) (front behind : Text) :
    resolve registry filters context (front ++ written ++ behind) =
      resolve registry filters context front ++
        (emit registry filters context target ++ resolve registry filters context behind) := by
  rw [List.append_assoc, ← resolve_written_append registry filters context spelled behind]
  obtain ⟨c, more, rfl, _, _⟩ := braced target written spelled
  exact resolve_append_brace registry filters context (by decide) front _

/-- What the reference stage may meet of other directives. -/
inductive Leftover : Text → Prop where
  | placeholder {name : Text} (run : Text.IsRun Text.isWord name) :
      Leftover (opener ++ name ++ closer)
  | inclusion {path written : Text} (spelled : Include.Spells path written) : Leftover written
  | condition (negated : Bool) {target : Target} (formed : target.WellFormed) :
      Leftover (Conditional.header negated target)
  | loop {target : Target} {item : Text} (formed : target.WellFormed)
      (run : Text.IsRun Text.isWord item) : Leftover (Loop.header target item)
  | conditionEnd : Leftover Conditional.closer
  | loopEnd : Leftover Loop.closer

/-- A word between two braces and something that is neither a word nor a dot is no reference. -/
theorem readReference_of_word {word : Text} {c : Char} (run : Text.IsRun Text.isWord word)
    (wordless : Text.isWord c = false) (undotted : c ≠ '.') (rest : Text) :
    readReference (opener ++ (word ++ c :: rest)) = none := by
  have named := Text.run?_append run (Text.stops_cons wordless rest)
  simp [readReference, Target.read, named, Ne.symm undotted]

theorem clear_of_word {word more : Text} {c : Char} (run : Text.IsRun Text.isWord word)
    (wordless : Text.isWord c = false) (undotted : c ≠ '.') (plain : '{' ∉ word ++ c :: more)
    (rest : Text) : Spelling.Clear Spells (opener ++ (word ++ c :: more)) rest := by
  have unread := readReference_of_word run wordless undotted (more ++ rest)
  have absent := reads_reference.read_eq_none_iff.1 unread
  have single := braced.clear_brace (by simp) plain rest
  rw [opener, List.cons_append, Spelling.clear_cons]
  refine ⟨?_, single⟩
  simpa [opener] using absent

theorem Leftover.shape {written : Text} (leftover : Leftover written) :
    ∃ d more, written = '{' :: d :: more ∧ Text.isWord d = false := by
  cases leftover with
  | placeholder run => exact ⟨'{', _, rfl, by decide⟩
  | inclusion spelled =>
      obtain ⟨_, rfl⟩ := spelled
      exact ⟨'{', _, rfl, by decide⟩
  | condition negated formed => exact ⟨'#', _, rfl, by decide⟩
  | loop formed run => exact ⟨'#', _, rfl, by decide⟩
  | conditionEnd => exact ⟨'/', _, rfl, by decide⟩
  | loopEnd => exact ⟨'/', _, rfl, by decide⟩

theorem Leftover.clear {written : Text} (leftover : Leftover written) (rest : Text) :
    Spelling.Clear Spells written rest := by
  cases leftover with
  | @placeholder name run =>
      have plain := run.not_mem (c := '{') (by decide)
      rw [List.append_assoc]
      exact clear_of_word run (by decide) (by decide) (by simp [plain]) rest
  | @inclusion path _ spelled =>
      obtain ⟨run, rfl⟩ := spelled
      have plain := run.not_mem (c := '{') (by decide)
      have word : Text.IsRun Text.isWord ['i', 'n', 'c', 'l', 'u', 'd', 'e'] := by decide
      have unbraced : '{' ∉ ['i', 'n', 'c', 'l', 'u', 'd', 'e'] ++ ':' :: (path ++ closer) := by
        simp [closer, plain]
      have clear := clear_of_word word (by decide) (by decide) unbraced rest
      simpa [Include.opener, Include.closer, opener, closer] using clear
  | @condition negated target formed =>
      have plain := formed.not_mem_brace
      apply braced.clear_brace
      · simp
      · cases negated <;> simp [plain]
  | @loop target item formed run =>
      have plain := formed.not_mem_brace
      have item := run.not_mem (c := '{') (by decide)
      apply braced.clear_brace
      · simp
      · simp [Loop.arrow, plain, item]
  | conditionEnd => exact braced.clear_brace (by simp) (by decide) rest
  | loopEnd => exact braced.clear_brace (by simp) (by decide) rest

theorem resolve_around_leftover {written : Text} (leftover : Leftover written)
    (front behind : Text) :
    resolve registry filters context (front ++ written ++ behind) =
      resolve registry filters context front ++
        (.silent written ++ resolve registry filters context behind) := by
  rw [List.append_assoc,
    ← resolve_gap_append registry filters context (leftover.clear behind)]
  obtain ⟨d, more, rfl, wordless⟩ := leftover.shape
  exact resolve_append_brace registry filters context wordless front _

/-- References are local and their values inert. Between any two texts a reference becomes the text
of its value, or nothing if it has none, and what is left over of another directive stays, while
the texts become what they do alone. -/
theorem resolve_local (front behind : Text) :
    (∀ (target : Reference) (written : Text), target.Spells written →
      (resolve registry filters context (front ++ written ++ behind)).text =
        (resolve registry filters context front).text ++ target.text registry filters context ++
          (resolve registry filters context behind).text) ∧
    ∀ written, Leftover written →
      (resolve registry filters context (front ++ written ++ behind)).text =
        (resolve registry filters context front).text ++ written ++
          (resolve registry filters context behind).text := by
  constructor
  · intro target written spelled
    have apart := resolve_around_written registry filters context spelled front behind
    rw [apart, Emission.append_text, Emission.append_text, emit_text, List.append_assoc]
  · intro written leftover
    have apart := resolve_around_leftover registry filters context leftover front behind
    rw [apart, Emission.append_text, Emission.append_text, Emission.silent_text,
      List.append_assoc]

/-- An unfinished reference and further braces on either side, and a value that is a reference. -/
theorem resolve_local_malformed :
    let values := Table.ofList [("name".toList, .string "{{user.name}}".toList)]
    let resolved := fun text =>
      (resolve (Registry.empty.addFixed "user".toList values) .builtin default text).text
    let front := opener ++ "user.name || ".toList ++ ['{']
    let behind := closer ++ opener ++ "user.name".toList
    resolved (front ++ (opener ++ "User.name\n|| uppercase ".toList ++ closer) ++ behind) =
        resolved front ++ "{{USER.NAME}}".toList ++ resolved behind ∧
      resolved (front ++ "{{include:a}}".toList ++ behind) =
        resolved front ++ "{{include:a}}".toList ++ resolved behind := by
  intro values resolved front behind
  let target : Reference := ⟨⟨"User".toList, "name".toList⟩, some "uppercase".toList⟩
  have spelled : target.Spells (opener ++ "User.name\n|| uppercase ".toList ++ closer) :=
    ⟨⟨by decide, by decide⟩, "\n|| uppercase ".toList,
      ⟨by decide, ['\n'], [' '], [' '], by decide, by decide, by decide, rfl⟩, rfl⟩
  have inclusion : Leftover "{{include:a}}".toList :=
    @Leftover.inclusion ['a'] _ ⟨by decide, rfl⟩
  exact ⟨(resolve_local _ _ _ _ _).1 target _ spelled, (resolve_local _ _ _ _ _).2 _ inclusion⟩

end Reference

end Stencil
