import Stencil.Proofs.Reference.Locality
import Stencil.Proofs.Render.Unopened

set_option autoImplicit false

namespace Stencil

namespace Metadata

/-- Entries written one after another with any blanks around them, each with one space behind its
colon. No value holds what would end its entry or the block. -/
inductive Writes : List (Text × Text) → Text → Prop where
  | none {blank : Text} (blanks : Text.AllBlank blank) : Writes [] blank
  | more {blank key value body : Text} {entries : List (Text × Text)}
      (blanks : Text.AllBlank blank) (named : Text.IsRun Text.isKey key) (unclosed : ']' ∉ value)
      (inside : ¬ closer <:+: value) (others : Writes entries body) :
      Writes ((key, value) :: entries)
        (blank ++ (['['] ++ key ++ [':'] ++ [' '] ++ value ++ [']']) ++ body)

theorem not_closer_infix_of_not_mem {c : Char} {text : Text} (closing : c ∈ closer)
    (plain : c ∉ text) : ¬ closer <:+: text := by
  intro inside
  exact plain (inside.mem closing)

theorem Writes.not_closer_infix {entries : List (Text × Text)} {body : Text}
    (writes : Writes entries body) : ¬ closer <:+: body := by
  have brace_free {text : Text} : '}' ∉ text → ¬ closer <:+: text :=
    not_closer_infix_of_not_mem (by decide)
  induction writes with
  | none blanks => exact brace_free (blanks.not_mem (by decide))
  | @more blank key value body entries blanks named unclosed inside others ih =>
      intro found
      -- The bracket, the space and the other bracket are no characters of the closer.
      have regroup : blank ++ (['['] ++ key ++ [':'] ++ [' '] ++ value ++ [']']) ++ body =
          blank ++ '[' :: (key ++ [':'] ++ ' ' :: (value ++ ']' :: body)) := by simp
      rw [regroup] at found
      rcases Text.infix_append_cons (by decide) found with before | found
      · exact brace_free (blanks.not_mem (by decide)) before
      rcases Text.infix_append_cons (by decide) found with before | found
      · have plain := named.not_mem (c := '}') (by decide)
        exact brace_free (by simp [plain]) before
      rcases Text.infix_append_cons (by decide) found with before | behind
      · exact inside before
      · exact ih behind

theorem Writes.entriesOf {entries : List (Text × Text)} {body : Text}
    (writes : Writes entries body) : entriesOf body = entries := by
  rw [entriesOf_eq]
  induction writes with
  | @none blank blanks =>
      have plain := blanks.not_mem (c := '[') (by decide)
      have cut := reads_entry.cut_gap_append (entry_opensWith.clear plain [])
      rw [List.append_nil] at cut
      rw [cut, Cut.parts_prepend, Grammar.cut_nil]
      rfl
  | @more blank key value body entries blanks named unclosed inside others ih =>
      have plain := blanks.not_mem (c := '[') (by decide)
      have spelled : SpellsEntry (key, value) (['['] ++ key ++ [':'] ++ [' '] ++ value ++ [']']) :=
        ⟨named, unclosed, [' '], Or.inl rfl, rfl⟩
      rw [List.append_assoc, reads_entry.cut_gap_append (entry_opensWith.clear plain _),
        Cut.parts_prepend, Grammar.cut_of_read (readEntry_append body spelled)]
      exact congrArg ((key, value) :: ·) ih

/-- A document that begins with a block and holds no colon behind it. -/
theorem cut_block {entries : List (Text × Text)} {body rest : Text} (writes : Writes entries body)
    (plain : ':' ∉ rest) :
    block.cut (opener ++ body ++ closer ++ rest) =
      .next [] (opener ++ body ++ closer) body (.last rest) := by
  have read : block.read (opener ++ body ++ closer ++ rest) = some (body, rest) :=
    readBlock_append writes.not_closer_infix rest
  have unopened : ¬ opener <:+: rest := fun inside => plain (inside.mem (by decide))
  have none := reads_block.not_occursIn_of_unopened beginsWith_opener unopened
  rw [Grammar.cut_of_read read, Grammar.cut_of_not_occursIn none]

theorem strip_block {entries : List (Text × Text)} {body rest : Text} (writes : Writes entries body)
    (plain : ':' ∉ rest) : strip (opener ++ body ++ closer ++ rest) = rest := by
  rw [strip, Grammar.remove_eq_gaps, cut_block writes plain]
  rfl

theorem entries_block {listed : List (Text × Text)} {body rest : Text} (writes : Writes listed body)
    (plain : ':' ∉ rest) : entries (opener ++ body ++ closer ++ rest) = listed := by
  rw [entries_eq, cut_block writes plain]
  simp [Cut.parts, Cut.directives, writes.entriesOf]

theorem Writes.named {entries : List (Text × Text)} {body key : Text} (writes : Writes entries body)
    (written : key ∈ entries.map Prod.fst) : Text.IsRun Text.isKey key := by
  induction writes with
  | none blanks => cases written
  | more blanks named unclosed inside others ih =>
      rcases List.mem_cons.1 written with rfl | behind
      · exact named
      · exact ih behind

end Metadata

namespace Engine

/-- Where a document without its blocks holds no colon and no hash, a render resolves its references
and does nothing else to it. -/
theorem render_text_of_plain {engine : Engine} {context : Context}
    (enabled : engine.config.enabled = true) (heeding : context.ignoresSyntax = false)
    (files : Files) (cache : Cache) {document : Text} (uncolonned : ':' ∉ Metadata.strip document)
    (unhashed : '#' ∉ Metadata.strip document) :
    (engine.render files cache context document).text =
      (Reference.resolve engine.registry engine.filters
        (context.addAllMetadata (Metadata.entries document)) (Metadata.strip document)).text := by
  -- All directives but references begin with a colon or a hash.
  have unopened (stage : Stage) (other : stage ≠ .references) :
      ¬ stage.opener <:+: Metadata.strip document := by
    intro inside
    cases stage with
    | metadata | includes => exact uncolonned (inside.mem (by decide))
    | macros | loops | conditionals => exact unhashed (inside.mem (by decide))
    | references => exact other rfl
  have loopless := not_applies_of_unopened .loops (by decide) (unopened .loops (by decide))
  have unconditional :=
    not_applies_of_unopened .conditionals (by decide) (unopened .conditionals (by decide))
  have looped (context : Context) : Loop.unroll engine.registry context (Metadata.strip document) =
      .silent (Metadata.strip document) :=
    Grammar.substitute_of_not_occursIn loopless _
  have decided (context : Context) :
      Conditional.settle engine.registry context (Metadata.strip document) =
        .silent (Metadata.strip document) :=
    Grammar.substitute_of_not_occursIn unconditional _
  have staged := render_text_of_unexpanded enabled heeding files cache
    (unopened .macros (by decide)) (unopened .includes (by decide))
  simp only [looped, decided, Emission.silent_text] at staged
  exact staged

theorem registryFor_metadata {config : Config} {given : Registry}
    (builtin : config.builtinProviders = true)
    (unclaimed : given.contains Registry.metadataName = false) :
    (registryFor config given).factory? Registry.metadataName = some .metadata := by
  have absent : given.factory? Registry.metadataName = none := by
    simpa [Registry.contains] using unclaimed
  have apart : Text.lower Registry.metadataName ≠ Text.lower Registry.sectionsName := by decide
  simp only [registryFor, builtin, ↓reduceIte, Registry.factory?_merge, absent, Option.none_or,
    Registry.builtin, Registry.factory?_add, apart]

end Engine

namespace Reference

def toMetadata (key : Text) : Reference := ⟨⟨Registry.metadataName, key⟩, none⟩

def metadataText (key : Text) : Text := opener ++ Registry.metadataName ++ '.' :: key ++ closer

theorem spells_toMetadata {key : Text} (named : Text.IsRun Text.isKey key) :
    (toMetadata key).Spells (metadataText key) := by
  have name : Text.IsRun Text.isWord Registry.metadataName := by decide
  have field : Text.IsRun Text.isField key :=
    ⟨named.1, fun c member => Text.isField_of_isKey (named.2 c member)⟩
  refine ⟨⟨name, field⟩, [], rfl, ?_⟩
  simp [toMetadata, metadataText, Target.written]

theorem not_mem_metadataText {key : Text} (named : Text.IsRun Text.isKey key) {c : Char}
    (outside : Text.isKey c = false) (plain : c ∉ metadataText []) : c ∉ metadataText key := by
  have absent := named.not_mem outside
  simp only [metadataText, List.mem_append, List.mem_cons, List.not_mem_nil, not_or] at plain ⊢
  exact ⟨⟨plain.1.1, plain.1.2.1, absent⟩, plain.2⟩

theorem value?_toMetadata {registry : Registry}
    (serves : registry.factory? Registry.metadataName = some .metadata) (filters : Filters)
    (context : Context) (key : Text) :
    (toMetadata key).value? registry filters context =
      (context.metadata.get? key).map Value.string := by
  have resolved : registry.resolve context Registry.metadataName =
      some (.ofTexts context.metadata) := by
    rw [Registry.resolve, serves]
    rfl
  have found : (toMetadata key).target.lookup registry context =
      (context.metadata.get? key).elim .missing fun value => .found (.string value) := by
    cases held : context.metadata.get? key <;>
      simp only [toMetadata, Target.lookup, Registry.lookup, resolved, Provider.fetch,
        Provider.ofTexts, Provider.ofTable, Provider.ofLookup, Table.get?_map, held] <;>
      rfl
  rw [value?_eq, found]
  cases context.metadata.get? key <;> rfl

end Reference

namespace Engine

/-- Where a document without its blocks is a reference to a metadata key, a render gives the value
under the key. -/
theorem render_text_of_metadataText {engine : Engine} {context : Context}
    (enabled : engine.config.enabled = true) (heeding : context.ignoresSyntax = false)
    (serves : engine.registry.factory? Registry.metadataName = some .metadata) (files : Files)
    (cache : Cache) {document key value : Text} (named : Text.IsRun Text.isKey key)
    (stripped : Metadata.strip document = Reference.metadataText key)
    (held : (engine.render files cache context document).context.metadata.get? key = some value) :
    (engine.render files cache context document).text = value := by
  have uncolonned := Reference.not_mem_metadataText (c := ':') named (by decide) (by decide)
  have unhashed := Reference.not_mem_metadataText (c := '#') named (by decide) (by decide)
  rw [← stripped] at uncolonned unhashed
  rw [render_context enabled heeding] at held
  rw [render_text_of_plain enabled heeding files cache uncolonned unhashed, stripped,
    Reference.resolve_written _ _ _ (Reference.spells_toMetadata named), Reference.text,
    Reference.value?_toMetadata serves, held]
  rfl

/-- What is written as metadata is read back. On an engine whose metadata namespace is the built-in
one, a document that is a block of entries and a reference to one of their keys becomes the last
value written under the key, and the metadata of a fresh context become the keys in the order in
which they first come, each with its last value. -/
theorem metadata_round_trip {config : Config} {given : Registry} (filters : Filters)
    (files : Files) (cache : Cache) {context : Context} {entries : List (Text × Text)}
    {body key : Text} (enabled : config.enabled = true) (builtin : config.builtinProviders = true)
    (unclaimed : given.contains Registry.metadataName = false)
    (heeding : context.ignoresSyntax = false) (fresh : context.metadata = ∅)
    (writes : Metadata.Writes entries body) (written : key ∈ entries.map Prod.fst) :
    let block := Metadata.opener ++ body ++ Metadata.closer
    let reference := Reference.opener ++ Registry.metadataName ++ '.' :: key ++ Reference.closer
    let after := (build config given filters).render files cache context (block ++ reference)
    entries.reverse.lookup key = some after.text ∧
      after.context.metadata.keys = (entries.map Prod.fst).eraseDups ∧
      ∀ other, after.context.metadata.get? other = entries.reverse.lookup other := by
  intro block reference after
  let engine := build config given filters
  have active : engine.config.enabled = true := enabled
  have serves : engine.registry.factory? Registry.metadataName = some .metadata :=
    registryFor_metadata builtin unclaimed
  have named := writes.named written
  have uncolonned : ':' ∉ reference :=
    Reference.not_mem_metadataText named (by decide) (by decide)
  have stripped : Metadata.strip (block ++ reference) = reference :=
    Metadata.strip_block writes uncolonned
  have listed : Metadata.entries (block ++ reference) = entries :=
    Metadata.entries_block writes uncolonned
  have recorded : (∅ : Table Text).Updated entries after.context.metadata := by
    have updated := render_metadata_updated active heeding files cache (block ++ reference)
    rwa [listed, fresh] at updated
  have newest := recorded.get?_of_empty
  refine ⟨?_, recorded.keys_of_empty, newest⟩
  obtain ⟨value, last⟩ : ∃ value, entries.reverse.lookup key = some value := by
    obtain ⟨entry, member, rfl⟩ := List.mem_map.1 written
    rw [← Option.isSome_iff_exists, List.lookup_isSome_iff]
    exact ⟨entry, List.mem_reverse.2 member, beq_self_eq_true _⟩
  have held : after.context.metadata.get? key = some value := (newest key).trans last
  rw [last, render_text_of_metadataText active heeding serves files cache named stripped held]

/-- A key that is written twice, a value that looks like an entry, and one that is a reference. -/
theorem metadata_round_trip_directives :
    let key := "a-1".toList
    let nested := "\n [c: d".toList
    let last := Reference.opener ++ "meta.b".toList ++ Reference.closer
    let body := "[a-1: old]\n[b: ".toList ++ nested ++ "][a-1: ".toList ++ last ++ "] ".toList
    let reference := Reference.opener ++ Registry.metadataName ++ '.' :: key ++ Reference.closer
    let document := Metadata.opener ++ body ++ Metadata.closer ++ reference
    ∃ after, standard.render .none .empty default document = after ∧ after.text = last ∧
      after.context.metadata.keys = [key, "b".toList] ∧
      after.context.metadata.get? "b".toList = some nested := by
  intro key nested last body reference document
  let entries := [(key, "old".toList), ("b".toList, nested), (key, last)]
  have writes : Metadata.Writes entries body := by
    have colon_free {text : Text} : ':' ∉ text → ¬ Metadata.closer <:+: text :=
      Metadata.not_closer_infix_of_not_mem (by decide)
    have brace_free {text : Text} : '}' ∉ text → ¬ Metadata.closer <:+: text :=
      Metadata.not_closer_infix_of_not_mem (by decide)
    have none : Metadata.Writes [] " ".toList := .none (by decide)
    have one := @Metadata.Writes.more [] key last _ _ (by decide) (by decide) (by decide)
      (colon_free (by decide)) none
    have two := @Metadata.Writes.more ['\n'] "b".toList nested _ _ (by decide) (by decide)
      (by decide) (brace_free (by decide)) one
    exact @Metadata.Writes.more [] key "old".toList _ _ (by decide) (by decide) (by decide)
      (colon_free (by decide)) two
  have given_last : entries.reverse.lookup key = some last := by decide
  have given_keys : (entries.map Prod.fst).eraseDups = [key, "b".toList] := by decide
  have given_nested : entries.reverse.lookup "b".toList = some nested := by decide
  obtain ⟨text, keys, newest⟩ :=
    @metadata_round_trip {} .empty .builtin .none .empty default entries body key rfl rfl
      (by decide) rfl rfl writes (by decide)
  have same := Option.some.inj (text.symm.trans given_last)
  -- The render is found from the last two facts, and only then compared with the stated one.
  exact ⟨_, by rfl, same, keys.trans given_keys, (newest _).trans given_nested⟩

end Engine

end Stencil
