import Stencil.Proofs.Conditional.Truth
import Stencil.Proofs.Reference.Locality
import Stencil.Proofs.Scan.Openers
import Stencil.Proofs.Warnings.Causes

set_option autoImplicit false

namespace Stencil

namespace Conditional

/-- What a written block becomes. It stays if its namespace is unknown or declines the request, or
if its field is not there or fails. Else it keeps its body if its value is true and it is not
negated, or the other way round, and is dropped if not. -/
inductive Becomes (registry : Registry) (context : Context) (block : Block) (written : Text) :
    Text → Prop where
  | unknown (absent : registry.factory? block.target.name = none) :
      Becomes registry context block written written
  | declined {factory : Factory} (known : registry.factory? block.target.name = some factory)
      (declines : factory context = none) : Becomes registry context block written written
  | missing {provider : Provider}
      (resolved : registry.resolve context block.target.name = some provider)
      (absent : provider.contains block.target.field = false) :
      Becomes registry context block written written
  | failing {error : ProviderError} (failed : registry.Fails context block.target error) :
      Becomes registry context block written written
  | kept {value : Value} (found : registry.Finds context block.target value)
      (holds : value.Affirms ↔ block.negated = false) :
      Becomes registry context block written block.body
  | dropped {value : Value} (found : registry.Finds context block.target value)
      (holds : value.Affirms ↔ block.negated = true) :
      Becomes registry context block written []

variable {registry : Registry} {context : Context} {block : Block} {written : Text}

theorem emit_text_of_finds {value : Value} (found : registry.Finds context block.target value) :
    (emit registry context written block).text =
      if value.isTrue != block.negated then block.body else [] :=
  emit_text_of_found (Target.lookup_eq_found_iff.2 found)

theorem emit_text_of_not_finds
    (absent : ∀ value, ¬ registry.Finds context block.target value) :
    (emit registry context written block).text = written :=
  emit_text_of_not_found fun value found => absent value (Target.lookup_eq_found_iff.1 found)

theorem Becomes.eq_emit {text : Text} (becomes : Becomes registry context block written text) :
    text = (emit registry context written block).text := by
  have stays (absent : ∀ value, ¬ registry.Finds context block.target value) :
      written = (emit registry context written block).text := (emit_text_of_not_finds absent).symm
  cases becomes with
  | unknown absent =>
      apply stays
      rintro value ⟨provider, resolved, _⟩
      simp [Registry.resolve, absent] at resolved
  | declined known declines =>
      apply stays
      rintro value ⟨provider, resolved, _⟩
      simp [Registry.resolve, known, declines] at resolved
  | missing resolved absent =>
      apply stays
      rintro value ⟨provider, again, held, _⟩
      cases resolved.symm.trans again
      cases absent.symm.trans held
  | failing failed =>
      apply stays
      obtain ⟨provider, resolved, _, failed⟩ := failed
      rintro value ⟨other, again, _, got⟩
      cases resolved.symm.trans again
      cases failed.symm.trans got
  | kept found holds =>
      rw [emit_text_of_finds found]
      rw [← Value.isTrue_iff] at holds
      cases negated : block.negated <;> simp_all
  | dropped found holds =>
      rw [emit_text_of_finds found]
      rw [← Value.isTrue_iff] at holds
      cases negated : block.negated <;> simp_all

theorem exists_becomes (registry : Registry) (context : Context) (block : Block) (written : Text) :
    ∃ text, Becomes registry context block written text := by
  cases known : registry.factory? block.target.name with
  | none => exact ⟨_, .unknown known⟩
  | some factory =>
      cases made : factory context with
      | none => exact ⟨_, .declined known made⟩
      | some provider =>
          have resolved : registry.resolve context block.target.name = some provider := by
            simp [Registry.resolve, known, made]
          cases held : provider.contains block.target.field with
          | false => exact ⟨_, .missing resolved held⟩
          | true =>
              cases got : provider.get block.target.field with
              | error error => exact ⟨_, .failing ⟨provider, resolved, held, got⟩⟩
              | ok value =>
                  have found : registry.Finds context block.target value :=
                    ⟨provider, resolved, held, got⟩
                  by_cases holds : value.Affirms ↔ block.negated = false
                  · exact ⟨_, .kept found holds⟩
                  · refine ⟨_, .dropped found ?_⟩
                    cases negated : block.negated <;> simp_all

/-- A conditional begins in no text without a header, whatever header comes behind. -/
theorem clear_of_unheaded {front : Text}
    (unheaded : ∀ negated (target : Target), target.WellFormed →
      ¬ header negated target <:+: front) (rest : Text) :
    Spelling.Clear Spells front ('{' :: rest) := by
  refine @Spelling.clear_of_marked _ Spells '{' front ('{' :: rest) ?_ (by simp)
  rintro block written ⟨formed, rfl⟩
  have target := formed.not_mem_brace
  refine ⟨(header block.negated block.target).tail, ?_, ?_, unheaded _ _ formed⟩
  · cases block.negated <;> simp [header, opener, target]
  · exact ⟨block.body ++ closer, by simp [header, opener]⟩

/-- Behind a text without a header a block becomes what its target decides, and the text behind it
becomes what it does alone. -/
theorem settle_around_block {front body : Text} {target : Target}
    (unheaded : ∀ negated (target : Target), target.WellFormed →
      ¬ header negated target <:+: front)
    (formed : target.WellFormed) (unclosed : ¬ closer <:+: body) (negated : Bool)
    (registry : Registry) (context : Context) (rest : Text) :
    settle registry context (front ++ (header negated target ++ body ++ closer) ++ rest) =
      .silent front ++ (emit registry context (header negated target ++ body ++ closer)
        ⟨negated, target, body⟩ ++ settle registry context rest) := by
  let written := header negated target ++ body ++ closer
  have spelled : Spells ⟨negated, target, body⟩ written := ⟨formed, rfl⟩
  have clear : Spelling.Clear Spells front (written ++ rest) := clear_of_unheaded unheaded _
  have read : Conditional.block.read (written ++ rest) = some (⟨negated, target, body⟩, rest) :=
    readBlock_append spelled unclosed rest
  rw [List.append_assoc, settle, settle, reads_block.substitute_gap_append clear,
    Grammar.substitute_of_read read]

/-- Behind a text without a header a block keeps its body, is dropped or stays as it is written, as
its target and its mark say. Of a block with a value and its negated copy one keeps its body and the
other is dropped, and without a value both stay. -/
theorem settle_block {front body : Text} {target : Target}
    (unheaded : ∀ negated (target : Target), target.WellFormed →
      ¬ header negated target <:+: front)
    (formed : target.WellFormed) (unclosed : ¬ closer <:+: body)
    (registry : Registry) (context : Context) (rest : Text) :
    let written (negated : Bool) := header negated target ++ body ++ closer
    let settled (negated : Bool) :=
      (settle registry context (front ++ written negated ++ rest)).text
    let behind := (settle registry context rest).text
    (∀ negated,
      (∃ text, Becomes registry context ⟨negated, target, body⟩ (written negated) text) ∧
      ∀ text, Becomes registry context ⟨negated, target, body⟩ (written negated) text →
        settled negated = front ++ text ++ behind) ∧
    ((∃ value, registry.Finds context target value) →
      ∃ keeping, settled keeping = front ++ body ++ behind ∧ settled (!keeping) = front ++ behind) ∧
    ((¬ ∃ value, registry.Finds context target value) →
      ∀ negated, settled negated = front ++ written negated ++ behind) := by
  intro written settled behind
  have around (negated : Bool) : settled negated = front ++
      (emit registry context (written negated) ⟨negated, target, body⟩).text ++ behind := by
    have apart := settle_around_block unheaded formed unclosed negated registry context rest
    simp only [settled, written, apart, Emission.append_text, Emission.silent_text]
    exact (List.append_assoc ..).symm
  refine ⟨fun negated => ⟨exists_becomes .., ?_⟩, ?_, ?_⟩
  · intro text becomes
    rw [around, becomes.eq_emit]
  · rintro ⟨value, found⟩
    refine ⟨!value.isTrue, ?_, ?_⟩
    · rw [around, @emit_text_of_finds _ _ ⟨!value.isTrue, target, body⟩ _ value found]
      simp
    · rw [around, @emit_text_of_finds _ _ ⟨!!value.isTrue, target, body⟩ _ value found]
      simp
  · intro absent negated
    have unfound := not_exists.1 absent
    rw [around, @emit_text_of_not_finds _ _ ⟨negated, target, body⟩ _ unfound]

/-- Blocks behind an unfinished header and with a header in their bodies, over a binary64 number
that is one and over a field that is not there. -/
theorem settle_block_unfinished :
    let one : Value := .number (.double ⟨false, 1023, 0⟩)
    let registry := Registry.empty.addFixed "flag".toList (Table.ofList [("one".toList, one)])
    let target : Target := ⟨"Flag".toList, "one".toList⟩
    let missing : Target := ⟨"flag".toList, "ONE".toList⟩
    let front := '{' :: "#if flag.one".toList
    let body := header true target
    let written (negated : Bool) (target : Target) := header negated target ++ body ++ closer
    let settled (negated : Bool) (target : Target) :=
      (settle registry default (front ++ written negated target ++ closer)).text
    settled false target = front ++ body ++ closer ∧ settled true target = front ++ [] ++ closer ∧
      settled true missing = front ++ written true missing ++ closer := by
  intro one registry target missing front body written settled
  have unheaded (negated : Bool) (other : Target) (_ : other.WellFormed) :
      ¬ header negated other <:+: front := by
    intro inside
    have closing : '}' ∈ front := inside.subset (by simp [header])
    exact absurd closing (by decide)
  have unclosed : ¬ closer <:+: body := by decide +kernel
  have found : registry.Finds default target one := ⟨_, rfl, rfl, rfl⟩
  have affirms : one.Affirms := (Value.isTrue_iff one).1 (by decide +kernel)
  have behind : (settle registry default closer).text = closer := by decide +kernel
  obtain ⟨becomes, _⟩ := @settle_block front body target unheaded ⟨by decide, by decide⟩ unclosed
    registry default closer
  obtain ⟨_, _, stays⟩ := @settle_block front body missing unheaded ⟨by decide, by decide⟩ unclosed
    registry default closer
  rw [behind] at becomes stays
  refine ⟨(becomes false).2 _ (.kept found ?_), (becomes true).2 _ (.dropped found ?_), ?_⟩
  · simp [affirms]
  · simp [affirms]
  · refine stays ?_ true
    rintro ⟨value, provider, resolved, held, _⟩
    cases resolved
    exact absurd held (by decide)

end Conditional

end Stencil
