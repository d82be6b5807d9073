import Stencil.Proofs.Scan.Openers

set_option autoImplicit false

namespace Stencil

namespace Text

variable {mark text : Text}

theorem lacks_brace {more tail : Text} (apart : ∀ rest, ¬ '{' :: more <+: '{' :: tail ++ rest)
    (plain : '{' ∉ tail) : Lacks ('{' :: more) ('{' :: tail) :=
  lacks_cons.2 ⟨apart, lacks_of_not_mem plain⟩

/-- Between two braces and a word there is no room for a mark that holds some other character,
unless it goes on behind the word. -/
theorem lacks_braced_word {more name tail : Text} {c d : Char} (run : IsRun isWord name)
    (holds : d ∈ '{' :: more) (wordless : isWord d = false) (other : d ≠ '{')
    (apart : c ∉ '{' :: more) (plain : '{' ∉ tail) :
    Lacks ('{' :: more) ('{' :: '{' :: name ++ c :: tail) := by
  have absent : d ∉ '{' :: '{' :: name := by
    have outside := run.not_mem wordless
    simp [other, outside]
  have front : Lacks ('{' :: more) ('{' :: '{' :: name ++ [c]) :=
    lacks_append_singleton apart fun inside => absent (inside.subset holds)
  have behind : Lacks ('{' :: more) tail := lacks_of_not_mem plain
  have whole := front.append behind
  simpa using whole

end Text

/-- A text put together from texts without an opening brace and from pieces of a kind. -/
inductive Composed (kind : Text → Prop) : Text → Prop where
  | nothing : Composed kind []
  | plain {gap rest : Text} (unbraced : '{' ∉ gap) (others : Composed kind rest) :
      Composed kind (gap ++ rest)
  | piece {written rest : Text} (made : kind written) (others : Composed kind rest) :
      Composed kind (written ++ rest)

namespace Composed

variable {kind other : Text → Prop} {text more : Text}

theorem of_plain (unbraced : '{' ∉ text) : Composed kind text := by
  have single : Composed kind (text ++ []) := plain unbraced nothing
  rwa [List.append_nil] at single

theorem of_piece (made : kind text) : Composed kind text := by
  have single : Composed kind (text ++ []) := piece made nothing
  rwa [List.append_nil] at single

theorem append (first : Composed kind text) (second : Composed kind more) :
    Composed kind (text ++ more) := by
  induction first with
  | nothing => exact second
  | plain unbraced others ih =>
      rw [List.append_assoc]
      exact plain unbraced ih
  | piece made others ih =>
      rw [List.append_assoc]
      exact piece made ih

theorem flatMap {α : Type} {f : α → Text} {items : List α}
    (each : ∀ item ∈ items, Composed kind (f item)) : Composed kind (items.flatMap f) := by
  induction items with
  | nil => exact nothing
  | cons item items ih =>
      rw [List.flatMap_cons]
      exact (each item (by simp)).append (ih fun other member => each other (by simp [member]))

theorem mono (weaker : ∀ written, kind written → other written) (composed : Composed kind text) :
    Composed other text := by
  induction composed with
  | nothing => exact nothing
  | plain unbraced others ih => exact plain unbraced ih
  | piece made others ih => exact piece (weaker _ made) ih

theorem not_mem_brace (composed : Composed (fun _ => False) text) : '{' ∉ text := by
  induction composed with
  | nothing => simp
  | plain unbraced others ih => simp [unbraced, ih]
  | piece made others ih => exact made.elim

theorem lacks {mark : Text} (each : ∀ written, kind written → Text.Lacks ('{' :: mark) written)
    (composed : Composed kind text) : Text.Lacks ('{' :: mark) text := by
  induction composed with
  | nothing => exact Text.lacks_nil _
  | plain unbraced others ih => exact (Text.lacks_of_not_mem unbraced).append ih
  | piece made others ih => exact (each _ made).append ih

theorem lacks_opener {stage : Stage}
    (each : ∀ written, kind written → Text.Lacks stage.opener written)
    (composed : Composed kind text) : Text.Lacks stage.opener text := by
  obtain ⟨more, same⟩ := stage.opener_eq
  rw [same] at each ⊢
  exact composed.lacks each

end Composed

namespace Grammar

variable {α : Type} {g : Grammar α} {spells : Spelling α} {replace : Text → α → Emission}
  {opener : Text}

/-- In front of any rest, a scan with replacements turns a text into another one and goes on with
the rest. -/
def Turns (g : Grammar α) (replace : Text → α → Emission) (text out : Text) : Prop :=
  ∀ rest, (g.substitute replace (text ++ rest)).text = out ++ (g.substitute replace rest).text

theorem turns_nil : g.Turns replace [] [] := fun _ => rfl

theorem Turns.append {first second one two : Text} (front : g.Turns replace first one)
    (behind : g.Turns replace second two) : g.Turns replace (first ++ second) (one ++ two) := by
  intro rest
  rw [List.append_assoc, front, behind, List.append_assoc]

theorem Turns.substitute_text {text out : Text} (turns : g.Turns replace text out) :
    (g.substitute replace text).text = out := by
  have whole := turns []
  have nothing : (g.substitute replace []).text = [] := by
    rw [substitute_eq_rewrite, cut_nil]
    rfl
  rwa [nothing, List.append_nil, List.append_nil] at whole

theorem turns_of_read {written : Text} {parts : α}
    (read : ∀ rest, g.read (written ++ rest) = some (parts, rest)) :
    g.Turns replace written (replace written parts).text := by
  intro rest
  rw [substitute_of_read (read rest), Emission.append_text]

theorem Reads.turns_of_clear (reads : g.Reads spells) {gap : Text}
    (clear : ∀ rest, spells.Clear gap rest) : g.Turns replace gap gap := by
  intro rest
  rw [reads.substitute_gap_append (clear rest), Emission.append_text, Emission.silent_text]

/-- What the opener does not begin in is copied. -/
theorem Reads.turns_of_lacks (reads : g.Reads spells) (begins : spells.BeginsWith opener)
    {gap : Text} (lacks : Text.Lacks opener gap) : g.Turns replace gap gap :=
  reads.turns_of_clear (begins.clear lacks)

end Grammar

/-- A scan goes through a text piece by piece. -/
theorem Composed.turns {α : Type} {g : Grammar α} {spells : Spelling α}
    {replace : Text → α → Emission} {more : Text} (reads : g.Reads spells)
    (begins : spells.BeginsWith ('{' :: more)) {kind result : Text → Prop}
    (each : ∀ written, kind written → ∃ out, Composed result out ∧ g.Turns replace written out)
    {text : Text} (composed : Composed kind text) :
    ∃ out, Composed result out ∧ g.Turns replace text out := by
  induction composed with
  | nothing => exact ⟨[], .nothing, Grammar.turns_nil⟩
  | @plain gap rest unbraced others ih =>
      obtain ⟨out, made, turned⟩ := ih
      have copied : g.Turns replace gap gap :=
        reads.turns_of_lacks begins (Text.lacks_of_not_mem unbraced)
      exact ⟨gap ++ out, .plain unbraced made, copied.append turned⟩
  | @piece written rest piece others ih =>
      obtain ⟨out, made, turned⟩ := ih
      obtain ⟨first, here, replaced⟩ := each written piece
      exact ⟨first ++ out, here.append made, replaced.append turned⟩

theorem Composed.turns_self {α : Type} {g : Grammar α} {spells : Spelling α}
    {replace : Text → α → Emission} {more : Text} (reads : g.Reads spells)
    (begins : spells.BeginsWith ('{' :: more)) {kind : Text → Prop}
    (each : ∀ written, kind written → g.Turns replace written written) {text : Text}
    (composed : Composed kind text) : g.Turns replace text text := by
  induction composed with
  | nothing => exact Grammar.turns_nil
  | plain unbraced others ih =>
      exact (reads.turns_of_lacks begins (Text.lacks_of_not_mem unbraced)).append ih
  | piece made others ih => exact (each _ made).append ih

end Stencil
