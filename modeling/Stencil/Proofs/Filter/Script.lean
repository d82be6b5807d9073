import Stencil.Filter.Builtin
import Stencil.Proofs.Json.Scalar

set_option autoImplicit false

namespace Stencil

/-- A number that is no float: an integer that 64 bits hold, with a sign or without one. -/
def Number.IsInteger (number : Number) : Prop :=
  ∃ value : Int, number = .int value ∧ -(Nat.pow 2 63 : Int) ≤ value ∧
    value < (Nat.pow 2 64 : Int)

namespace Filter

/-- The characters at which a script element or a line of a script could end. -/
def breakers : List Char := ['<', '>', '&', '\u2028', '\u2029']

/-- The characters at which a line ends. -/
def lineEnds : List Char := ['\n', '\r', '\u2028', '\u2029']

/-- Whatever is written as a number, the value itself or an item of it, is no float. -/
def Exact (value : Value) : Prop :=
  ∀ number, value = .number number ∨ (∃ items, value = .array items ∧ .number number ∈ items) →
    number.IsInteger

/-- What the literal of a value that is no array stands for. -/
def scalarValue : Value → Value
  | .number n => .number n
  | .bool b => .bool b
  | .string text => .string text
  | value => .string value.text

/-- What the literal of a value stands for. -/
def literalValue : Value → Value
  | .array items => .array (items.map scalarValue)
  | value => scalarValue value

/-- A character that ends neither a script nor a line of it. -/
def Plain (c : Char) : Prop := 0x20 ≤ c.toNat ∧ c ∉ breakers

instance (c : Char) : Decidable (Plain c) := inferInstanceAs (Decidable (_ ∧ _))

/-- What the JSON literal of a string is written with, beside the characters of the string. -/
def alphabet : List Char :=
  ['"', '\\', 'n', 'r', 't', 'b', 'f', 'u', '0', '1', '2', '3', '4', '5', '6', '7', '8', '9', 'a',
    'b', 'c', 'd', 'e', 'f']

theorem plain_of_mem_alphabet {c : Char} (member : c ∈ alphabet) : Plain c := by
  have all : alphabet.all (fun c => decide (Plain c)) = true := by decide
  exact of_decide_eq_true (List.all_eq_true.1 all c member)

theorem hexDigit_mem_alphabet {n : Nat} (small : n < 16) : Json.hexDigit n ∈ alphabet := by
  revert n
  decide

theorem mem_escape {c d : Char} (member : d ∈ Json.escape c) :
    d ∈ alphabet ∨ d = c ∧ 0x20 ≤ c.toNat := by
  obtain ⟨letter, known, written, _⟩ | ⟨control, written⟩ | ⟨_, _, visible, written⟩ :=
    Json.escape_cases c
  all_goals rw [written] at member
  · have letters : ('\\' :: ['"', '\\', 'n', 'r', 't', 'b', 'f']).all (· ∈ alphabet) = true := by
      decide
    refine .inl (of_decide_eq_true (List.all_eq_true.1 letters d ?_))
    rcases List.mem_cons.1 member with rfl | last
    · exact List.mem_cons_self
    · rw [List.mem_singleton.1 last]
      exact List.mem_cons_of_mem _ known
  · have high := @hexDigit_mem_alphabet (c.toNat / 16) (by omega)
    have low := @hexDigit_mem_alphabet (c.toNat % 16) (by omega)
    have marks : '\\' ∈ alphabet ∧ 'u' ∈ alphabet ∧ '0' ∈ alphabet := by decide
    simp only [List.mem_cons, List.not_mem_nil, or_false] at member
    left
    rcases member with rfl | rfl | rfl | rfl | rfl | rfl
    · exact marks.1
    · exact marks.2.1
    · exact marks.2.2
    · exact marks.2.2
    · exact high
    · exact low
  · exact .inr ⟨List.mem_singleton.1 member, visible⟩

theorem scriptEscape_of_not_mem {c : Char} (plain : c ∉ breakers) : scriptEscape c = [c] := by
  simp only [breakers, List.mem_cons, List.not_mem_nil, or_false, not_or] at plain
  simp [scriptEscape, plain]

theorem plain_of_mem_scriptEscape {c d : Char} (visible : 0x20 ≤ c.toNat)
    (member : d ∈ scriptEscape c) : Plain d := by
  by_cases plain : c ∈ breakers
  · have escaped : (breakers.flatMap scriptEscape).all (fun d => decide (Plain d)) = true := by
      decide
    exact of_decide_eq_true
      (List.all_eq_true.1 escaped d (List.mem_flatMap.2 ⟨c, plain, member⟩))
  · rw [scriptEscape_of_not_mem plain, List.mem_singleton] at member
    exact member ▸ ⟨visible, plain⟩

/-- A character keeps its meaning through both escapes. -/
theorem denotes_scriptEscape (c : Char) :
    Json.Denotes c ((Json.escape c).flatMap scriptEscape) := by
  by_cases plain : c ∈ breakers
  · simp only [breakers, List.mem_cons, List.not_mem_nil, or_false] at plain
    rcases plain with rfl | rfl | rfl | rfl | rfl
    all_goals exact Json.denotes_unit (by decide) (by decide)
  · have once (d : Char) (member : d ∈ Json.escape c) : scriptEscape d = [d] := by
      apply scriptEscape_of_not_mem
      rcases mem_escape member with letter | ⟨rfl, _⟩
      · exact (plain_of_mem_alphabet letter).2
      · exact plain
    have same : (Json.escape c).flatMap scriptEscape = Json.escape c := by
      rw [List.flatMap_def, List.map_congr_left once, ← List.flatMap_def, List.flatMap_singleton']
    rw [same]
    exact Json.denotes_escape c

theorem scriptString_eq (text : Text) :
    scriptString text =
      '"' :: (text.flatMap (fun c => (Json.escape c).flatMap scriptEscape) ++ ['"']) := by
  simp [scriptString, Json.quote, List.flatMap_assoc, scriptEscape]

theorem plain_of_mem_scriptString {text : Text} {c : Char} (member : c ∈ scriptString text) :
    Plain c := by
  have quote : Plain '"' := by decide
  rw [scriptString_eq, List.mem_cons, List.mem_append, List.mem_singleton] at member
  rcases member with rfl | member | rfl
  · exact quote
  · obtain ⟨a, _, inside⟩ := List.mem_flatMap.1 member
    obtain ⟨b, escaped, twice⟩ := List.mem_flatMap.1 inside
    refine plain_of_mem_scriptEscape ?_ twice
    rcases mem_escape escaped with letter | ⟨rfl, visible⟩
    · exact (plain_of_mem_alphabet letter).1
    · exact visible
  · exact quote

theorem plain_of_mem_toDigits {n : Nat} {c : Char} (member : c ∈ Nat.toDigits 10 n) : Plain c := by
  induction n using Nat.strongRecOn with
  | ind n ih =>
      have digit {n : Nat} (small : n < 10) : Plain (Nat.digitChar n) :=
        plain_of_mem_alphabet (hexDigit_mem_alphabet (by omega))
      rw [Nat.toDigits_eq_if (by omega)] at member
      split at member
      · rename_i single
        rw [List.mem_singleton] at member
        exact member ▸ digit single
      · rw [List.mem_append, List.mem_singleton] at member
        rcases member with front | rfl
        · exact ih (n / 10) (by omega) front
        · exact digit (Nat.mod_lt n (by omega))

/-- The literal of a value that is no array is a numeral, a truth value, or a string of its text. -/
theorem scriptScalar_cases {value : Value}
    (exact : ∀ number, value = .number number → number.IsInteger) :
    (∃ integer : Int, value = .number (.int integer) ∧ -(Nat.pow 2 63 : Int) ≤ integer ∧
      integer < (Nat.pow 2 64 : Int)) ∨
    (∃ b, value = .bool b) ∨
    scriptScalar value = scriptString value.text ∧ scalarValue value = .string value.text := by
  cases value with
  | number number =>
      obtain ⟨integer, rfl, bounds⟩ := exact number rfl
      exact .inl ⟨integer, rfl, bounds⟩
  | bool b => exact .inr (.inl ⟨b, rfl⟩)
  | _ => exact .inr (.inr ⟨rfl, rfl⟩)

theorem plain_of_mem_scriptScalar {value : Value}
    (exact : ∀ number, value = .number number → number.IsInteger) {c : Char}
    (member : c ∈ scriptScalar value) : Plain c := by
  obtain ⟨integer, rfl, _⟩ | ⟨b, rfl⟩ | ⟨literal, _⟩ := scriptScalar_cases exact
  · cases integer with
    | ofNat n => exact plain_of_mem_toDigits member
    | negSucc n =>
        rcases List.mem_cons.1 member with rfl | digits
        · decide
        · exact plain_of_mem_toDigits digits
  · have letters : (['t', 'r', 'u', 'e'] ++ ['f', 'a', 'l', 's', 'e']).all
        (fun c => decide (Plain c)) = true := by decide
    refine of_decide_eq_true (List.all_eq_true.1 letters c ?_)
    cases b
    · exact List.mem_append_right _ member
    · exact List.mem_append_left _ member
  · exact plain_of_mem_scriptString (literal ▸ member)

theorem readValue_scriptString (text : Text) (fuel depth : Nat) (rest : Text) :
    Json.readValue (fuel + 1) depth (scriptString text ++ rest) = some (.string text, rest) := by
  have read := Json.readString_flatMap denotes_scriptEscape text rest
  have front : scriptString text ++ rest = '"' ::
      (text.flatMap (fun c => (Json.escape c).flatMap scriptEscape) ++ '"' :: rest) := by
    simp [scriptString_eq]
  rw [front]
  simp [Json.readValue, Json.skipSpace, Json.isSpace, read]

theorem readValue_scriptScalar {value : Value}
    (exact : ∀ number, value = .number number → number.IsInteger) (fuel depth : Nat) {rest : Text}
    (stop : Text.Stops Json.isNumeral rest) :
    Json.readValue (fuel + 1) depth (scriptScalar value ++ rest) =
      some (scalarValue value, rest) := by
  obtain ⟨integer, rfl, low, high⟩ | ⟨b, rfl⟩ | ⟨literal, same⟩ := scriptScalar_cases exact
  · exact Json.readValue_integerText low high fuel depth stop
  · cases b <;> simp [scriptScalar, Value.json, scalarValue, Json.readValue, Json.skipSpace,
      Json.isSpace]
  · rw [literal, same]
    exact readValue_scriptString _ fuel depth rest

theorem exists_scriptScalar {value : Value}
    (exact : ∀ number, value = .number number → number.IsInteger) :
    ∃ first more, scriptScalar value = first :: more ∧
      Json.isSpace first = false ∧ first ≠ ']' := by
  obtain ⟨integer, rfl, _⟩ | ⟨b, rfl⟩ | ⟨literal, _⟩ := scriptScalar_cases exact
  · obtain ⟨first, more, written, numeral⟩ := Json.exists_integerText integer
    refine ⟨first, more, written, Json.isSpace_of_numeral numeral, ?_⟩
    rintro rfl
    exact absurd numeral (by decide)
  · cases b <;> exact ⟨_, _, rfl, by decide, by decide⟩
  · exact ⟨_, _, literal.trans (scriptString_eq _), by decide, by decide⟩

theorem readItems_intercalate {items : List Value} (nonempty : items ≠ [])
    (exact : ∀ number, .number number ∈ items → number.IsInteger) {fuel : Nat}
    (enough : items.length < fuel) (depth : Nat) (rest : Text) :
    Json.readItems fuel depth ([',', '\n'].intercalate (items.map scriptScalar) ++ ']' :: rest) =
      some (items.map scalarValue, rest) := by
  induction items generalizing fuel with
  | nil => exact absurd rfl nonempty
  | cons item items ih =>
      have here (number : Number) (same : item = .number number) : number.IsInteger :=
        exact number (by simp [same])
      match fuel, items with
      | fuel + 2, [] =>
          have stop : Text.Stops Json.isNumeral (']' :: rest) := Text.stops_cons (by decide) rest
          have read := readValue_scriptScalar here fuel depth stop
          simp only [List.map_cons, List.map_nil, List.intercalate_singleton, Json.readItems, read]
          simp [Json.skipSpace, Json.isSpace]
      | fuel + 2, next :: items =>
          let others := [',', '\n'].intercalate ((next :: items).map scriptScalar) ++ ']' :: rest
          have stop : Text.Stops Json.isNumeral (',' :: '\n' :: others) :=
            Text.stops_cons (by decide) _
          have read := readValue_scriptScalar here fuel depth stop
          have behind : Json.readItems (fuel + 1) depth ('\n' :: others) =
              some ((next :: items).map scalarValue, rest) := by
            rw [Json.readItems_space (by decide)]
            exact ih (by simp) (fun number member => exact number (by simp [member]))
              (Nat.lt_of_succ_lt_succ enough)
          have split : [',', '\n'].intercalate ((item :: next :: items).map scriptScalar) ++
              ']' :: rest = scriptScalar item ++ ',' :: '\n' :: others := by
            simp [others]
          rw [split, Json.readItems, read]
          simp [Json.skipSpace, Json.isSpace, behind]
      | 1, _ => simp at enough
      | 0, _ => simp at enough

theorem length_le_length_intercalate (separator : Text) {pieces : List Text}
    (nonempty : ∀ piece ∈ pieces, piece ≠ []) :
    pieces.length ≤ (separator.intercalate pieces).length := by
  induction pieces with
  | nil => simp
  | cons piece pieces ih =>
      have first := List.length_pos_iff.2 (nonempty piece (by simp))
      have others := ih fun other member => nonempty other (by simp [member])
      by_cases last : pieces = []
      · rw [last, List.intercalate_singleton]
        exact first
      · rw [List.intercalate_cons_of_ne_nil last]
        simp only [List.length_cons, List.length_append]
        omega

theorem read?_scriptScalar {value : Value}
    (exact : ∀ number, value = .number number → number.IsInteger) :
    Json.read? (scriptScalar value) = some (scalarValue value) := by
  have stop : Text.Stops Json.isNumeral [] := by simp [Text.Stops]
  have read := readValue_scriptScalar exact (2 * (scriptScalar value).length + 1) Json.maxDepth stop
  rw [List.append_nil] at read
  rw [Json.read?, read]
  rfl

theorem scriptLiteral_array (items : List Value) :
    scriptLiteral (.array items) =
      '[' :: '\n' :: ([',', '\n'].intercalate (items.map scriptScalar) ++ [']']) := rfl

theorem read?_lines {items : List Value} (nonempty : items ≠ [])
    (exact : ∀ number, .number number ∈ items → number.IsInteger) :
    Json.read? (scriptLiteral (.array items)) = some (.array (items.map scalarValue)) := by
  have begins : ∃ first more, [',', '\n'].intercalate (items.map scriptScalar) = first :: more ∧
      Json.isSpace first = false ∧ first ≠ ']' := by
    obtain ⟨item, items, rfl⟩ := List.exists_cons_of_ne_nil nonempty
    obtain ⟨first, more, written, shape⟩ :=
      @exists_scriptScalar item fun number same => exact number (by simp [same])
    cases items <;> exact ⟨first, _, by simp [written]; rfl, shape⟩
  have short : items.length ≤ ([',', '\n'].intercalate (items.map scriptScalar)).length := by
    rw [← List.length_map (f := scriptScalar)]
    apply length_le_length_intercalate
    intro piece member
    obtain ⟨item, held, rfl⟩ := List.mem_map.1 member
    obtain ⟨first, more, written, _⟩ :=
      @exists_scriptScalar item fun number same => exact number (same ▸ held)
    simp [written]
  have enough : items.length < 2 * (scriptLiteral (.array items)).length + 1 := by
    simp only [scriptLiteral_array, List.length_cons, List.length_append]
    omega
  have read := readItems_intercalate nonempty exact enough 126 []
  obtain ⟨first, more, lines, tight, other⟩ := begins
  rw [lines, List.cons_append] at read
  have whole : scriptLiteral (.array items) = '[' :: '\n' :: first :: (more ++ [']']) := by
    rw [scriptLiteral_array, lines, List.cons_append]
  have opened := Json.readValue_bracket tight other (2 * (scriptLiteral (.array items)).length + 1)
    126 (more ++ [']'])
  rw [read, ← whole] at opened
  rw [Json.read?, Json.maxDepth, opened]
  rfl

theorem read?_scriptLiteral {value : Value} (exact : Exact value) :
    Json.read? (scriptLiteral value) = some (literalValue value) := by
  cases value with
  | array items =>
      by_cases empty : items = []
      · rw [empty]
        rfl
      · exact read?_lines empty fun number member => exact number (.inr ⟨items, rfl, member⟩)
  | _ => exact read?_scriptScalar fun number same => exact number (.inl same)

theorem scriptLiteral_strings_injective {texts others : List Text}
    (same : scriptLiteral (.array (texts.map .string)) =
      scriptLiteral (.array (others.map .string))) : texts = others := by
  have exact (texts : List Text) : Exact (.array (texts.map .string)) := by
    rintro number (none | ⟨items, same, member⟩)
    · cases none
    · cases same
      simp at member
  have strings (texts : List Text) : literalValue (.array (texts.map .string)) =
      .array (texts.map .string) := by
    simp [literalValue, scalarValue, Function.comp_def]
  have first := read?_scriptLiteral (exact texts)
  rw [same, read?_scriptLiteral (exact others), strings, strings] at first
  injection first with first
  injection first with first
  exact (List.map_inj_right fun a b same => by injection same).1 first.symm

theorem Plain.not_mem_lineEnds {c : Char} (plain : Plain c) : c ∉ lineEnds := by
  intro member
  simp only [lineEnds, List.mem_cons, List.not_mem_nil, or_false] at member
  rcases member with rfl | rfl | rfl | rfl
  all_goals exact absurd plain (by decide)

theorem mem_of_mem_intercalate {separator : Text} {pieces : List Text} {c : Char}
    (member : c ∈ separator.intercalate pieces) :
    c ∈ separator ∨ ∃ piece ∈ pieces, c ∈ piece := by
  induction pieces with
  | nil => cases member
  | cons piece pieces ih =>
      by_cases last : pieces = []
      · rw [last, List.intercalate_singleton] at member
        exact .inr ⟨piece, by simp, member⟩
      · rw [List.intercalate_cons_of_ne_nil last] at member
        simp only [List.mem_append] at member
        rcases member with (here | between) | behind
        · exact .inr ⟨piece, by simp, here⟩
        · exact .inl between
        · rcases ih behind with between | ⟨other, held, inside⟩
          · exact .inl between
          · exact .inr ⟨other, List.mem_cons_of_mem _ held, inside⟩

theorem not_mem_breakers_of_mem_scriptLiteral {value : Value} (exact : Exact value) {c : Char}
    (member : c ∈ scriptLiteral value) : c ∉ breakers := by
  cases value with
  | array items =>
      have marks : (['[', '\n', ',', ']']).all (· ∉ breakers) = true := by decide
      have mark (held : c ∈ ['[', '\n', ',', ']']) : c ∉ breakers :=
        of_decide_eq_true (List.all_eq_true.1 marks c held)
      rw [scriptLiteral_array] at member
      simp only [List.mem_cons, List.mem_append, List.not_mem_nil, or_false] at member
      rcases member with rfl | rfl | inside | rfl
      · exact mark (by simp)
      · exact mark (by simp)
      · rcases mem_of_mem_intercalate inside with between | ⟨piece, held, inside⟩
        · simp only [List.mem_cons, List.not_mem_nil, or_false] at between
          rcases between with rfl | rfl <;> exact mark (by simp)
        · obtain ⟨item, there, rfl⟩ := List.mem_map.1 held
          exact (plain_of_mem_scriptScalar
            (fun number same => exact number (.inr ⟨items, rfl, same ▸ there⟩)) inside).2
      · exact mark (by simp)
  | _ =>
      exact (plain_of_mem_scriptScalar (fun number same => exact number (.inl same)) member).2

/-- Script variables are safe and lose nothing. Nothing in the script could end it, and its literal
is read back as the value: a string, a boolean or an integer as itself, an array item for item, and
what JSON text would write otherwise as a string of its text. The only line ends in it stand before
the items of an array, so arrays of strings are told apart. -/
theorem script_faithful {field : Text} (run : Text.IsRun Text.isField field) {value : Value}
    (exact : Exact value) :
    let result := ['v', 'a', 'r', ' '] ++ field ++ [' ', '=', ' '] ++ scriptLiteral value ++ [';']
    Filters.builtin.apply "JAVASCRIPT".toList field value = .ok (.string result) ∧
    (∀ c ∈ breakers, c ∉ result) ∧
    Json.read? (scriptLiteral value) = some (literalValue value) ∧
    (∀ items, value = .array items →
      scriptLiteral value =
        ['[', '\n'] ++ [',', '\n'].intercalate (items.map scriptScalar) ++ [']'] ∧
      ∀ item ∈ items, Json.read? (scriptScalar item) = some (scalarValue item) ∧
        ∀ c ∈ lineEnds, c ∉ scriptScalar item) ∧
    ((∀ items, value ≠ .array items) → ∀ c ∈ lineEnds, c ∉ scriptLiteral value) ∧
    ∀ texts others : List Text, scriptLiteral (.array (texts.map .string)) =
      scriptLiteral (.array (others.map .string)) → texts = others := by
  intro result
  have scalar {item : Value} (exact : ∀ number, item = .number number → number.IsInteger) :
      ∀ c ∈ lineEnds, c ∉ scriptScalar item := fun c ends member =>
    (plain_of_mem_scriptScalar exact member).not_mem_lineEnds ends
  refine ⟨rfl, ?_, read?_scriptLiteral exact, ?_, ?_, fun _ _ => scriptLiteral_strings_injective⟩
  · intro c breaks member
    have letters : breakers.all (fun c => !Text.isField c && c ∉ ['v', 'a', 'r', ' '] &&
        c ∉ [' ', '=', ' '] && c ∉ [';']) = true := by decide
    have outside := List.all_eq_true.1 letters c breaks
    simp only [Bool.and_eq_true, Bool.not_eq_true', decide_eq_true_eq] at outside
    simp only [result, List.mem_append] at member
    rcases member with (((word | name) | sign) | literal) | last
    · exact outside.1.1.2 word
    · exact run.not_mem outside.1.1.1 name
    · exact outside.1.2 sign
    · exact not_mem_breakers_of_mem_scriptLiteral exact literal breaks
    · exact outside.2 last
  · rintro items rfl
    refine ⟨rfl, fun item member => ?_⟩
    have each (number : Number) (same : item = .number number) : number.IsInteger :=
      exact number (.inr ⟨items, rfl, same ▸ member⟩)
    exact ⟨read?_scriptScalar each, scalar each⟩
  · intro single
    cases value with
    | array items => exact absurd rfl (single items)
    | _ => exact scalar fun number same => exact number (.inl same)

/-- A text that would end the script and looks escaped in part, nothing, a float inside of an array
inside, and a negative integer. -/
theorem script_faithful_breaking :
    let text := "</a>\\u003c\n\u2028\"".toList
    let nested := Value.array [.number (.double default), .string "&".toList]
    let value := Value.array [.string text, .null, nested, .number (.int (-5)), .bool true]
    (∃ script, Filters.builtin.apply "JAVASCRIPT".toList "a@b".toList value = .ok (.string script) ∧
      '<' ∉ script) ∧
      Json.read? (scriptLiteral value) = some (.array [.string text, .string [],
        .string nested.text, .number (.int (-5)), .bool true]) := by
  intro text nested value
  have exact : Exact value := by
    rintro number (single | ⟨items, same, member⟩)
    · simp [value] at single
    · simp only [value, Value.array.injEq] at same
      simp only [← same, nested, List.mem_cons, reduceCtorEq, false_or, Value.number.injEq,
        List.not_mem_nil, or_false] at member
      exact ⟨-5, member, by decide, by decide⟩
  obtain ⟨applied, safe, read, _⟩ := @script_faithful "a@b".toList (by decide) value exact
  exact ⟨⟨_, applied, safe '<' (by decide)⟩, read⟩

end Filter

end Stencil
