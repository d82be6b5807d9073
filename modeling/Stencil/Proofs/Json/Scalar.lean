import Stencil.Json.Reader
import Stencil.Text.Class

set_option autoImplicit false

namespace Stencil

namespace Json

/-- The reader takes a text inside a string literal for one character. -/
def Denotes (c : Char) (written : Text) : Prop :=
  ∀ rest, readString (written ++ rest) = (readString rest).map fun found => (c :: found.1, found.2)

theorem hexValue?_hexDigit {n : Nat} (small : n < 16) : hexValue? (hexDigit n) = some n := by
  revert n
  decide

theorem denotes_unit {a b c d : Char} {unit : Nat} (found : codeUnit? a b c d = some unit)
    (low : unit < 0xD800 ∨ 0xDFFF < unit) :
    Denotes (Char.ofNat unit) ['\\', 'u', a, b, c, d] := by
  intro rest
  simp only [List.cons_append, List.nil_append, readString, found, low, ↓reduceIte]
  rfl

theorem denotes_letter {letter c : Char} (found : unescape? letter = some c) :
    Denotes c ['\\', letter] := by
  have other : letter ≠ 'u' := by
    rintro rfl
    have none : unescape? 'u' = none := by decide
    cases none.symm.trans found
  intro rest
  simp [readString, found, other]
  rfl

theorem denotes_self {c : Char} (quote : c ≠ '"') (slash : c ≠ '\\') (visible : 0x20 ≤ c.toNat) :
    Denotes c [c] := by
  intro rest
  have shown : ¬ c.toNat < 0x20 := Nat.not_lt.2 visible
  rw [List.singleton_append, readString]
  · simp only [shown, slash, or_self, ↓reduceIte]
    rfl
  all_goals grind

/-- A character of a string is written behind a backslash, by its number, or as it is. -/
theorem escape_cases (c : Char) :
    (∃ letter ∈ ['"', '\\', 'n', 'r', 't', 'b', 'f'], escape c = ['\\', letter] ∧
      unescape? letter = some c) ∨
    (c.toNat < 0x20 ∧ escape c =
      ['\\', 'u', '0', '0', hexDigit (c.toNat / 16), hexDigit (c.toNat % 16)]) ∨
    (c ≠ '"' ∧ c ≠ '\\' ∧ 0x20 ≤ c.toNat ∧ escape c = [c]) := by
  by_cases lettered : c ∈ ['"', '\\', '\n', '\r', '\t', '\x08', '\x0c']
  · left
    simp only [List.mem_cons, List.not_mem_nil, or_false] at lettered
    rcases lettered with rfl | rfl | rfl | rfl | rfl | rfl | rfl
    all_goals exact ⟨_, by decide, rfl, by decide⟩
  · right
    simp only [List.mem_cons, List.not_mem_nil, or_false, not_or] at lettered
    by_cases control : c.toNat < 0x20
    · exact .inl ⟨control, by simp [escape, lettered, control]⟩
    · exact .inr ⟨lettered.1, lettered.2.1, Nat.not_lt.1 control, by
        simp [escape, lettered, control]⟩

theorem denotes_escape (c : Char) : Denotes c (escape c) := by
  obtain ⟨letter, _, written, found⟩ | ⟨control, written⟩ | ⟨quote, slash, visible, written⟩ :=
    escape_cases c
  · exact written ▸ denotes_letter found
  · have high := @hexValue?_hexDigit (c.toNat / 16) (by omega)
    have low := @hexValue?_hexDigit (c.toNat % 16) (by omega)
    have zero : hexValue? '0' = some 0 := by decide
    have unit : codeUnit? '0' '0' (hexDigit (c.toNat / 16)) (hexDigit (c.toNat % 16)) =
        some c.toNat := by
      simp only [codeUnit?, zero, high, low, Option.bind_eq_bind, Option.bind_some,
        Option.pure_def, Option.some.injEq]
      omega
    have denotes := denotes_unit unit (by omega)
    rwa [Char.ofNat_toNat, ← written] at denotes
  · exact written ▸ denotes_self quote slash visible

/-- A literal is read back if each of its characters is written as one that is read as it. -/
theorem readString_flatMap {write : Char → Text} (each : ∀ c, Denotes c (write c))
    (text rest : Text) : readString (text.flatMap write ++ '"' :: rest) = some (text, rest) := by
  induction text with
  | nil => simp [readString]
  | cons c text ih => rw [List.flatMap_cons, List.append_assoc, each, ih, Option.map_some]

/-- A character that could go on with a numeral. -/
def isNumeral (c : Char) : Bool := isDigit c || c = '.' || c = 'e' || c = 'E'

theorem digit_digitChar {n : Nat} (small : n < 10) :
    isDigit (Nat.digitChar n) = true ∧ digitValue (Nat.digitChar n) = n ∧
      (Nat.digitChar n = '0' → n = 0) := by
  revert n
  decide

theorem digitAhead_of_stops {rest : Text} (stop : Text.Stops isNumeral rest) :
    digitAhead rest = false := by
  cases rest with
  | nil => rfl
  | cons c rest =>
      have outside := stop c rfl
      simp only [isNumeral, Bool.or_eq_false_iff] at outside
      exact outside.1.1.1

theorem keepDigits_toDigits {n : Nat} (small : n < Nat.pow 2 64) (rest : Text) :
    ∃ count, keepDigits 0 0 (Nat.toDigits 10 n ++ rest) = keepDigits n count rest := by
  induction n using Nat.strongRecOn generalizing rest with
  | ind n ih =>
      rw [Nat.toDigits_eq_if (by omega)]
      split
      · rename_i single
        obtain ⟨digit, value, _⟩ := digit_digitChar single
        refine ⟨1, ?_⟩
        rw [List.singleton_append, keepDigits]
        simp [digit, value, small]
      · rename_i more
        obtain ⟨count, front⟩ := ih (n / 10) (by omega) (by omega)
          (Nat.digitChar (n % 10) :: rest)
        obtain ⟨digit, value, _⟩ := digit_digitChar (Nat.mod_lt n (by omega : 0 < 10))
        have whole : n / 10 * 10 + n % 10 = n := by omega
        refine ⟨count + 1, ?_⟩
        rw [List.append_assoc, List.singleton_append, front, keepDigits]
        simp [digit, value, whole, small]

/-- The digits of a number begin with a zero for zero only. -/
theorem exists_toDigits (n : Nat) :
    ∃ first more, Nat.toDigits 10 n = first :: more ∧ isDigit first = true ∧
      (first = '0' → n = 0 ∧ more = []) := by
  induction n using Nat.strongRecOn with
  | ind n ih =>
      rw [Nat.toDigits_eq_if (by omega)]
      split
      · rename_i single
        obtain ⟨digit, _, zero⟩ := digit_digitChar single
        exact ⟨_, [], rfl, digit, fun leading => ⟨zero leading, rfl⟩⟩
      · rename_i more
        obtain ⟨first, others, digits, digit, zero⟩ := ih (n / 10) (by omega)
        refine ⟨first, others ++ [Nat.digitChar (n % 10)], by rw [digits]; rfl, digit, ?_⟩
        intro leading
        have := (zero leading).1
        omega

theorem readRest_of_stops (negative : Bool) (n : Nat) {rest : Text}
    (stop : Text.Stops isNumeral rest) :
    readRest negative n rest = (integer? negative n).map fun number => (number, rest) := by
  unfold readRest
  split
  · exact absurd (stop _ rfl) (by decide)
  · exact absurd (stop _ rfl) (by decide)
  · exact absurd (stop _ rfl) (by decide)
  · rfl

theorem readMagnitude_toDigits {n : Nat} (small : n < Nat.pow 2 64) (negative : Bool) {rest : Text}
    (stop : Text.Stops isNumeral rest) :
    readMagnitude negative (Nat.toDigits 10 n ++ rest) =
      (integer? negative n).map fun number => (number, rest) := by
  have ended := digitAhead_of_stops stop
  obtain ⟨count, kept⟩ := keepDigits_toDigits small rest
  have last : keepDigits n count rest = (n, count, rest) := by
    cases rest with
    | nil => rfl
    | cons c rest =>
        have plain : isDigit c = false := ended
        simp [keepDigits, plain]
  obtain ⟨first, more, digits, digit, zero⟩ := exists_toDigits n
  rw [← readRest_of_stops negative n stop]
  by_cases leading : first = '0'
  · obtain ⟨rfl, rfl⟩ := zero leading
    rw [digits, leading]
    simp [readMagnitude, ended]
  · rw [digits, List.cons_append] at kept ⊢
    rw [readMagnitude]
    · simp only [digit, kept, last, ended]
      rfl
    · exact leading

theorem readNumeral_integerText {value : Int} (low : -(Nat.pow 2 63 : Int) ≤ value)
    (high : value < (Nat.pow 2 64 : Int)) {rest : Text} (stop : Text.Stops isNumeral rest) :
    readNumeral (Number.integerText value ++ rest) = some (.int value, rest) := by
  cases value with
  | ofNat n =>
      obtain ⟨first, more, digits, digit, _⟩ := exists_toDigits n
      have unsigned : readNumeral (Nat.toDigits 10 n ++ rest) =
          readMagnitude false (Nat.toDigits 10 n ++ rest) := by
        rw [digits, List.cons_append, readNumeral]
        intro rest same
        obtain ⟨rfl, _⟩ := List.cons.inj same
        exact absurd digit (by decide)
      rw [Number.integerText, unsigned, readMagnitude_toDigits (Int.ofNat_lt.1 high) false stop]
      rfl
  | negSucc n =>
      have bound : n + 1 ≤ Nat.pow 2 63 := by omega
      have small : n + 1 < Nat.pow 2 64 := Nat.lt_of_le_of_lt bound (by decide)
      have signed : integer? true (n + 1) = some (.int (Int.negSucc n)) := by
        simp only [integer?, bound, Nat.succ_pos, Bool.not_true, Bool.false_eq_true, ↓reduceIte,
          and_self]
        rfl
      rw [Number.integerText, List.cons_append, readNumeral, readMagnitude_toDigits small true stop,
        signed]
      rfl

theorem readValue_space {c : Char} (space : isSpace c = true) (fuel depth : Nat) (text : Text) :
    readValue fuel depth (c :: text) = readValue fuel depth text := by
  have skipped : skipSpace (c :: text) = skipSpace text := by
    simp [skipSpace, space]
  cases fuel with
  | zero => simp [readValue]
  | succ fuel => simp only [readValue, skipped]

theorem readItems_space {c : Char} (space : isSpace c = true) (fuel depth : Nat) (text : Text) :
    readItems fuel depth (c :: text) = readItems fuel depth text := by
  cases fuel with
  | zero => simp [readItems]
  | succ fuel => simp only [readItems, readValue_space space]

theorem readValue_bracket {first : Char} (tight : isSpace first = false) (other : first ≠ ']')
    (fuel depth : Nat) (more : Text) :
    readValue (fuel + 1) (depth + 1) ('[' :: '\n' :: first :: more) =
      (readItems fuel depth (first :: more)).map fun found => (.array found.1, found.2) := by
  have line : isSpace '\n' = true := by decide
  have skipped : skipSpace ('\n' :: first :: more) = first :: more := by
    simp [skipSpace, line, tight]
  have opened : skipSpace ('[' :: '\n' :: first :: more) = '[' :: '\n' :: first :: more := rfl
  rw [readValue, opened]
  simp only [skipped, Nat.succ_ne_zero, ↓reduceIte]
  split
  · rename_i same
    exact absurd (List.cons.inj same).1 other
  · rfl

theorem isSpace_of_numeral {first : Char} (numeral : isDigit first = true ∨ first = '-') :
    isSpace first = false := by
  rw [← Bool.not_eq_true]
  intro space
  simp only [isSpace, Bool.or_eq_true, decide_eq_true_eq] at space
  rcases space with ((rfl | rfl) | rfl) | rfl
  all_goals exact absurd numeral (by decide)

theorem exists_integerText (value : Int) :
    ∃ first more, Number.integerText value = first :: more ∧
      (isDigit first = true ∨ first = '-') := by
  cases value with
  | ofNat n =>
      obtain ⟨first, more, digits, digit, _⟩ := exists_toDigits n
      exact ⟨first, more, digits, .inl digit⟩
  | negSucc n => exact ⟨'-', _, rfl, .inr rfl⟩

theorem readValue_of_numeral {first : Char} (numeral : isDigit first = true ∨ first = '-')
    (fuel depth : Nat) (more : Text) :
    readValue (fuel + 1) depth (first :: more) =
      (readNumeral (first :: more)).map fun found => (.number found.1, found.2) := by
  have skipped : skipSpace (first :: more) = first :: more := by
    simp [skipSpace, isSpace_of_numeral numeral]
  rw [readValue, skipped]
  split
  all_goals
    try
      rename_i same
      obtain ⟨rfl, _⟩ := List.cons.inj same
      exact absurd numeral (by decide)
  rfl

theorem readValue_integerText {value : Int} (low : -(Nat.pow 2 63 : Int) ≤ value)
    (high : value < (Nat.pow 2 64 : Int)) (fuel depth : Nat) {rest : Text}
    (stop : Text.Stops isNumeral rest) :
    readValue (fuel + 1) depth (Number.integerText value ++ rest) =
      some (.number (.int value), rest) := by
  obtain ⟨first, more, written, numeral⟩ := exists_integerText value
  have read := readNumeral_integerText low high stop
  rw [written, List.cons_append] at read ⊢
  rw [readValue_of_numeral numeral, read]
  rfl

end Json

end Stencil
