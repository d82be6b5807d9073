import Stencil.Text

set_option autoImplicit false

namespace Stencil.Text

/-- A letter, a digit or an underscore, all ASCII. -/
def isWord (c : Char) : Bool := c.isAlphanum || c = '_'

/-- A character of a field: of a word, a hyphen or an at sign. -/
def isField (c : Char) : Bool := isWord c || c = '-' || c = '@'

/-- A character of a metadata key: of a word, or a hyphen. -/
def isKey (c : Char) : Bool := isWord c || c = '-'

/-- A character of an include path: of a word, a dot, a slash or a hyphen. -/
def isPath (c : Char) : Bool := isWord c || c = '.' || c = '/' || c = '-'

/-- The characters with the property `White_Space`. -/
def isBlank (c : Char) : Bool :=
  let n := c.toNat
  (0x09 ≤ n && n ≤ 0x0D) || n = 0x20 || n = 0x85 || n = 0xA0 || n = 0x1680 ||
    (0x2000 ≤ n && n ≤ 0x200A) || n = 0x2028 || n = 0x2029 || n = 0x202F || n = 0x205F ||
    n = 0x3000

theorem isBlank_of_isWord {c : Char} (word : isWord c) : isBlank c = false := by
  have letter : c.isAlpha = (c.isUpper || c.isLower) := rfl
  have upper : c.isUpper = decide (c.val ≥ 'A'.val ∧ c.val ≤ 'Z'.val) := rfl
  have lower : c.isLower = (decide (c.val ≥ 'a'.val) && decide (c.val ≤ 'z'.val)) := rfl
  simp only [isWord, Char.isAlphanum, letter, upper, lower, Char.isDigit, Bool.or_eq_true,
    Bool.and_eq_true, decide_eq_true_eq, ge_iff_le, UInt32.le_iff_toNat_le] at word
  have bounds : 0x30 ≤ c.toNat ∧ c.toNat ≤ 0x7A := by
    rcases word with ((⟨low, high⟩ | ⟨low, high⟩) | ⟨low, high⟩) | rfl
    · exact ⟨Nat.le_trans (by decide) low, Nat.le_trans high (by decide)⟩
    · exact ⟨Nat.le_trans (by decide) low, Nat.le_trans high (by decide)⟩
    · exact ⟨Nat.le_trans (by decide) low, Nat.le_trans high (by decide)⟩
    · decide
  simp only [isBlank, Bool.or_eq_false_iff, Bool.and_eq_false_iff, decide_eq_false_iff_not]
  omega

theorem isWord_of_isBlank {c : Char} (blank : isBlank c) : isWord c = false := by
  cases word : isWord c with
  | false => rfl
  | true =>
      rw [isBlank_of_isWord word] at blank
      cases blank

theorem isField_of_isKey {c : Char} (key : isKey c) : isField c := by
  simp only [isKey, Bool.or_eq_true] at key
  simp only [isField, Bool.or_eq_true]
  exact Or.inl key

theorem isField_of_isBlank {c : Char} (blank : isBlank c) : isField c = false := by
  have hyphen : c ≠ '-' := by
    rintro rfl
    exact absurd blank (by decide)
  have at_sign : c ≠ '@' := by
    rintro rfl
    exact absurd blank (by decide)
  simp [isField, isWord_of_isBlank blank, hyphen, at_sign]

/-- A nonempty run of characters of one class at the front of a text, and what follows it. -/
def run? (inside : Char → Bool) (text : Text) : Option (Text × Text) :=
  match text.takeWhile inside with
  | [] => none
  | first :: more => some (first :: more, text.dropWhile inside)

theorem run?_eq_some_iff {inside : Char → Bool} {text name rest : Text} :
    run? inside text = some (name, rest) ↔
      name = text.takeWhile inside ∧ rest = text.dropWhile inside ∧ name ≠ [] := by
  unfold run?
  split
  · rename_i empty
    simp only [empty, reduceCtorEq, false_iff]
    exact fun ⟨same, _, nonempty⟩ => nonempty same
  · rename_i first more run
    rw [run]
    simp only [Option.some.injEq, Prod.mk.injEq, eq_comm (b := name), eq_comm (b := rest)]
    constructor
    · rintro ⟨rfl, rfl⟩
      simp
    · rintro ⟨rfl, rfl, _⟩
      simp

theorem eq_append_of_run? {inside : Char → Bool} {text name rest : Text}
    (found : run? inside text = some (name, rest)) : text = name ++ rest := by
  obtain ⟨rfl, rfl, _⟩ := run?_eq_some_iff.1 found
  exact List.takeWhile_append_dropWhile.symm

/-- The text does not begin with a character of a class. -/
def Stops (inside : Char → Bool) (text : Text) : Prop := ∀ c ∈ text.head?, inside c = false

theorem stops_cons {inside : Char → Bool} {c : Char} (outside : inside c = false) (text : Text) :
    Stops inside (c :: text) := by
  intro first front
  cases front
  exact outside

theorem stops_append {inside : Char → Bool} {front text : Text} (before : Stops inside front)
    (behind : Stops inside text) : Stops inside (front ++ text) := by
  cases front with
  | nil => exact behind
  | cons c front => exact stops_cons (before c rfl) (front ++ text)

theorem stops_of_append {inside : Char → Bool} {front text : Text}
    (stops : Stops inside (front ++ text)) : Stops inside front := by
  cases front with
  | nil =>
      intro c first
      cases first
  | cons c front => exact stops_cons (stops c rfl) front

theorem stop_of_run? {inside : Char → Bool} {text name rest : Text}
    (found : run? inside text = some (name, rest)) : Stops inside rest := by
  obtain ⟨rfl, rfl, nonempty⟩ := run?_eq_some_iff.1 found
  intro c first
  have stop := List.head?_dropWhile_not inside text
  rw [first] at stop
  simpa using stop

/-- A nonempty text of characters of one class. -/
def IsRun (inside : Char → Bool) (text : Text) : Prop := text ≠ [] ∧ ∀ c ∈ text, inside c

instance (inside : Char → Bool) (text : Text) : Decidable (IsRun inside text) :=
  decidable_of_iff (text ≠ [] ∧ text.all inside) (and_congr Iff.rfl List.all_eq_true)

theorem isRun_of_run? {inside : Char → Bool} {text name rest : Text}
    (found : run? inside text = some (name, rest)) : IsRun inside name := by
  obtain ⟨rfl, rfl, nonempty⟩ := run?_eq_some_iff.1 found
  exact ⟨nonempty, List.all_eq_true.1 List.all_takeWhile⟩

theorem IsRun.not_mem {inside : Char → Bool} {text : Text} (run : IsRun inside text) {c : Char}
    (outside : inside c = false) : c ∉ text := by
  intro member
  have within := run.2 c member
  rw [outside] at within
  cases within

theorem takeWhile_append_stop {inside : Char → Bool} {name rest : Text}
    (run : ∀ c ∈ name, inside c) (stop : Stops inside rest) :
    (name ++ rest).takeWhile inside = name := by
  rw [List.takeWhile_append_of_pos run]
  cases rest with
  | nil => simp
  | cons c rest => simp [stop c rfl]

theorem dropWhile_append_stop {inside : Char → Bool} {name rest : Text}
    (run : ∀ c ∈ name, inside c) (stop : Stops inside rest) :
    (name ++ rest).dropWhile inside = rest := by
  rw [List.dropWhile_append_of_pos run]
  cases rest with
  | nil => rfl
  | cons c rest => simp [stop c rfl]

/-- A run is read whole where the text behind it cannot go on with it. -/
theorem run?_append {inside : Char → Bool} {name rest : Text} (run : IsRun inside name)
    (stop : Stops inside rest) :
    run? inside (name ++ rest) = some (name, rest) := by
  rw [run?_eq_some_iff, takeWhile_append_stop run.2 stop, dropWhile_append_stop run.2 stop]
  exact ⟨rfl, rfl, run.1⟩

/-- A text begins with one run only that the text behind it cannot go on with. -/
theorem IsRun.append_inj {inside : Char → Bool} {name other rest behind : Text}
    (run : IsRun inside name) (also : IsRun inside other) (stop : Stops inside rest)
    (ended : Stops inside behind) (same : name ++ rest = other ++ behind) :
    name = other ∧ rest = behind := by
  have read := run?_append run stop
  rw [same, run?_append also ended] at read
  obtain ⟨rfl, rfl⟩ := Prod.mk.inj (Option.some.inj read)
  exact ⟨rfl, rfl⟩

/-- The text without the blanks at its front. -/
def skipBlank (text : Text) : Text := text.dropWhile isBlank

def AllBlank (text : Text) : Prop := ∀ c ∈ text, isBlank c

instance (text : Text) : Decidable (AllBlank text) :=
  decidable_of_iff (text.all isBlank) List.all_eq_true

theorem AllBlank.stops {inside : Char → Bool} {blank : Text} (blanks : AllBlank blank)
    (outside : ∀ {c}, isBlank c → inside c = false) : Stops inside blank :=
  fun c front => outside (blanks c (List.mem_of_mem_head? front))

theorem AllBlank.not_mem {blank : Text} (blanks : AllBlank blank) {c : Char}
    (visible : isBlank c = false) : c ∉ blank := by
  intro member
  have hidden := blanks c member
  rw [visible] at hidden
  cases hidden

theorem eq_append_skipBlank (text : Text) :
    ∃ blank, AllBlank blank ∧ text = blank ++ skipBlank text :=
  ⟨text.takeWhile isBlank, List.all_eq_true.1 List.all_takeWhile,
    List.takeWhile_append_dropWhile.symm⟩

theorem skipBlank_append {blank rest : Text} (blanks : AllBlank blank)
    (stop : Stops isBlank rest) : skipBlank (blank ++ rest) = rest :=
  dropWhile_append_stop blanks stop

/-- The maximal runs of characters that are not blank, in order. -/
def words : Text → List Text
  | [] => []
  | c :: text =>
      if isBlank c then words text
      else
        match text with
        | [] => [[c]]
        | d :: _ =>
            if isBlank d then [c] :: words text
            else
              match words text with
              | [] => [[c]]
              | word :: more => (c :: word) :: more

theorem words_cons_blank {c : Char} (blank : isBlank c = true) (text : Text) :
    words (c :: text) = words text :=
  if_pos blank

theorem words_cons_cons_blank {c d : Char} (visible : isBlank c = false) (blank : isBlank d = true)
    (text : Text) : words (c :: d :: text) = [c] :: words (d :: text) :=
  (if_neg (by simp [visible])).trans (if_pos blank)

theorem words_cons_cons {c d : Char} {text word : Text} {more : List Text}
    (visible : isBlank c = false) (next : isBlank d = false)
    (behind : words (d :: text) = word :: more) :
    words (c :: d :: text) = (c :: word) :: more := by
  have unfolded : words (c :: d :: text) =
      match words (d :: text) with
      | [] => [[c]]
      | word :: more => (c :: word) :: more :=
    (if_neg (by simp [visible])).trans (if_neg (by simp [next]))
  rw [unfolded, behind]

theorem words_blank_append {blank : Text} (blanks : AllBlank blank) (text : Text) :
    words (blank ++ text) = words text := by
  induction blank with
  | nil => rfl
  | cons c blank ih =>
      have behind : AllBlank blank := fun d member => blanks d (by simp [member])
      rw [List.cons_append, words_cons_blank (blanks c (by simp)), ih behind]

/-- A word is taken whole where a blank follows it, or nothing. -/
theorem words_run_append {word rest : Text} (run : IsRun (fun c => !isBlank c) word)
    (stop : Stops (fun c => !isBlank c) rest) : words (word ++ rest) = word :: words rest := by
  obtain ⟨nonempty, visible⟩ := run
  induction word with
  | nil => exact absurd rfl nonempty
  | cons c word ih =>
      have here : isBlank c = false := by simpa using visible c (by simp)
      cases word with
      | nil =>
          cases rest with
          | nil => exact if_neg (by simp [here])
          | cons d rest =>
              have blank : isBlank d = true := by simpa using stop d rfl
              exact words_cons_cons_blank here blank rest
      | cons d word =>
          have next : isBlank d = false := by simpa using visible d (by simp)
          exact words_cons_cons here next
            (ih (by simp) fun e member => visible e (List.mem_cons_of_mem c member))

end Stencil.Text
