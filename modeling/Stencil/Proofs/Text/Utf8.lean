import Mathlib.Data.List.Basic
import Stencil.Text.Utf8

set_option autoImplicit false

namespace Stencil.Utf8

/-- What may stand behind a first byte, up to the end of a character's form or short of it. -/
def Lead.Admits (lead : Lead) : List UInt8 → Prop
  | [] => True
  | second :: more =>
      lead.low ≤ second ∧ second ≤ lead.high ∧ more.length < lead.follow ∧
        ∀ byte ∈ more, isTail byte = true

theorem Lead.admits_nil (lead : Lead) : lead.Admits [] := trivial

theorem Lead.admits_cons {lead : Lead} {second : UInt8} {more : List UInt8} :
    lead.Admits (second :: more) ↔
      lead.low ≤ second ∧ second ≤ lead.high ∧ more.length < lead.follow ∧
        ∀ byte ∈ more, isTail byte = true := Iff.rfl

theorem lead?_eq (a : UInt8) :
    lead? a =
      if a.toNat < 0x80 then some ⟨0, 0x80, 0xBF⟩
      else if a.toNat < 0xC2 then none
      else if a.toNat < 0xE0 then some ⟨1, 0x80, 0xBF⟩
      else if a.toNat = 0xE0 then some ⟨2, 0xA0, 0xBF⟩
      else if a.toNat = 0xED then some ⟨2, 0x80, 0x9F⟩
      else if a.toNat < 0xF0 then some ⟨2, 0x80, 0xBF⟩
      else if a.toNat = 0xF0 then some ⟨3, 0x90, 0xBF⟩
      else if a.toNat < 0xF4 then some ⟨3, 0x80, 0xBF⟩
      else if a.toNat = 0xF4 then some ⟨3, 0x80, 0x8F⟩
      else none := by
  simp only [lead?, UInt8.lt_iff_toNat_lt, ← UInt8.toNat_inj]
  rfl

/-- How many bytes follow a first byte, with the bounds of that byte and of the one behind it. -/
theorem lead_bounds {a : UInt8} {lead : Lead} (found : lead? a = some lead) :
    lead.follow = 0 ∧ a.toNat < 0x80 ∨
    lead.follow = 1 ∧ 0xC2 ≤ a.toNat ∧ a.toNat < 0xE0 ∧
      lead.low.toNat = 0x80 ∧ lead.high.toNat = 0xBF ∨
    lead.follow = 2 ∧ 0xE0 ≤ a.toNat ∧ a.toNat < 0xF0 ∧
      (a.toNat = 0xE0 ∧ lead.low.toNat = 0xA0 ∨ a.toNat ≠ 0xE0 ∧ lead.low.toNat = 0x80) ∧
      (a.toNat = 0xED ∧ lead.high.toNat = 0x9F ∨ a.toNat ≠ 0xED ∧ lead.high.toNat = 0xBF) ∨
    lead.follow = 3 ∧ 0xF0 ≤ a.toNat ∧ a.toNat < 0xF5 ∧
      (a.toNat = 0xF0 ∧ lead.low.toNat = 0x90 ∨ a.toNat ≠ 0xF0 ∧ lead.low.toNat = 0x80) ∧
      (a.toNat = 0xF4 ∧ lead.high.toNat = 0x8F ∨ a.toNat ≠ 0xF4 ∧ lead.high.toNat = 0xBF) := by
  rw [lead?_eq] at found
  repeat' split at found
  all_goals cases found
  all_goals grind [UInt8.toNat_ofNat]

theorem isTail_iff {b : UInt8} : isTail b = true ↔ 0x80 ≤ b.toNat ∧ b.toNat ≤ 0xBF := by
  simp [isTail, UInt8.le_iff_toNat_le]

theorem toNat_ofNat_of_valid {n : Nat} (valid : n.isValidChar) : (Char.ofNat n).toNat = n := by
  rw [Char.ofNat, dif_pos valid]
  rfl

/-- A character whose number is split over the bytes of a form, by the length of the form. -/
theorem encodeChar_eq (c : Char) :
    encodeChar c =
      if c.toNat ≤ 0x7F then [UInt8.ofNat c.toNat]
      else if c.toNat ≤ 0x7FF then
        [UInt8.ofNat (c.toNat / 64 % 32 + 0xC0), UInt8.ofNat (c.toNat % 64 + 0x80)]
      else if c.toNat ≤ 0xFFFF then
        [UInt8.ofNat (c.toNat / 4096 % 16 + 0xE0), UInt8.ofNat (c.toNat / 64 % 64 + 0x80),
          UInt8.ofNat (c.toNat % 64 + 0x80)]
      else
        [UInt8.ofNat (c.toNat / 262144 % 8 + 0xF0), UInt8.ofNat (c.toNat / 4096 % 64 + 0x80),
          UInt8.ofNat (c.toNat / 64 % 64 + 0x80), UInt8.ofNat (c.toNat % 64 + 0x80)] := rfl

theorem ofNat_tail {b : UInt8} (tail : isTail b = true) :
    UInt8.ofNat (b.toNat % 64 + 0x80) = b := by
  have bounds := isTail_iff.1 tail
  rw [← UInt8.toNat_inj, UInt8.toNat_ofNat']
  omega

theorem div_mod_sixtyFour {high low : Nat} (small : low < 64) :
    (high * 64 + low) / 64 = high ∧ (high * 64 + low) % 64 = low := by
  omega

theorem isTail_of_between {a b : UInt8} {lead : Lead} (found : lead? a = some lead)
    (more : lead.follow ≠ 0) (low : lead.low ≤ b) (high : b ≤ lead.high) : isTail b = true := by
  have bounds := lead_bounds found
  rw [UInt8.le_iff_toNat_le] at low high
  rw [isTail_iff]
  omega

/-- A first byte and as many admitted bytes as it promises are the form of the character that they
are decoded to. -/
theorem exists_encodeChar {a : UInt8} {lead : Lead} {tail : List UInt8}
    (found : lead? a = some lead) (admits : lead.Admits tail) (full : tail.length = lead.follow) :
    ∃ c, encodeChar c = a :: tail ∧ ∀ rest, decode (a :: tail ++ rest) = some c :: decode rest := by
  have digit (b : UInt8) : b.toNat % 64 < 64 := Nat.mod_lt _ (by decide)
  obtain ⟨none, ascii⟩ | ⟨one, first⟩ | ⟨two, first⟩ | ⟨three, first⟩ := lead_bounds found
  · obtain rfl := List.length_eq_zero_iff.1 (full.trans none)
    have value : (Char.ofNat a.toNat).toNat = a.toNat := toNat_ofNat_of_valid (.inl (by omega))
    refine ⟨Char.ofNat a.toNat, ?_, fun rest => ?_⟩
    · rw [encodeChar_eq, value, if_pos (by omega), UInt8.ofNat_toNat]
    · simp [decode, found, none]
  · obtain ⟨b, rfl⟩ := List.length_eq_one_iff.1 (full.trans one)
    obtain ⟨low, high, _⟩ := admits
    have second := isTail_of_between found (by omega) low high
    let n := a.toNat % 32 * 64 + b.toNat % 64
    obtain ⟨top, bottom⟩ : n / 64 = a.toNat % 32 ∧ n % 64 = b.toNat % 64 :=
      div_mod_sixtyFour (digit b)
    have range : 0x7F < n ∧ n ≤ 0x7FF := by omega
    have value : (Char.ofNat n).toNat = n := toNat_ofNat_of_valid (.inl (by omega))
    refine ⟨Char.ofNat n, ?_, fun rest => ?_⟩
    · have head : UInt8.ofNat (a.toNat % 32 % 32 + 0xC0) = a := by
        rw [← UInt8.toNat_inj, UInt8.toNat_ofNat']
        omega
      rw [encodeChar_eq, value, if_neg (by omega), if_pos range.2, top, bottom, head,
        ofNat_tail second]
    · simp [decode, found, one, low, high, tailBits, n]
  · obtain ⟨b, c, rfl⟩ := List.length_eq_two.1 (full.trans two)
    obtain ⟨low, high, _, tails⟩ := admits
    have second := isTail_of_between found (by omega) low high
    have third : isTail c = true := tails c (by simp)
    let m := a.toNat % 16 * 64 + b.toNat % 64
    let n := m * 64 + c.toNat % 64
    obtain ⟨top, middle⟩ : m / 64 = a.toNat % 16 ∧ m % 64 = b.toNat % 64 :=
      div_mod_sixtyFour (digit b)
    obtain ⟨upper, bottom⟩ : n / 64 = m ∧ n % 64 = c.toNat % 64 := div_mod_sixtyFour (digit c)
    have range : 0x7FF < n ∧ n ≤ 0xFFFF ∧ (n < 0xD800 ∨ 0xDFFF < n) := by
      rw [UInt8.le_iff_toNat_le] at low high
      have trailing := isTail_iff.1 third
      omega
    have value : (Char.ofNat n).toNat = n := by
      refine toNat_ofNat_of_valid (range.2.2.imp_right fun above => ⟨above, ?_⟩)
      omega
    refine ⟨Char.ofNat n, ?_, fun rest => ?_⟩
    · have head : UInt8.ofNat (a.toNat % 16 % 16 + 0xE0) = a := by
        rw [← UInt8.toNat_inj, UInt8.toNat_ofNat']
        omega
      rw [encodeChar_eq, value, if_neg (by omega), if_neg (by omega), if_pos range.2.1,
        ← Nat.div_div_eq_div_mul n 64 64, upper, top, middle, bottom, head, ofNat_tail second,
        ofNat_tail third]
    · simp [decode, found, two, low, high, third, tailBits, n, m]
  · obtain ⟨b, c, d, rfl⟩ := List.length_eq_three.1 (full.trans three)
    obtain ⟨low, high, _, tails⟩ := admits
    have second := isTail_of_between found (by omega) low high
    have third : isTail c = true := tails c (by simp)
    have fourth : isTail d = true := tails d (by simp)
    let l := a.toNat % 8 * 64 + b.toNat % 64
    let m := l * 64 + c.toNat % 64
    let n := m * 64 + d.toNat % 64
    obtain ⟨top, middle⟩ : l / 64 = a.toNat % 8 ∧ l % 64 = b.toNat % 64 :=
      div_mod_sixtyFour (digit b)
    obtain ⟨upper, lower⟩ : m / 64 = l ∧ m % 64 = c.toNat % 64 := div_mod_sixtyFour (digit c)
    obtain ⟨whole, bottom⟩ : n / 64 = m ∧ n % 64 = d.toNat % 64 := div_mod_sixtyFour (digit d)
    have range : 0xFFFF < n ∧ n < 0x110000 := by
      rw [UInt8.le_iff_toNat_le] at low high
      have trailing := isTail_iff.1 third
      have last := isTail_iff.1 fourth
      omega
    have value : (Char.ofNat n).toNat = n := by
      refine toNat_ofNat_of_valid (.inr ⟨?_, range.2⟩)
      omega
    refine ⟨Char.ofNat n, ?_, fun rest => ?_⟩
    · have head : UInt8.ofNat (a.toNat % 8 % 8 + 0xF0) = a := by
        rw [← UInt8.toNat_inj, UInt8.toNat_ofNat']
        omega
      have square : n / 4096 = l := by
        rw [← Nat.div_div_eq_div_mul n 64 64, whole, upper]
      have cube : n / 262144 = a.toNat % 8 := by
        rw [← Nat.div_div_eq_div_mul n 4096 64, square, top]
      rw [encodeChar_eq, value, if_neg (by omega), if_neg (by omega), if_neg (by omega), cube,
        square, whole, middle, lower, bottom, head, ofNat_tail second, ofNat_tail third,
        ofNat_tail fourth]
    · simp [decode, found, three, low, high, third, fourth, tailBits, l, m, n]

theorem exists_lead {a : UInt8} (first : a.toNat < 0x80 ∨ 0xC2 ≤ a.toNat ∧ a.toNat < 0xF5) :
    ∃ lead, lead? a = some lead := by
  rw [← Option.isSome_iff_exists, lead?_eq]
  grind

theorem toNat_ofNat_add {n base : Nat} (small : n + base < 256) :
    (UInt8.ofNat (n + base)).toNat = n + base := by
  rw [UInt8.toNat_ofNat']
  omega

/-- The form of a character is a first byte and as many admitted bytes as that promises. -/
theorem encodeChar_shape (c : Char) :
    ∃ a lead tail, encodeChar c = a :: tail ∧ lead? a = some lead ∧ lead.Admits tail ∧
      tail.length = lead.follow := by
  have valid : c.toNat < 0xD800 ∨ 0xDFFF < c.toNat ∧ c.toNat < 0x110000 := c.valid
  have last : (UInt8.ofNat (c.toNat % 64 + 0x80)).toNat = c.toNat % 64 + 0x80 :=
    toNat_ofNat_add (by omega)
  have middle : (UInt8.ofNat (c.toNat / 64 % 64 + 0x80)).toNat = c.toNat / 64 % 64 + 0x80 :=
    toNat_ofNat_add (by omega)
  rw [encodeChar_eq]
  split
  · have first : (UInt8.ofNat c.toNat).toNat = c.toNat := by
      rw [UInt8.toNat_ofNat']
      omega
    obtain ⟨lead, found⟩ := @exists_lead (UInt8.ofNat c.toNat) (by omega)
    have bounds := lead_bounds found
    exact ⟨_, lead, [], rfl, found, trivial, by grind⟩
  split
  · have first : (UInt8.ofNat (c.toNat / 64 % 32 + 0xC0)).toNat = c.toNat / 64 % 32 + 0xC0 :=
      toNat_ofNat_add (by omega)
    obtain ⟨lead, found⟩ := @exists_lead (UInt8.ofNat (c.toNat / 64 % 32 + 0xC0)) (by omega)
    have bounds := lead_bounds found
    refine ⟨_, lead, [_], rfl, found, ?_, ?_⟩
    · simp only [Lead.Admits, UInt8.le_iff_toNat_le]
      grind
    · grind
  split
  · have first : (UInt8.ofNat (c.toNat / 4096 % 16 + 0xE0)).toNat = c.toNat / 4096 % 16 + 0xE0 :=
      toNat_ofNat_add (by omega)
    obtain ⟨lead, found⟩ := @exists_lead (UInt8.ofNat (c.toNat / 4096 % 16 + 0xE0)) (by omega)
    have bounds := lead_bounds found
    refine ⟨_, lead, [_, _], rfl, found, ?_, ?_⟩
    · simp only [Lead.Admits, UInt8.le_iff_toNat_le, List.forall_mem_singleton, isTail_iff]
      grind
    · grind
  · have first : (UInt8.ofNat (c.toNat / 262144 % 8 + 0xF0)).toNat = c.toNat / 262144 % 8 + 0xF0 :=
      toNat_ofNat_add (by omega)
    have second : (UInt8.ofNat (c.toNat / 4096 % 64 + 0x80)).toNat = c.toNat / 4096 % 64 + 0x80 :=
      toNat_ofNat_add (by omega)
    obtain ⟨lead, found⟩ := @exists_lead (UInt8.ofNat (c.toNat / 262144 % 8 + 0xF0)) (by omega)
    have bounds := lead_bounds found
    refine ⟨_, lead, [_, _, _], rfl, found, ?_, ?_⟩
    · simp only [Lead.Admits, UInt8.le_iff_toNat_le, List.forall_mem_cons, isTail_iff]
      grind
    · grind

theorem encodeChar_injective {c d : Char} (same : encodeChar c = encodeChar d) : c = d := by
  have read (c : Char) :
      ((encodeChar c).toByteArray ++ ByteArray.empty).utf8DecodeChar? 0 = some c :=
    ByteArray.utf8DecodeChar?_utf8EncodeChar_append
  have again := read c
  rw [same, read d] at again
  exact (Option.some.inj again).symm

theorem decode_encodeChar_append (c : Char) (rest : List UInt8) :
    decode (encodeChar c ++ rest) = some c :: decode rest := by
  obtain ⟨a, lead, tail, form, found, admits, full⟩ := encodeChar_shape c
  obtain ⟨d, again, decoded⟩ := exists_encodeChar found admits full
  rw [encodeChar_injective (form.trans again.symm), again, decoded]

theorem Lead.Admits.front {lead : Lead} {front behind : List UInt8}
    (admits : lead.Admits (front ++ behind)) : lead.Admits front := by
  cases front with
  | nil => exact lead.admits_nil
  | cons second front =>
      rw [List.cons_append, admits_cons, List.length_append] at admits
      obtain ⟨low, high, short, tails⟩ := admits
      exact ⟨low, high, by omega, fun byte member => tails byte (by simp [member])⟩

/-- What is admitted can be filled up to a whole form. -/
theorem Lead.Admits.fill {a : UInt8} {lead : Lead} {tail : List UInt8} (found : lead? a = some lead)
    (admits : lead.Admits tail) (within : tail.length ≤ lead.follow) :
    ∃ more, lead.Admits (tail ++ more) ∧ (tail ++ more).length = lead.follow := by
  have filler {count : Nat} {byte : UInt8} (member : byte ∈ List.replicate count (0x80 : UInt8)) :
      isTail byte = true := by
    rw [(List.mem_replicate.1 member).2]
    decide
  cases tail with
  | nil =>
      cases follow : lead.follow with
      | zero => exact ⟨[], trivial, rfl⟩
      | succ count =>
          have bounds := lead_bounds found
          have ordered : lead.low ≤ lead.high := UInt8.le_iff_toNat_le.2 (by omega)
          refine ⟨lead.low :: List.replicate count 0x80, ?_, by simp⟩
          exact ⟨UInt8.le_refl _, ordered, by simp [follow], fun _ => filler⟩
  | cons second tail =>
      obtain ⟨low, high, short, tails⟩ := admits
      rw [List.length_cons] at within
      refine ⟨List.replicate (lead.follow - tail.length - 1) 0x80, ?_, ?_⟩
      · rw [List.cons_append, admits_cons, List.length_append, List.length_replicate]
        refine ⟨low, high, by omega, fun byte member => ?_⟩
        rcases List.mem_append.1 member with held | added
        · exact tails byte held
        · exact filler added
      · simp only [List.cons_append, List.length_cons, List.length_append, List.length_replicate]
        omega

/-- The beginnings of forms are a first byte and what it admits. -/
theorem prefix_encodeChar_iff {a : UInt8} {tail : List UInt8} :
    (∃ c, a :: tail <+: encodeChar c) ↔
      ∃ lead, lead? a = some lead ∧ lead.Admits tail ∧ tail.length ≤ lead.follow := by
  constructor
  · rintro ⟨c, begins⟩
    obtain ⟨first, lead, whole, form, found, admits, full⟩ := encodeChar_shape c
    rw [form] at begins
    obtain ⟨rfl, behind, rfl⟩ := List.cons_prefix_cons.1 begins
    rw [List.length_append] at full
    exact ⟨lead, found, admits.front, by omega⟩
  · rintro ⟨lead, found, admits, within⟩
    obtain ⟨more, whole, full⟩ := admits.fill found within
    obtain ⟨c, form, _⟩ := exists_encodeChar found whole full
    exact ⟨c, more, form.symm⟩

/-- A stretch of bytes that is no character's form: a byte that begins none, or the longest
beginning of one that the bytes go along with. -/
inductive Broken : List UInt8 → List UInt8 → Prop where
  | stray {b : UInt8} {rest : List UInt8} (alien : ∀ c, ¬ [b] <+: encodeChar c) : Broken [b] rest
  | cutOff {stretch rest : List UInt8} {c : Char} (nonempty : stretch ≠ [])
      (begins : stretch <+: encodeChar c) (short : stretch ≠ encodeChar c)
      (longest : ∀ b more, rest = b :: more → ∀ d, ¬ stretch ++ [b] <+: encodeChar d) :
      Broken stretch rest

/-- What bytes decode to: the character of each form, and nothing for each bad stretch. -/
inductive Decodes : List UInt8 → List (Option Char) → Prop where
  | nil : Decodes [] []
  | char (c : Char) {rest : List UInt8} {found : List (Option Char)} (others : Decodes rest found) :
      Decodes (encodeChar c ++ rest) (some c :: found)
  | broken {stretch rest : List UInt8} {found : List (Option Char)} (bad : Broken stretch rest)
      (others : Decodes rest found) : Decodes (stretch ++ rest) (none :: found)

/-- A first byte with too few bytes behind it, where the next byte is not admitted. -/
theorem decode_cutOff {a : UInt8} {lead : Lead} {tail rest : List UInt8}
    (found : lead? a = some lead) (admits : lead.Admits tail) (short : tail.length < lead.follow)
    (refused : ∀ b more, rest = b :: more → ¬ lead.Admits (tail ++ [b])) :
    decode (a :: tail ++ rest) = none :: decode rest := by
  have follow : lead.follow ≤ 3 := by
    have bounds := lead_bounds found
    omega
  match tail, rest with
  | [], [] =>
      have more : lead.follow ≠ 0 := Nat.ne_of_gt short
      simp [decode, found, more]
  | [], d :: rest =>
      have more : lead.follow ≠ 0 := Nat.ne_of_gt short
      have outside : (decide (lead.low ≤ d) && decide (d ≤ lead.high)) = false := by
        rw [Bool.eq_false_iff]
        intro inside
        obtain ⟨low, high⟩ : lead.low ≤ d ∧ d ≤ lead.high := by simpa using inside
        exact refused d rest rfl ⟨low, high, short, by simp⟩
      rw [List.cons_append, List.nil_append, decode, found]
      simp only [more, ↓reduceIte, outside, Bool.not_false]
  | [b], [] =>
      obtain ⟨low, high, _⟩ := admits
      have more : lead.follow ≠ 0 ∧ lead.follow ≠ 1 := by
        rw [List.length_singleton] at short
        omega
      simp [decode, found, more, low, high]
  | [b], d :: rest =>
      obtain ⟨low, high, _⟩ := admits
      have more : lead.follow ≠ 0 ∧ lead.follow ≠ 1 := by
        rw [List.length_singleton] at short
        omega
      have outside : isTail d = false := by
        rw [Bool.eq_false_iff]
        intro inside
        refine refused d rest rfl ⟨low, high, short, by simpa using inside⟩
      rw [List.cons_append, List.cons_append, List.nil_append, decode, found]
      simp [more, low, high, outside]
  | [b, c], rest =>
      obtain ⟨low, high, _, tails⟩ := admits
      have three : lead.follow = 3 := by
        simp only [List.length_cons, List.length_nil] at short
        omega
      have third : isTail c = true := tails c (by simp)
      cases rest with
      | nil => simp [decode, found, three, low, high, third]
      | cons d rest =>
          have outside : isTail d = false := by
            rw [Bool.eq_false_iff]
            intro inside
            exact refused d rest rfl ⟨low, high, short, by simp [third, inside]⟩
          rw [List.cons_append, List.cons_append, List.cons_append, List.nil_append, decode, found]
          simp [three, low, high, third, outside]
  | _ :: _ :: _ :: _, _ =>
      simp only [List.length_cons] at short
      omega

theorem Broken.decode {stretch rest : List UInt8} (bad : Broken stretch rest) :
    decode (stretch ++ rest) = none :: decode rest := by
  cases bad with
  | @stray b rest alien =>
      have none : lead? b = none := by
        rw [Option.eq_none_iff_forall_ne_some]
        intro lead found
        obtain ⟨c, begins⟩ := prefix_encodeChar_iff.2 ⟨lead, found, lead.admits_nil, Nat.zero_le _⟩
        exact alien c begins
      simp [Utf8.decode, none]
  | @cutOff stretch rest c nonempty begins short longest =>
      obtain ⟨a, tail, rfl⟩ := List.exists_cons_of_ne_nil nonempty
      obtain ⟨first, lead, whole, form, found, admits, full⟩ := encodeChar_shape c
      rw [form] at begins short
      obtain ⟨rfl, behind, rfl⟩ := List.cons_prefix_cons.1 begins
      have nonempty : behind ≠ [] := by
        rintro rfl
        simp at short
      have positive := List.length_pos_iff.2 nonempty
      rw [List.length_append] at full
      refine decode_cutOff found admits.front (by omega) ?_
      intro b more split admitted
      obtain ⟨d, longer⟩ := prefix_encodeChar_iff.2 ⟨lead, found, admitted, by simp; omega⟩
      exact longest b more split d longer

/-- Bytes that begin with no character's form begin with a bad stretch. -/
theorem exists_broken {bytes : List UInt8} (nonempty : bytes ≠ [])
    (absent : ∀ c, ¬ encodeChar c <+: bytes) :
    ∃ stretch rest, bytes = stretch ++ rest ∧ Broken stretch rest := by
  have short {stretch rest : List UInt8} (split : bytes = stretch ++ rest) (c : Char) :
      stretch ≠ encodeChar c := by
    rintro rfl
    exact absent c ⟨rest, split.symm⟩
  -- A beginning of a form is lengthened byte by byte as long as it stays one.
  have lengthen (rest stretch : List UInt8) (c : Char) (started : stretch ≠ [])
      (begins : stretch <+: encodeChar c) (split : bytes = stretch ++ rest) :
      ∃ stretch rest, bytes = stretch ++ rest ∧ Broken stretch rest := by
    induction rest generalizing stretch c with
    | nil => exact ⟨stretch, [], split, .cutOff started begins (short split c) (by simp)⟩
    | cons b rest ih =>
        by_cases longer : ∃ d, stretch ++ [b] <+: encodeChar d
        · obtain ⟨d, begins⟩ := longer
          exact ih (stretch ++ [b]) d (by simp) begins (by simp [split])
        · refine ⟨stretch, b :: rest, split, .cutOff started begins (short split c) ?_⟩
          rintro _ _ ⟨⟩ d begins
          exact longer ⟨d, begins⟩
  obtain ⟨b, rest, rfl⟩ := List.exists_cons_of_ne_nil nonempty
  by_cases first : ∃ c, [b] <+: encodeChar c
  · obtain ⟨c, begins⟩ := first
    exact lengthen rest [b] c (by simp) begins rfl
  · exact ⟨[b], rest, rfl, .stray (not_exists.1 first)⟩

theorem Decodes.eq_decode {bytes : List UInt8} {found : List (Option Char)}
    (decodes : Decodes bytes found) : found = decode bytes := by
  induction decodes with
  | nil => rfl
  | char c _ ih => rw [decode_encodeChar_append, ih]
  | broken bad _ ih => rw [bad.decode, ih]

theorem exists_decodes (bytes : List UInt8) : ∃ found, Decodes bytes found := by
  induction same : bytes.length using Nat.strongRecOn generalizing bytes with
  | ind size ih =>
      by_cases nonempty : bytes = []
      · exact ⟨[], nonempty ▸ .nil⟩
      by_cases begins : ∃ c, encodeChar c <+: bytes
      · obtain ⟨c, rest, rfl⟩ := begins
        have positive : 0 < (encodeChar c).length :=
          List.length_pos_iff.2 String.utf8EncodeChar_ne_nil
        have shorter : rest.length < size := by
          rw [← same, List.length_append]
          omega
        obtain ⟨found, others⟩ := ih rest.length shorter rest rfl
        exact ⟨some c :: found, .char c others⟩
      · obtain ⟨stretch, rest, rfl, bad⟩ := exists_broken nonempty (not_exists.1 begins)
        have positive : 0 < stretch.length := by
          cases bad with
          | stray => exact Nat.one_pos
          | cutOff nonempty => exact List.length_pos_iff.2 nonempty
        have shorter : rest.length < size := by
          rw [← same, List.length_append]
          omega
        obtain ⟨found, others⟩ := ih rest.length shorter rest rfl
        exact ⟨none :: found, .broken bad others⟩

/-- Bytes fall apart into forms and bad stretches in the one way in which they are decoded. -/
theorem decodes_iff {bytes : List UInt8} {found : List (Option Char)} :
    Decodes bytes found ↔ found = decode bytes := by
  constructor
  · exact Decodes.eq_decode
  · rintro rfl
    obtain ⟨found, decodes⟩ := exists_decodes bytes
    rwa [← decodes.eq_decode]

@[simp] theorem decode_encode (text : Text) : decode (encode text) = text.map some := by
  induction text with
  | nil => rfl
  | cons c text ih => exact (decode_encodeChar_append c (encode text)).trans (by rw [ih]; rfl)

theorem Decodes.eq_encode {bytes : List UInt8} {text : Text}
    (decodes : Decodes bytes (text.map some)) : bytes = encode text := by
  generalize whole : text.map some = found at decodes
  induction decodes generalizing text with
  | nil => rw [List.map_eq_nil_iff.1 whole]; rfl
  | char c _ ih =>
      obtain ⟨d, text, rfl, same, rfl⟩ := List.map_eq_cons_iff.1 whole
      cases same
      rw [ih rfl]
      rfl
  | broken _ _ ih =>
      obtain ⟨d, text, rfl, same, rfl⟩ := List.map_eq_cons_iff.1 whole
      cases same

theorem mapM_id_eq_some_iff {found : List (Option Char)} {text : Text} :
    found.mapM id = some text ↔ found = text.map some := by
  induction found generalizing text with
  | nil => cases text <;> simp
  | cons first found ih =>
      cases first with
      | none => cases text <;> simp
      | some c =>
          cases text with
          | nil => simp [List.mapM_cons, Option.bind_eq_some_iff]
          | cons d text =>
              simp only [List.mapM_cons, id_eq, Option.bind_eq_bind, Option.bind_some,
                Option.bind_eq_some_iff, ih, List.map_cons, List.cons.injEq, Option.some.injEq,
                Option.pure_def]
              constructor
              · rintro ⟨_, rfl, rfl, rfl⟩
                exact ⟨rfl, rfl⟩
              · rintro ⟨rfl, rfl⟩
                exact ⟨text, rfl, rfl, rfl⟩

/-- Bytes hold a text if they are its form, and else none. -/
theorem text?_eq_some_iff {bytes : List UInt8} {text : Text} :
    text? bytes = some text ↔ bytes = encode text := by
  rw [text?, mapM_id_eq_some_iff]
  constructor
  · intro read
    exact Decodes.eq_encode (decodes_iff.2 read.symm)
  · rintro rfl
    exact decode_encode text

/-- The text that bytes decode to, with U+FFFD for each bad stretch. -/
def Replaces (bytes : List UInt8) (text : Text) : Prop :=
  ∃ found, Decodes bytes found ∧ text = found.map (·.getD '\uFFFD')

theorem replaces_iff {bytes : List UInt8} {text : Text} :
    Replaces bytes text ↔ text = lossyText bytes := by
  simp [Replaces, decodes_iff, lossyText]

@[simp] theorem lossyText_encode (text : Text) : lossyText (encode text) = text := by
  simp [lossyText, Function.comp_def]

end Stencil.Utf8
