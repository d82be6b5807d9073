import Stencil.Config
import Stencil.Data
import Stencil.Proofs.Files.Below

set_option autoImplicit false

namespace Stencil

namespace Path

/-- The last step of a path is to a name that ends in an extension, behind a dot and a stem. -/
def HasExtension (path extension : Text) : Prop :=
  ∃ stem, stem ≠ [] ∧ '.' ∉ extension ∧
    (components path).getLast? = some (.name (stem ++ '.' :: extension))

theorem component?_eq_none_iff {segment : Text} :
    component? segment = none ↔ isIdle segment = true := by
  simp only [component?]
  split
  · simp [*]
  · split
    · rename_i up
      simp [up, isIdle]
    · simp [*]

theorem filterMap_segments_front (path : Text) :
    (segments (front path).2).filterMap component? = (segments path).filterMap component? := by
  have root (rest : Text) : segments ('/' :: rest) = [] :: segments rest :=
    segments_append [] rest
  have here (rest : Text) : segments ('.' :: '/' :: rest) = ['.'] :: segments rest :=
    segments_append ['.'] rest
  fun_cases front path
  · rw [root]
    rfl
  · rfl
  · rw [root, here]
    rfl
  · rfl

theorem findSome?_component? (segments : List Text) :
    segments.findSome? component? = (segments.dropWhile isIdle).head?.bind component? := by
  induction segments with
  | nil => rfl
  | cons segment segments ih =>
      cases idle : isIdle segment with
      | true => simp [component?_eq_none_iff.2 idle, idle, ih]
      | false =>
          have named : component? segment ≠ none := by simp [component?_eq_none_iff, idle]
          obtain ⟨step, found⟩ := Option.ne_none_iff_exists'.1 named
          simp [found, idle]

theorem getLast?_cons_eq_name_iff {first : Component} {steps : List Component} {name : Text}
    (other : first ≠ .name name) :
    (first :: steps).getLast? = some (.name name) ↔ steps.getLast? = some (.name name) := by
  rw [List.getLast?_cons]
  cases steps.getLast? <;> simp [other]

theorem getLast?_components_eq_name_iff {path name : Text} :
    (components path).getLast? = some (.name name) ↔
      ((segments path).filterMap component?).getLast? = some (.name name) := by
  simp only [components]
  split
  · exact getLast?_cons_eq_name_iff (by simp)
  · split
    · exact getLast?_cons_eq_name_iff (by simp)
    · rfl

theorem fileName?_eq_some_iff {path name : Text} :
    fileName? path = some name ↔ (components path).getLast? = some (.name name) := by
  rw [getLast?_components_eq_name_iff, ← filterMap_segments_front, List.getLast?_filterMap,
    findSome?_component?, fileName?, tail]
  cases behind : (segments (front path).2).reverse.dropWhile isIdle with
  | nil => simp
  | cons last more =>
      have named : isIdle last = false := by
        have head := List.head?_dropWhile_not isIdle (segments (front path).2).reverse
        rw [behind] at head
        simpa using head
      simp only [List.head?_cons, Option.bind_some, component?, named]
      split <;> simp_all

theorem splitOn_dot_eq_nil_iff {stem : Text} : stem.splitOn '.' = [[]] ↔ stem = [] := by
  constructor
  · intro split
    have whole : ['.'].intercalate (stem.splitOn '.') = stem := List.intercalate_splitOn '.'
    rw [← whole, split]
    rfl
  · rintro rfl
    rfl

theorem extension?_of_fileName? {path stem extension : Text} (undotted : '.' ∉ extension)
    (last : fileName? path = some (stem ++ '.' :: extension)) :
    extension? path = if stem = [] then none else some extension := by
  obtain ⟨final, front, pieces⟩ :=
    List.exists_cons_of_ne_nil (List.reverse_ne_nil_iff.2 (List.splitOn_ne_nil '.' stem))
  have empty : (front = [] ∧ final = []) ↔ stem = [] := by
    rw [← @splitOn_dot_eq_nil_iff stem, ← @List.reverse_inj _ (stem.splitOn '.'), pieces]
    simp [and_comm]
  simp only [extension?, last, Option.bind_eq_bind, Option.bind_some,
    List.splitOn_append_cons_self, List.splitOn_eq_singleton undotted, List.reverse_append,
    List.reverse_singleton, List.singleton_append, pieces, empty]

theorem extension?_eq_some_iff {path extension : Text} :
    extension? path = some extension ↔ HasExtension path extension := by
  constructor
  · intro found
    cases last : fileName? path with
    | none => simp [extension?, last] at found
    | some name =>
        by_cases dotted : '.' ∈ name
        · obtain ⟨behind, before, split, undotted⟩ :=
            List.eq_append_cons_of_mem (List.mem_reverse.2 dotted)
          have whole : name = before.reverse ++ '.' :: behind.reverse := by
            rw [← List.reverse_inj, split]
            simp
          rw [extension?_of_fileName? (by simpa using undotted) (whole ▸ last)] at found
          split at found
          · cases found
          · rename_i named
            cases found
            exact ⟨before.reverse, named, by simpa using undotted,
              fileName?_eq_some_iff.1 (whole ▸ last)⟩
        · simp [extension?, last, List.splitOn_eq_singleton dotted] at found
  · rintro ⟨stem, named, undotted, last⟩
    rw [extension?_of_fileName? undotted (fileName?_eq_some_iff.2 last), if_neg named]

end Path

namespace Config

/-- A file has one of the style sheet extensions, the case of ASCII letters and the dots at the
front of the configured one apart. -/
def Wraps (config : Config) (file : Text) : Prop :=
  ∃ extension dots bare, Path.HasExtension file extension ∧
    dots ++ bare ∈ config.stylesheetExtensions ∧ (∀ c ∈ dots, c = '.') ∧ bare.head? ≠ some '.' ∧
    bare.map Char.toLower = extension.map Char.toLower

theorem isStylesheet_iff {config : Config} {file : Text} :
    config.isStylesheet file = true ↔ config.Wraps file := by
  have bare (known : Text) : known.takeWhile (· = '.') ++ known.dropWhile (· = '.') = known :=
    List.takeWhile_append_dropWhile
  simp only [isStylesheet, Wraps]
  constructor
  · intro sheet
    cases found : Path.extension? file with
    | none => simp [found] at sheet
    | some extension =>
        simp only [found, List.any_eq_true, Text.sameLetters_iff] at sheet
        obtain ⟨known, member, same⟩ := sheet
        refine ⟨extension, _, _, Path.extension?_eq_some_iff.1 found, (bare known).symm ▸ member,
          ?_, ?_, same⟩
        · intro c dot
          simpa using List.all_eq_true.1 List.all_takeWhile c dot
        · intro head
          have undotted := List.head?_dropWhile_not (· = '.') known
          rw [head] at undotted
          simp at undotted
  · rintro ⟨extension, dots, bare, has, member, all, head, same⟩
    rw [Path.extension?_eq_some_iff.2 has]
    simp only [List.any_eq_true, Text.sameLetters_iff]
    refine ⟨_, member, ?_⟩
    have dropped : (dots ++ bare).dropWhile (· = '.') = bare := by
      rw [List.dropWhile_append_of_pos (by simpa using all)]
      cases bare with
      | nil => rfl
      | cons c bare =>
          have other : ¬ c = '.' := by simpa using head
          simp [other]
    rw [dropped, same]

end Config

namespace Data

/-- The extensions that a data file may have, in any letters, and the format of each. -/
inductive Names : Text → Format → Prop where
  | json {extension : Text} (named : extension.map Char.toLower = "json".toList) :
      Names extension .json
  | yaml {extension : Text} (named : extension.map Char.toLower = "yaml".toList) :
      Names extension .yaml
  | yml {extension : Text} (named : extension.map Char.toLower = "yml".toList) :
      Names extension .yaml

theorem format?_eq_some_iff {extension : Text} {format : Format} :
    format? extension = some format ↔ Names extension format := by
  have lower : "json".toList.map Char.toLower = "json".toList ∧
      "yaml".toList.map Char.toLower = "yaml".toList ∧
      "yml".toList.map Char.toLower = "yml".toList := by decide
  simp only [format?, Text.sameLetters_iff, lower]
  constructor
  · intro found
    split at found
    · rename_i named
      cases found
      exact .json named
    · split at found
      · rename_i named
        cases found
        exact .yaml named
      · split at found <;> cases found
        rename_i named
        exact .yml named
  · rintro (named | named | named) <;> simp [named]

end Data

end Stencil
