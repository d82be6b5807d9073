import Stencil.Proofs.Files.Name
import Stencil.Proofs.Text.Utf8

set_option autoImplicit false

namespace Stencil

namespace Files

/-- A file can be read and holds the form of a text. -/
def Holds (files : Files) (path text : Text) : Prop := files.read path = .ok (Utf8.encode text)

/-- Why a file holds no text: it cannot be read, or its bytes are the form of none. -/
inductive Fails (files : Files) (path : Text) : FileError → Prop where
  | unread {error : FileError} (failed : files.read path = .error error) : Fails files path error
  | notText {bytes : List UInt8} (read : files.read path = .ok bytes)
      (formless : ∀ text, bytes ≠ Utf8.encode text) : Fails files path .notText

variable {files : Files} {path : Text}

theorem readText_eq_ok_iff {text : Text} :
    files.readText path = .ok text ↔ files.Holds path text := by
  constructor
  · intro read
    unfold readText at read
    split at read
    · cases read
    · rename_i bytes got
      split at read <;> cases read
      rename_i found
      rw [Holds, got, Utf8.text?_eq_some_iff.1 found]
  · intro holds
    have found : Utf8.text? (Utf8.encode text) = some text := Utf8.text?_eq_some_iff.2 rfl
    simp only [readText, show files.read path = _ from holds, found]

theorem Holds.unique {first second : Text} (one : files.Holds path first)
    (other : files.Holds path second) : first = second := by
  have read := readText_eq_ok_iff.2 one
  rw [readText_eq_ok_iff.2 other] at read
  exact (Except.ok.inj read).symm

theorem readText_eq_error_iff {error : FileError} :
    files.readText path = .error error ↔ files.Fails path error := by
  constructor
  · intro failed
    unfold readText at failed
    split at failed
    · rename_i got
      cases failed
      exact .unread got
    · rename_i bytes got
      split at failed <;> cases failed
      rename_i missing
      refine .notText got fun text form => ?_
      cases missing.symm.trans (Utf8.text?_eq_some_iff.2 form)
  · rintro (failed | ⟨read, formless⟩)
    · simp only [readText, failed]
    · rename_i bytes
      have missing : Utf8.text? bytes = Option.none := by
        rw [Option.eq_none_iff_forall_ne_some]
        exact fun text found => formless text (Utf8.text?_eq_some_iff.1 found)
      simp only [readText, read, missing]

end Files

namespace Data

/-- A text is that of a value in a format. -/
inductive Reads (text : Text) : Format → Value → Prop where
  | json {value : Value} (read : Json.read? text = some value) : Reads text .json value
  | yaml {value : Value} (read : Yaml.readValue text = .ok value) : Reads text .yaml value

/-- A file has a known extension and holds an object in its format, with the given fields. -/
def Holds (files : Files) (path : Text) (values : Table Value) : Prop :=
  ∃ text extension format fields, files.Holds path text ∧ Path.HasExtension path extension ∧
    Names extension format ∧ Reads text format (.object fields) ∧ values = Table.ofList fields

/-- Why a file holds no object: it holds no text, its extension is unknown, its text is malformed,
or the value is none. -/
inductive Refused (files : Files) (path : Text) : DataError → Prop where
  | unreadable {error : FileError} (failed : files.Fails path error) :
      Refused files path (.unreadable path error)
  | unsupported {text : Text} (holds : files.Holds path text)
      (unnamed : ∀ extension format, Path.HasExtension path extension → ¬ Names extension format) :
      Refused files path (.unsupported path)
  | badJson {text extension : Text} (holds : files.Holds path text)
      (has : Path.HasExtension path extension) (named : Names extension .json)
      (malformed : Json.read? text = none) : Refused files path (.badJson path)
  | badYaml {text extension : Text} {error : Yaml.Error} (holds : files.Holds path text)
      (has : Path.HasExtension path extension) (named : Names extension .yaml)
      (malformed : Yaml.readValue text = .error error) : Refused files path (.badYaml path error)
  | notObject {text extension : Text} {format : Format} {value : Value}
      (holds : files.Holds path text) (has : Path.HasExtension path extension)
      (named : Names extension format) (reads : Reads text format value)
      (other : ∀ fields, value ≠ .object fields) : Refused files path (.notObject path)

variable {files : Files} {path : Text}

theorem read_eq_ok_iff {text : Text} {format : Format} {value : Value} :
    read path text format = .ok value ↔ Reads text format value := by
  constructor
  · intro got
    cases format with
    | json =>
        simp only [read] at got
        split at got <;> cases got
        rename_i read
        exact .json read
    | yaml =>
        simp only [read] at got
        split at got <;> cases got
        rename_i read
        exact .yaml read
  · rintro (read | read) <;> simp only [Data.read, read]

theorem bind_format?_eq_some_iff {format : Format} :
    (Path.extension? path).bind format? = some format ↔
      ∃ extension, Path.HasExtension path extension ∧ Names extension format := by
  simp only [Option.bind_eq_some_iff, Path.extension?_eq_some_iff, format?_eq_some_iff]

theorem asObject?_eq_some_iff {value : Value} {values : Table Value} :
    value.asObject? = some values ↔
      ∃ fields, value = .object fields ∧ values = Table.ofList fields := by
  cases value <;> simp [Value.asObject?, eq_comm]

theorem load_eq_ok_iff {values : Table Value} :
    load files path = .ok values ↔ Holds files path values := by
  constructor
  · intro loaded
    unfold load at loaded
    split at loaded
    · cases loaded
    · rename_i text got
      split at loaded
      · cases loaded
      · rename_i format known
        split at loaded
        · cases loaded
        · rename_i value read
          split at loaded <;> cases loaded
          rename_i object
          obtain ⟨extension, has, named⟩ := bind_format?_eq_some_iff.1 known
          obtain ⟨fields, rfl, rfl⟩ := asObject?_eq_some_iff.1 object
          exact ⟨text, extension, format, fields, Files.readText_eq_ok_iff.1 got, has, named,
            read_eq_ok_iff.1 read, rfl⟩
  · rintro ⟨text, extension, format, fields, holds, has, named, reads, rfl⟩
    have known := bind_format?_eq_some_iff.2 ⟨extension, has, named⟩
    simp only [load, Files.readText_eq_ok_iff.2 holds, known, read_eq_ok_iff.2 reads,
      Value.asObject?]

theorem load_eq_error_iff {error : DataError} :
    load files path = .error error ↔ Refused files path error := by
  constructor
  · intro failed
    unfold load at failed
    split at failed
    · rename_i unread
      cases failed
      exact .unreadable (Files.readText_eq_error_iff.1 unread)
    · rename_i text got
      have holds := Files.readText_eq_ok_iff.1 got
      split at failed
      · rename_i unknown
        cases failed
        refine .unsupported holds fun extension format has named => ?_
        cases unknown.symm.trans (bind_format?_eq_some_iff.2 ⟨extension, has, named⟩)
      · rename_i format known
        obtain ⟨extension, has, named⟩ := bind_format?_eq_some_iff.1 known
        split at failed
        · rename_i malformed
          cases failed
          cases format with
          | json =>
              simp only [read] at malformed
              split at malformed <;> cases malformed
              rename_i none
              exact .badJson holds has named none
          | yaml =>
              simp only [read] at malformed
              split at malformed <;> cases malformed
              rename_i bad
              exact .badYaml holds has named bad
        · rename_i value read
          split at failed <;> cases failed
          rename_i none
          refine .notObject holds has named (read_eq_ok_iff.1 read) fun fields same => ?_
          cases none.symm.trans (asObject?_eq_some_iff.2 ⟨fields, same, rfl⟩)
  · rintro (failed | ⟨holds, unnamed⟩ | ⟨holds, has, named, malformed⟩ |
      ⟨holds, has, named, malformed⟩ | ⟨holds, has, named, reads, other⟩)
    · simp only [load, Files.readText_eq_error_iff.2 failed]
    · have unknown : (Path.extension? path).bind format? = none := by
        rw [Option.eq_none_iff_forall_ne_some]
        intro format known
        obtain ⟨extension, has, named⟩ := bind_format?_eq_some_iff.1 known
        exact unnamed extension format has named
      simp only [load, Files.readText_eq_ok_iff.2 holds, unknown]
    · have known := bind_format?_eq_some_iff.2 ⟨_, has, named⟩
      simp only [load, Files.readText_eq_ok_iff.2 holds, known, read, malformed]
    · have known := bind_format?_eq_some_iff.2 ⟨_, has, named⟩
      simp only [load, Files.readText_eq_ok_iff.2 holds, known, read, malformed]
    · rename_i value
      have known := bind_format?_eq_some_iff.2 ⟨_, has, named⟩
      have none : value.asObject? = none := by
        rw [Option.eq_none_iff_forall_ne_some]
        intro values object
        obtain ⟨fields, same, _⟩ := asObject?_eq_some_iff.1 object
        exact other fields same
      simp only [load, Files.readText_eq_ok_iff.2 holds, known, read_eq_ok_iff.2 reads, none]

end Data

end Stencil
