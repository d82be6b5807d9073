import Stencil.Text.Utf8

set_option autoImplicit false

namespace Stencil

inductive FileError where
  | notFound
  | notDirectory
  | isDirectory
  | nameTooLong
  | nulInName
  | denied
  | notText
  | other (reason : String)
deriving DecidableEq, Repr

def FileError.message : FileError → String
  | notFound => "No such file or directory (os error 2)"
  | notDirectory => "Not a directory (os error 20)"
  | isDirectory => "Is a directory (os error 21)"
  | nameTooLong => "File name too long (os error 36)"
  | nulInName => "file name contained an unexpected NUL byte"
  | denied => "Permission denied (os error 13)"
  | notText => "stream did not contain valid UTF-8"
  | other reason => reason

/-- Which paths name regular files, and what reading a path gives. -/
structure Files where
  isFile : Text → Bool
  read : Text → Except FileError (List UInt8)

namespace Files

def none : Files := ⟨fun _ => false, fun _ => .error .notFound⟩

instance : Inhabited Files := ⟨none⟩

/-- The files whose readings are known. A file that may not be read is there all the same. -/
def ofReadings (readings : List (Text × Except FileError (List UInt8))) : Files where
  isFile path :=
    match readings.lookup path with
    | some (.ok _) => true
    | some (.error .denied) => true
    | _ => false
  read path := (readings.lookup path).getD (.error .notFound)

/-- Reads a file that must hold well-formed UTF-8. -/
def readText (files : Files) (path : Text) : Except FileError Text :=
  match files.read path with
  | .error error => .error error
  | .ok bytes =>
      match Utf8.text? bytes with
      | some text => .ok text
      | Option.none => .error .notText

end Files

end Stencil
