import Stencil.Files
import Stencil.Files.Path
import Stencil.Table

set_option autoImplicit false

namespace Stencil

inductive Tree.Item where
  | file (bytes : List UInt8)
  | directory (entries : List (Text × Tree.Item))
deriving Repr, Inhabited

/-- A directory tree in memory. Of the surroundings of its top directory nothing is known but that
they are directories. -/
structure Tree where
  entries : List (Text × Tree.Item) := []
deriving Repr, Inhabited

namespace Tree

/-- A directory on the way along a path, with the directories above it, or one outside the
tree. -/
inductive Place where
  | inside (here : List (Text × Tree.Item)) (above : List (List (Text × Tree.Item)))
  | outside

def maxName : Nat := 255

def maxPath : Nat := 4095

def Place.up : Place → Place
  | inside _ (here :: above) => inside here above
  | _ => outside

def Place.find? : Place → Text → Option Tree.Item
  | inside here _, name => findEntry name here
  | outside, _ => none

def Place.enter (place : Place) (entries : List (Text × Tree.Item)) : Place :=
  match place with
  | inside here above => inside entries (here :: above)
  | outside => outside

/-- Follows segments: the bytes of a file, or `none` for a directory. A file ends the way. -/
def follow : Place → List Text → Except FileError (Option (List UInt8))
  | _, [] => .ok none
  | place, name :: names =>
      if Path.isIdle name then follow place names
      else if name = ['.', '.'] then follow place.up names
      else if maxName < Utf8.size name then .error .nameTooLong
      else
        match place.find? name with
        | none => .error .notFound
        | some (.directory entries) => follow (place.enter entries) names
        | some (.file bytes) => if names = [] then .ok (some bytes) else .error .notDirectory

def resolve (tree : Tree) (path : Text) : Except FileError (Option (List UInt8)) :=
  if path = [] then .error .notFound
  else if path.contains '\x00' then .error .nulInName
  else if maxPath < Utf8.size path then .error .nameTooLong
  else
    follow (if Path.isAbsolute path then .outside else .inside tree.entries [])
      (Path.segments path)

def files (tree : Tree) : Files where
  isFile path :=
    match tree.resolve path with
    | .ok (some _) => true
    | _ => false
  read path :=
    match tree.resolve path with
    | .ok (some bytes) => .ok bytes
    | .ok none => .error .isDirectory
    | .error error => .error error

/-- Goes one segment on from a place inside the tree. A place is given by the names that lead to it
from the top, the last one first; there is none above the top. -/
def step? (reversed : List Text) (segment : Text) : Option (List Text) :=
  if Path.isIdle segment then some reversed
  else if segment = ['.', '.'] then
    match reversed with
    | [] => none
    | _ :: above => some above
  else some (segment :: reversed)

/-- The names that lead from the top to what a path stands for. -/
def names? (path : Text) : Option (List Text) :=
  if Path.isAbsolute path then none
  else ((Path.segments path).foldlM step? []).map List.reverse

def change (alter : List (Text × Tree.Item) → List (Text × Tree.Item)) :
    List Text → List (Text × Tree.Item) → List (Text × Tree.Item)
  | [], entries => alter entries
  | name :: names, entries =>
      match findEntry name entries with
      | some (.directory inner) => insertEntry name (.directory (change alter names inner)) entries
      | _ => entries

/-- Changes what the last one of some names stands for, in the directory that the others lead
to. Without any name nothing is changed. -/
def changeLast (alter : Text → List (Text × Tree.Item) → List (Text × Tree.Item))
    (names : List Text) (entries : List (Text × Tree.Item)) : List (Text × Tree.Item) :=
  match names.getLast? with
  | none => entries
  | some name => change (alter name) names.dropLast entries

def putDirectory (name : Text) (entries : List (Text × Tree.Item)) : List (Text × Tree.Item) :=
  if (findEntry name entries).isSome then entries else insertEntry name (.directory []) entries

def putFile (bytes : List UInt8) (name : Text) (entries : List (Text × Tree.Item)) :
    List (Text × Tree.Item) :=
  insertEntry name (.file bytes) entries

/-- Puts directories wherever segments lead to on their way from a place. -/
def putAlong (reversed : List Text) : List Text → List (Text × Tree.Item) →
    List (Text × Tree.Item)
  | [], entries => entries
  | segment :: segments, entries =>
      match step? reversed segment with
      | none => entries
      | some reversed =>
          putAlong reversed segments (changeLast putDirectory reversed.reverse entries)

/-- Makes the directories that are missing along a path, those that it leaves again included. -/
def makeDirectory (tree : Tree) (path : Text) : Tree :=
  match tree.resolve path with
  | .error .notFound =>
      if Path.isAbsolute path then tree else ⟨putAlong [] (Path.segments path) tree.entries⟩
  | _ => tree

/-- Puts a file at the end of a path, and directories along it. Nothing is put where a directory
is, behind a file, or by a path that ends in a slash or a dot. -/
def write (tree : Tree) (path : Text) (bytes : List UInt8) : Tree :=
  let made := tree.makeDirectory ((Path.parent? path).getD [])
  if (Path.segments path).getLast?.any Path.isIdle then made
  else
    match made.resolve path, names? path with
    | .ok (some _), some names => ⟨changeLast (putFile bytes) names made.entries⟩
    | .error .notFound, some names => ⟨changeLast (putFile bytes) names made.entries⟩
    | _, _ => made

def remove (tree : Tree) (path : Text) : Tree :=
  match tree.resolve path, names? path with
  | .ok (some _), some names =>
      ⟨changeLast (fun name => List.filter fun entry => entry.1 ≠ name) names tree.entries⟩
  | _, _ => tree

end Tree

end Stencil
