import Stencil.Yaml.Node
import Stencil.Yaml.Scalar.Core
import Stencil.Value

set_option autoImplicit false

namespace Stencil.Yaml

def maxDepth : Nat := 128

/-- How many aliases may be followed for each node of a document. -/
def aliasesPerNode : Nat := 100

/-- Reads of a document, counting down the aliases that may still be followed. -/
abbrev Reading (α : Type) := StateT Nat (Except Error) α

namespace Reading

def follow (anchors : Anchors) (node : Node) : Reading Node := do
  match node with
  | .alias number =>
      let left ← get
      if left = 0 then throw .tooManyAliases
      set (left - 1)
      match anchors.find? number with
      | some node => return node
      | none => throw .unknownAnchor
  | node => return node

end Reading

def coreTag (name : String) : List UInt8 :=
  Utf8.encode ("tag:yaml.org,2002:".toList ++ name.toList)

/-- Whether a tag is one of the document's own. -/
def isLocal (tag : List UInt8) : Bool := tag.head? = Tag.bare.head?

/-- Whether there are no values with a tag: a local one that is well-formed. -/
def isRefused (tag : Option (List UInt8)) : Bool :=
  tag.any fun tag => isLocal tag && (Utf8.text? tag).isSome

/-- The value of a plain scalar. An integer outside 64 bits is refused if it has at most 128, and
otherwise read as a binary64 number. -/
def plainValue (text : Text) : Except Error Value :=
  match Core.of text with
  | .null => .ok .null
  | .bool b => .ok (.bool b)
  | .int n =>
      if Core.fits n then .ok (.number (.int n))
      else if Core.isWide n then .error .wrongType
      else
        match Core.double? text with
        | some (.double d) => .ok (.number (.double d))
        | some .infinite => .ok .null
        | _ => .ok (.string text)
  | .double d => .ok (.number (.double d))
  | .infinite => .ok .null
  | .verbatim => .ok (.string text)

/-- The value of a scalar with a tag of the core schema: what the tag says, or a refusal. With any
other tag it is a text. -/
def taggedValue (tag : List UInt8) (text : Text) : Except Error Value :=
  if tag = coreTag "bool" then
    match Core.bool? text with
    | some b => .ok (.bool b)
    | none => .error .wrongType
  else if tag = coreTag "int" then
    match Core.integer? text with
    | some n => if Core.fits n then .ok (.number (.int n)) else .error .wrongType
    | none => .error .wrongType
  else if tag = coreTag "float" then
    match Core.double? text with
    | some (.double d) => .ok (.number (.double d))
    | some _ => .ok .null
    | none => .error .wrongType
  else if tag = coreTag "null" then
    if Core.isNull text && !text.isEmpty then .ok .null else .error .wrongType
  else .ok (.string text)

/-- The value of a scalar. A local tag says nothing. -/
def scalarValue (tag : Option (List UInt8)) (text : Text) (style : Style) : Except Error Value :=
  match tag.filter fun tag => !isLocal tag with
  | some tag => taggedValue tag text
  | none => if style = .plain then plainValue text else .ok (.string text)

/-- A scalar that is a key is its text, whatever it stands for as a value. -/
def scalarText (anchors : Anchors) (node : Node) : Reading Text := do
  match ← Reading.follow anchors node with
  | .scalar _ text _ => return text
  | _ => throw .wrongType

def nodeValue (anchors : Anchors) : Nat → Node → Reading Value
  | depth, node => do
      match ← Reading.follow anchors node with
      | .scalar tag text style =>
          if isRefused tag then throw .wrongType
          match scalarValue tag text style with
          | .ok value => return value
          | .error error => throw error
      | .sequence tag items =>
          if isRefused tag then throw .wrongType
          match depth with
          | 0 => throw .tooDeep
          | depth + 1 => return .array (← items.mapM (nodeValue anchors depth))
      | .mapping tag pairs =>
          if isRefused tag then throw .wrongType
          match depth with
          | 0 => throw .tooDeep
          | depth + 1 =>
              let fields ← pairs.mapM fun (key, value) => do
                let key ← scalarText anchors key
                let value ← nodeValue anchors depth value
                return (key, value)
              return .object (Table.ofList fields).entries
      | .alias _ => throw .unknownAnchor

def Document.reading {α : Type} (document : Document) (read : Reading α) : Except Error α :=
  (read.run (aliasesPerNode * Document.extent document.root)).map (·.1)

/-- The value that a text holds; a text without a document holds nothing. -/
def readValue (text : Text) : Except Error Value :=
  match Document.read text with
  | .error error => .error error
  | .ok none => .ok .null
  | .ok (some document) => document.reading (nodeValue document.anchors maxDepth document.root)

end Stencil.Yaml
