import Stencil.Yaml.Token

set_option autoImplicit false

namespace Stencil.Yaml

inductive Node where
  | scalar (tag : Option (List UInt8)) (text : Text) (style : Style)
  | sequence (tag : Option (List UInt8)) (items : List Node)
  | mapping (tag : Option (List UInt8)) (entries : List (Node × Node))
  /-- Another node, by the number of its anchor. -/
  | alias (anchor : Nat)
deriving Repr, Inhabited

namespace Node

def absent : Node := scalar none [] .plain

end Node

/-- The anchors met so far. An anchor's number is the count of names known before it. A name stands
for its latest number, and a number for the last node to start with an anchor of that number. -/
structure Anchors where
  names : List (Text × Nat) := []
  /-- The number and the node of each anchor, in the order in which the nodes start. -/
  nodes : List (Nat × Node) := []
deriving Repr

namespace Anchors

/-- Numbers an anchor whose node is still to be read, and keeps a place for the node. -/
def enter (anchors : Anchors) (name : Text) : Nat × Anchors :=
  let number := anchors.names.length
  (anchors.nodes.length,
    ⟨insertEntry name number anchors.names, anchors.nodes ++ [(number, .absent)]⟩)

def settle (anchors : Anchors) (place : Nat) (node : Node) : Anchors :=
  { anchors with nodes := anchors.nodes.modify place fun entry => (entry.1, node) }

def find? (anchors : Anchors) (number : Nat) : Option Node := anchors.nodes.reverse.lookup number

end Anchors

/-- What tags mean by their handles. -/
abbrev Handles := List (Text × List UInt8)

def standardHandles : Handles :=
  [(['!'], Tag.bare), (['!', '!'], Utf8.encode "tag:yaml.org,2002:".toList)]

def Tag.resolve (handles : Handles) (tag : Tag) : Except Error (List UInt8) :=
  if tag.handle.isEmpty then .ok tag.suffix
  else
    match findEntry tag.handle handles with
    | some meaning => .ok (meaning ++ tag.suffix)
    | none => .error .unknownTag

structure Rest where
  tokens : List Token
  anchors : Anchors
deriving Repr

def Rest.drop (rest : Rest) : Rest := { rest with tokens := rest.tokens.drop 1 }

structure Properties where
  tag : Option (List UInt8) := none
  anchor : Option Text := none

/-- Reads a tag and an anchor, in either order, each at most once. -/
def readProperties (handles : Handles) (tokens : List Token) :
    Except Error (Properties × List Token) :=
  match tokens with
  | .anchor name :: .tag tag :: tokens =>
      (tag.resolve handles).map fun tag => (⟨some tag, some name⟩, tokens)
  | .tag tag :: .anchor name :: tokens =>
      (tag.resolve handles).map fun tag => (⟨some tag, some name⟩, tokens)
  | .anchor name :: tokens => .ok (⟨none, some name⟩, tokens)
  | .tag tag :: tokens => (tag.resolve handles).map fun tag => (⟨some tag, none⟩, tokens)
  | tokens => .ok ({}, tokens)

namespace Properties

def isEmpty (properties : Properties) : Bool :=
  properties.tag.isNone && properties.anchor.isNone

def leftOut (properties : Properties) (rest : Rest) : Except Error (Node × Rest) :=
  if properties.isEmpty then .error .badStructure
  else .ok (.scalar properties.tag [] .plain, rest)

end Properties

def endsItem : List Token → Bool
  | .entry :: _ => true
  | .blockEnd :: _ => true
  | _ => false

def endsPair : List Token → Bool
  | .key :: _ => true
  | .value :: _ => true
  | .blockEnd :: _ => true
  | _ => false

/-- Whether something between brackets is left out, by the bracket that closes them. -/
def endsFlow (close : Token) : List Token → Bool
  | [] => false
  | token :: _ => token = .comma || token = close

/-- Steps over the comma in front of everything between brackets but the first. -/
def separated (first : Bool) (tokens : List Token) : Option (List Token) :=
  if first then some tokens
  else
    match tokens with
    | .comma :: tokens => some tokens
    | _ => none

abbrev Reads (α : Type) := Except Error (α × Rest)

mutual

/-- Reads a node. Inside brackets no block may start, and only in a block mapping may the dashes of
a sequence stand at the indentation of the keys. A number bounds the calls: at most four of them are
made for a token. -/
def readNode (handles : Handles) (block dashes : Bool) : Nat → Rest → Reads Node
  | 0, _ => .error .badStructure
  | fuel + 1, rest =>
      match rest.tokens with
      | .alias name :: tokens =>
          match findEntry name rest.anchors.names with
          | some number => .ok (.alias number, { rest with tokens := tokens })
          | none => .error .unknownAnchor
      | tokens =>
          match readProperties handles tokens with
          | .error error => .error error
          | .ok (properties, tokens) =>
              match properties.anchor with
              | none => readContent handles block dashes properties fuel ⟨tokens, rest.anchors⟩
              | some name =>
                  let (place, anchors) := rest.anchors.enter name
                  match readContent handles block dashes properties fuel ⟨tokens, anchors⟩ with
                  | .error error => .error error
                  | .ok (node, rest) =>
                      .ok (node, { rest with anchors := rest.anchors.settle place node })

def readContent (handles : Handles) (block dashes : Bool) (properties : Properties) :
    Nat → Rest → Reads Node
  | 0, _ => .error .badStructure
  | fuel + 1, rest =>
      let tag := properties.tag
      match rest.tokens with
      | .scalar text style :: tokens =>
          .ok (.scalar tag text style, { rest with tokens := tokens })
      | .flowSequenceStart :: tokens =>
          (readFlowItems handles true fuel { rest with tokens := tokens }).map
            fun (items, rest) => (.sequence tag items, rest)
      | .flowMappingStart :: tokens =>
          (readFlowPairs handles true fuel { rest with tokens := tokens }).map
            fun (pairs, rest) => (.mapping tag pairs, rest)
      | .entry :: _ =>
          if dashes then
            (readDashes handles false fuel rest).map fun (items, rest) =>
              (.sequence tag items, rest)
          else properties.leftOut rest
      | .sequenceStart :: tokens =>
          if block then
            (readDashes handles true fuel { rest with tokens := tokens }).map
              fun (items, rest) => (.sequence tag items, rest)
          else properties.leftOut rest
      | .mappingStart :: tokens =>
          if block then
            (readPairs handles fuel { rest with tokens := tokens }).map
              fun (pairs, rest) => (.mapping tag pairs, rest)
          else properties.leftOut rest
      | _ => properties.leftOut rest

/-- Reads the items behind dashes: through the end of their block, or as long as dashes come. -/
def readDashes (handles : Handles) (closed : Bool) : Nat → Rest → Reads (List Node)
  | 0, _ => .error .badStructure
  | fuel + 1, rest =>
      match rest.tokens with
      | .entry :: tokens =>
          let rest := { rest with tokens := tokens }
          let bare := endsItem tokens || (!closed && endsPair tokens)
          match if bare then .ok (.absent, rest) else readNode handles true false fuel rest with
          | .error error => .error error
          | .ok (item, rest) =>
              (readDashes handles closed fuel rest).map fun (items, rest) => (item :: items, rest)
      | .blockEnd :: tokens => .ok ([], if closed then { rest with tokens := tokens } else rest)
      | _ => if closed then .error .badStructure else .ok ([], rest)

def readPairs (handles : Handles) : Nat → Rest → Reads (List (Node × Node))
  | 0, _ => .error .badStructure
  | fuel + 1, rest =>
      match rest.tokens with
      | .key :: tokens =>
          let rest := { rest with tokens := tokens }
          match if endsPair tokens then .ok (.absent, rest)
            else readNode handles true true fuel rest with
          | .error error => .error error
          | .ok (key, rest) =>
              match readPairValue handles fuel rest with
              | .error error => .error error
              | .ok (value, rest) =>
                  (readPairs handles fuel rest).map fun (pairs, rest) =>
                    ((key, value) :: pairs, rest)
      | .blockEnd :: tokens => .ok ([], { rest with tokens := tokens })
      | _ => .error .badStructure

def readPairValue (handles : Handles) : Nat → Rest → Reads Node
  | 0, _ => .error .badStructure
  | fuel + 1, rest =>
      match rest.tokens with
      | .value :: tokens =>
          let rest := { rest with tokens := tokens }
          if endsPair tokens then .ok (.absent, rest) else readNode handles true true fuel rest
      | _ => .ok (.absent, rest)

/-- Reads the items of a bracketed sequence through its bracket. A pair stands for a mapping of
its own. -/
def readFlowItems (handles : Handles) (first : Bool) : Nat → Rest → Reads (List Node)
  | 0, _ => .error .badStructure
  | fuel + 1, rest =>
      match rest.tokens with
      | .flowSequenceEnd :: tokens => .ok ([], { rest with tokens := tokens })
      | tokens =>
          match separated first tokens with
          | none => .error .badStructure
          | some (.flowSequenceEnd :: tokens) => .ok ([], { rest with tokens := tokens })
          | some (.key :: tokens) =>
              match readFlowPair handles fuel { rest with tokens := tokens } with
              | .error error => .error error
              | .ok (pair, rest) =>
                  (readFlowItems handles false fuel rest).map
                    fun (items, rest) => (.mapping none [pair] :: items, rest)
          | some tokens =>
              match readNode handles false false fuel { rest with tokens := tokens } with
              | .error error => .error error
              | .ok (item, rest) =>
                  (readFlowItems handles false fuel rest).map fun (items, rest) =>
                    (item :: items, rest)

/-- Reads a pair among the items of a bracketed sequence. A key that is left out takes the token
in its place with it. -/
def readFlowPair (handles : Handles) : Nat → Rest → Reads (Node × Node)
  | 0, _ => .error .badStructure
  | fuel + 1, rest =>
      let bare := rest.tokens.head? = some .value || endsFlow .flowSequenceEnd rest.tokens
      match if bare then .ok (.absent, rest.drop) else readNode handles false false fuel rest with
      | .error error => .error error
      | .ok (key, rest) =>
          (readFlowValue handles .flowSequenceEnd fuel rest).map
            fun (value, rest) => ((key, value), rest)

def readFlowPairs (handles : Handles) (first : Bool) : Nat → Rest → Reads (List (Node × Node))
  | 0, _ => .error .badStructure
  | fuel + 1, rest =>
      match rest.tokens with
      | .flowMappingEnd :: tokens => .ok ([], { rest with tokens := tokens })
      | tokens =>
          match separated first tokens with
          | none => .error .badStructure
          | some (.flowMappingEnd :: tokens) => .ok ([], { rest with tokens := tokens })
          | some (.key :: tokens) =>
              let rest := { rest with tokens := tokens }
              let bare := tokens.head? = some .value || endsFlow .flowMappingEnd tokens
              match
                if bare then .ok (.absent, rest) else readNode handles false false fuel rest with
              | .error error => .error error
              | .ok (key, rest) =>
                  match readFlowValue handles .flowMappingEnd fuel rest with
                  | .error error => .error error
                  | .ok (value, rest) =>
                      (readFlowPairs handles false fuel rest).map
                        fun (pairs, rest) => ((key, value) :: pairs, rest)
          | some tokens =>
              match readNode handles false false fuel { rest with tokens := tokens } with
              | .error error => .error error
              | .ok (key, rest) =>
                  (readFlowPairs handles false fuel rest).map
                    fun (pairs, rest) => ((key, .absent) :: pairs, rest)

def readFlowValue (handles : Handles) (close : Token) : Nat → Rest → Reads Node
  | 0, _ => .error .badStructure
  | fuel + 1, rest =>
      match rest.tokens with
      | .value :: tokens =>
          let rest := { rest with tokens := tokens }
          if endsFlow close tokens then .ok (.absent, rest)
          else readNode handles false false fuel rest
      | _ => .ok (.absent, rest)

end

/-- A document: its root node, and the nodes that aliases stand for. -/
structure Document where
  root : Node
  anchors : Anchors
deriving Repr

namespace Document

/-- Reads the directives in front of a document: what they make of handles, and the tokens behind
them. There is at most one version, 1.1 or 1.2, and no handle is given twice. -/
def readDirectives (versioned : Bool) (handles : Handles) :
    List Token → Except Error (Handles × List Token)
  | .directive (.version major minor) :: tokens =>
      if versioned || major ≠ 1 || (minor ≠ 1 && minor ≠ 2) then .error .badDirective
      else readDirectives true handles tokens
  | .directive (.handle name meaning) :: tokens =>
      if (findEntry name handles).isSome then .error .badDirective
      else readDirectives versioned (handles ++ [(name, meaning)]) tokens
  | tokens => .ok (handles, tokens)

def isBare : List Token → Bool
  | [] => true
  | .directive _ :: _ => true
  | .documentStart :: _ => true
  | .documentEnd :: _ => true
  | _ => false

/-- Reads the content of a document, which must be the last one. -/
def readContent (handles : Handles) (bare : Bool) (tokens : List Token) :
    Except Error Document :=
  match if bare then .ok (.absent, ⟨tokens, {}⟩)
    else readNode (handles ++ standardHandles) true false (4 * tokens.length + 8) ⟨tokens, {}⟩ with
  | .error error => .error error
  | .ok (root, rest) =>
      if (rest.tokens.dropWhile (· = .documentEnd)).isEmpty then .ok ⟨root, rest.anchors⟩
      else .error .moreDocuments

/-- Reads the only document of a text, `none` from a text without tokens. -/
def ofTokens (tokens : List Token) : Except Error (Option Document) :=
  match readDirectives false [] tokens with
  | .error error => .error error
  | .ok (handles, behind) =>
      match behind with
      | .documentStart :: behind => (readContent handles (isBare behind) behind).map some
      | [] => if tokens.isEmpty then .ok none else .error .badStructure
      | _ =>
          if behind.length = tokens.length then (readContent [] false tokens).map some
          else .error .badStructure

def read (text : Text) : Except Error (Option Document) :=
  match Token.scan text with
  | .error error => .error error
  | .ok tokens => ofTokens tokens

/-- How many nodes and ends of collections a node is made of. -/
def extent : Node → Nat
  | .scalar _ _ _ => 1
  | .alias _ => 1
  | .sequence _ items => extentItems items + 2
  | .mapping _ pairs => extentPairs pairs + 2
where
  extentItems : List Node → Nat
    | [] => 0
    | item :: items => extent item + extentItems items
  extentPairs : List (Node × Node) → Nat
    | [] => 0
    | (key, value) :: pairs => extent key + extent value + extentPairs pairs

end Document

end Stencil.Yaml
