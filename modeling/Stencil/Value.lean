import Stencil.Table
import Stencil.Number

set_option autoImplicit false

namespace Stencil

inductive Value where
  | null
  | bool (value : Bool)
  | number (value : Number)
  | string (text : Text)
  | array (items : List Value)
  | object (fields : List (Text × Value))
deriving Repr, Inhabited

namespace Json

def hexDigit (n : Nat) : Char := Nat.digitChar n

/-- How a string literal writes one character. -/
def escape (c : Char) : Text :=
  if c = '"' then ['\\', '"']
  else if c = '\\' then ['\\', '\\']
  else if c = '\n' then ['\\', 'n']
  else if c = '\r' then ['\\', 'r']
  else if c = '\t' then ['\\', 't']
  else if c = '\x08' then ['\\', 'b']
  else if c = '\x0c' then ['\\', 'f']
  else if c.toNat < 0x20 then
    ['\\', 'u', '0', '0', hexDigit (c.toNat / 16), hexDigit (c.toNat % 16)]
  else [c]

def quote (text : Text) : Text := '"' :: text.flatMap escape ++ ['"']

end Json

namespace Value

mutual

def json : Value → Text
  | null => ['n', 'u', 'l', 'l']
  | bool true => ['t', 'r', 'u', 'e']
  | bool false => ['f', 'a', 'l', 's', 'e']
  | number n => n.text
  | string s => Json.quote s
  | array items => '[' :: jsonItems items
  | object fields => '{' :: jsonFields fields

def jsonItems : List Value → Text
  | [] => [']']
  | [item] => json item ++ [']']
  | item :: next :: items => json item ++ ',' :: jsonItems (next :: items)

def jsonFields : List (Text × Value) → Text
  | [] => ['}']
  | [(key, value)] => Json.quote key ++ ':' :: json value ++ ['}']
  | (key, value) :: next :: fields =>
      Json.quote key ++ ':' :: json value ++ ',' :: jsonFields (next :: fields)

end

/-- The text a value contributes to a document: a string verbatim, nothing for `null`, and
otherwise the JSON text. -/
def text : Value → Text
  | string s => s
  | null => []
  | value => value.json

/-- Whether a conditional takes the value for true: `true` itself, the word `true` in any
letters, and the number one. -/
def isTrue : Value → Bool
  | bool b => b
  | string s => Text.sameLetters s ['t', 'r', 'u', 'e']
  | number n => n.isOne
  | _ => false

def isNull : Value → Bool
  | null => true
  | _ => false

def asObject? : Value → Option (Table Value)
  | object fields => some (Table.ofList fields)
  | _ => none

end Value

end Stencil
