import Stencil.Filter

set_option autoImplicit false

namespace Stencil.Filter

def upper : Filter := fun _ value => .ok (.string (Text.upper value.text))

def lower : Filter := fun _ value => .ok (.string (Text.lower value.text))

def listItem (value : Value) : Text :=
  "<li>".toList ++ value.text ++ "</li>".toList

/-- An unordered list of the items of an array, and an empty one of any other value. -/
def listText (field : Text) (value : Value) : Text :=
  let items := match value with
    | .array items => items
    | _ => []
  "<ul id='list-".toList ++ field ++ "'>".toList ++ items.flatMap listItem ++ "</ul>".toList

def list : Filter := fun field value => .ok (.string (listText field value))

/-- How a script literal writes a character of a JSON literal: the characters that could end a
script element or a line stand as escapes. -/
def scriptEscape (c : Char) : Text :=
  if c = '<' then ['\\', 'u', '0', '0', '3', 'c']
  else if c = '>' then ['\\', 'u', '0', '0', '3', 'e']
  else if c = '&' then ['\\', 'u', '0', '0', '2', '6']
  else if c = '\u2028' then ['\\', 'u', '2', '0', '2', '8']
  else if c = '\u2029' then ['\\', 'u', '2', '0', '2', '9']
  else [c]

def scriptString (text : Text) : Text := (Json.quote text).flatMap scriptEscape

/-- The literal of a value that is not an array: numbers and booleans as they are, all else as a
string of its text. -/
def scriptScalar : Value → Text
  | .number n => n.text
  | .bool b => (Value.bool b).json
  | value => scriptString value.text

/-- The literal of a value. The items of an array stand on lines of their own. -/
def scriptLiteral : Value → Text
  | .array items => '[' :: '\n' :: [',', '\n'].intercalate (items.map scriptScalar) ++ [']']
  | value => scriptScalar value

def scriptText (field : Text) (value : Value) : Text :=
  ['v', 'a', 'r', ' '] ++ field ++ [' ', '=', ' '] ++ scriptLiteral value ++ [';']

def script : Filter := fun field value => .ok (.string (scriptText field value))

end Stencil.Filter

namespace Stencil.Filters

def builtin : Filters :=
  (((empty.add "UPPERCASE".toList Filter.upper).add "LOWERCASE".toList Filter.lower).add
    "LIST".toList Filter.list).add "JAVASCRIPT".toList Filter.script

end Stencil.Filters
