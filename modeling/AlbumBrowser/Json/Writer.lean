import AlbumBrowser.Json.Number
import AlbumBrowser.Json.Text

/-!
Writing JSON, without any white space between its marks.
-/

namespace AlbumBrowser.Json

mutual

/-- The text of a value. -/
def Value.chars : Value → List Char
  | .null => ['n', 'u', 'l', 'l']
  | .bool true => ['t', 'r', 'u', 'e']
  | .bool false => ['f', 'a', 'l', 's', 'e']
  | .number n => n.text
  | .string s => quoted s.toList
  | .array items => '[' :: (elementChars items ++ [']'])
  | .object members => '\x7b' :: (memberChars members ++ ['\x7d'])

/-- The elements of a list with commas between them. -/
def elementChars : List Value → List Char
  | [] => []
  | [v] => v.chars
  | v :: w :: rest => v.chars ++ ',' :: elementChars (w :: rest)

/-- The members of an object with commas between them. -/
def memberChars : List (String × Value) → List Char
  | [] => []
  | [(name, v)] => quoted name.toList ++ ':' :: v.chars
  | (name, v) :: m :: rest => quoted name.toList ++ ':' :: (v.chars ++ ',' :: memberChars (m :: rest))

end

def Value.text (v : Value) : String := String.ofList v.chars

/-- The text of a value; that of a string is the string itself. -/
def Value.plainText : Value → String
  | .string s => s
  | v => v.text

end AlbumBrowser.Json
