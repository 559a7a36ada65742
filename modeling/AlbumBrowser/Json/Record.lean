import AlbumBrowser.Json.Reader
import AlbumBrowser.Text.Visible

/-!
Reading records, JSON values whose members and their kinds are known beforehand: the faults of a value
of another kind and of a member given twice, and members of a single kind.
-/

namespace AlbumBrowser.Json

open Text

/-- What a number is called in a message. -/
def Number.described : Number → List Char
  | whole n => "integer `".toList ++ signedDigits n ++ ['`']
  | float x => "floating point `".toList ++ floatText x ++ ['`']

/-- What a value is called in a message. -/
def Value.described : Value → List Char
  | null => "null".toList
  | bool true => "boolean `true`".toList
  | bool false => "boolean `false`".toList
  | number n => n.described
  | string s => "string ".toList ++ visible s.toList
  | array _ => "sequence".toList
  | object _ => "map".toList

/-- The fault of a value of another kind than the one expected. A simple value has been read when it is
found, so that a fault inside it comes first; a bracket has not. -/
def wrongKind (expected : String) : List Char → Fault
  | [] => .before .endInValue []
  | c :: rest =>
    let named (found : Value) (rest : List Char) : Fault :=
      .before (.wrongKind (String.ofList found.described) expected) rest
    let settle {α : Type} (found : α → Value) : Except Fault (α × List Char) → Fault
      | .ok (x, rest) => named (found x) rest
      | .error fault => fault
    let settleWord (found : Value) : Except Fault (List Char) → Fault
      | .ok rest => named found rest
      | .error fault => fault
    if c = 'n' then settleWord .null (word ['u', 'l', 'l'] rest)
    else if c = 't' then settleWord (.bool true) (word ['r', 'u', 'e'] rest)
    else if c = 'f' then settleWord (.bool false) (word ['a', 'l', 's', 'e'] rest)
    else if c = '-' then settle .number (number true rest)
    else if c.isDigit then settle .number (number false (c :: rest))
    else if c = '"' then settle .string (stringRest rest)
    else if c = '[' then named (.array []) (c :: rest)
    else if c = '\x7b' then named (.object []) (c :: rest)
    else .at .expectedValue (c :: rest)

/-- The fault of a member given twice. White space and a closing brace behind its name have been read
when it is reported. -/
def duplicateMember (name : String) (s : List Char) : Fault :=
  match skipSpace s with
  | '\x7d' :: rest => .before (.duplicateMember name) rest
  | rest => .before (.duplicateMember name) rest

/-- A string, and nothing else. -/
def stringValue : Reader String := fun s =>
  match skipSpace s with
  | [] => .error (.before .endInValue [])
  | c :: rest => if c = '"' then stringRest rest else .error (wrongKind "a string" (c :: rest))

/-- A truth value, and nothing else. -/
def boolValue : Reader Bool := fun s =>
  match skipSpace s with
  | [] => .error (.before .endInValue [])
  | c :: rest =>
    if c = 't' then (word ['r', 'u', 'e'] rest).map fun s => (true, s)
    else if c = 'f' then (word ['a', 'l', 's', 'e'] rest).map fun s => (false, s)
    else .error (wrongKind "a boolean" (c :: rest))

end AlbumBrowser.Json
