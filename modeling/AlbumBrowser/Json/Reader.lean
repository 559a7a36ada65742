import AlbumBrowser.Json.Number
import AlbumBrowser.Json.Text

/-!
Reading JSON: values, and the steps from element to element of a list and from member to member of an
object, which records with fixed members are read with too. A text may open 127 brackets before it
closes one.
-/

namespace AlbumBrowser.Json

def isSpace (c : Char) : Bool := c = ' ' || c = '\t' || c = '\n' || c = '\r'

def skipSpace (s : List Char) : List Char := s.dropWhile isSpace

/-- The remaining letters of a word. -/
def word : List Char → List Char → Except Fault (List Char)
  | [], s => .ok s
  | _ :: _, [] => .error (.before .endInValue [])
  | w :: rest, c :: s => if c = w then word rest s else .error (.at .expectedIdent (c :: s))

/-- The start of the next element of a list, or nothing in front of its closing bracket. -/
def nextElement (first : Bool) (s : List Char) : Except Fault (Option (List Char)) :=
  match skipSpace s with
  | [] => .error (.before .endInList [])
  | c :: rest =>
    if c = ']' then .ok none
    else if first then .ok (some (c :: rest))
    else if c = ',' then
      match skipSpace rest with
      | [] => .error (.before .endInValue [])
      | d :: rest => if d = ']' then .error (.at .trailingComma (d :: rest)) else .ok (some (d :: rest))
    else .error (.at .expectedCommaOrBracket (c :: rest))

/-- The end of a list whose elements have been read. -/
def closeList (s : List Char) : Except Fault (List Char) :=
  match skipSpace s with
  | [] => .error (.before .endInList [])
  | c :: rest =>
    if c = ']' then .ok rest
    else if c = ',' then
      match skipSpace rest with
      | ']' :: rest => .error (.at .trailingComma (']' :: rest))
      | rest => .error (.at .trailingCharacters rest)
    else .error (.at .trailingCharacters (c :: rest))

/-- The name of the next member of an object, or nothing in front of its closing brace. -/
def nextName (first : Bool) (s : List Char) : Except Fault (Option (String × List Char)) :=
  match skipSpace s with
  | [] => .error (.before .endInObject [])
  | c :: rest =>
    if c = '\x7d' then .ok none
    else if first then
      if c = '"' then (stringRest rest).map some else .error (.at .keyNotString (c :: rest))
    else if c = ',' then
      match skipSpace rest with
      | [] => .error (.before .endInValue [])
      | d :: rest =>
        if d = '"' then (stringRest rest).map some
        else if d = '\x7d' then .error (.at .trailingComma (d :: rest))
        else .error (.at .keyNotString (d :: rest))
    else .error (.at .expectedCommaOrBrace (c :: rest))

/-- The end of an object whose members have been read. -/
def closeObject (s : List Char) : Except Fault (List Char) :=
  match skipSpace s with
  | [] => .error (.before .endInObject [])
  | c :: rest =>
    if c = '\x7d' then .ok rest
    else if c = ',' then .error (.at .trailingComma (c :: rest))
    else .error (.at .trailingCharacters (c :: rest))

/-- The colon between the name and the value of a member. -/
def colon (s : List Char) : Except Fault (List Char) :=
  match skipSpace s with
  | [] => .error (.before .endInObject [])
  | c :: rest => if c = ':' then .ok rest else .error (.at .expectedColon (c :: rest))

/-- The elements of a list up to its closing bracket. Every one takes a character of the text, so a text
that is no shorter bounds their number. -/
def elements {α : Type} (element : Reader α) : (bound : List Char) → (first : Bool) → Reader (List α)
  | bound, first, s => do
    match ← nextElement first s with
    | none => return ([], ← closeList s)
    | some s =>
      let (x, s) ← element s
      match bound with
      | [] => throw (.before .endInList [])
      | _ :: bound =>
        let (xs, s) ← elements element bound false s
        return (x :: xs, s)

/-- Runs through the members of an object up to its closing brace, changing a state at each; `step` is
given the text behind the name and reads the value. -/
def foldMembers {σ : Type} (step : σ → String → Reader σ) :
    (bound : List Char) → (first : Bool) → σ → Reader σ
  | bound, first, state, s => do
    match ← nextName first s with
    | none => return (state, ← closeObject s)
    | some (name, s) =>
      let (state, s) ← step state name s
      match bound with
      | [] => throw (.before .endInObject [])
      | _ :: bound => foldMembers step bound false state s

/-- A value behind a colon. -/
def memberValue {α : Type} (value : Reader α) : Reader α := fun s => do value (← colon s)

/-- A value with at most `depth` brackets open at once. -/
def value : (depth : Nat) → Reader Value
  | depth, s =>
    match skipSpace s with
    | [] => .error (.before .endInValue [])
    | c :: rest =>
      if c = 'n' then (word ['u', 'l', 'l'] rest).map fun s => (.null, s)
      else if c = 't' then (word ['r', 'u', 'e'] rest).map fun s => (.bool true, s)
      else if c = 'f' then (word ['a', 'l', 's', 'e'] rest).map fun s => (.bool false, s)
      else if c = '"' then (stringRest rest).map fun (x, s) => (.string x, s)
      else if c = '-' then (number true rest).map fun (n, s) => (.number n, s)
      else if c.isDigit then (number false (c :: rest)).map fun (n, s) => (.number n, s)
      else if c = '[' then
        match depth with
        | 0 => .error (.at .recursionLimit (c :: rest))
        | depth + 1 => (elements (value depth) rest true rest).map fun (xs, s) => (.array xs, s)
      else if c = '\x7b' then
        match depth with
        | 0 => .error (.at .recursionLimit (c :: rest))
        | depth + 1 =>
          let step (members : List (String × Value)) (name : String) : Reader (List (String × Value)) := fun s =>
            (memberValue (value depth) s).map fun (x, s) => (insertMember name x members, s)
          (foldMembers step rest true [] rest).map fun (members, s) => (.object members, s)
      else .error (.at .expectedValue (c :: rest))

/-- How many brackets may be open at once. -/
def depthLimit : Nat := 127

/-- Nothing but white space. -/
def ending (s : List Char) : Except Fault Unit :=
  match skipSpace s with
  | [] => .ok ()
  | c :: rest => .error (.at .trailingCharacters (c :: rest))

/-- Reads a whole text. -/
def readWhole {α : Type} (reader : Reader α) (text : String) : Except Error α :=
  let result : Except Fault α := do
    let (x, rest) ← reader text.toList
    ending rest
    return x
  result.mapError (·.locate text.toList)

/-- The value that a whole text writes. -/
def read (text : String) : Except Error Value := readWhole (value depthLimit) text

end AlbumBrowser.Json
