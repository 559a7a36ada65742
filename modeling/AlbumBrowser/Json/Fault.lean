import AlbumBrowser.Text.Numeral

/-!
What can be wrong with a JSON text, and where. A fault remembers how many bytes of the text lie behind
the place where reading stopped; the line and the column are counted once the whole text is at hand.
-/

namespace AlbumBrowser.Json

inductive Cause where
  | endInList
  | endInObject
  | endInString
  | endInValue
  | endInHexEscape
  | expectedColon
  | expectedCommaOrBracket
  | expectedCommaOrBrace
  | expectedIdent
  | expectedValue
  | keyNotString
  | trailingComma
  | trailingCharacters
  | invalidEscape
  | invalidNumber
  | numberOutOfRange
  | controlCharacter
  | loneSurrogate
  | recursionLimit
  /-- A record has a member twice that it may have once. -/
  | duplicateMember (name : String)
  /-- A record needs one kind of value and the text has another. -/
  | wrongKind (found expected : String)
  deriving DecidableEq, Repr

def Cause.message : Cause → String
  | endInList => "EOF while parsing a list"
  | endInObject => "EOF while parsing an object"
  | endInString => "EOF while parsing a string"
  | endInValue => "EOF while parsing a value"
  | endInHexEscape => "unexpected end of hex escape"
  | expectedColon => "expected `:`"
  | expectedCommaOrBracket => "expected `,` or `]`"
  | expectedCommaOrBrace => "expected `,` or `\x7d`"
  | expectedIdent => "expected ident"
  | expectedValue => "expected value"
  | keyNotString => "key must be a string"
  | trailingComma => "trailing comma"
  | trailingCharacters => "trailing characters"
  | invalidEscape => "invalid escape"
  | invalidNumber => "invalid number"
  | numberOutOfRange => "number out of range"
  | controlCharacter => "control character (\\u0000-\\u001F) found while parsing a string"
  | loneSurrogate => "lone leading surrogate in hex escape"
  | recursionLimit => "recursion limit exceeded"
  | duplicateMember name => "duplicate field `" ++ name ++ "`"
  | wrongKind found expected => "invalid type: " ++ found ++ ", expected " ++ expected

/-- A cause and the number of bytes of the text behind the place where it was found. -/
structure Fault where
  cause : Cause
  bytesLeft : Nat
  deriving DecidableEq, Repr

/-- The number of bytes of a text in UTF-8. -/
def byteCount (s : List Char) : Nat := s.foldr (fun c n => c.utf8Size + n) 0

namespace Fault

/-- A fault found when everything before `rest` had been read. -/
def before (cause : Cause) (rest : List Char) : Fault := ⟨cause, byteCount rest⟩

/-- A fault found at the first byte of `rest`, which counts as read unless the text is over. -/
def «at» (cause : Cause) (rest : List Char) : Fault := ⟨cause, byteCount rest - 1⟩

/-- The line, from one, and the number of bytes of it that had been read. -/
def position (text : List Char) (fault : Fault) : Nat × Nat :=
  let read := (text.flatMap String.utf8EncodeChar).take (byteCount text - fault.bytesLeft)
  (1 + read.count 10, (read.reverse.takeWhile (· ≠ 10)).length)

end Fault

/-- What is wrong with a text: the cause, the line and the number of bytes read of that line. Lines are
counted from one; line zero is for what is wrong with a value that has left its text behind. -/
structure Error where
  cause : Cause
  line : Nat
  column : Nat
  deriving DecidableEq, Repr

def Error.message (e : Error) : String :=
  if e.line = 0 then e.cause.message
  else e.cause.message ++ " at line " ++ String.ofList (Text.digits e.line) ++ " column " ++
    String.ofList (Text.digits e.column)

/-- The error of a value without a text. -/
def Cause.unplaced (cause : Cause) : Error := ⟨cause, 0, 0⟩

/-- The error that a fault is in its whole text. -/
def Fault.locate (text : List Char) (fault : Fault) : Error :=
  ⟨fault.cause, (fault.position text).1, (fault.position text).2⟩

/-- Reads something from the start of a text and gives the rest. -/
abbrev Reader (α : Type) := List Char → Except Fault (α × List Char)

section

variable {α β δ ε : Type} {x : Except ε α} {a : α} {b : β}

theorem map_eq_ok_iff {f : α → β} : x.map f = .ok b ↔ ∃ a, x = .ok a ∧ f a = b := by
  cases x <;> simp [Except.map]

theorem bind_eq_ok_iff {f : α → Except ε β} : (x >>= f) = .ok b ↔ ∃ a, x = .ok a ∧ f a = .ok b := by
  cases x <;> simp [bind, Except.bind]

theorem mapError_eq_ok_iff {f : ε → δ} : x.mapError f = .ok a ↔ x = .ok a := by
  constructor
  · intro h
    cases x <;> cases h
    rfl
  · rintro rfl
    rfl

end

end AlbumBrowser.Json
