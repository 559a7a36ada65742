/-!
Styled text for a terminal. A screen is a list of lines, and a line a list of spans; it is written with
escape codes or, when colours are off, as its bare text.
-/

namespace AlbumBrowser.Terminal

inductive Colour where
  | green
  | yellow
  | cyan
  | white
  deriving DecidableEq, Repr

/-- The code that turns a colour on. -/
def Colour.code : Colour → Char
  | green => '2'
  | yellow => '3'
  | cyan => '6'
  | white => '7'

structure Style where
  colour : Option Colour := none
  bold : Bool := false
  dim : Bool := false
  deriving DecidableEq, Repr

structure Span where
  text : List Char
  style : Style := {}
  deriving DecidableEq, Repr

abbrev Line := List Span

/-- An escape code around its digits. -/
def escapeCode (digits : List Char) : List Char := '\x1b' :: '[' :: (digits ++ ['m'])

namespace Style

def isPlain (s : Style) : Bool := s = {}

/-- The codes that turn a style on: its colour, then its attributes. -/
def codes (s : Style) : List Char :=
  (match s.colour with
    | some c => escapeCode ['3', c.code]
    | none => []) ++
  (if s.bold then escapeCode ['1'] else []) ++ (if s.dim then escapeCode ['2'] else [])

end Style

namespace Span

def plain (s : String) : Span := ⟨s.toList, {}⟩

/-- A span with the codes of its style before it and a reset behind it, even around an empty text. -/
def render (colours : Bool) (s : Span) : List Char :=
  if colours && !s.style.isPlain then s.style.codes ++ s.text ++ escapeCode ['0'] else s.text

end Span

/-- A line with its end. -/
def Line.render (colours : Bool) (l : Line) : List Char := l.flatMap (·.render colours) ++ ['\n']

/-- A screen, line by line. -/
def render (colours : Bool) (lines : List Line) : String := String.ofList (lines.flatMap (·.render colours))

end AlbumBrowser.Terminal
