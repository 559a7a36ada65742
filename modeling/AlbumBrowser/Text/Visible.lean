import AlbumBrowser.Text.Numeral
import AlbumBrowser.Unicode.Unprintable

/-!
A text made visible for a message: in quotation marks, with every character that cannot be shown as it
is written as an escape.
-/

namespace AlbumBrowser.Text

def visibleChar (c : Char) : List Char :=
  if c = '"' ∨ c = '\\' then ['\\', c]
  else if c = '\x00' then ['\\', '0']
  else if c = '\t' then ['\\', 't']
  else if c = '\n' then ['\\', 'n']
  else if c = '\r' then ['\\', 'r']
  else if Unicode.isUnprintable c then ['\\', 'u', '\x7b'] ++ hexDigits c.toNat ++ ['\x7d']
  else [c]

def visible (s : List Char) : List Char := '"' :: (s.flatMap visibleChar ++ ['"'])

end AlbumBrowser.Text
