import AlbumBrowser.Unicode.WhiteSpace

/-!
Text without the white space around it.
-/

namespace AlbumBrowser.Text

open Unicode

/-- The text from its first character that is not white space. -/
def trimStart (s : List Char) : List Char := s.dropWhile isWhiteSpace

/-- The text up to its last character that is not white space. -/
def trimEnd (s : List Char) : List Char := (trimStart s.reverse).reverse

def trim (s : List Char) : List Char := trimEnd (trimStart s)

end AlbumBrowser.Text
