import AlbumBrowser.Unicode.RangeTable

/-!
The characters with the property `White_Space`, which surrounding text is trimmed of and which a
date layout may skip.
-/

namespace AlbumBrowser.Unicode

/-- The twenty-five characters with the property `White_Space`. -/
def whiteSpaceTable : RangeTable :=
  [(0x09, 0x0D), (0x20, 0x20), (0x85, 0x85), (0xA0, 0xA0), (0x1680, 0x1680), (0x2000, 0x200A),
    (0x2028, 0x2029), (0x202F, 0x202F), (0x205F, 0x205F), (0x3000, 0x3000)]

def isWhiteSpace (c : Char) : Bool := whiteSpaceTable.has c

end AlbumBrowser.Unicode
