import AlbumBrowser.Unicode.Case
import AlbumBrowser.Unicode.WordCharacter

/-!
Labels made from identifiers: the words of a key are set apart and begin with a capital.
-/

namespace AlbumBrowser.Label

open Unicode

/-- Capitalises the first character of every word; `inWord` tells whether the text continues one. -/
def capitalize (inWord : Bool) : List Char → List Char
  | [] => []
  | c :: rest =>
    (if isWordCharacter c && !inWord then upperChar c else [c]) ++ capitalize (isWordCharacter c) rest

/-- The key with spaces for its underscores. -/
def spaced (key : List Char) : List Char := key.map fun c => if c = '_' then ' ' else c

/-- The label of a description's key. -/
def ofKey (key : String) : String := String.ofList (capitalize false (spaced key.toList))

/-- The label of an album's card. -/
def ofId (id : String) : String := "Personne " ++ id

end AlbumBrowser.Label
