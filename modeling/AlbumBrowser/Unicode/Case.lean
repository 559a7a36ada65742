import AlbumBrowser.Unicode.CaseTables

/-!
Full case mapping: a character may have several characters for its counterpart, and a capital sigma at
the end of a word becomes a final sigma.
-/

namespace AlbumBrowser.Unicode

/-- The single counterpart of a code point in ascending runs; without one it stays as it is. -/
def moved : List CaseRun → Nat → Nat
  | [], n => n
  | run :: rest, n =>
    if n < run.first then n
    else if n ≤ run.last ∧ (n - run.first) % run.stride = 0 then (n + run.shift).toNat
    else moved rest n

/-- The counterpart of a character by a list of expansions and runs. -/
def caseMapped (expansions : List (Nat × List Nat)) (runs : List CaseRun) (c : Char) : List Char :=
  match expansions.find? (·.1 = c.toNat) with
  | some (_, codes) => codes.map Char.ofNat
  | none => [Char.ofNat (moved runs c.toNat)]

def upperChar (c : Char) : List Char := caseMapped upperExpansions upperRuns c

def lowerChar (c : Char) : List Char := caseMapped lowerExpansions lowerRuns c

def isCased (c : Char) : Bool := casedTable.has c

def isCaseIgnorable (c : Char) : Bool := caseIgnorableTable.has c

/-- Whether the first character that is not passed over has a case. -/
def startsCased (s : List Char) : Bool := ((s.dropWhile isCaseIgnorable).take 1).any isCased

/-- The lower case of a text that follows the characters of `before`, which are listed backwards. -/
def lowerFrom (before : List Char) : List Char → List Char
  | [] => []
  | c :: rest =>
    (if c = 'Σ' then [if startsCased before && !startsCased rest then 'ς' else 'σ'] else lowerChar c) ++
      lowerFrom (c :: before) rest

/-- The lower case of a text. -/
def lower (s : List Char) : List Char := lowerFrom [] s

end AlbumBrowser.Unicode
