import AlbumBrowser.Calendar.Layout

/-!
The values of command-line options: days and clock times, which are put into their full width, and
numbers in a range.
-/

namespace AlbumBrowser.CommandLine

open Calendar Text

/-- A text that is not the value an option needs. -/
inductive ValueError where
  | date (text : String)
  | clock (text : String)
  deriving DecidableEq, Repr

def ValueError.message : ValueError → String
  | date text => "Date invalide : " ++ text ++ " (attendu : AAAA-MM-JJ)"
  | clock text => "Heure invalide : " ++ text ++ " (attendu : HH:MM)"

/-- A text that a layout reads, as the layout writes it. -/
def normalize? (layout : Layout) (text : String) : Option String :=
  (layout.read text.toList).map fun c => String.ofList (layout.write c)

/-- A day, as `YYYY-MM-DD`. -/
def date (text : String) : Except ValueError String :=
  match normalize? Layout.date text with
  | some key => .ok key
  | none => .error (.date text)

/-- A time of day, as `HH:MM`. -/
def clock (text : String) : Except ValueError String :=
  match normalize? Layout.clock text with
  | some key => .ok key
  | none => .error (.clock text)

/-- A number from zero up to a limit. Minus zero counts as zero if signs are allowed. -/
def number? (signs : Bool) (limit : Nat) (text : String) : Option Nat := do
  let n ← signedNumber? text.toList
  if 0 ≤ n ∧ n ≤ limit ∧ (signs ∨ text.toList.head? ≠ some '-') then some n.toNat else none

end AlbumBrowser.CommandLine

