/-!
Sets of characters given as sorted lists of closed ranges of code points, the form in which the
character properties of the Unicode standard are published.
-/

namespace AlbumBrowser.Unicode

/-- Disjoint closed ranges of code points in ascending order. -/
abbrev RangeTable := List (Nat × Nat)

namespace RangeTable

/-- Whether a code point lies in one of the ranges. The search stops at the first range that begins
above the code point, so it is exact on ascending tables. -/
def contains : RangeTable → Nat → Bool
  | [], _ => false
  | (first, last) :: rest, n => if n < first then false else n ≤ last || contains rest n

/-- Whether a character lies in one of the ranges. -/
def has (table : RangeTable) (c : Char) : Bool := contains table c.toNat

/-- What is found lies in one of the ranges. -/
theorem exists_of_contains {table : RangeTable} {n : Nat} (h : table.contains n = true) :
    ∃ range ∈ table, range.1 ≤ n ∧ n ≤ range.2 := by
  induction table with
  | nil => cases h
  | cons range table ih =>
      obtain ⟨first, last⟩ := range
      by_cases hbelow : n < first
      · rw [contains, if_pos hbelow] at h
        cases h
      · rw [contains, if_neg hbelow, Bool.or_eq_true, decide_eq_true_eq] at h
        rcases h with hlast | hrest
        · exact ⟨(first, last), List.mem_cons_self, Nat.le_of_not_lt hbelow, hlast⟩
        · obtain ⟨range, hrange, hspec⟩ := ih hrest
          exact ⟨range, List.mem_cons_of_mem (first, last) hrange, hspec⟩

end RangeTable

end AlbumBrowser.Unicode
