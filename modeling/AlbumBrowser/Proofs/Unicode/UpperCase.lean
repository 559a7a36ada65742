import AlbumBrowser.Unicode.Case
import AlbumBrowser.Unicode.WordCharacter
import Mathlib.Data.List.Basic

/-!
The upper case of a single character. A character of words becomes characters of words, the first of which is its own
upper case. For the characters with several counterparts each code point is looked up. Those with one are
moved in runs, and the place that a run moves to is compared as a whole with the words and with all that has an upper
case.
-/

namespace AlbumBrowser.Unicode

variable {n low high : Nat} {c : Char}

/-! ### The counterpart of a character -/

/-- Whether a run moves a code point. -/
def CaseRun.Moves (run : CaseRun) (n : Nat) : Prop :=
  run.first ≤ n ∧ n ≤ run.last ∧ (n - run.first) % run.stride = 0

theorem moved_cases (runs : List CaseRun) (n : Nat) :
    moved runs n = n ∨ ∃ run ∈ runs, run.Moves n ∧ moved runs n = (n + run.shift).toNat := by
  induction runs with
  | nil => exact Or.inl rfl
  | cons run runs ih =>
      by_cases hbelow : n < run.first
      · exact Or.inl (by rw [moved, if_pos hbelow])
      · by_cases hmoves : n ≤ run.last ∧ (n - run.first) % run.stride = 0
        · refine Or.inr ⟨run, List.mem_cons_self, ⟨Nat.le_of_not_lt hbelow, hmoves⟩, ?_⟩
          rw [moved, if_neg hbelow, if_pos hmoves]
        · have hrest : moved (run :: runs) n = moved runs n := by rw [moved, if_neg hbelow, if_neg hmoves]
          rw [hrest]
          exact ih.imp_right fun ⟨other, hother, hspec⟩ => ⟨other, List.mem_cons_of_mem run hother, hspec⟩

/-- The counterpart of a character is in the list of expansions, or a run moves it, or it is its own. -/
theorem caseMapped_cases (expansions : List (Nat × List Nat)) (runs : List CaseRun) (c : Char) :
    (∃ e ∈ expansions, e.1 = c.toNat ∧ caseMapped expansions runs c = e.2.map Char.ofNat) ∨
      (∃ run ∈ runs, run.Moves c.toNat ∧ caseMapped expansions runs c = [Char.ofNat (c.toNat + run.shift).toNat]) ∨
      caseMapped expansions runs c = [c] := by
  cases hfind : expansions.find? (·.1 = c.toNat) with
  | some e =>
      refine Or.inl ⟨e, List.mem_of_find?_eq_some hfind, by simpa using List.find?_some hfind, ?_⟩
      rw [caseMapped, hfind]
  | none =>
      have hmapped : caseMapped expansions runs c = [Char.ofNat (moved runs c.toNat)] := by rw [caseMapped, hfind]
      rcases moved_cases runs c.toNat with hself | ⟨run, hrun, hmoves, hmoved⟩
      · exact Or.inr (Or.inr (by rw [hmapped, hself, Char.ofNat_toNat]))
      · exact Or.inr (Or.inl ⟨run, hrun, hmoves, by rw [hmapped, hmoved]⟩)

/-- Nothing is listed for a code point, and no run moves it. -/
structure HasNoUpper (n : Nat) : Prop where
  notListed : ∀ e ∈ upperExpansions, e.1 ≠ n
  notMoved : moved upperRuns n = n

theorem HasNoUpper.upperChar (h : HasNoUpper c.toNat) : upperChar c = [c] := by
  have hfind : upperExpansions.find? (·.1 = c.toNat) = none :=
    List.find?_eq_none.mpr fun e he => by simpa using h.notListed e he
  rw [Unicode.upperChar, caseMapped, hfind]
  show [Char.ofNat (moved upperRuns c.toNat)] = [c]
  rw [h.notMoved, Char.ofNat_toNat]

/-! ### Where runs move to -/

namespace CaseRun

/-- The lowest code point that a run moves one to. -/
def lowest (run : CaseRun) : Nat := (run.first + run.shift).toNat

/-- The highest code point that a run moves one to. -/
def highest (run : CaseRun) : Nat := (run.last + run.shift).toNat

/-- Whether nothing that a run moves to is moved by another: the one lies apart from the other, or both go in steps of two
and miss each other. A run of a single code point goes in steps of any length. -/
def skippedBy (run other : CaseRun) : Bool :=
  other.last.blt run.lowest || run.highest.blt other.first ||
    (run.stride = 2 || run.lowest = run.highest) && other.stride = 2 && (run.lowest + other.first) % 2 = 1

variable {run other : CaseRun}

theorem not_moves_of_skippedBy (hstart : 0 ≤ run.first + run.shift) (hskip : run.skippedBy other = true)
    (hmoves : run.Moves n) : ¬ other.Moves (n + run.shift).toNat := by
  rintro ⟨hfirst, hlast, hplace⟩
  obtain ⟨hfrom, hto, hstride⟩ := hmoves
  simp only [skippedBy, Bool.or_eq_true, Bool.and_eq_true, Nat.blt_eq, decide_eq_true_eq] at hskip
  simp only [lowest, highest] at hskip
  rcases hskip with (hbelow | habove) | ⟨⟨htwo | hsingle, hother⟩, hodd⟩
  · omega
  · omega
  · rw [htwo] at hstride
    rw [hother] at hplace
    omega
  · rw [hother] at hplace
    omega

end CaseRun

/-- Whether all code points between two are in one range of a table. -/
def RangeTable.covers : RangeTable → Nat → Nat → Bool
  | [], _, _ => false
  | (first, last) :: rest, low, high => first.ble low && (high.ble last || covers rest low high)

theorem RangeTable.contains_of_covers {table : RangeTable} (h : table.covers low high = true) (hlow : low ≤ n)
    (hhigh : n ≤ high) : table.contains n = true := by
  induction table with
  | nil => cases h
  | cons range table ih =>
      obtain ⟨first, last⟩ := range
      simp only [covers, Bool.and_eq_true, Bool.or_eq_true, Nat.ble_eq] at h
      have hbehind : ¬ n < first := by omega
      rw [contains, if_neg hbehind, Bool.or_eq_true, decide_eq_true_eq]
      exact h.2.imp (Nat.le_trans hhigh) ih

/-! ### The tables -/

/-- What the proofs need of the tables of upper case. -/
structure UpperTablesChecked : Prop where
  /-- What is listed for a character are characters of words. -/
  listed_words : ∀ e ∈ upperExpansions, ∀ n ∈ e.2, wordTable.contains n = true ∧ n ≠ 0x5F
  listed_first : ∀ e ∈ upperExpansions, ∃ n ∈ e.2.head?,
    (upperExpansions.all fun other => other.1 != n) = true ∧ moved upperRuns n = n
  runs_bounds : ∀ run ∈ upperRuns, 0 ≤ run.first + run.shift ∧ (run.highest < 0x5F ∨ 0x5F < run.lowest)
  /-- A run moves to one range of words, or else each of its code points is looked up. -/
  runs_words : ∀ run ∈ upperRuns, (wordTable.covers run.lowest run.highest ||
    (List.range ((run.last - run.first) / run.stride + 1)).all fun k =>
      wordTable.contains (run.lowest + k * run.stride)) = true
  runs_notListed : ∀ run ∈ upperRuns,
    (upperExpansions.all fun e => e.1.blt run.lowest || run.highest.blt e.1) = true
  runs_skipped : ∀ run ∈ upperRuns, upperRuns.all run.skippedBy = true

/-- Tens of thousands of pairs of entries are compared here, hence the Boolean checks. -/
theorem upperTables : UpperTablesChecked where
  listed_words := by decide +kernel
  listed_first := by decide +kernel
  runs_bounds := by decide +kernel
  runs_words := by decide +kernel
  runs_notListed := by decide +kernel
  runs_skipped := by decide +kernel

/-! ### Words -/

theorem toNat_ofNat_of_contains (h : wordTable.contains n = true) : (Char.ofNat n).toNat = n := by
  have hscalar : ∀ range ∈ wordTable, range.2 < 0xD800 ∨ 0xDFFF < range.1 ∧ range.2 < 0x110000 := by decide +kernel
  obtain ⟨range, hrange, hfirst, hlast⟩ := RangeTable.exists_of_contains h
  have hvalid : n.isValidChar := by
    rcases hscalar range hrange with hlow | ⟨hhigh, hend⟩
    · exact Or.inl (Nat.lt_of_le_of_lt hlast hlow)
    · exact Or.inr ⟨Nat.lt_of_lt_of_le hhigh hfirst, Nat.lt_of_le_of_lt hlast hend⟩
  rw [Char.ofNat, dif_pos hvalid]
  rfl

theorem isWordCharacter_ofNat (h : wordTable.contains n = true) : isWordCharacter (Char.ofNat n) = true := by
  rw [isWordCharacter, RangeTable.has, toNat_ofNat_of_contains h, h]

theorem ofNat_ne_underscore (h : wordTable.contains n = true) (hne : n ≠ 0x5F) : Char.ofNat n ≠ '_' := by
  intro hchar
  exact hne ((toNat_ofNat_of_contains h).symm.trans (congrArg Char.toNat hchar))

theorem contains_of_moves {run : CaseRun} (hrun : run ∈ upperRuns) (hmoves : run.Moves n) :
    wordTable.contains (n + run.shift).toNat = true := by
  obtain ⟨hstart, -⟩ := upperTables.runs_bounds run hrun
  obtain ⟨hfrom, hto, hplace⟩ := hmoves
  rcases Bool.or_eq_true_iff.mp (upperTables.runs_words run hrun) with hcovers | hplaces
  · refine RangeTable.contains_of_covers hcovers ?_ ?_
    · rw [CaseRun.lowest]
      omega
    · rw [CaseRun.highest]
      omega
  · have hk : (n - run.first) / run.stride ∈ List.range ((run.last - run.first) / run.stride + 1) :=
      List.mem_range.mpr (Nat.lt_succ_of_le (Nat.div_le_div_right (Nat.sub_le_sub_right hto run.first)))
    have hcontains := List.all_eq_true.mp hplaces _ hk
    have hsteps : (n - run.first) / run.stride * run.stride = n - run.first :=
      Nat.div_mul_cancel (Nat.dvd_of_mod_eq_zero hplace)
    have htarget : run.lowest + (n - run.first) = (n + run.shift).toNat := by
      rw [CaseRun.lowest]
      omega
    rwa [hsteps, htarget] at hcontains

theorem ne_underscore_of_moves {run : CaseRun} (hrun : run ∈ upperRuns) (hmoves : run.Moves n) :
    (n + run.shift).toNat ≠ 0x5F := by
  obtain ⟨hfrom, hto, -⟩ := hmoves
  rcases (upperTables.runs_bounds run hrun).2 with hbelow | habove
  · rw [CaseRun.highest] at hbelow
    omega
  · rw [CaseRun.lowest] at habove
    omega

theorem hasNoUpper_of_moves {run : CaseRun} (hrun : run ∈ upperRuns) (hmoves : run.Moves n) :
    HasNoUpper (n + run.shift).toNat := by
  obtain ⟨hstart, -⟩ := upperTables.runs_bounds run hrun
  constructor
  · intro e he
    have happart := List.all_eq_true.mp (upperTables.runs_notListed run hrun) e he
    simp only [Bool.or_eq_true, Nat.blt_eq, CaseRun.lowest, CaseRun.highest] at happart
    obtain ⟨hfrom, hto, -⟩ := hmoves
    omega
  · rcases moved_cases upperRuns (n + run.shift).toNat with hself | ⟨other, hother, hagain, -⟩
    · exact hself
    · have hskip := List.all_eq_true.mp (upperTables.runs_skipped run hrun) other hother
      exact absurd hagain (CaseRun.not_moves_of_skippedBy hstart hskip hmoves)

theorem hasNoUpper_of_listed {e : Nat × List Nat} (he : e ∈ upperExpansions) :
    ∃ first rest, e.2 = first :: rest ∧ HasNoUpper first := by
  obtain ⟨first, hfirst, hlisted, hmoved⟩ := upperTables.listed_first e he
  obtain ⟨rest, hcodes⟩ := List.head?_eq_some_iff.mp hfirst
  refine ⟨first, rest, hcodes, fun other hother => ?_, hmoved⟩
  simpa using List.all_eq_true.mp hlisted other hother

/-- The upper case of a character of words consists of characters of words. The first has no other upper case, and none
is an underscore unless the character is one. -/
theorem exists_upperChar (hc : isWordCharacter c = true) : ∃ first rest, upperChar c = first :: rest ∧
    upperChar first = [first] ∧ ∀ d ∈ first :: rest, isWordCharacter d = true ∧ (d = '_' → c = '_') := by
  rcases caseMapped_cases upperExpansions upperRuns c with ⟨e, he, -, hlist⟩ | ⟨run, hrun, hmoves, hmove⟩ | hself
  · obtain ⟨first, rest, hcodes, hupper⟩ := hasNoUpper_of_listed he
    have hwords := upperTables.listed_words e he
    rw [hcodes] at hlist hwords
    refine ⟨Char.ofNat first, rest.map Char.ofNat, hlist, ?_, ?_⟩
    · rw [← toNat_ofNat_of_contains (hwords first List.mem_cons_self).1] at hupper
      exact hupper.upperChar
    · rw [← List.map_cons, List.forall_mem_map]
      intro n hn
      obtain ⟨hword, hne⟩ := hwords n hn
      exact ⟨isWordCharacter_ofNat hword, fun hunderscore => absurd hunderscore (ofNat_ne_underscore hword hne)⟩
  · have hword := contains_of_moves hrun hmoves
    have hupper := hasNoUpper_of_moves hrun hmoves
    rw [← toNat_ofNat_of_contains hword] at hupper
    refine ⟨_, [], hmove, hupper.upperChar, List.forall_mem_singleton.mpr ⟨isWordCharacter_ofNat hword, ?_⟩⟩
    intro hunderscore
    exact absurd hunderscore (ofNat_ne_underscore hword (ne_underscore_of_moves hrun hmoves))
  · exact ⟨c, [], hself, hself, by simp [hc]⟩

end AlbumBrowser.Unicode
