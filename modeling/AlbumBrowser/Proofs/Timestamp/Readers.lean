import AlbumBrowser.Proofs.Timestamp.Shapes

/-!
The readers of timestamps exclude each other. What a layout reads has its colons and letters just as often as the
layout, because numbers and white space have none of them; and no two layouts have as many colons, `T`s and `Z`s as
each other. A time with an offset has three colons, or two and a `Z`. So the order of the readers does not matter,
and a text is read as the timestamp that it spells.
-/

namespace AlbumBrowser

open Calendar Text

namespace Text

/-- A character that may stand in a number, a year or a fraction, or in the white space in front of one. -/
def isNumeric (x : Char) : Bool := x.isDigit || Unicode.isWhiteSpace x || x = '+' || x = '-' || x = '.'

/-- Nothing but such characters. -/
def IsNumeric (t : List Char) : Prop := ∀ x ∈ t, isNumeric x = true

/-- How many colons a text has, how many `T`s, and how many `Z`s in either case. -/
def tally (s : List Char) : Nat × Nat × Nat := (s.count ':', s.count 'T', s.count 'Z' + s.count 'z')

variable {limit width n : Nat} {t : List Char} {x : Char}

theorem IsNumeric.count_eq_zero (h : IsNumeric t) (hx : isNumeric x = false) : t.count x = 0 := by
  refine List.count_eq_zero.mpr fun hmem => ?_
  rw [h x hmem] at hx
  cases hx

theorem isNumeric_of_isDigits (h : IsDigits t) : IsNumeric t := fun x hx => by simp [isNumeric, h x hx]

theorem isNumeric_of_isGap (h : IsGap t) : IsNumeric t := fun x hx => by simp [isNumeric, h x hx]

theorem SpellsNumber.isNumeric (h : SpellsNumber limit n t) : IsNumeric t := by
  cases h with
  | digits hdigits => exact isNumeric_of_isDigits hdigits

theorem WritesNumber.isNumeric (h : WritesNumber width n t) : IsNumeric t := isNumeric_of_isDigits h.isDigits

end Text

namespace Calendar

variable {c c' : Civil} {s t rest : List Char} {x : Char} {f : Field} {n : Nat} {year : Int}

theorem SpellsYear.isNumeric (h : SpellsYear year t) : IsNumeric t := by
  cases h with
  | plain h => exact h.isNumeric
  | plus h => exact List.forall_mem_cons.mpr ⟨by decide, h.isNumeric⟩
  | minus h => exact List.forall_mem_cons.mpr ⟨by decide, h.isNumeric⟩

theorem SpellsFraction.isNumeric (h : SpellsFraction n t) : IsNumeric t := by
  cases h with
  | none => exact fun _ hx => absurd hx List.not_mem_nil
  | digits hdigits => exact List.forall_mem_cons.mpr ⟨by decide, isNumeric_of_isDigits hdigits⟩

theorem Field.exists_of_read (h : f.read c s = some (c', rest)) : ∃ t, IsNumeric t ∧ s = t ++ rest := by
  have hnumber : ∀ {n}, takeNumber 2 (trimStart s) = some (n, rest) → ∃ t, IsNumeric t ∧ s = t ++ rest := by
    intro n hread
    obtain ⟨w, t, hw, ht, -, hs⟩ := spellsNumber_of_gap hread
    refine ⟨w ++ t, List.forall_mem_append.mpr ⟨isNumeric_of_isGap hw, ht.isNumeric⟩, ?_⟩
    rw [hs, List.append_assoc]
  cases f with
  | year =>
      obtain ⟨⟨year, after⟩, hread, heq⟩ := Option.map_eq_some_iff.mp h
      cases heq
      obtain ⟨w, t, hw, ht, hs⟩ := spellsYear_of_gap hread
      refine ⟨w ++ t, List.forall_mem_append.mpr ⟨isNumeric_of_isGap hw, ht.isNumeric⟩, ?_⟩
      rw [hs, List.append_assoc]
  | fraction =>
      obtain ⟨⟨nano, after⟩, hread, heq⟩ := Option.map_eq_some_iff.mp h
      cases heq
      obtain ⟨t, ht, hs⟩ := exists_of_takeFraction hread
      exact ⟨t, ht.isNumeric, hs⟩
  | month | day | hour | minute | second =>
      obtain ⟨⟨n, after⟩, hread, heq⟩ := Option.map_eq_some_iff.mp h
      cases heq
      exact hnumber hread

namespace Layout

variable {layout : Layout}

/-- What a layout reads has every character that no number has just as often as the layout. -/
theorem count_of_readFrom (hx : isNumeric x = false) (h : layout.readFrom c s = some (c', rest)) :
    s.count x = layout.count (.text x) + rest.count x := by
  -- Along the layout: fields and gaps take no such character, and a text piece takes its own.
  induction layout generalizing c s with
  | nil =>
      cases h
      simp
  | cons p layout ih =>
      cases p with
      | field f =>
          obtain ⟨⟨c₁, s₁⟩, hpiece, hmore⟩ := Option.bind_eq_some_iff.mp h
          obtain ⟨t, ht, rfl⟩ := Field.exists_of_read hpiece
          rw [List.count_append, ht.count_eq_zero hx, List.count_cons_of_ne (by simp), Nat.zero_add, ih hmore]
      | text y =>
          obtain ⟨s, rfl, hmore⟩ := exists_of_text h
          simp only [List.count_cons, ih hmore, Piece.text.injEq, beq_iff_eq]
          omega
      | gap =>
          obtain ⟨w, hw, hs⟩ := exists_gap s
          rw [hs, List.count_append, (isNumeric_of_isGap hw).count_eq_zero hx, List.count_cons_of_ne (by simp),
            Nat.zero_add, ih h]

/-- How many colons, `T`s and `Z`s stand in a layout. -/
def tally (layout : Layout) : Nat × Nat × Nat :=
  (layout.count (.text ':'), layout.count (.text 'T'), layout.count (.text 'Z') + layout.count (.text 'z'))

theorem tally_of_read (h : layout.read s = some c) : Text.tally s = layout.tally := by
  obtain ⟨hread, -⟩ := read_eq_some_iff.mp h
  have hcount : ∀ {x : Char}, isNumeric x = false → s.count x = layout.count (.text x) :=
    fun hx => count_of_readFrom hx hread
  rw [Text.tally, tally, hcount (by decide), hcount (by decide), hcount (by decide), hcount (by decide)]

end Layout

/-! ### Times with an offset -/

theorem WritesClock.count_eq {hour minute : Nat} (h : WritesClock hour minute t) (hx : isNumeric x = false) :
    t.count x = [':'].count x := by
  obtain ⟨hhour, hminute⟩ := h
  rw [List.count_append, List.count_cons, hhour.isNumeric.count_eq_zero hx,
    hminute.isNumeric.count_eq_zero hx, List.count_cons, List.count_nil, Nat.zero_add]

theorem WritesCivil.count_eq {mark : Char} (h : WritesCivil mark c t) (hx : isNumeric x = false) :
    t.count x = [mark, ':', ':'].count x := by
  obtain ⟨⟨hyear, hmonth, hday⟩, hclock, hsecond, hfraction⟩ := h
  have hdash : '-' ≠ x := by
    rintro rfl
    cases hx
  simp only [List.count_append, List.count_cons, hclock.count_eq hx, hyear.isNumeric.count_eq_zero hx,
    hmonth.isNumeric.count_eq_zero hx, hday.isNumeric.count_eq_zero hx, hsecond.isNumeric.count_eq_zero hx,
    hfraction.isNumeric.count_eq_zero hx, beq_false_of_ne hdash, List.count_nil]
  simp

/-- Three colons, or two and a `Z`. -/
def OfOffsetTime (n : Nat × Nat × Nat) : Prop := n.1 = 3 ∨ n.1 = 2 ∧ n.2.2 = 1

instance (n : Nat × Nat × Nat) : Decidable (OfOffsetTime n) := inferInstanceAs (Decidable (_ ∨ _))

theorem SpellsOffsetTime.tally {m : Moment} (h : SpellsOffsetTime m s) : OfOffsetTime (Text.tally s) := by
  cases h with
  | @fields mark c offset t u hmark ht _ hu =>
      have hcivil : t.count ':' = 2 ∧ t.count 'Z' = 0 ∧ t.count 'z' = 0 := by
        rw [ht.count_eq (by decide), ht.count_eq (by decide), ht.count_eq (by decide)]
        rcases hmark with rfl | rfl | rfl <;> decide
      have hoffset : u.count ':' = 1 ∨ u.count ':' = 0 ∧ u.count 'Z' + u.count 'z' = 1 := by
        cases hu with
        | zero hx => rcases hx with rfl | rfl <;> exact Or.inr ⟨rfl, rfl⟩
        | east h => exact Or.inl ((List.count_cons_of_ne (by decide)).trans (h.count_eq (by decide)))
        | @west x hour minute t hx h _ _ =>
            have hne : x ≠ ':' := by rcases hx with rfl | rfl <;> decide
            exact Or.inl ((List.count_cons_of_ne hne).trans (h.count_eq (by decide)))
      simp only [OfOffsetTime, Text.tally, List.count_append]
      omega

end Calendar

/-! ### Readers -/

namespace Timestamp

/-- Readers of which at most one reads a text. -/
def Exclusive (reader reader' : List Char → Option Timestamp) : Prop := ∀ s x y, reader s = some x → reader' s ≠ some y

variable {s : List Char} {x : Timestamp}

theorem exclusive_of_tally_ne {layout layout' : Layout} (h : layout.tally ≠ layout'.tally)
    (f g : Civil → Timestamp) : Exclusive (fun s => (layout.read s).map f) (fun s => (layout'.read s).map g) := by
  intro s x y hx hy
  obtain ⟨c, hread, -⟩ := Option.map_eq_some_iff.mp hx
  obtain ⟨c', hread', -⟩ := Option.map_eq_some_iff.mp hy
  exact h ((Layout.tally_of_read hread).symm.trans (Layout.tally_of_read hread'))

theorem exclusive_offset {layout : Layout} (h : ¬ OfOffsetTime layout.tally) (f : Civil → Timestamp) :
    Exclusive (fun s => (OffsetTime.read s).map instant) (fun s => (layout.read s).map f) := by
  intro s x y hx hy
  obtain ⟨m, hread, -⟩ := Option.map_eq_some_iff.mp hx
  obtain ⟨c, hread', -⟩ := Option.map_eq_some_iff.mp hy
  have htally := (OffsetTime.read_eq_some_iff.mp hread).tally
  rw [Layout.tally_of_read hread'] at htally
  exact h htally

/-- No text is read by two readers. -/
theorem pairwise_exclusive_readers : readers.Pairwise Exclusive := by
  -- Seven layouts are compared with each other, and each with what times with an offset have.
  have hlayouts : (instantLayouts ++ wallClockLayouts).Pairwise fun layout layout' => layout.tally ≠ layout'.tally := by
    decide
  have hoffset : ∀ layout ∈ instantLayouts ++ wallClockLayouts, ¬ OfOffsetTime layout.tally := by decide
  obtain ⟨hinstant, hwall, hacross⟩ := List.pairwise_append.mp hlayouts
  rw [readers, List.cons_append, List.pairwise_cons, List.pairwise_append, List.pairwise_map, List.pairwise_map]
  refine ⟨?_, hinstant.imp fun h => exclusive_of_tally_ne h _ _, hwall.imp fun h => exclusive_of_tally_ne h _ _, ?_⟩
  · intro reader hreader
    rcases List.mem_append.mp hreader with hmem | hmem
    · obtain ⟨layout, hlayout, rfl⟩ := List.mem_map.mp hmem
      exact exclusive_offset (hoffset layout (List.mem_append_left _ hlayout)) _
    · obtain ⟨layout, hlayout, rfl⟩ := List.mem_map.mp hmem
      exact exclusive_offset (hoffset layout (List.mem_append_right _ hlayout)) _
  · intro reader hreader reader' hreader'
    obtain ⟨layout, hlayout, rfl⟩ := List.mem_map.mp hreader
    obtain ⟨layout', hlayout', rfl⟩ := List.mem_map.mp hreader'
    exact exclusive_of_tally_ne (hacross layout hlayout layout' hlayout') _ _

/-- Where readers exclude each other, the first that reads a text is the only one. -/
theorem findSome?_eq_some_iff_of_exclusive {readers : List (List Char → Option Timestamp)}
    (h : readers.Pairwise Exclusive) : readers.findSome? (· s) = some x ↔ ∃ reader ∈ readers, reader s = some x := by
  refine ⟨List.exists_of_findSome?_eq_some, ?_⟩
  -- A reader in front of the one that reads the text excludes it, so it does not read the text itself.
  induction h with
  | nil => rintro ⟨_, hmem, -⟩; cases hmem
  | @cons reader readers hfirst hrest ih =>
      rintro ⟨reader', hmem, hread⟩
      rw [List.findSome?_cons]
      rcases List.mem_cons.mp hmem with rfl | hlater
      · rw [hread]
      · have hnone : reader s = none :=
          Option.eq_none_iff_forall_ne_some.mpr fun y hy => hfirst reader' hlater s y x hy hread
        rw [hnone]
        exact ih ⟨reader', hlater, hread⟩

theorem Exclusive.symm {reader reader' : List Char → Option Timestamp} (h : Exclusive reader reader') :
    Exclusive reader' reader := fun s x y hx hy => h s y x hy hx

/-- Where readers exclude each other, at most one of them reads a text. -/
theorem countP_le_one_of_exclusive {readers : List (List Char → Option Timestamp)} (h : readers.Pairwise Exclusive)
    (s : List Char) : readers.countP (fun reader => (reader s).isSome) ≤ 1 := by
  induction h with
  | nil => exact Nat.zero_le 1
  | @cons reader readers hfirst hrest ih =>
      rw [List.countP_cons]
      split
      · rename_i hread
        obtain ⟨x, hx⟩ := Option.isSome_iff_exists.mp hread
        have hlater : readers.countP (fun reader => (reader s).isSome) = 0 := by
          refine List.countP_eq_zero.mpr fun reader' hmem hread' => ?_
          obtain ⟨y, hy⟩ := Option.isSome_iff_exists.mp hread'
          exact hfirst reader' hmem s x y hx hy
        rw [hlater]
      · exact ih

/-- Readers that exclude each other read the same in any order. -/
theorem findSome?_eq_of_perm {readers order : List (List Char → Option Timestamp)} (h : readers.Pairwise Exclusive)
    (hperm : order.Perm readers) : order.findSome? (· s) = readers.findSome? (· s) := by
  have horder : order.Pairwise Exclusive := hperm.symm.pairwise h Exclusive.symm
  apply Option.ext
  intro x
  rw [findSome?_eq_some_iff_of_exclusive horder, findSome?_eq_some_iff_of_exclusive h]
  exact exists_congr fun reader => and_congr_left' hperm.mem_iff

theorem findSome?_readers_eq_some_iff : readers.findSome? (· s) = some x ↔ Spells x s :=
  (findSome?_eq_some_iff_of_exclusive pairwise_exclusive_readers).trans spells_iff.symm

/-! ### Timestamps -/

variable {raw : String}

theorem not_spells_nil : ¬ Spells x [] := by
  have hnone : readers.findSome? (· []) = none := by decide
  rw [← findSome?_readers_eq_some_iff, hnone]
  exact fun h => by cases h

/-- A text of white space only writes no timestamp, and no other text does so. -/
theorem parse_eq_none_iff : parse raw = none ↔ IsGap raw.toList := by
  rw [← trim_eq_nil_iff]
  by_cases hempty : trim raw.toList = []
  · simp [parse, hempty]
  · simp [parse, hempty]

/-- A text writes the timestamp that it spells between the white space around it, or is kept as one that cannot be
read. -/
theorem parse_eq_some_iff : parse raw = some x ↔ Spells x (trim raw.toList) ∨
    (¬ IsGap raw.toList ∧ ∀ y, ¬ Spells y (trim raw.toList)) ∧ x = .unreadable (String.ofList (trim raw.toList)) := by
  by_cases hgap : IsGap raw.toList
  · have hempty : trim raw.toList = [] := trim_eq_nil_iff.mpr hgap
    rw [parse_eq_none_iff.mpr hgap, hempty]
    simp [not_spells_nil, hgap]
  · have hparse : parse raw = some ((readers.findSome? (· (trim raw.toList))).getD
        (.unreadable (String.ofList (trim raw.toList)))) := if_neg (mt trim_eq_nil_iff.mp hgap)
    rw [hparse, Option.some.injEq]
    cases hread : readers.findSome? (· (trim raw.toList)) with
    | some y =>
        have hy := findSome?_readers_eq_some_iff.mp hread
        have hunique : Spells x (trim raw.toList) → y = x := fun hx =>
          Option.some.inj (hread.symm.trans (findSome?_readers_eq_some_iff.mpr hx))
        exact ⟨fun h => Or.inl (h ▸ hy), fun h => h.elim hunique fun h => absurd hy (h.1.2 y)⟩
    | none =>
        have hnone : ∀ y, ¬ Spells y (trim raw.toList) := by
          intro y hy
          rw [findSome?_readers_eq_some_iff.mpr hy] at hread
          cases hread
        exact ⟨fun h => Or.inr ⟨⟨hgap, hnone⟩, h.symm⟩,
          fun h => h.elim (fun hx => absurd hx (hnone x)) fun h => h.2.symm⟩

/-! ### The order of the readers -/

/-- The timestamp that a text writes when readers are tried in a given order. -/
def parseIn (order : List (List Char → Option Timestamp)) (raw : String) : Option Timestamp :=
  let s := trim raw.toList
  if s = [] then none
  else some ((order.findSome? (· s)).getD (unreadable (String.ofList s)))

/-- At most one of the eight readers reads a text, so a text writes the same timestamp whichever of them is tried
first. -/
theorem parse_in_any_order : readers.length = 8 ∧
    (∀ s, readers.countP (fun reader => (reader s).isSome) ≤ 1) ∧
    ∀ order raw, order.Perm readers → parseIn order raw = parse raw := by
  refine ⟨rfl, countP_le_one_of_exclusive pairwise_exclusive_readers, fun order raw hperm => ?_⟩
  rw [parseIn, parse, findSome?_eq_of_perm pairwise_exclusive_readers hperm]

/-- Tried backwards, the readers give a time without seconds its `Z` all the same, with nothing between the date and
the time. -/
theorem parse_in_any_order_backwards : parseIn readers.reverse "\t2024-03-0514:07Z" = some (.instant ⟨1709647620, 0⟩) := by
  have hforwards : parse "\t2024-03-0514:07Z" = some (.instant ⟨1709647620, 0⟩) := by decide
  exact (parse_in_any_order.2.2 readers.reverse _ readers.reverse_perm).trans hforwards

end Timestamp

end AlbumBrowser
