import AlbumBrowser.Proofs.Json.Written

/-!
What is written is read back. It is so of every value without floating-point numbers whose whole numbers fit in 64 bits,
whose objects give each name once, and which opens no more brackets than a reader follows. Nothing but the text of a
value is needed for it, so the answers that are written in JSON say all that was put into them.
-/

namespace AlbumBrowser.Json

open Text

variable {α : Type} {depth n : Nat} {negative : Bool} {u : List Char} {v : Value}

/-- Values that are read as they are written, with at most `depth` brackets open at once. -/
inductive Value.Readable : (depth : Nat) → Value → Prop
  | null {depth : Nat} : Readable depth .null
  | bool {depth : Nat} (b : Bool) : Readable depth (.bool b)
  | whole {depth : Nat} {n : Int} (hlow : Int64.minValue.toInt ≤ n) (hhigh : n < UInt64.size) :
      Readable depth (.number (.whole n))
  | string {depth : Nat} (s : String) : Readable depth (.string s)
  | array {depth : Nat} {items : List Value} (hitems : ∀ v ∈ items, Readable depth v) :
      Readable (depth + 1) (.array items)
  | object {depth : Nat} {members : List (String × Value)} (hnames : (members.map Prod.fst).Nodup)
      (hmembers : ∀ m ∈ members, Readable depth m.2) : Readable (depth + 1) (.object members)

/-! ### Whole numbers -/

/-- Digits are taken into a whole number as long as it fits. -/
theorem wholeDigits_run (hu : IsDigits u) {k : Nat} (hfits : 10 ^ u.length * k + ofDigits u < UInt64.size) :
    wholeDigits negative k u = .ok (wholeOrFloat negative (10 ^ u.length * k + ofDigits u), []) := by
  induction u generalizing k with
  | nil =>
      rw [List.length_nil, Nat.pow_zero, Nat.one_mul]
      rfl
  | cons c u ih =>
      obtain ⟨hc, hu⟩ := List.forall_mem_cons.mp hu
      have hvalue : 10 ^ (c :: u).length * k + ofDigits (c :: u) =
          10 ^ u.length * (10 * k + ofDigits [c]) + ofDigits u := by
        rw [← List.singleton_append, ofDigits_append, List.singleton_append, List.length_cons, Nat.pow_succ,
          Nat.mul_assoc, Nat.mul_add, Nat.add_assoc]
      rw [hvalue] at hfits ⊢
      have hsum : 10 * k + ofDigits [c] < UInt64.size := by
        have hpos : 1 * (10 * k + ofDigits [c]) ≤ 10 ^ u.length * (10 * k + ofDigits [c]) :=
          Nat.mul_le_mul_right _ (Nat.pow_pos (by decide))
        omega
      rw [wholeDigits_cons hc, addDigit?, if_pos hsum]
      exact ih hu hfits

theorem number_digits (h : n < UInt64.size) : number negative (digits n) = .ok (wholeOrFloat negative n, []) := by
  rcases Nat.eq_zero_or_pos n with rfl | hpos
  · rfl
  · obtain ⟨c, run, hrun, hc⟩ := exists_digits hpos
    have hdigits := isDigits_digits n
    rw [hrun] at hdigits
    obtain ⟨hdigit, hmore⟩ := List.forall_mem_cons.mp hdigits
    have hvalue : 10 ^ run.length * ofDigits [c] + ofDigits run = n := by
      rw [← ofDigits_append, List.singleton_append, ← hrun, ofDigits_digits]
    rw [hrun, number_digit hc hdigit, wholeDigits_run hmore (hvalue.trans_lt h), hvalue]

theorem isNumeral_digits (n : Nat) : IsNumeral (digits n) := by
  have hwhole : WholePart (digits n) := by
    rcases Nat.eq_zero_or_pos n with rfl | hpos
    · exact .zero
    · obtain ⟨c, run, hrun, hc⟩ := exists_digits hpos
      have hdigits := isDigits_digits n
      rw [hrun] at hdigits ⊢
      exact .digits hc hdigits
  have hnumeral := IsNumeral.parts hwhole .none .none
  rwa [List.append_nil, List.append_nil] at hnumeral

theorem spellsScalar_whole {n : Int} (hlow : Int64.minValue.toInt ≤ n) (hhigh : n < UInt64.size) :
    SpellsScalar (.number (.whole n)) (Value.number (.whole n)).chars := by
  cases n with
  | ofNat n =>
      have hfits : n < UInt64.size := Int.ofNat_lt.mp hhigh
      exact .number (isNumeral_digits n) (number_digits hfits)
  | negSucc n =>
      have hleast : n + 1 ≤ 0x8000000000000000 := by
        rw [show Int64.minValue.toInt = -0x8000000000000000 by decide] at hlow
        omega
      have hfits : n + 1 < UInt64.size := Nat.lt_of_le_of_lt hleast (by decide)
      have hread : number true (digits (n + 1)) = .ok (wholeOrFloat true (n + 1), []) := number_digits hfits
      have hsign : wholeOrFloat true (n + 1) = .whole (.negSucc n) := by
        rw [wholeOrFloat, if_neg (by decide), if_pos ⟨Nat.succ_pos n, hleast⟩]
        rfl
      rw [hsign] at hread
      exact .negative (isNumeral_digits (n + 1)) hread

/-! ### Lists and objects -/

theorem mergeMembers_eq_self {members : List (String × α)} (h : (members.map Prod.fst).Nodup) :
    mergeMembers members = members := by
  have hfold : ∀ merged : List (String × α), ((merged ++ members).map Prod.fst).Nodup →
      members.foldl (fun merged m => insertMember m.1 m.2 merged) merged = merged ++ members := by
    clear h
    induction members with
    | nil => exact fun merged _ => (List.append_nil merged).symm
    | cons m members ih =>
        intro merged hnodup
        have hnew : m.1 ∉ merged.map Prod.fst := by
          rw [List.map_append, List.map_cons, List.nodup_append] at hnodup
          exact fun hmem => hnodup.2.2 _ hmem _ List.mem_cons_self rfl
        rw [List.foldl_cons, insertMember_of_not_mem hnew, ih]
        · rw [List.append_assoc, List.singleton_append]
        · rwa [List.append_assoc, List.singleton_append]
  exact hfold [] h

variable {P : Value → List Char → Prop}

/-- The elements of a list behind one that has been written. -/
def moreElements : List Value → List Char
  | [] => []
  | v :: items => ',' :: elementChars (v :: items)

theorem elementChars_cons (v : Value) (items : List Value) :
    elementChars (v :: items) = v.chars ++ moreElements items := by
  cases items with
  | nil => rw [elementChars, moreElements, List.append_nil]
  | cons w items => rw [elementChars, moreElements]

theorem items_moreElements {items : List Value} (h : ∀ v ∈ items, P v v.chars) :
    Items ']' P false items (moreElements items ++ [']']) := by
  induction items with
  | nil => exact .close isSpace_nil
  | cons v items ih =>
      obtain ⟨hv, hitems⟩ := List.forall_mem_cons.mp h
      have hnext := Items.next (.comma isSpace_nil) isSpace_nil hv (ih hitems)
      rw [moreElements, elementChars_cons]
      simpa using hnext

theorem items_elementChars {items : List Value} (h : ∀ v ∈ items, P v v.chars) :
    Items ']' P true items (elementChars items ++ [']']) := by
  cases items with
  | nil => exact .close isSpace_nil
  | cons v items =>
      obtain ⟨hv, hitems⟩ := List.forall_mem_cons.mp h
      have hnext := Items.next .none isSpace_nil hv (items_moreElements hitems)
      rw [elementChars_cons]
      simpa using hnext

/-- A member as it is written, with what comes behind it. -/
theorem spellsMember_quoted (name : String) (h : P v v.chars) :
    SpellsMember P (name, v) (quoted name.toList ++ ':' :: v.chars) := by
  have hmember := SpellsMember.colon (spellsChars_escaped name.toList) isSpace_nil isSpace_nil h
  rw [List.nil_append, List.nil_append] at hmember
  rwa [quoted_append]

theorem items_moreChars {members : List (String × Value)} (h : ∀ m ∈ members, P m.2 m.2.chars) :
    Items '\x7d' (SpellsMember P) false members (moreChars members ++ ['\x7d']) := by
  induction members with
  | nil => exact .close isSpace_nil
  | cons m members ih =>
      obtain ⟨hm, hmembers⟩ := List.forall_mem_cons.mp h
      have hnext := Items.next (.comma isSpace_nil) isSpace_nil (spellsMember_quoted m.1 hm) (ih hmembers)
      rw [moreChars, memberChars_cons]
      simpa using hnext

theorem items_memberChars {members : List (String × Value)} (h : ∀ m ∈ members, P m.2 m.2.chars) :
    Items '\x7d' (SpellsMember P) true members (memberChars members ++ ['\x7d']) := by
  cases members with
  | nil => exact .close isSpace_nil
  | cons m members =>
      obtain ⟨hm, hmembers⟩ := List.forall_mem_cons.mp h
      have hnext := Items.next .none isSpace_nil (spellsMember_quoted m.1 hm) (items_moreChars hmembers)
      rw [memberChars_cons]
      simpa using hnext

/-! ### Values -/

namespace Value.Readable

theorem spells (h : v.Readable depth) : Spells depth v v.chars := by
  induction h with
  | null => exact SpellsScalar.null.spells
  | bool b =>
      cases b with
      | true => exact SpellsScalar.yes.spells
      | false => exact SpellsScalar.no.spells
  | whole hlow hhigh => exact (spellsScalar_whole hlow hhigh).spells
  | string s => exact (SpellsScalar.string (spellsChars_escaped s.toList)).spells
  | array _ ih => exact Or.inr (.array (items_elementChars ih))
  | @object depth members hnames _ ih =>
      have hobject : SpellsBracketed (Spells depth) _ _ := .object (items_memberChars ih)
      rw [mergeMembers_eq_self hnames] at hobject
      exact Or.inr hobject

theorem succ (h : v.Readable depth) : v.Readable (depth + 1) := by
  induction h with
  | null => exact .null
  | bool b => exact .bool b
  | whole hlow hhigh => exact .whole hlow hhigh
  | string s => exact .string s
  | array _ ih => exact .array ih
  | object hnames _ ih => exact .object hnames ih

theorem mono {depth' : Nat} (h : v.Readable depth) (hle : depth ≤ depth') : v.Readable depth' := by
  induction hle with
  | refl => exact h
  | step _ ih => exact ih.succ

/-- The text of a value is read as that value. -/
theorem read_text (h : v.Readable depth) (hdepth : depth ≤ depthLimit) : read v.text = .ok v := by
  have hwrites := Writes.text isSpace_nil (h.mono hdepth).spells isSpace_nil
  rw [List.nil_append, List.append_nil] at hwrites
  exact read_eq_ok_iff.mpr hwrites

end Value.Readable

end AlbumBrowser.Json
