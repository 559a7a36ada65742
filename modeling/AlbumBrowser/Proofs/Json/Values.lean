import AlbumBrowser.Proofs.Json.Numerals
import AlbumBrowser.Proofs.Json.Strings

/-!
Values are read as they are spelled. What is shown for the readers of lists and objects holds for any reader of their
items, and so for values from one depth of brackets to the next.
-/

namespace AlbumBrowser.Json

open Text

variable {α σ : Type} {s t u b w rest : List Char} {c : Char} {first : Bool}

/-- A reader reads what a grammar spells, behind white space and in front of something apart. -/
structure Reads (r : Reader α) (P : α → List Char → Prop) : Prop where
  sound : ∀ {s x rest}, r s = .ok (x, rest) → ∃ w t, IsSpace w ∧ P x t ∧ s = w ++ (t ++ rest)
  complete : ∀ {w x t rest}, IsSpace w → P x t → Apart rest → r (w ++ (t ++ rest)) = .ok (x, rest)
  starts : ∀ {x t}, P x t → ∃ c u, t = c :: u ∧ isSpace c = false ∧ c ≠ ']'

theorem isSpace_iff : isSpace c = true ↔ c = ' ' ∨ c = '\t' ∨ c = '\n' ∨ c = '\r' := by
  simp [isSpace, or_assoc]

theorem Apart.space_append (hw : IsSpace w) (h : Apart rest) : Apart (w ++ rest) := by
  cases w with
  | nil => exact h
  | cons c w =>
      intro d hd
      cases hd
      rcases isSpace_iff.mp (hw c List.mem_cons_self) with rfl | rfl | rfl | rfl <;> decide

/-- What comes behind a value in a list or an object cannot go on with it. -/
theorem Items.apart {close : Char} {P : α → List Char → Prop} {xs : List α} (h : Items close P false xs t)
    (hclose : close.isDigit = false ∧ close ≠ '.' ∧ close ≠ 'e' ∧ close ≠ 'E') (rest : List Char) :
    Apart (t ++ rest) := by
  cases h with
  | close hw =>
      rw [List.append_assoc]
      exact Apart.space_append hw (apart_cons hclose rest)
  | next hb =>
      cases hb with
      | comma hw =>
          simp only [List.append_assoc]
          exact Apart.space_append hw (apart_cons (by decide) _)

theorem word_eq_ok_iff {letters : List Char} : word letters s = .ok rest ↔ s = letters ++ rest := by
  induction letters generalizing s with
  | nil => simp [word, eq_comm]
  | cons l letters ih =>
      cases s with
      | nil => simp [word]
      | cons c s =>
          by_cases hc : c = l
          · simp [word, hc, ih]
          · simp [word, hc]

/-! ### Lists -/

theorem nextElement_close (hw : IsSpace w) (rest : List Char) : nextElement first (w ++ ']' :: rest) = .ok none := by
  rw [nextElement, skipSpace_append_cons hw rfl]
  rfl

theorem closeList_append (hw : IsSpace w) (rest : List Char) : closeList (w ++ ']' :: rest) = .ok rest := by
  rw [closeList, skipSpace_append_cons hw rfl]
  rfl

theorem nextElement_append (hb : Separator first b) (hw : IsSpace w) (hc : isSpace c = false) (hne : c ≠ ']')
    (u : List Char) : nextElement first (b ++ (w ++ c :: u)) = .ok (some (c :: u)) := by
  cases hb with
  | none =>
      rw [List.nil_append, nextElement, skipSpace_append_cons hw hc]
      simp only [hne, if_false, if_true]
  | comma hv =>
      rw [List.append_assoc, List.singleton_append, nextElement, skipSpace_append_cons hv rfl]
      simp only [skipSpace_append_cons hw hc, hne, if_false]
      rfl

theorem exists_of_nextElement {next : Option (List Char)} (h : nextElement first s = .ok next) :
    (next = none ∧ ∃ w rest, IsSpace w ∧ s = w ++ ']' :: rest) ∨
      ∃ b w c u, next = some (c :: u) ∧ Separator first b ∧ IsSpace w ∧ isSpace c = false ∧ c ≠ ']' ∧
        s = b ++ (w ++ c :: u) := by
  unfold nextElement at h
  split at h
  · cases h
  · rename_i c u hskip
    obtain ⟨w, hw, hc, rfl⟩ := skipSpace_eq_cons_iff.mp hskip
    split at h
    · rename_i hclose
      cases h
      cases hclose
      exact Or.inl ⟨rfl, w, u, hw, rfl⟩
    · rename_i hne
      split at h
      · rename_i hfirst
        cases h
        cases hfirst
        exact Or.inr ⟨[], w, c, u, rfl, .none, hw, hc, hne, rfl⟩
      · rename_i hfirst
        cases Bool.eq_false_iff.mpr hfirst
        split at h
        · rename_i hcomma
          cases hcomma
          split at h
          · cases h
          · rename_i d v hskip
            obtain ⟨w', hw', hd, rfl⟩ := skipSpace_eq_cons_iff.mp hskip
            split at h
            · cases h
            · rename_i hne'
              cases h
              exact Or.inr ⟨w ++ [','], w', d, v, rfl, .comma hw, hw', hd, hne', by simp⟩
        · cases h

variable {r : Reader α} {P : α → List Char → Prop} {bound : List Char} {xs : List α}

/-- Reading a list comes to its end, or to an element and the list behind it. -/
theorem elements_cases (h : elements r bound first s = .ok (xs, rest)) :
    (xs = [] ∧ ∃ w, IsSpace w ∧ s = w ++ ']' :: rest) ∨
      ∃ b w u x v y bound' xs', Separator first b ∧ IsSpace w ∧ s = b ++ (w ++ u) ∧ r u = .ok (x, v) ∧
        bound = y :: bound' ∧ elements r bound' false v = .ok (xs', rest) ∧ xs = x :: xs' := by
  unfold elements at h
  rw [bind_eq_ok_iff] at h
  obtain ⟨next, hnext, h⟩ := h
  rcases exists_of_nextElement hnext with ⟨rfl, w, u, hw, rfl⟩ | ⟨b, w, c, u, rfl, hb, hw, -, -, rfl⟩
  · simp only [closeList_append hw, bind_eq_ok_iff] at h
    obtain ⟨behind, hbehind, h⟩ := h
    cases hbehind
    cases h
    exact Or.inl ⟨rfl, w, hw, rfl⟩
  · simp only [bind_eq_ok_iff] at h
    obtain ⟨⟨x, v⟩, hx, h⟩ := h
    cases bound with
    | nil => cases h
    | cons y bound =>
        simp only [bind_eq_ok_iff] at h
        obtain ⟨⟨xs, after⟩, hxs, h⟩ := h
        cases h
        exact Or.inr ⟨b, w, c :: u, x, v, y, bound, xs, hb, hw, rfl, hx, rfl, hxs, rfl⟩

theorem exists_of_elements (hr : Reads r P) (h : elements r bound first s = .ok (xs, rest)) :
    ∃ t, Items ']' P first xs t ∧ s = t ++ rest := by
  induction bound generalizing first s xs with
  | nil =>
      rcases elements_cases h with ⟨rfl, w, hw, rfl⟩ | ⟨_, _, _, _, _, y, bound, _, -, -, -, -, hbound, -⟩
      · exact ⟨w ++ [']'], .close hw, by simp⟩
      · cases hbound
  | cons y bound ih =>
      rcases elements_cases h with ⟨rfl, w, hw, rfl⟩ | ⟨b, w, u, x, v, _, _, xs, hb, hw, rfl, hx, hbound, hxs, rfl⟩
      · exact ⟨w ++ [']'], .close hw, by simp⟩
      · cases hbound
        obtain ⟨w', t, hw', ht, rfl⟩ := hr.sound hx
        obtain ⟨t', ht', rfl⟩ := ih hxs
        have hspace : IsSpace (w ++ w') := List.forall_mem_append.mpr ⟨hw, hw'⟩
        exact ⟨_, .next hb hspace ht ht', by simp⟩

theorem elements_append (hr : Reads r P) (h : Items ']' P first xs t) (hbound : t.length ≤ bound.length)
    (rest : List Char) : elements r bound first (t ++ rest) = .ok (xs, rest) := by
  induction h generalizing bound with
  | close hw =>
      rw [List.append_assoc, List.singleton_append]
      unfold elements
      rw [bind_eq_ok_iff]
      refine ⟨none, nextElement_close hw rest, ?_⟩
      simp only [closeList_append hw]
      rfl
  | @next first b w t u x xs hb hw hx hxs ih =>
      obtain ⟨c, v, rfl, hc, hne⟩ := hr.starts hx
      have helement : r (c :: v ++ (u ++ rest)) = .ok (x, u ++ rest) :=
        hr.complete isSpace_nil hx (hxs.apart (by decide) rest)
      simp only [List.append_assoc]
      unfold elements
      rw [bind_eq_ok_iff]
      refine ⟨_, nextElement_append hb hw hc hne _, ?_⟩
      simp only [bind_eq_ok_iff]
      refine ⟨_, helement, ?_⟩
      simp only [List.length_append, List.length_cons] at hbound
      cases bound with
      | nil => exact absurd hbound (by simp only [List.length_nil]; omega)
      | cons y bound =>
          have hrest : elements r bound false (u ++ rest) = .ok (xs, rest) := by
            rw [List.length_cons] at hbound
            exact ih (by omega)
          simp only [bind_eq_ok_iff]
          exact ⟨_, hrest, rfl⟩

/-! ### Objects -/

theorem nextName_close (hw : IsSpace w) (rest : List Char) : nextName first (w ++ '\x7d' :: rest) = .ok none := by
  rw [nextName, skipSpace_append_cons hw rfl]
  rfl

theorem closeObject_append (hw : IsSpace w) (rest : List Char) : closeObject (w ++ '\x7d' :: rest) = .ok rest := by
  rw [closeObject, skipSpace_append_cons hw rfl]
  rfl

theorem nextName_append (hb : Separator first b) (hw : IsSpace w) {name : String} (ht : SpellsChars name.toList t)
    (u : List Char) : nextName first (b ++ (w ++ '"' :: (t ++ u))) = .ok (some (name, u)) := by
  have hname : stringRest (t ++ u) = .ok (name, u) := stringRest_eq_ok_iff.mpr ⟨t, ht, rfl⟩
  cases hb with
  | none =>
      rw [List.nil_append, nextName, skipSpace_append_cons hw rfl]
      simp [hname, Except.map]
  | comma hv =>
      rw [List.append_assoc, List.singleton_append, nextName, skipSpace_append_cons hv rfl]
      simp [skipSpace_append_cons hw (show isSpace '"' = false from rfl), hname, Except.map]

theorem exists_of_nextName {next : Option (String × List Char)} (h : nextName first s = .ok next) :
    (next = none ∧ ∃ w rest, IsSpace w ∧ s = w ++ '\x7d' :: rest) ∨
      ∃ b w name t u, next = some (name, u) ∧ Separator first b ∧ IsSpace w ∧ SpellsChars name.toList t ∧
        s = b ++ (w ++ '"' :: (t ++ u)) := by
  have hnamed : ∀ u, (stringRest u).map some = .ok next →
      ∃ name t v, next = some (name, v) ∧ SpellsChars name.toList t ∧ u = t ++ v := by
    intro u hread
    obtain ⟨⟨name, v⟩, hname, rfl⟩ := map_eq_ok_iff.mp hread
    obtain ⟨t, ht, rfl⟩ := stringRest_eq_ok_iff.mp hname
    exact ⟨name, t, v, rfl, ht, rfl⟩
  unfold nextName at h
  split at h
  · cases h
  · rename_i c u hskip
    obtain ⟨w, hw, hc, rfl⟩ := skipSpace_eq_cons_iff.mp hskip
    split at h
    · rename_i hclose
      cases h
      cases hclose
      exact Or.inl ⟨rfl, w, u, hw, rfl⟩
    · split at h
      · rename_i hfirst
        cases hfirst
        split at h
        · rename_i hquote
          cases hquote
          obtain ⟨name, t, v, rfl, ht, rfl⟩ := hnamed u h
          exact Or.inr ⟨[], w, name, t, v, rfl, .none, hw, ht, rfl⟩
        · cases h
      · rename_i hfirst
        cases Bool.eq_false_iff.mpr hfirst
        split at h
        · rename_i hcomma
          cases hcomma
          split at h
          · cases h
          · rename_i d u hskip
            obtain ⟨w', hw', -, rfl⟩ := skipSpace_eq_cons_iff.mp hskip
            split at h
            · rename_i hquote
              cases hquote
              obtain ⟨name, t, v, rfl, ht, rfl⟩ := hnamed u h
              exact Or.inr ⟨w ++ [','], w', name, t, v, rfl, .comma hw, hw', ht, by simp⟩
            · split at h <;> cases h
        · cases h

theorem colon_eq_ok_iff : colon s = .ok rest ↔ ∃ w, IsSpace w ∧ s = w ++ ':' :: rest := by
  constructor
  · intro h
    unfold colon at h
    split at h
    · cases h
    · rename_i c u hskip
      obtain ⟨w, hw, -, rfl⟩ := skipSpace_eq_cons_iff.mp hskip
      split at h
      · rename_i hcolon
        cases h
        cases hcolon
        exact ⟨w, hw, rfl⟩
      · cases h
  · rintro ⟨w, hw, rfl⟩
    rw [colon, skipSpace_append_cons hw rfl]
    rfl

theorem memberValue_eq_ok_iff {x : α} :
    memberValue r s = .ok (x, rest) ↔ ∃ w u, IsSpace w ∧ s = w ++ ':' :: u ∧ r u = .ok (x, rest) := by
  unfold memberValue
  rw [bind_eq_ok_iff]
  constructor
  · rintro ⟨u, hcolon, hx⟩
    obtain ⟨w, hw, rfl⟩ := colon_eq_ok_iff.mp hcolon
    exact ⟨w, u, hw, rfl, hx⟩
  · rintro ⟨w, u, hw, rfl, hx⟩
    exact ⟨u, colon_eq_ok_iff.mpr ⟨w, hw, rfl⟩, hx⟩

variable {step : σ → String → Reader σ} {state state' : σ}

/-- Running through an object comes to its end, or to a member and the object behind it. -/
theorem foldMembers_cases (h : foldMembers step bound first state s = .ok (state', rest)) :
    (state' = state ∧ ∃ w, IsSpace w ∧ s = w ++ '\x7d' :: rest) ∨
      ∃ b w name t u next v y bound', Separator first b ∧ IsSpace w ∧ SpellsChars name.toList t ∧
        s = b ++ (w ++ '"' :: (t ++ u)) ∧ step state name u = .ok (next, v) ∧ bound = y :: bound' ∧
        foldMembers step bound' false next v = .ok (state', rest) := by
  unfold foldMembers at h
  rw [bind_eq_ok_iff] at h
  obtain ⟨found, hfound, h⟩ := h
  rcases exists_of_nextName hfound with ⟨rfl, w, u, hw, rfl⟩ | ⟨b, w, name, t, u, rfl, hb, hw, ht, rfl⟩
  · simp only [closeObject_append hw, bind_eq_ok_iff] at h
    obtain ⟨behind, hbehind, h⟩ := h
    cases hbehind
    cases h
    exact Or.inl ⟨rfl, w, hw, rfl⟩
  · simp only [bind_eq_ok_iff] at h
    obtain ⟨⟨next, v⟩, hstep, h⟩ := h
    cases bound with
    | nil => cases h
    | cons y bound => exact Or.inr ⟨b, w, name, t, u, next, v, y, bound, hb, hw, ht, rfl, hstep, rfl, h⟩

variable {f : σ → String → α → σ}

theorem exists_of_foldMembers (hr : Reads r P)
    (hstep : ∀ state name s, step state name s = (memberValue r s).map fun (x, s) => (f state name x, s))
    (h : foldMembers step bound first state s = .ok (state', rest)) :
    ∃ members t, Items '\x7d' (SpellsMember P) first members t ∧ s = t ++ rest ∧
      state' = members.foldl (fun state m => f state m.1 m.2) state := by
  induction bound generalizing first s state with
  | nil =>
      rcases foldMembers_cases h with ⟨rfl, w, hw, rfl⟩ | ⟨_, _, _, _, _, _, _, y, bound, -, -, -, -, -, hbound, -⟩
      · exact ⟨[], w ++ ['\x7d'], .close hw, by simp, rfl⟩
      · cases hbound
  | cons y bound ih =>
      rcases foldMembers_cases h with
        ⟨rfl, w, hw, rfl⟩ | ⟨b, w, name, t, u, next, v, _, _, hb, hw, ht, rfl, hnext, hbound, hmore⟩
      · exact ⟨[], w ++ ['\x7d'], .close hw, by simp, rfl⟩
      · cases hbound
        rw [hstep] at hnext
        obtain ⟨⟨x, v'⟩, hmember, hnext⟩ := map_eq_ok_iff.mp hnext
        cases hnext
        obtain ⟨w₁, u', hw₁, rfl, hx⟩ := memberValue_eq_ok_iff.mp hmember
        obtain ⟨w₂, t', hw₂, ht', rfl⟩ := hr.sound hx
        obtain ⟨members, t'', hmembers, rfl, rfl⟩ := ih hmore
        exact ⟨(name, x) :: members, _, .next hb hw (.colon ht hw₁ hw₂ ht') hmembers, by simp, rfl⟩

theorem foldMembers_append (hr : Reads r P)
    (hstep : ∀ state name s, step state name s = (memberValue r s).map fun (x, s) => (f state name x, s))
    {members : List (String × α)} (h : Items '\x7d' (SpellsMember P) first members t)
    (hbound : t.length ≤ bound.length) (rest : List Char) : foldMembers step bound first state (t ++ rest) =
      .ok (members.foldl (fun state m => f state m.1 m.2) state, rest) := by
  induction h generalizing bound state with
  | close hw =>
      rw [List.append_assoc, List.singleton_append]
      unfold foldMembers
      rw [bind_eq_ok_iff]
      refine ⟨none, nextName_close hw rest, ?_⟩
      simp only [closeObject_append hw]
      rfl
  | @next first b w t u m members hb hw hm hmembers ih =>
      obtain @⟨name, t, w₁, w₂, v, x, hname, hw₁, hw₂, hx⟩ := hm
      have hvalue : r (w₂ ++ (v ++ (u ++ rest))) = .ok (x, u ++ rest) :=
        hr.complete hw₂ hx (hmembers.apart (by decide) rest)
      have hmember : memberValue r (w₁ ++ ':' :: (w₂ ++ (v ++ (u ++ rest)))) = .ok (x, u ++ rest) :=
        memberValue_eq_ok_iff.mpr ⟨w₁, _, hw₁, rfl, hvalue⟩
      simp only [List.append_assoc, List.cons_append]
      unfold foldMembers
      rw [bind_eq_ok_iff]
      refine ⟨_, nextName_append hb hw hname _, ?_⟩
      simp only [bind_eq_ok_iff]
      refine ⟨(f state name x, u ++ rest), ?_, ?_⟩
      · rw [hstep, hmember]
        rfl
      · simp only [List.length_append, List.length_cons] at hbound
        cases bound with
        | nil => exact absurd hbound (by simp only [List.length_nil]; omega)
        | cons y bound =>
            rw [List.length_cons] at hbound
            exact ih (by omega)

/-! ### Values -/

variable {depth : Nat} {v : Value}

theorem SpellsScalar.spells (h : SpellsScalar v t) : Spells depth v t := by
  cases depth with
  | zero => exact h
  | succ depth => exact Or.inl h

theorem IsNumeral.exists_cons (h : IsNumeral t) : ∃ c u, t = c :: u ∧ c.isDigit = true := by
  obtain @⟨w, f, e, hw, -, -⟩ := h
  cases hw with
  | zero => exact ⟨'0', f ++ e, rfl, rfl⟩
  | @digits c w hzero hdigits => exact ⟨c, w ++ (f ++ e), rfl, hdigits c List.mem_cons_self⟩

theorem not_isSpace_of_isDigit (hc : c.isDigit = true) : isSpace c = false := by
  cases hspace : isSpace c with
  | false => rfl
  | true =>
      rcases isSpace_iff.mp hspace with rfl | rfl | rfl | rfl <;> cases hc

/-- The value found behind white space is read by its first character. -/
theorem exists_of_value (hdeeper : ∀ d, depth = d + 1 → Reads (value d) (Spells d))
    (h : value depth s = .ok (v, rest)) : ∃ w t, IsSpace w ∧ Spells depth v t ∧ s = w ++ (t ++ rest) := by
  unfold value at h
  split at h
  · cases h
  · rename_i c u hskip
    obtain ⟨w, hw, -, rfl⟩ := skipSpace_eq_cons_iff.mp hskip
    refine ⟨w, ?_⟩
    split at h
    · rename_i hn
      cases hn
      obtain ⟨u, hword, h⟩ := map_eq_ok_iff.mp h
      cases h
      exact ⟨_, hw, SpellsScalar.null.spells, by rw [word_eq_ok_iff.mp hword]; rfl⟩
    split at h
    · rename_i ht
      cases ht
      obtain ⟨u, hword, h⟩ := map_eq_ok_iff.mp h
      cases h
      exact ⟨_, hw, SpellsScalar.yes.spells, by rw [word_eq_ok_iff.mp hword]; rfl⟩
    split at h
    · rename_i hf
      cases hf
      obtain ⟨u, hword, h⟩ := map_eq_ok_iff.mp h
      cases h
      exact ⟨_, hw, SpellsScalar.no.spells, by rw [word_eq_ok_iff.mp hword]; rfl⟩
    split at h
    · rename_i hquote
      cases hquote
      obtain ⟨⟨x, u⟩, hstring, h⟩ := map_eq_ok_iff.mp h
      cases h
      obtain ⟨t, ht, rfl⟩ := stringRest_eq_ok_iff.mp hstring
      exact ⟨_, hw, (SpellsScalar.string ht).spells, rfl⟩
    split at h
    · rename_i hminus
      cases hminus
      obtain ⟨⟨n, u⟩, hnumber, h⟩ := map_eq_ok_iff.mp h
      cases h
      obtain ⟨t, ht, rfl, halone⟩ := exists_of_number hnumber
      exact ⟨_, hw, (SpellsScalar.negative ht halone).spells, rfl⟩
    split at h
    · obtain ⟨⟨n, u⟩, hnumber, h⟩ := map_eq_ok_iff.mp h
      cases h
      obtain ⟨t, ht, hu, halone⟩ := exists_of_number hnumber
      exact ⟨t, hw, (SpellsScalar.number ht halone).spells, by rw [hu]⟩
    split at h
    · rename_i hbracket
      cases hbracket
      cases depth with
      | zero => cases h
      | succ depth =>
          obtain ⟨⟨xs, u⟩, hxs, h⟩ := map_eq_ok_iff.mp h
          cases h
          obtain ⟨t, ht, rfl⟩ := exists_of_elements (hdeeper depth rfl) hxs
          exact ⟨_, hw, Or.inr (.array ht), rfl⟩
    split at h
    · rename_i hbrace
      cases hbrace
      cases depth with
      | zero => cases h
      | succ depth =>
          obtain ⟨⟨members, u⟩, hmembers, h⟩ := map_eq_ok_iff.mp h
          cases h
          obtain ⟨members, t, ht, rfl, rfl⟩ := exists_of_foldMembers
            (f := fun merged name x => insertMember name x merged) (hdeeper depth rfl) (fun _ _ _ => rfl) hmembers
          exact ⟨_, hw, Or.inr (.object ht), rfl⟩
    · cases h

theorem value_digit (hw : IsSpace w) (hc : c.isDigit = true) (u : List Char) :
    value depth (w ++ c :: u) = (number false (c :: u)).map fun (n, s) => (.number n, s) := by
  have hne : ∀ d : Char, d.isDigit = false → c ≠ d := by
    rintro d hd rfl
    rw [hc] at hd
    cases hd
  unfold value
  rw [skipSpace_append_cons hw (not_isSpace_of_isDigit hc)]
  simp only [hne 'n' rfl, hne 't' rfl, hne 'f' rfl, hne '"' rfl, hne '-' rfl, hc, if_false, if_true]

/-- The members of an object are merged one by one as they are read. -/
theorem members_append (hr : Reads (value depth) (Spells depth)) {members : List (String × Value)}
    (h : Items '\x7d' (SpellsMember (Spells depth)) true members t) (rest : List Char) :
    foldMembers (fun merged name s => (memberValue (value depth) s).map fun (x, s) => (insertMember name x merged, s))
      (t ++ rest) true [] (t ++ rest) = .ok (mergeMembers members, rest) := by
  refine foldMembers_append (f := fun merged name x => insertMember name x merged) hr (fun _ _ _ => rfl) h ?_ rest
  rw [List.length_append]
  exact Nat.le_add_right _ _

theorem value_append (hdeeper : ∀ d, depth = d + 1 → Reads (value d) (Spells d)) (hw : IsSpace w)
    (h : Spells depth v t) (hrest : Apart rest) : value depth (w ++ (t ++ rest)) = .ok (v, rest) := by
  have hscalar : SpellsScalar v t → value depth (w ++ (t ++ rest)) = .ok (v, rest) := by
    intro h
    cases h with
    | null =>
        unfold value
        rw [List.cons_append, skipSpace_append_cons hw rfl]
        rfl
    | yes =>
        unfold value
        rw [List.cons_append, skipSpace_append_cons hw rfl]
        rfl
    | no =>
        unfold value
        rw [List.cons_append, skipSpace_append_cons hw rfl]
        rfl
    | @string x t ht =>
        have hstring : stringRest (t ++ rest) = .ok (x, rest) := stringRest_eq_ok_iff.mpr ⟨t, ht, rfl⟩
        unfold value
        rw [List.cons_append, skipSpace_append_cons hw rfl]
        simp [hstring, Except.map]
    | number ht hn =>
        obtain ⟨c, u, rfl, hc⟩ := ht.exists_cons
        rw [List.cons_append, value_digit hw hc, ← List.cons_append, number_append ht hn hrest]
        rfl
    | negative ht hn =>
        have hnumber := number_append ht hn hrest
        unfold value
        rw [List.cons_append, skipSpace_append_cons hw rfl]
        simp [hnumber, Except.map]
  cases depth with
  | zero => exact hscalar h
  | succ depth =>
      rcases h with h | h
      · exact hscalar h
      have hr := hdeeper depth rfl
      cases h with
      | @array items t ht =>
          have hlist : elements (value depth) (t ++ rest) true (t ++ rest) = .ok (items, rest) :=
            elements_append hr ht (by simp) rest
          unfold value
          rw [List.cons_append, skipSpace_append_cons hw rfl]
          simp [hlist, Except.map]
      | @object members t ht =>
          unfold value
          rw [List.cons_append, skipSpace_append_cons hw rfl]
          exact map_eq_ok_iff.mpr ⟨_, members_append hr ht rest, rfl⟩

theorem SpellsScalar.starts (h : SpellsScalar v t) : ∃ c u, t = c :: u ∧ isSpace c = false ∧ c ≠ ']' := by
  cases h with
  | number ht hn =>
      obtain ⟨c, u, rfl, hc⟩ := ht.exists_cons
      refine ⟨c, u, rfl, not_isSpace_of_isDigit hc, ?_⟩
      rintro rfl
      cases hc
  | _ => exact ⟨_, _, rfl, by decide, by decide⟩

theorem Spells.starts (h : Spells depth v t) : ∃ c u, t = c :: u ∧ isSpace c = false ∧ c ≠ ']' := by
  cases depth with
  | zero => exact SpellsScalar.starts h
  | succ depth =>
      rcases h with h | h
      · exact h.starts
      · cases h <;> exact ⟨_, _, rfl, by decide, by decide⟩

/-- Values are read as they are spelled, at any depth. -/
theorem reads_value (depth : Nat) : Reads (value depth) (Spells depth) := by
  induction depth with
  | zero =>
      have hdeeper : ∀ d, 0 = d + 1 → Reads (value d) (Spells d) := fun d hd => by cases hd
      exact ⟨exists_of_value hdeeper, value_append hdeeper, Spells.starts⟩
  | succ depth ih =>
      have hdeeper : ∀ d, depth + 1 = d + 1 → Reads (value d) (Spells d) := by
        rintro d hd
        cases hd
        exact ih
      exact ⟨exists_of_value hdeeper, value_append hdeeper, Spells.starts⟩

/-! ### Texts -/

theorem ending_eq_ok_iff : ending s = .ok () ↔ IsSpace s := by
  rw [← skipSpace_eq_nil_iff]
  unfold ending
  cases skipSpace s <;> simp

theorem apart_of_isSpace (h : IsSpace w) : Apart w := by
  have happart := apart_nil.space_append h
  rwa [List.append_nil] at happart

theorem readWhole_eq_ok_iff {text : String} {x : α} :
    readWhole r text = .ok x ↔ ∃ rest, r text.toList = .ok (x, rest) ∧ IsSpace rest := by
  simp only [readWhole, mapError_eq_ok_iff, bind_eq_ok_iff, ← ending_eq_ok_iff]
  constructor
  · rintro ⟨⟨y, rest⟩, hread, _, hend, h⟩
    cases h
    exact ⟨rest, hread, hend⟩
  · rintro ⟨rest, hread, hend⟩
    exact ⟨(x, rest), hread, (), hend, rfl⟩

/-- A text is read as a value exactly if the grammar writes the value so. -/
theorem read_eq_ok_iff {text : String} : read text = .ok v ↔ Writes text v := by
  rw [read, readWhole_eq_ok_iff]
  constructor
  · rintro ⟨rest, hvalue, hend⟩
    obtain ⟨w, t, hw, ht, htext⟩ := (reads_value depthLimit).sound hvalue
    have hwrites := Writes.text hw ht hend
    rwa [← htext, String.ofList_toList] at hwrites
  · rintro @⟨w, t, w', v, hw, ht, hw'⟩
    rw [String.toList_ofList]
    exact ⟨w', (reads_value depthLimit).complete hw ht (apart_of_isSpace hw'), hw'⟩

/-- No text writes two values. -/
theorem Writes.unique {text : String} {v' : Value} (h : Writes text v) (h' : Writes text v') : v = v' := by
  have hread := read_eq_ok_iff.mpr h
  rw [read_eq_ok_iff.mpr h'] at hread
  exact (Except.ok.inj hread).symm

/-- A text that writes no value is refused, and only such a text. -/
theorem read_eq_error_iff {text : String} : (∃ e, read text = .error e) ↔ ∀ v, ¬Writes text v := by
  simp only [← read_eq_ok_iff]
  cases read text <;> simp

end AlbumBrowser.Json
