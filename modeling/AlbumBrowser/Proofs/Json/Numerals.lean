import AlbumBrowser.Proofs.Json.Grammar

/-!
Numbers are read as far as their grammar goes. A numeral has no closing mark: it is read as it would be by itself
if what comes behind it cannot go on with it. The only reason to refuse one is that it is out of range.

Each reader of a part of a numeral hands over to the next one. Two facts go along from the last one to the
first: a text of the part's shape is decided, whatever comes behind it, and what is taken has that shape.
-/

namespace AlbumBrowser.Json

open Text

variable {s t rest : List Char} {n : Number} {m : Numeral} {negative down seen : Bool} {c : Char}
variable {r r' : Reader Number} {P P' : List Char → Prop}

/-- Nothing that goes on with a numeral. -/
def Apart (rest : List Char) : Prop := ∀ c ∈ rest.head?, c.isDigit = false ∧ c ≠ '.' ∧ c ≠ 'e' ∧ c ≠ 'E'

/-- A reader takes a text that something apart comes behind: as one number, or as one that is out of range. -/
def Decides (r : Reader Number) (t : List Char) : Prop :=
  (∃ n, ∀ rest, Apart rest → r (t ++ rest) = .ok (n, rest)) ∨
    ∀ rest, Apart rest → ∃ k, r (t ++ rest) = .error ⟨.numberOutOfRange, k⟩

/-- What a reader takes from the start of a text has a given shape, and is taken alike by itself. -/
def Takes (r : Reader Number) (P : List Char → Prop) (s : List Char) : Prop :=
  ∀ n rest, r s = .ok (n, rest) → ∃ t, P t ∧ s = t ++ rest ∧ r t = .ok (n, [])

theorem apart_nil : Apart [] := fun _ hc => by cases hc

theorem apart_cons (hc : c.isDigit = false ∧ c ≠ '.' ∧ c ≠ 'e' ∧ c ≠ 'E') (rest : List Char) : Apart (c :: rest) := by
  intro d hd
  cases hd
  exact hc

theorem Apart.ends (h : Apart rest) : Ends rest := fun c hc => (h c hc).1

theorem Decides.congr (h : Decides r' t) {u : List Char} (heq : ∀ rest, Apart rest → r (u ++ rest) = r' (t ++ rest)) :
    Decides r u := by
  refine h.imp ?_ ?_
  · rintro ⟨n, hn⟩
    exact ⟨n, fun rest hrest => (heq rest hrest).trans (hn rest hrest)⟩
  · intro hrange rest hrest
    rw [heq rest hrest]
    exact hrange rest hrest

theorem Takes.of_eq (h : Takes r' P' s) (heq : r s = r' s) (hP : ∀ t, P' t → P t ∧ r t = r' t) : Takes r P s := by
  intro n rest hread
  obtain ⟨t, ht, rfl, halone⟩ := h n rest (heq ▸ hread)
  exact ⟨t, (hP t ht).1, rfl, (hP t ht).2.trans halone⟩

theorem Takes.append {u : List Char} (h : Takes r' P' s) (heq : r (u ++ s) = r' s)
    (hP : ∀ t, P' t → P (u ++ t) ∧ r (u ++ t) = r' t) : Takes r P (u ++ s) := by
  intro n rest hread
  obtain ⟨t, ht, rfl, halone⟩ := h n rest (heq ▸ hread)
  exact ⟨u ++ t, (hP t ht).1, (List.append_assoc u t rest).symm, (hP t ht).2.trans halone⟩

theorem takes_of_error {f : Fault} (h : r s = .error f) : Takes r P s := by
  intro n rest hread
  rw [h] at hread
  cases hread

/-! ### The floating-point number -/

theorem floatBefore_eq (negative : Bool) (m : Numeral) :
    (∃ n, ∀ rest, floatBefore negative m rest = .ok (n, rest)) ∨
      ∀ rest, floatBefore negative m rest = .error (.before .numberOutOfRange rest) := by
  unfold floatBefore
  cases scale m.significand.toUInt64.toFloat m.exponent with
  | none => exact Or.inr fun _ => rfl
  | some x => exact Or.inl ⟨_, fun _ => rfl⟩

theorem decides_of_float (h : ∀ rest, Apart rest → r (t ++ rest) = floatBefore negative m rest) : Decides r t := by
  refine (floatBefore_eq negative m).imp ?_ ?_
  · rintro ⟨n, hn⟩
    exact ⟨n, fun rest hrest => (h rest hrest).trans (hn rest)⟩
  · intro hrange rest hrest
    exact ⟨_, (h rest hrest).trans (hrange rest)⟩

theorem takes_of_float (h : r s = floatBefore negative m s) (hnil : r [] = floatBefore negative m []) (hP : P []) :
    Takes r P s := by
  intro n rest hread
  rw [h] at hread
  rcases floatBefore_eq negative m with ⟨n', hn⟩ | hrange
  · rw [hn] at hread
    cases hread
    exact ⟨[], hP, rfl, hnil.trans (hn [])⟩
  · rw [hrange] at hread
    cases hread

/-! ### Exponents -/

theorem exponentDigits_cons (hc : c.isDigit = true) (exponent : Nat) (s : List Char) :
    exponentDigits negative m down exponent (c :: s) =
      if 10 * exponent + ofDigits [c] < 0x80000000 then
        exponentDigits negative m down (10 * exponent + ofDigits [c]) s
      else if m.significand ≠ 0 ∧ !down then .error (.before .numberOutOfRange s)
      else .ok (.float (if negative then -0.0 else 0.0), s.dropWhile Char.isDigit) := by
  rw [exponentDigits, if_pos hc]

theorem exponentDigits_cons_of_not (hc : ¬c.isDigit = true) (exponent : Nat) (s : List Char) :
    exponentDigits negative m down exponent (c :: s) = floatBefore negative (m.raise down exponent) (c :: s) := by
  rw [exponentDigits, if_neg hc]

theorem decides_exponentDigits (h : IsDigits t) (exponent : Nat) :
    Decides (exponentDigits negative m down exponent) t := by
  induction t generalizing exponent with
  | nil =>
      refine decides_of_float fun rest hrest => (?_ : _ = floatBefore negative (m.raise down exponent) rest)
      cases rest with
      | nil => rfl
      | cons c rest => exact exponentDigits_cons_of_not hrest.ends.not_isDigit exponent rest
  | cons c t ih =>
      obtain ⟨hc, ht⟩ := List.forall_mem_cons.mp h
      by_cases hsum : 10 * exponent + ofDigits [c] < 0x80000000
      · refine (ih ht (10 * exponent + ofDigits [c])).congr fun rest _ => ?_
        rw [List.cons_append, exponentDigits_cons hc, if_pos hsum]
      · by_cases hrange : m.significand ≠ 0 ∧ !down
        · refine Or.inr fun rest _ => ⟨byteCount (t ++ rest), ?_⟩
          rw [List.cons_append, exponentDigits_cons hc, if_neg hsum, if_pos hrange]
          rfl
        · refine Or.inl ⟨.float (if negative then -0.0 else 0.0), fun rest hrest => ?_⟩
          rw [List.cons_append, exponentDigits_cons hc, if_neg hsum, if_neg hrange, dropWhile_run ht hrest.ends]

theorem takes_exponentDigits (s : List Char) (exponent : Nat) :
    Takes (exponentDigits negative m down exponent) IsDigits s := by
  induction s generalizing exponent with
  | nil => exact takes_of_float rfl rfl isDigits_nil
  | cons c s ih =>
      by_cases hc : c.isDigit = true
      · by_cases hsum : 10 * exponent + ofDigits [c] < 0x80000000
        · have hstep : ∀ t, exponentDigits negative m down exponent ([c] ++ t) =
              exponentDigits negative m down (10 * exponent + ofDigits [c]) t := by
            intro t
            rw [List.singleton_append, exponentDigits_cons hc, if_pos hsum]
          exact (ih (10 * exponent + ofDigits [c])).append (hstep s) fun t ht => ⟨ht.cons hc, hstep t⟩
        · by_cases hrange : m.significand ≠ 0 ∧ !down
          · refine takes_of_error (f := .before .numberOutOfRange s) ?_
            rw [exponentDigits_cons hc, if_neg hsum, if_pos hrange]
          · intro n rest hread
            rw [exponentDigits_cons hc, if_neg hsum, if_neg hrange] at hread
            cases hread
            refine ⟨c :: s.takeWhile Char.isDigit, (isDigits_takeWhile s).cons hc, ?_, ?_⟩
            · rw [List.cons_append, List.takeWhile_append_dropWhile]
            · have hall := dropWhile_run (isDigits_takeWhile s) ends_nil
              rw [List.append_nil] at hall
              rw [exponentDigits_cons hc, if_neg hsum, if_neg hrange, hall]
      · exact takes_of_float (exponentDigits_cons_of_not hc exponent s) rfl isDigits_nil

theorem exponentPart_signed {sign : List Char} (hsign : sign = [] ∨ sign = ['+'] ∨ sign = ['-'])
    (hc : c.isDigit = true) (s : List Char) :
    exponentPart negative m (sign ++ c :: s) = exponentDigits negative m (sign = ['-']) (ofDigits [c]) s := by
  have hplus : c ≠ '+' := by
    rintro rfl
    cases hc
  have hminus : c ≠ '-' := by
    rintro rfl
    cases hc
  rcases hsign with rfl | rfl | rfl <;> simp [exponentPart, hplus, hminus, hc]

theorem decides_exponentPart (h : SignedDigits t) : Decides (exponentPart negative m) t := by
  obtain @⟨sign, t, hsign, hne, h⟩ := h
  obtain ⟨c, t, rfl⟩ := List.exists_cons_of_ne_nil hne
  obtain ⟨hc, ht⟩ := List.forall_mem_cons.mp h
  have hdigits : Decides (exponentDigits negative m (sign = ['-']) (ofDigits [c])) t := decides_exponentDigits ht _
  refine hdigits.congr fun rest _ => ?_
  rw [List.append_assoc]
  exact exponentPart_signed hsign hc (t ++ rest)

theorem exists_of_exponentPart (h : exponentPart negative m s = .ok (n, rest)) :
    ∃ sign c u, (sign = [] ∨ sign = ['+'] ∨ sign = ['-']) ∧ c.isDigit = true ∧ s = sign ++ c :: u := by
  unfold exponentPart at h
  split at h
  rename_i heq
  split at h
  · cases h
  · rename_i c u
    split at h
    · rename_i hc
      split at heq
      · cases heq
        exact ⟨['+'], c, u, Or.inr (Or.inl rfl), hc, rfl⟩
      · cases heq
        exact ⟨['-'], c, u, Or.inr (Or.inr rfl), hc, rfl⟩
      · cases heq
        exact ⟨[], c, u, Or.inl rfl, hc, rfl⟩
    · cases h

theorem takes_exponentPart (s : List Char) : Takes (exponentPart negative m) SignedDigits s := by
  intro n rest hread
  obtain ⟨sign, c, u, hsign, hc, rfl⟩ := exists_of_exponentPart hread
  have hstep : ∀ t, exponentPart negative m (sign ++ [c] ++ t) =
      exponentDigits negative m (sign = ['-']) (ofDigits [c]) t := by
    intro t
    rw [List.append_assoc]
    exact exponentPart_signed hsign hc t
  have htakes : Takes (exponentPart negative m) SignedDigits (sign ++ [c] ++ u) := by
    refine (takes_exponentDigits u _).append (hstep u) fun t ht => ⟨?_, hstep t⟩
    rw [List.append_assoc]
    exact .digits hsign (List.cons_ne_nil c t) (ht.cons hc)
  rw [List.append_assoc] at htakes
  exact htakes n rest hread

theorem exponentOrEnd_marked (hc : c = 'e' ∨ c = 'E') (s : List Char) :
    exponentOrEnd negative m (c :: s) = exponentPart negative m s := by
  rw [exponentOrEnd, if_pos hc]

theorem exponentOrEnd_of_not (hs : ∀ c ∈ s.head?, ¬(c = 'e' ∨ c = 'E')) :
    exponentOrEnd negative m s = floatBefore negative m s := by
  cases s with
  | nil => rfl
  | cons c s => rw [exponentOrEnd, if_neg (hs c rfl)]

theorem decides_exponentOrEnd (h : ExponentPart t) : Decides (exponentOrEnd negative m) t := by
  cases h with
  | none =>
      refine decides_of_float fun rest hrest => exponentOrEnd_of_not (fun c hc => ?_)
      obtain ⟨-, -, he, hE⟩ := hrest c hc
      exact not_or.mpr ⟨he, hE⟩
  | marked hc ht => exact (decides_exponentPart ht).congr fun rest _ => exponentOrEnd_marked hc _

theorem takes_exponentOrEnd (s : List Char) : Takes (exponentOrEnd negative m) ExponentPart s := by
  cases s with
  | nil => exact takes_of_float rfl rfl .none
  | cons c s =>
      by_cases hc : c = 'e' ∨ c = 'E'
      · exact (takes_exponentPart s).append (u := [c]) (exponentOrEnd_marked hc s) fun t ht =>
          ⟨.marked hc ht, exponentOrEnd_marked hc t⟩
      · refine takes_of_float (exponentOrEnd_of_not ?_) rfl .none
        intro d hd
        cases hd
        exact hc

/-! ### Fractions -/

/-- An exponent begins with no digit and no point. -/
theorem ExponentPart.stops {e : List Char} (he : ExponentPart e) (hrest : Apart rest) :
    Ends (e ++ rest) ∧ (e ++ rest).head? ≠ some '.' := by
  cases he with
  | none => exact ⟨hrest.ends, fun h => (hrest '.' h).2.1 rfl⟩
  | marked hc => rcases hc with rfl | rfl <;> exact ⟨ends_cons rfl, fun h => by cases h⟩

theorem ExponentPart.stops_alone {e : List Char} (he : ExponentPart e) : Ends e ∧ e.head? ≠ some '.' := by
  have hstops := he.stops apart_nil
  rwa [List.append_nil] at hstops

-- The next two hold by computation: to unfold this definition takes an equation that is slow to derive.
theorem fractionDigits_cons (hc : c.isDigit = true) (s : List Char) :
    fractionDigits negative m seen (c :: s) =
      match addDigit? m.significand c with
      | some significand => fractionDigits negative ⟨significand, m.exponent - 1⟩ true s
      | none => exponentOrEnd negative m (s.dropWhile Char.isDigit) :=
  if_pos hc

theorem fractionDigits_of_ends (hs : Ends s) : fractionDigits negative m true s = exponentOrEnd negative m s := by
  cases s with
  | nil => rfl
  | cons c s => exact (if_neg hs.not_isDigit).trans (if_pos rfl)

/-- Digits behind a point, at least one unless one was seen, and an exponent if there is one. -/
inductive FractionDigits (seen : Bool) : List Char → Prop
  | digits {u e : List Char} (hu : IsDigits u) (hseen : seen = true ∨ u ≠ []) (he : ExponentPart e) :
      FractionDigits seen (u ++ e)

theorem decides_fractionDigits (h : FractionDigits seen t) : Decides (fractionDigits negative m seen) t := by
  obtain @⟨u, e, hu, hseen, he⟩ := h
  induction u generalizing m seen with
  | nil =>
      cases hseen.resolve_right fun hne => hne rfl
      exact (decides_exponentOrEnd he).congr fun rest hrest => fractionDigits_of_ends (he.stops hrest).1
  | cons c u ih =>
      obtain ⟨hc, hu⟩ := List.forall_mem_cons.mp hu
      cases hadd : addDigit? m.significand c with
      | some significand =>
          refine (ih (m := ⟨significand, m.exponent - 1⟩) hu (Or.inl rfl)).congr fun rest _ => ?_
          rw [List.cons_append, List.cons_append, fractionDigits_cons hc, hadd]
      | none =>
          have hend : Decides (exponentOrEnd negative m) e := decides_exponentOrEnd he
          refine hend.congr fun rest hrest => ?_
          rw [List.append_assoc, List.cons_append, fractionDigits_cons hc, hadd]
          simp only [dropWhile_run hu (he.stops hrest).1]

theorem takes_fractionDigits_of_ends (hs : Ends s) : Takes (fractionDigits negative m true) (FractionDigits true) s :=
  (takes_exponentOrEnd s).of_eq (fractionDigits_of_ends hs) fun _ he =>
    ⟨.digits isDigits_nil (Or.inl rfl) he, fractionDigits_of_ends he.stops_alone.1⟩

theorem takes_fractionDigits (s : List Char) : Takes (fractionDigits negative m seen) (FractionDigits seen) s := by
  induction s generalizing m seen with
  | nil =>
      cases seen with
      | true => exact takes_fractionDigits_of_ends ends_nil
      | false => exact takes_of_error rfl
  | cons c s ih =>
      by_cases hc : c.isDigit = true
      · cases hadd : addDigit? m.significand c with
        | some significand =>
            have hstep : ∀ t, fractionDigits negative m seen ([c] ++ t) =
                fractionDigits negative ⟨significand, m.exponent - 1⟩ true t := by
              intro t
              rw [List.singleton_append, fractionDigits_cons hc, hadd]
            refine ih.append (hstep s) ?_
            rintro _ @⟨u, e, hu, -, he⟩
            exact ⟨.digits (u := c :: u) (hu.cons hc) (Or.inr (List.cons_ne_nil c u)) he, hstep _⟩
        | none =>
            intro n rest hread
            rw [fractionDigits_cons hc, hadd] at hread
            obtain ⟨e, he, hs, halone⟩ := takes_exponentOrEnd _ n rest hread
            have hrun := isDigits_takeWhile s
            have hne : c :: s.takeWhile Char.isDigit ≠ [] := List.cons_ne_nil _ _
            refine ⟨c :: s.takeWhile Char.isDigit ++ e, .digits (hrun.cons hc) (Or.inr hne) he, ?_, ?_⟩
            · rw [List.append_assoc, List.cons_append, ← hs, List.takeWhile_append_dropWhile]
            · rw [List.cons_append, fractionDigits_cons hc, hadd]
              simp only [dropWhile_run hrun he.stops_alone.1, halone]
      · cases seen with
        | true => exact takes_fractionDigits_of_ends (ends_cons (Bool.eq_false_iff.mpr hc))
        | false => exact takes_of_error (if_neg hc)

/-! ### Whole parts -/

/-- What may come behind the digits of a whole part. -/
inductive AfterWhole : List Char → Prop
  | parts {f e : List Char} (hf : FractionPart f) (he : ExponentPart e) : AfterWhole (f ++ e)

/-- Digits of a whole part, and what comes behind it. -/
inductive WholeDigits : List Char → Prop
  | parts {u t : List Char} (hu : IsDigits u) (ht : AfterWhole t) : WholeDigits (u ++ t)

theorem AfterWhole.ends_append (h : AfterWhole t) (hrest : Apart rest) : Ends (t ++ rest) := by
  obtain ⟨hf, he⟩ := h
  cases hf with
  | none => exact (he.stops hrest).1
  | digits => exact ends_cons rfl

theorem AfterWhole.ends (h : AfterWhole t) : Ends t := by
  have hends := h.ends_append apart_nil
  rwa [List.append_nil] at hends

theorem FractionDigits.afterWhole (h : FractionDigits false t) : AfterWhole ('.' :: t) := by
  obtain @⟨u, e, hu, hne, he⟩ := h
  exact .parts (f := '.' :: u) (.digits (hne.resolve_left Bool.false_ne_true) hu) he

theorem ExponentPart.afterWhole {e : List Char} (he : ExponentPart e) : AfterWhole e := .parts .none he

/-- A reader that goes on at a point as the digits behind one do, and that takes exponents, takes both together. -/
theorem decides_of_point (hpoint : ∀ s, r ('.' :: s) = fractionDigits negative m false s)
    (hend : ∀ e, ExponentPart e → Decides r e) (h : AfterWhole t) : Decides r t := by
  obtain @⟨f, e, hf, he⟩ := h
  cases hf with
  | none => exact hend e he
  | @digits u hne hu =>
      have hfraction : Decides (fractionDigits negative m false) (u ++ e) :=
        decides_fractionDigits (.digits hu (Or.inr hne) he)
      exact hfraction.congr fun rest _ => hpoint _

theorem takes_of_point (hpoint : ∀ s, r ('.' :: s) = fractionDigits negative m false s)
    (hend : s.head? ≠ some '.' → Takes r ExponentPart s) : Takes r AfterWhole s := by
  by_cases hs : s.head? = some '.'
  · obtain ⟨s, rfl⟩ : ∃ u, s = '.' :: u := List.head?_eq_some_iff.mp hs
    exact (takes_fractionDigits s).append (u := ['.']) (hpoint s) fun t ht => ⟨ht.afterWhole, hpoint t⟩
  · exact (hend hs).of_eq rfl fun t ht => ⟨ht.afterWhole, rfl⟩

theorem overlongDigits_cons (hc : c.isDigit = true) (s : List Char) :
    overlongDigits negative m (c :: s) = overlongDigits negative { m with exponent := m.exponent + 1 } s := by
  rw [overlongDigits, if_pos hc]

theorem overlongDigits_point (s : List Char) :
    overlongDigits negative m ('.' :: s) = fractionDigits negative m false s := by
  rw [overlongDigits]
  rfl

theorem overlongDigits_of_ends (hs : Ends s) (hpoint : s.head? ≠ some '.') :
    overlongDigits negative m s = exponentOrEnd negative m s := by
  cases s with
  | nil => rfl
  | cons c s =>
      have hc : c ≠ '.' := fun h => hpoint (congrArg some h)
      rw [overlongDigits, if_neg hs.not_isDigit, if_neg hc]

theorem decides_overlongDigits (h : WholeDigits t) : Decides (overlongDigits negative m) t := by
  obtain @⟨u, t, hu, ht⟩ := h
  induction u generalizing m with
  | nil =>
      refine decides_of_point overlongDigits_point (fun e he => ?_) ht
      have hend : Decides (exponentOrEnd negative m) e := decides_exponentOrEnd he
      refine hend.congr fun rest hrest => ?_
      obtain ⟨hends, hpoint⟩ := he.stops hrest
      exact overlongDigits_of_ends hends hpoint
  | cons c u ih =>
      obtain ⟨hc, hu⟩ := List.forall_mem_cons.mp hu
      exact (ih hu).congr fun rest _ => overlongDigits_cons hc _

theorem takes_overlongDigits (s : List Char) : Takes (overlongDigits negative m) WholeDigits s := by
  have hstop : ∀ m s, Ends s → Takes (overlongDigits negative m) WholeDigits s := by
    intro m s hs
    have hafter : Takes (overlongDigits negative m) AfterWhole s := by
      refine takes_of_point overlongDigits_point fun hpoint => ?_
      refine (takes_exponentOrEnd s).of_eq (overlongDigits_of_ends hs hpoint) fun e he => ⟨he, ?_⟩
      obtain ⟨hends, hpoint⟩ := he.stops_alone
      exact overlongDigits_of_ends hends hpoint
    exact hafter.of_eq rfl fun t ht => ⟨.parts isDigits_nil ht, rfl⟩
  induction s generalizing m with
  | nil => exact hstop m [] ends_nil
  | cons c s ih =>
      by_cases hc : c.isDigit = true
      · refine ih.append (u := [c]) (overlongDigits_cons hc s) ?_
        rintro _ @⟨u, t, hu, ht⟩
        exact ⟨.parts (u := c :: u) (hu.cons hc) ht, overlongDigits_cons hc _⟩
      · exact hstop m (c :: s) (ends_cons (Bool.eq_false_iff.mpr hc))

theorem afterWhole_point (k : Nat) (s : List Char) :
    afterWhole negative k ('.' :: s) = fractionDigits negative ⟨k, 0⟩ false s := by
  rw [afterWhole, if_pos rfl]

theorem afterWhole_marked (hc : c = 'e' ∨ c = 'E') (k : Nat) (s : List Char) :
    afterWhole negative k (c :: s) = exponentPart negative ⟨k, 0⟩ s := by
  have hpoint : c ≠ '.' := by rcases hc with rfl | rfl <;> decide
  rw [afterWhole, if_neg hpoint, if_pos hc]

theorem afterWhole_of_not (hs : ∀ c ∈ s.head?, c ≠ '.' ∧ ¬(c = 'e' ∨ c = 'E')) (k : Nat) :
    afterWhole negative k s = .ok (wholeOrFloat negative k, s) := by
  cases s with
  | nil => rfl
  | cons c s =>
      obtain ⟨hpoint, hmark⟩ := hs c rfl
      rw [afterWhole, if_neg hpoint, if_neg hmark]

theorem decides_afterWhole (h : AfterWhole t) (k : Nat) : Decides (afterWhole negative k) t := by
  refine decides_of_point (afterWhole_point k) (fun e he => ?_) h
  cases he with
  | none =>
      refine Or.inl ⟨wholeOrFloat negative k, fun rest hrest => afterWhole_of_not (fun c hc => ?_) k⟩
      obtain ⟨-, hpoint, he, hE⟩ := hrest c hc
      exact ⟨hpoint, not_or.mpr ⟨he, hE⟩⟩
  | marked hc ht => exact (decides_exponentPart ht).congr fun rest _ => afterWhole_marked hc k _

theorem takes_afterWhole (s : List Char) (k : Nat) : Takes (afterWhole negative k) AfterWhole s := by
  refine takes_of_point (afterWhole_point k) fun hpoint => ?_
  cases s with
  | nil =>
      intro n rest hread
      cases hread
      exact ⟨[], .none, rfl, rfl⟩
  | cons c s =>
      by_cases hc : c = 'e' ∨ c = 'E'
      · exact (takes_exponentPart s).append (u := [c]) (afterWhole_marked hc k s) fun t ht =>
          ⟨.marked hc ht, afterWhole_marked hc k t⟩
      · intro n rest hread
        rw [afterWhole_of_not] at hread
        · cases hread
          exact ⟨[], .none, rfl, rfl⟩
        · intro d hd
          cases hd
          exact ⟨fun h => hpoint (congrArg some h), hc⟩

theorem wholeDigits_cons (hc : c.isDigit = true) (k : Nat) (s : List Char) :
    wholeDigits negative k (c :: s) =
      match addDigit? k c with
      | some sum => wholeDigits negative sum s
      | none => overlongDigits negative ⟨k, 1⟩ s :=
  if_pos hc

theorem wholeDigits_of_ends (hs : Ends s) (k : Nat) : wholeDigits negative k s = afterWhole negative k s := by
  cases s with
  | nil => rfl
  | cons c s => exact if_neg hs.not_isDigit

theorem decides_wholeDigits (h : WholeDigits t) (k : Nat) : Decides (wholeDigits negative k) t := by
  obtain @⟨u, t, hu, ht⟩ := h
  induction u generalizing k with
  | nil => exact (decides_afterWhole ht k).congr fun rest hrest => wholeDigits_of_ends (ht.ends_append hrest) k
  | cons c u ih =>
      obtain ⟨hc, hu⟩ := List.forall_mem_cons.mp hu
      cases hadd : addDigit? k c with
      | some sum =>
          refine (ih sum hu).congr fun rest _ => ?_
          rw [List.cons_append, List.cons_append, wholeDigits_cons hc, hadd]
      | none =>
          have hmore : Decides (overlongDigits negative ⟨k, 1⟩) (u ++ t) := decides_overlongDigits (.parts hu ht)
          refine hmore.congr fun rest _ => ?_
          rw [List.cons_append, List.cons_append, wholeDigits_cons hc, hadd]

theorem takes_wholeDigits (s : List Char) (k : Nat) : Takes (wholeDigits negative k) WholeDigits s := by
  have hstop : ∀ k s, Ends s → Takes (wholeDigits negative k) WholeDigits s := by
    intro k s hs
    exact (takes_afterWhole s k).of_eq (wholeDigits_of_ends hs k) fun t ht =>
      ⟨.parts isDigits_nil ht, wholeDigits_of_ends ht.ends k⟩
  induction s generalizing k with
  | nil => exact hstop k [] ends_nil
  | cons c s ih =>
      by_cases hc : c.isDigit = true
      · have hshape : ∀ t, WholeDigits t → WholeDigits (c :: t) := by
          rintro _ @⟨u, t, hu, ht⟩
          exact .parts (u := c :: u) (hu.cons hc) ht
        cases hadd : addDigit? k c with
        | some sum =>
            have hstep : ∀ t, wholeDigits negative k ([c] ++ t) = wholeDigits negative sum t := by
              intro t
              rw [List.singleton_append, wholeDigits_cons hc, hadd]
            exact (ih sum).append (hstep s) fun t ht => ⟨hshape t ht, hstep t⟩
        | none =>
            have hstep : ∀ t, wholeDigits negative k ([c] ++ t) = overlongDigits negative ⟨k, 1⟩ t := by
              intro t
              rw [List.singleton_append, wholeDigits_cons hc, hadd]
            exact (takes_overlongDigits s).append (hstep s) fun t ht => ⟨hshape t ht, hstep t⟩
      · exact hstop k (c :: s) (ends_cons (Bool.eq_false_iff.mpr hc))

/-! ### Numerals -/

theorem number_zero (hs : Ends s) : number negative ('0' :: s) = afterWhole negative 0 s := by
  cases s with
  | nil => rfl
  | cons c s => exact if_neg hs.not_isDigit

theorem number_digit (hzero : c ≠ '0') (hc : c.isDigit = true) (s : List Char) :
    number negative (c :: s) = wholeDigits negative (ofDigits [c]) s :=
  (if_neg hzero).trans (if_pos hc)

theorem decides_number (h : IsNumeral t) : Decides (number negative) t := by
  obtain @⟨w, f, e, hw, hf, he⟩ := h
  have hafter : AfterWhole (f ++ e) := .parts hf he
  cases hw with
  | zero => exact (decides_afterWhole hafter 0).congr fun rest hrest => number_zero (hafter.ends_append hrest)
  | @digits c w hzero hdigits =>
      obtain ⟨hc, hw⟩ := List.forall_mem_cons.mp hdigits
      exact (decides_wholeDigits (.parts hw hafter) _).congr fun rest _ => number_digit hzero hc _

theorem takes_number (s : List Char) : Takes (number negative) IsNumeral s := by
  cases s with
  | nil => exact takes_of_error rfl
  | cons c s =>
      by_cases hzero : c = '0'
      · cases hzero
        by_cases hs : Ends s
        · refine (takes_afterWhole s 0).append (u := ['0']) (number_zero hs) ?_
          rintro _ @⟨f, e, hf, he⟩
          exact ⟨.parts .zero hf he, number_zero (AfterWhole.parts hf he).ends⟩
        · cases s with
          | nil => exact absurd ends_nil hs
          | cons d s =>
              by_cases hd : d.isDigit = true
              · exact takes_of_error (f := .at .invalidNumber (d :: s)) (if_pos hd)
              · exact absurd (ends_cons (Bool.eq_false_iff.mpr hd)) hs
      · by_cases hc : c.isDigit = true
        · refine (takes_wholeDigits s _).append (u := [c]) (number_digit hzero hc s) ?_
          rintro _ @⟨u, _, hu, @⟨f, e, hf, he⟩⟩
          exact ⟨.parts (w := c :: u) (.digits hzero (hu.cons hc)) hf he, number_digit hzero hc _⟩
        · exact takes_of_error (f := .at .invalidNumber (c :: s)) ((if_neg hzero).trans (if_neg hc))

/-- A number is read from a numeral, and as the numeral is read by itself. -/
theorem exists_of_number (h : number negative s = .ok (n, rest)) :
    ∃ t, IsNumeral t ∧ s = t ++ rest ∧ number negative t = .ok (n, []) := takes_number s n rest h

theorem number_append (h : IsNumeral t) (hn : number negative t = .ok (n, [])) (hrest : Apart rest) :
    number negative (t ++ rest) = .ok (n, rest) := by
  have htakes : Decides (number negative) t := decides_number h
  rcases htakes with ⟨n', htaken⟩ | hrange
  · have halone := htaken [] apart_nil
    rw [List.append_nil, hn] at halone
    cases halone
    exact htaken rest hrest
  · obtain ⟨k, herror⟩ := hrange [] apart_nil
    rw [List.append_nil, hn] at herror
    cases herror

end AlbumBrowser.Json
