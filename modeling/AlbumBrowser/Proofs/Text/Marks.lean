import AlbumBrowser.Text.Segment
import Mathlib.Data.List.Infix

/-!
Where a mark occurs first. A text is cut at the first occurrence of a mark, and nothing before that place is looked at
again: it is enough that the mark does not occur in what comes before, even with all of the mark but its last character
behind it. In a text of several lines a mark that fits in a line can only occur in one of them.
-/

namespace AlbumBrowser.Text

variable {mark s t : List Char}

/-- What stands before and behind the first occurrence of a mark, if it occurs. -/
def cutAt? (mark : List Char) : List Char → Option (List Char × List Char)
  | [] => (behind? mark []).map fun after => ([], after)
  | c :: rest =>
    match behind? mark (c :: rest) with
    | some after => some ([], after)
    | none => (cutAt? mark rest).map fun (before, after) => (c :: before, after)

theorem cutAt?_of_not_infix (hne : mark ≠ []) (h : ¬ mark <:+: s ++ mark.dropLast) (rest : List Char) :
    cutAt? mark (s ++ mark ++ rest) = some (s, rest) := by
  induction s with
  | nil =>
      obtain ⟨c, tail, rfl⟩ := List.exists_cons_of_ne_nil hne
      have hbehind : behind? (c :: tail) (c :: (tail ++ rest)) = some rest := behind?_eq_some_iff.mpr rfl
      rw [List.nil_append, List.cons_append, cutAt?, hbehind]
  | cons c s ih =>
      have hbehind : behind? mark (c :: (s ++ mark ++ rest)) = none := by
        rw [← Option.not_isSome_iff_eq_none, Option.isSome_iff_exists]
        rintro ⟨after, hafter⟩
        -- A mark at this place would end before the last character of the one behind `s`.
        have hstart : mark <+: c :: (s ++ mark ++ rest) := ⟨after, (behind?_eq_some_iff.mp hafter).symm⟩
        have hlong : c :: s ++ mark.dropLast <+: c :: (s ++ mark ++ rest) := by
          rw [List.cons_append, List.prefix_cons_inj, List.append_assoc, List.prefix_append_right_inj]
          exact (List.dropLast_prefix mark).trans (List.prefix_append mark rest)
        refine h (List.prefix_of_prefix_length_le hstart hlong ?_).isInfix
        simp only [List.cons_append, List.length_cons, List.length_append, List.length_dropLast]
        omega
      have hrest := ih fun hwithin => h (hwithin.trans (List.suffix_cons c _).isInfix)
      rw [List.cons_append, List.cons_append, cutAt?, hbehind, hrest]
      rfl

/-- A mark does not reach over a character that it does not have. -/
theorem infix_append_cons_of_notMem {c : Char} (hc : c ∉ mark) (h : mark <:+: s ++ c :: t) :
    mark <:+: s ∨ mark <:+: t := by
  obtain ⟨before, after, heq⟩ := h
  rcases List.append_eq_append_iff.mp heq with ⟨as, rfl, -⟩ | ⟨bs, hsplit, hrest⟩
  · exact Or.inl ⟨before, as, rfl⟩
  · rcases List.append_eq_append_iff.mp hsplit with ⟨cs, rfl, rfl⟩ | ⟨cs, rfl, rfl⟩
    · cases bs with
      | nil => exact Or.inl ⟨before, [], by simp⟩
      | cons b bs =>
          obtain ⟨rfl, -⟩ := List.cons.inj hrest
          exact absurd (List.mem_append_right cs List.mem_cons_self) hc
    · cases cs with
      | nil =>
          obtain _ | ⟨b, mark⟩ := mark
          · exact Or.inl (List.nil_infix)
          · obtain ⟨rfl, -⟩ := List.cons.inj hrest
            exact absurd List.mem_cons_self hc
      | cons b cs =>
          obtain ⟨-, rfl⟩ := List.cons.inj hrest
          exact Or.inr ⟨cs, after, rfl⟩

/-! ### Lines -/

theorem exists_infix_of_infix_intercalate {c : Char} {lines : List (List Char)} (hne : mark ≠ []) (hc : c ∉ mark)
    (h : mark <:+: [c].intercalate lines) : ∃ line ∈ lines, mark <:+: line := by
  induction lines with
  | nil => exact absurd (List.eq_nil_of_infix_nil h) hne
  | cons line lines ih =>
      cases lines with
      | nil =>
          rw [List.intercalate_singleton] at h
          exact ⟨line, List.mem_cons_self, h⟩
      | cons next lines =>
          rw [List.intercalate_cons_cons, List.append_assoc, List.singleton_append] at h
          rcases infix_append_cons_of_notMem hc h with hline | hrest
          · exact ⟨line, List.mem_cons_self, hline⟩
          · obtain ⟨other, hother, hwithin⟩ := ih hrest
            exact ⟨other, List.mem_cons_of_mem line hother, hwithin⟩

/-- What ends the last line ends the text. -/
theorem intercalate_concat_append (separator : List Char) (lines : List (List Char)) (s t : List Char) :
    separator.intercalate (lines ++ [s ++ t]) = separator.intercalate (lines ++ [s]) ++ t := by
  induction lines with
  | nil => simp
  | cons line lines ih =>
      cases lines with
      | nil => simp [List.intercalate_cons_cons]
      | cons next lines =>
          have hcons : ∀ last, separator.intercalate (line :: next :: lines ++ [last]) =
              line ++ separator ++ separator.intercalate (next :: lines ++ [last]) := fun last =>
            List.intercalate_cons_cons
          rw [hcons, hcons, ih, List.append_assoc (line ++ separator)]

/-- What begins the first line begins the text. -/
theorem prefix_intercalate_cons (separator line : List Char) (lines : List (List Char)) :
    line <+: separator.intercalate (line :: lines) := by
  cases lines with
  | nil => rw [List.intercalate_singleton]
  | cons next lines =>
      rw [List.intercalate_cons_cons, List.append_assoc]
      exact List.prefix_append line _

end AlbumBrowser.Text
