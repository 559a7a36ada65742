import AlbumBrowser.Label
import AlbumBrowser.Proofs.Unicode.UpperCase
import Mathlib.Data.List.SplitBy

/-!
The labels of keys. A text is scanned with one flag, whether the character before is of a word, and the upper case of a
character is written where a word begins. What is written there is of words again, so the flag behind it is what it would
have been, and its first character is its own upper case: a second scan goes through the same states and changes nothing.
-/

namespace AlbumBrowser.Label

open Unicode

variable {inWord : Bool} {c : Char} {s run : List Char} {runs : List (List Char)}

/-- Whether both characters or neither are of words. -/
def sameKind (c d : Char) : Bool := isWordCharacter c == isWordCharacter d

/-- A text cut into its longest pieces of characters of words and of other characters. -/
def runsOf (s : List Char) : List (List Char) := s.splitBy sameKind

/-- A piece with the upper case of its first character if that is of a word. -/
def capitalizeRun : List Char → List Char
  | [] => []
  | c :: rest => (if isWordCharacter c then upperChar c else [c]) ++ rest

/-! ### The scan of a piece -/

theorem capitalize_append_of_forall (h : ∀ c ∈ s, isWordCharacter c = inWord) (t : List Char) :
    capitalize inWord (s ++ t) = s ++ capitalize inWord t := by
  induction s with
  | nil => rfl
  | cons c s ih =>
      obtain ⟨hc, hs⟩ := List.forall_mem_cons.mp h
      rw [List.cons_append, capitalize, hc, Bool.and_not_self, if_neg Bool.false_ne_true, ih hs]
      rfl

theorem capitalize_run_append (h : ∀ d ∈ s, isWordCharacter d = isWordCharacter c) (t : List Char) :
    capitalize false (c :: s ++ t) = capitalizeRun (c :: s) ++ capitalize (isWordCharacter c) t := by
  rw [List.cons_append, capitalize, Bool.not_false, Bool.and_true, capitalize_append_of_forall h, capitalizeRun,
    List.append_assoc]

/-- The flag makes no difference where the text goes on with a character of the other kind. -/
theorem capitalize_of_head (h : ∀ c ∈ s.head?, isWordCharacter c = !inWord) :
    capitalize inWord s = capitalize false s := by
  cases s with
  | nil => rfl
  | cons c s =>
      rw [capitalize, capitalize, h c rfl]
      cases inWord <;> rfl

/-! ### The pieces of a text -/

theorem isWordCharacter_of_isChain (h : (c :: s).IsChain fun c d => sameKind c d = true) :
    ∀ d ∈ c :: s, isWordCharacter d = isWordCharacter c := by
  induction s generalizing c with
  | nil => simp
  | cons e s ih =>
      obtain ⟨hfirst, hrest⟩ := List.isChain_cons_cons.mp h
      have hkind : isWordCharacter c = isWordCharacter e := beq_iff_eq.mp hfirst
      rw [List.forall_mem_cons, hkind]
      exact ⟨rfl, ih hrest⟩

/-- What a scan does to pieces of one kind each, next to pieces of the other kind. -/
theorem capitalize_flatten (hne : [] ∉ runs) (hsame : ∀ run ∈ runs, run.IsChain fun c d => sameKind c d = true)
    (hapart : runs.IsChain fun run next => ∃ hrun hnext, sameKind (run.getLast hrun) (next.head hnext) = false) :
    capitalize false runs.flatten = runs.flatMap capitalizeRun := by
  induction runs with
  | nil => rfl
  | cons run runs ih =>
      obtain ⟨hsameRun, hsameRuns⟩ := List.forall_mem_cons.mp hsame
      cases run with
      | nil => exact absurd List.mem_cons_self hne
      | cons c s =>
          have hrest := ih (fun hmem => hne (List.mem_cons_of_mem _ hmem)) hsameRuns hapart.tail
          have hkind := isWordCharacter_of_isChain hsameRun
          have hother : ∀ d ∈ runs.flatten.head?, isWordCharacter d = !isWordCharacter c := by
            cases runs with
            | nil => simp
            | cons next runs =>
                obtain ⟨⟨hrun, hnext, hkinds⟩, -⟩ := List.isChain_cons_cons.mp hapart
                obtain ⟨d, u, rfl⟩ := List.exists_cons_of_ne_nil hnext
                rw [sameKind, hkind _ (List.getLast_mem hrun), List.head_cons, beq_eq_false_iff_ne] at hkinds
                intro e he
                obtain rfl : d = e := Option.some.inj he
                exact Bool.eq_not.mpr hkinds.symm
          rw [List.flatten_cons, List.flatMap_cons, capitalize_run_append (List.forall_mem_cons.mp hkind).2,
            capitalize_of_head hother, hrest]

theorem capitalize_eq_flatMap (s : List Char) : capitalize false s = (runsOf s).flatMap capitalizeRun := by
  have hruns := capitalize_flatten (List.nil_notMem_splitBy sameKind s)
    (fun run hrun => List.isChain_of_mem_splitBy hrun) (List.isChain_getLast_head_splitBy sameKind s)
  rwa [List.flatten_splitBy] at hruns

/-! ### A second scan -/

/-- A scan changes nothing in what a scan from the same state has written. -/
theorem capitalize_capitalize (inWord : Bool) (s : List Char) :
    capitalize inWord (capitalize inWord s) = capitalize inWord s := by
  induction s generalizing inWord with
  | nil => rfl
  | cons c s ih =>
      by_cases hstart : (isWordCharacter c && !inWord) = true
      · -- A word begins. All that is written for its first character is in the word.
        obtain ⟨hword, hfresh⟩ := Bool.and_eq_true_iff.mp hstart
        obtain ⟨first, rest, hupper, hself, hall⟩ := exists_upperChar hword
        obtain ⟨⟨hfirst, -⟩, hrest⟩ := List.forall_mem_cons.mp hall
        rw [capitalize, if_pos hstart, hupper, hword, List.cons_append, capitalize, hfirst, hfresh, Bool.and_self,
          if_pos rfl, hself, capitalize_append_of_forall fun d hd => (hrest d hd).1, ih]
        rfl
      · rw [capitalize, if_neg hstart, List.singleton_append, capitalize, if_neg hstart, ih]
        rfl

theorem underscore_notMem_spaced (key : List Char) : '_' ∉ spaced key := by
  rw [spaced, List.mem_map]
  rintro ⟨c, -, hc⟩
  split at hc
  · cases hc
  · contradiction

theorem spaced_of_notMem (h : '_' ∉ s) : spaced s = s := by
  have hself : s.map (fun c => if c = '_' then ' ' else c) = s.map id :=
    List.map_congr_left fun c hc => if_neg (ne_of_mem_of_not_mem hc h)
  rw [spaced, hself, List.map_id]

theorem underscore_notMem_capitalize (h : '_' ∉ s) (inWord : Bool) : '_' ∉ capitalize inWord s := by
  induction s generalizing inWord with
  | nil => exact h
  | cons c s ih =>
      obtain ⟨hc, hs⟩ := List.ne_and_not_mem_of_not_mem_cons h
      rw [capitalize, List.mem_append, not_or]
      refine ⟨?_, ih hs (isWordCharacter c)⟩
      by_cases hstart : (isWordCharacter c && !inWord) = true
      · obtain ⟨first, rest, hupper, -, hall⟩ := exists_upperChar (Bool.and_eq_true_iff.mp hstart).1
        rw [if_pos hstart, hupper]
        exact fun hmem => hc ((hall '_' hmem).2 rfl).symm
      · rw [if_neg hstart]
        exact fun hmem => hc (List.mem_singleton.mp hmem)

/-- The label of a key is the key with spaces for its underscores, in which the first character of each longest piece of
characters of words is in upper case, and no other character is changed; it has no underscore, and is its own label. -/
theorem ofKey_capitalizes (key : String) :
    (ofKey key).toList = (runsOf (spaced key.toList)).flatMap capitalizeRun ∧
      '_' ∉ (ofKey key).toList ∧ ofKey (ofKey key) = ofKey key := by
  have hlabel : (ofKey key).toList = capitalize false (spaced key.toList) := String.toList_ofList
  have hnone : '_' ∉ (ofKey key).toList :=
    hlabel ▸ underscore_notMem_capitalize (underscore_notMem_spaced key.toList) false
  refine ⟨hlabel.trans (capitalize_eq_flatMap _), hnone, ?_⟩
  calc ofKey (ofKey key) = String.ofList (capitalize false (ofKey key).toList) := by
        rw [ofKey, spaced_of_notMem hnone]
    _ = String.ofList (capitalize false (spaced key.toList)) := by rw [hlabel, capitalize_capitalize]

example : ofKey "ropa_principal" = "Ropa Principal" := by decide +kernel

end AlbumBrowser.Label
