import AlbumBrowser.Proofs.Text.Marks
import AlbumBrowser.Web.Page

/-!
The name of a source in the page. Its characters with a meaning in HTML are replaced one after the other, each in all of
the text. The ampersand, with which the others are written, goes first, and no replacement touches what an earlier
one has written; so each character is replaced by itself, and the name can be read back. Without an angle bracket the
name cannot end the element that it stands in, and the page has no such element before it.
-/

namespace AlbumBrowser.Web.Page

open Text

variable {c : Char} {s rest left right : List Char}

/-! ### Escaping -/

/-- How a character is written in the text of a page. -/
def escapeChar (c : Char) : List Char :=
  if c = '&' then "&amp;".toList
  else if c = '<' then "&lt;".toList
  else if c = '>' then "&gt;".toList
  else if c = '"' then "&quot;".toList
  else [c]

/-- A text with the references of a page read back, in one pass from the left. -/
def unescape : List Char → List Char
  | '&' :: 'a' :: 'm' :: 'p' :: ';' :: rest => '&' :: unescape rest
  | '&' :: 'l' :: 't' :: ';' :: rest => '<' :: unescape rest
  | '&' :: 'g' :: 't' :: ';' :: rest => '>' :: unescape rest
  | '&' :: 'q' :: 'u' :: 'o' :: 't' :: ';' :: rest => '"' :: unescape rest
  | c :: rest => c :: unescape rest
  | [] => []

/-- A character is one of the four that are replaced, or is written as it is. -/
theorem escapeChar_cases (c : Char) :
    ⟨c, escapeChar c⟩ ∈ references ∨ escapeChar c = [c] ∧ ∀ r ∈ references, c ≠ r.char := by
  by_cases hc : c ∈ references.map (·.char)
  · have hwritten : ∀ d ∈ references.map (·.char), ⟨d, escapeChar d⟩ ∈ references := by
      simp [references, escapeChar]
    exact Or.inl (hwritten c hc)
  · have hne : ∀ r ∈ references, c ≠ r.char := by
      rintro r hr rfl
      exact hc (List.mem_map_of_mem hr)
    refine Or.inr ⟨?_, hne⟩
    simp only [references, List.forall_mem_cons, ne_eq] at hne
    simp [escapeChar, hne]

/-- Replacements in a text are replacements in the texts that it is made of. -/
theorem foldl_replaceIn_flatMap (table : List Reference) (f : Char → List Char) (s : List Char) :
    table.foldl (fun text r => r.replaceIn text) (s.flatMap f) =
      s.flatMap fun c => table.foldl (fun text r => r.replaceIn text) (f c) := by
  induction table generalizing f with
  | nil => rfl
  | cons r table ih => rw [List.foldl_cons, Reference.replaceIn, List.flatMap_assoc, ih]; rfl

theorem foldl_replaceIn_of_ne {table : List Reference} (h : ∀ r ∈ table, c ≠ r.char) :
    table.foldl (fun text r => r.replaceIn text) [c] = [c] := by
  induction table with
  | nil => rfl
  | cons r table ih =>
      obtain ⟨hfirst, hrest⟩ := List.forall_mem_cons.mp h
      rw [List.foldl_cons, Reference.replaceIn, List.flatMap_singleton, if_neg hfirst, ih hrest]

theorem foldl_replaceIn_singleton (c : Char) :
    references.foldl (fun text r => r.replaceIn text) [c] = escapeChar c := by
  rcases escapeChar_cases c with hc | ⟨hself, hne⟩
  · -- What is written for one of the four is not touched by the later replacements.
    have hwritten : ∀ r ∈ references, references.foldl (fun text r => r.replaceIn text) [r.char] = r.written := by decide
    exact hwritten _ hc
  · rw [hself, foldl_replaceIn_of_ne hne]

/-- The replacements that are made one after the other come to one for each character. -/
theorem toList_escape (source : String) : (escape source).toList = source.toList.flatMap escapeChar := by
  have hall := foldl_replaceIn_flatMap references (fun c => [c]) source.toList
  simp only [foldl_replaceIn_singleton, List.flatMap_singleton'] at hall
  rw [escape, String.toList_ofList, hall]

/-! ### Reading back -/

theorem unescape_cons_of_ne (h : c ≠ '&') (rest : List Char) : unescape (c :: rest) = c :: unescape rest := by
  rw [unescape]
  all_goals
    rintro _ rfl
    exact absurd rfl h

theorem unescape_escapeChar (c : Char) (rest : List Char) : unescape (escapeChar c ++ rest) = c :: unescape rest := by
  rcases escapeChar_cases c with hc | ⟨hself, hne⟩
  · have hread : ∀ r ∈ references, unescape (r.written ++ rest) = r.char :: unescape rest := by
      simp [references, unescape]
    exact hread _ hc
  · have hampersand : c ≠ '&' := hne ⟨'&', "&amp;".toList⟩ List.mem_cons_self
    rw [hself, List.singleton_append, unescape_cons_of_ne hampersand]

theorem unescape_flatMap_escapeChar (s : List Char) : unescape (s.flatMap escapeChar) = s := by
  induction s with
  | nil => rfl
  | cons c s ih => rw [List.flatMap_cons, unescape_escapeChar, ih]

theorem unescape_escape (source : String) : unescape (escape source).toList = source.toList := by
  rw [toList_escape, unescape_flatMap_escapeChar]

/-! ### What is written -/

/-- Of the four characters only the ampersand is written, in front of a name that has none. -/
theorem references_written : ∀ r ∈ references, ∃ name, r.written = '&' :: name ∧ '&' ∉ name ∧
    ∀ d ∈ ['<', '>', '"'], d ∉ r.written := by
  simp [references]

theorem notMem_escape {d : Char} (hd : d ∈ ['<', '>', '"']) (source : String) : d ∉ (escape source).toList := by
  rw [toList_escape, List.mem_flatMap]
  rintro ⟨c, -, hmem⟩
  rcases escapeChar_cases c with hc | ⟨hself, hne⟩
  · obtain ⟨-, -, -, hnone⟩ := references_written _ hc
    exact hnone d hd hmem
  · rw [hself, List.mem_singleton] at hmem
    have hreplaced : ∀ d ∈ ['<', '>', '"'], ∃ r ∈ references, d = r.char := by simp [references]
    obtain ⟨r, hr, hchar⟩ := hreplaced d hd
    exact hne r hr (hmem.symm.trans hchar)

/-- Every ampersand that is written for a character begins what is written for it, and that is a reference. -/
theorem exists_reference_of_ampersand (h : s.flatMap escapeChar = left ++ '&' :: right) :
    ∃ r ∈ references, r.written <+: '&' :: right := by
  induction s generalizing left with
  | nil => exact absurd h.symm (List.append_ne_nil_of_right_ne_nil left (List.cons_ne_nil _ _))
  | cons c s ih =>
      rw [List.flatMap_cons] at h
      rcases List.append_eq_append_iff.mp h with ⟨between, -, hrest⟩ | ⟨between, hhere, hrest⟩
      · exact ih hrest
      · cases between with
        | nil => exact @ih [] hrest.symm
        | cons d between =>
            obtain ⟨rfl, rfl⟩ := List.cons.inj hrest
            rcases escapeChar_cases c with hc | ⟨hself, hne⟩
            · obtain ⟨name, hname, hnone, -⟩ := references_written _ hc
              cases left with
              | nil => exact ⟨_, hc, hhere ▸ List.prefix_append ('&' :: between) _⟩
              | cons e left =>
                  -- The name behind the first ampersand has no second one.
                  obtain ⟨-, rfl⟩ := List.cons.inj (hname.symm.trans hhere)
                  exact absurd (List.mem_append_right left List.mem_cons_self) hnone
            · have hchar : '&' ∈ [c] := hself ▸ hhere ▸ List.mem_append_right left List.mem_cons_self
              exact absurd (List.mem_singleton.mp hchar).symm (hne ⟨'&', "&amp;".toList⟩ List.mem_cons_self)

/-! ### The place of the source -/

/-- The tag that opens the element with the name of the source. -/
def opensSource : List Char := "<div class=\"source\">".toList

/-- The tag that closes an element of that kind. -/
def closesElement : List Char := "</div>".toList

/-- What a page has between the first tag that opens the element of the source and the next that closes an element. -/
def sourceSlot (page : String) : Option String :=
  (cutAt? opensSource page.toList).bind fun element =>
    (cutAt? closesElement element.2).map fun content => String.ofList content.1

/-- The page up to the tag that opens the element of the source. -/
def beforeTag : List Char :=
  ['\n'].intercalate ((opening ++ style ++ header).map String.toList ++ ["    ".toList])

theorem toList_before : before.toList = beforeTag ++ opensSource := by
  have hline : "    <div class=\"source\">".toList = "    ".toList ++ opensSource := rfl
  rw [before, String.toList_intercalate, List.map_append, List.map_singleton, hline]
  exact intercalate_concat_append ['\n'] _ "    ".toList opensSource

theorem exists_toList_after : ∃ rest, after.toList = closesElement ++ rest := by
  obtain ⟨rest, hrest⟩ := prefix_intercalate_cons ['\n'] closesElement ((body ++ script ++ closing).map String.toList)
  refine ⟨rest, ?_⟩
  rw [hrest, after, String.toList_intercalate, List.append_assoc, List.append_assoc, List.singleton_append,
    List.map_cons, ← List.append_assoc]
  rfl

theorem not_infix_ofList {line : String} {l : List Char} (hline : line = String.ofList l)
    (h : occursIn opensSource l = false) : ¬ opensSource <:+: line.toList := by
  rw [hline, String.toList_ofList, ← occursIn_iff, h]
  exact Bool.false_ne_true

set_option maxRecDepth 4000 in
/-- No line before the one with the source has the tag. -/
theorem not_infix_line : ∀ line ∈ opening ++ style ++ header, ¬ opensSource <:+: line.toList := by
  simp only [style, opening, header, List.cons_append, List.nil_append, List.forall_mem_cons]
  repeat' apply And.intro
  all_goals first
    | exact not_infix_ofList rfl (by decide)
    | simp

theorem not_infix_beforeTag : ¬ opensSource <:+: beforeTag ++ opensSource.dropLast := by
  intro h
  rw [beforeTag, ← intercalate_concat_append] at h
  obtain ⟨line, hline, hwithin⟩ := exists_infix_of_infix_intercalate (by decide) (by decide) h
  rcases List.mem_append.mp hline with hmap | hlast
  · obtain ⟨text, htext, rfl⟩ := List.mem_map.mp hmap
    exact not_infix_line text htext hwithin
  · rw [List.mem_singleton.mp hlast] at hwithin
    exact absurd hwithin (by rw [← occursIn_iff]; decide)

/-- The name of a source stands between two tags, and there is no such place before it. -/
theorem sourceSlot_render (source : String) : sourceSlot (render source) = some (escape source) := by
  obtain ⟨rest, hafter⟩ := exists_toList_after
  have hpage : (render source).toList =
      beforeTag ++ opensSource ++ ((escape source).toList ++ closesElement ++ rest) := by
    simp only [render, String.toList_append, toList_before, hafter, List.append_assoc]
  have hslot : ¬ closesElement <:+: (escape source).toList ++ closesElement.dropLast := by
    intro hwithin
    rcases List.mem_append.mp (hwithin.subset (show '>' ∈ closesElement by decide)) with hname | htag
    · exact notMem_escape (by decide) source hname
    · exact absurd htag (by decide)
  rw [sourceSlot, hpage, cutAt?_of_not_infix (by decide) not_infix_beforeTag, Option.bind_some,
    cutAt?_of_not_infix (by decide) hslot, Option.map_some, String.ofList_toList]

/-- The name of a source cannot alter the page. What is written for it between two fixed texts has no angle bracket and
no quotation mark, has an ampersand only in front of a reference, is read back as the name, and is all that the element
of the source has; so pages for different names differ. -/
theorem source_escaped (source : String) :
    render source = before ++ escape source ++ after ∧
      (∀ c ∈ ['<', '>', '"'], c ∉ (escape source).toList) ∧
      (∀ left right, (escape source).toList = left ++ '&' :: right →
        ∃ reference ∈ ["&amp;", "&lt;", "&gt;", "&quot;"], reference.toList <+: '&' :: right) ∧
      unescape (escape source).toList = source.toList ∧
      sourceSlot (render source) = some (escape source) ∧
      ∀ other, render other = render source → other = source := by
  refine ⟨rfl, fun c hc => notMem_escape hc source, ?_, unescape_escape source, sourceSlot_render source, ?_⟩
  · intro left right hsplit
    rw [toList_escape] at hsplit
    obtain ⟨r, hr, hprefix⟩ := exists_reference_of_ampersand hsplit
    have hnamed : ∀ r ∈ references, ∃ name ∈ ["&amp;", "&lt;", "&gt;", "&quot;"], r.written = name.toList := by decide
    obtain ⟨name, hname, hwritten⟩ := hnamed r hr
    exact ⟨name, hname, hwritten ▸ hprefix⟩
  · intro other hpages
    have hslots : some (escape other) = some (escape source) := by
      rw [← sourceSlot_render, ← sourceSlot_render, hpages]
    rw [← String.toList_inj, ← unescape_escape other, Option.some.inj hslots, unescape_escape]

end AlbumBrowser.Web.Page
