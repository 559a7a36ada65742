import AlbumBrowser.Feed
import AlbumBrowser.Filter
import AlbumBrowser.Proofs.Unicode.LowerCase

/-!
Which keywords are found. A keyword and the values of a description are put into lower case apart from each other, so a
capital sigma at the end of a keyword becomes a final sigma although the word goes on in the value, and the keyword is
missed. That is the only way to miss a part of a value: the keywords that are found wherever they occur are
exactly those whose capital sigmas have their forms from the keyword alone.
-/

namespace AlbumBrowser

open Unicode

variable {a : Album} {e : DescriptionEntry} {c : Criteria}

theorem Criteria.toList_loweredKeyword (c : Criteria) : c.loweredKeyword.toList = lower c.keyword.toList :=
  String.toList_ofList

namespace Album

theorem matchesKeyword_of_infix (he : e ∈ a.entries) (h : lower c.keyword.toList <:+: lower e.value.toList) :
    a.matchesKeyword c.loweredKeyword = true := by
  rw [matchesKeyword, Bool.or_eq_true_iff, List.any_eq_true]
  refine Or.inr ⟨e, he, ?_⟩
  rw [Text.occursIn_iff, c.toList_loweredKeyword]
  exact h

/-- In a description with a single value the keyword is found exactly if it occurs there, all in lower case. -/
theorem matchesKeyword_iff_of_entries_eq (h : a.entries = [e]) :
    a.matchesKeyword c.loweredKeyword = true ↔ lower c.keyword.toList <:+: lower e.value.toList := by
  refine ⟨fun hmatch => ?_, matchesKeyword_of_infix (by rw [h]; exact List.mem_singleton_self e)⟩
  rw [matchesKeyword, h, Bool.or_eq_true_iff, decide_eq_true_iff, List.any_cons, List.any_nil, Bool.or_false,
    Text.occursIn_iff, c.toList_loweredKeyword] at hmatch
  rcases hmatch with hempty | hoccurs
  · rw [← c.toList_loweredKeyword, hempty]
    exact List.nil_infix
  · exact hoccurs

end Album

namespace Criteria

/-- A keyword is found in every album with a value that it is a part of, whatever the value, exactly if no capital sigma
of it stands at an edge of the keyword. Any keyword is found where each of its capital sigmas has the same form inside
the value as in the keyword alone. And apart from the forms of sigma, a part of a value is always a part of it in
lower case too. -/
theorem keyword_found_iff (c : Criteria) :
    ((∀ (a : Album) (e : DescriptionEntry), e ∈ a.entries → c.keyword.toList <:+: e.value.toList →
      a.matchesKeyword c.loweredKeyword = true) ↔ SettlesSigmas c.keyword.toList) ∧
    (∀ (a : Album) (e : DescriptionEntry) (before after : List Char), e ∈ a.entries →
      e.value.toList = before ++ c.keyword.toList ++ after →
      SameForms ⟨before.reverse, after⟩ {} c.keyword.toList → a.matchesKeyword c.loweredKeyword = true) ∧
    ∀ value, c.keyword.toList <:+: value →
      (lower c.keyword.toList).map plainSigma <:+: (lower value).map plainSigma := by
  have hplace : ∀ (a : Album) (e : DescriptionEntry) (before after : List Char), e ∈ a.entries →
      e.value.toList = before ++ c.keyword.toList ++ after →
      SameForms ⟨before.reverse, after⟩ {} c.keyword.toList → a.matchesKeyword c.loweredKeyword = true := by
    intro a e before after he hvalue hforms
    refine Album.matchesKeyword_of_infix he ?_
    rw [hvalue, ← lowerWithin_bare, ← lowerWithin_eq_iff.mpr hforms]
    exact lowerWithin_infix_lower before c.keyword.toList after
  refine ⟨⟨fun hfound => ?_, ?_⟩, hplace, ?_⟩
  · refine Classical.byContradiction fun hedge => ?_
    obtain ⟨before, after, hmissed⟩ := exists_not_infix_lower hedge
    -- An album that holds nothing but the text in which the keyword is missed.
    let e : DescriptionEntry := ⟨"", String.ofList (before ++ c.keyword.toList ++ after)⟩
    let a : Album := ⟨"", none, some [e], [], []⟩
    have hvalue : e.value.toList = before ++ c.keyword.toList ++ after := String.toList_ofList
    have hmatch := hfound a e (List.mem_singleton_self e) ⟨before, after, hvalue.symm⟩
    rw [Album.matchesKeyword_iff_of_entries_eq rfl, hvalue] at hmatch
    exact hmissed hmatch
  · rintro hsettled a e he ⟨before, after, hvalue⟩
    exact hplace a e before after he hvalue.symm (hsettled.sameForms _)
  · rintro _ ⟨before, after, rfl⟩
    rw [← lowerWithin_bare, map_plainSigma_lowerWithin {} ⟨before.reverse, after⟩]
    exact (lowerWithin_infix_lower before c.keyword.toList after).map plainSigma

/-- The name of a person in capitals. -/
def namedFeed : String := "[\x7b\"ID\":1,\"descripcion\":\x7b\"nombre\":\"ΚΩΣΤΑΣ\"\x7d\x7d]"

def namedAlbum : Album := ⟨"1", none, some [⟨"nombre", "ΚΩΣΤΑΣ"⟩], [], []⟩

/-- The first three letters of the name are not found in it, for their sigma is the last letter of the keyword. The first
four letters and the whole name are found. -/
theorem sigma_at_edge_missed : Feed.parse namedFeed = .ok [namedAlbum] ∧
    "ΚΩΣ".toList <:+: "ΚΩΣΤΑΣ".toList ∧ ({ keyword := "ΚΩΣ" } : Criteria).loweredKeyword = "κως" ∧
    lower "ΚΩΣΤΑΣ".toList = "κωστας".toList ∧ namedAlbum.matchesKeyword "κως" = false ∧
    namedAlbum.matchesKeyword ({ keyword := "ΚΩΣΤ" } : Criteria).loweredKeyword = true ∧
    namedAlbum.matchesKeyword ({ keyword := "ΚΩΣΤΑΣ" } : Criteria).loweredKeyword = true :=
  ⟨by decide +kernel, ⟨[], "ΤΑΣ".toList, by decide⟩, by decide +kernel, by decide +kernel, by decide +kernel,
    by decide +kernel, by decide +kernel⟩

end Criteria

end AlbumBrowser
