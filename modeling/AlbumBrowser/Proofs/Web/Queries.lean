import AlbumBrowser.Proofs.Web.Encoding
import Mathlib.Data.List.Induction

/-!
What a query says. A query is a list of names and values, and what counts is the map that arises when these are
entered one after the other: the last value of a name stays. Of a query string, the pieces between ampersands are
pairs if they have an equals sign, and the first one parts name and value. A target is read up to its second question
mark, whatever follows.
-/

namespace AlbumBrowser

namespace Text

/-- No piece of a text that is split has the separator. -/
theorem not_mem_of_mem_splitOn {c : Char} {s piece : List Char} (h : piece ∈ s.splitOn c) : c ∉ piece := by
  induction s generalizing piece with
  | nil =>
      rw [List.splitOn_nil, List.mem_singleton] at h
      rw [h]
      exact List.not_mem_nil
  | cons d s ih =>
      rw [List.splitOn_cons_eq_if_modifyHead] at h
      split at h
      · rcases List.mem_cons.mp h with rfl | hrest
        · exact List.not_mem_nil
        · exact ih hrest
      · rename_i hne
        obtain ⟨first, rest, hsplit⟩ := List.exists_cons_of_ne_nil (List.splitOn_ne_nil c s)
        rw [hsplit] at ih h
        rcases List.mem_cons.mp h with rfl | hrest
        · rw [List.mem_cons, not_or]
          exact ⟨fun heq => hne (by simp [heq]), ih List.mem_cons_self⟩
        · exact ih (List.mem_cons_of_mem _ hrest)

theorem splitOn_eq_iff {c : Char} {s : List Char} {pieces : List (List Char)} (h : pieces ≠ []) :
    s.splitOn c = pieces ↔ s = [c].intercalate pieces ∧ ∀ piece ∈ pieces, c ∉ piece := by
  constructor
  · rintro rfl
    exact ⟨(List.intercalate_splitOn c).symm, fun _ => not_mem_of_mem_splitOn⟩
  · rintro ⟨rfl, hpieces⟩
    exact List.splitOn_intercalate c hpieces h

end Text

namespace Web.Query

open Text

variable {q : Query} {name value : String}

/-! ### The map of a query -/

/-- The values of the names, entered one after the other. -/
def params (q : Query) : Std.HashMap String String := q.foldl (fun m pair => m.insert pair.1 pair.2) ∅

/-- Looking for the last value of a name is a look into the map. -/
theorem getElem?_params (q : Query) (name : String) : q.params[name]? = q.get? name := by
  -- Pairs are entered at the front of the search, so the induction is from the back of the list.
  induction q using List.reverseRecOn with
  | nil => exact Std.HashMap.getElem?_empty
  | append_singleton q pair ih =>
      have hparams : params (q ++ [pair]) = (params q).insert pair.1 pair.2 := by
        rw [params, List.foldl_append]
        rfl
      rw [hparams, Std.HashMap.getElem?_insert, ih, get?, get?, List.reverse_append, List.reverse_singleton,
        List.singleton_append, List.find?_cons]
      by_cases hname : pair.1 = name <;> simp [hname]

theorem get?_eq_some_iff : q.get? name = some value ↔
    ∃ before after, q = before ++ (name, value) :: after ∧ ∀ pair ∈ after, pair.1 ≠ name := by
  rw [get?, Option.map_eq_some_iff]
  simp only [List.find?_eq_some_iff_append, decide_eq_true_eq, Bool.not_eq_true', decide_eq_false_iff_not]
  constructor
  · rintro ⟨⟨_, _⟩, ⟨rfl, after, before, hreverse, hafter⟩, rfl⟩
    refine ⟨before.reverse, after.reverse, ?_, ?_⟩
    · rw [← List.reverse_reverse q, hreverse]
      simp
    · exact fun pair hpair => hafter pair (List.mem_reverse.mp hpair)
  · rintro ⟨before, after, rfl, hafter⟩
    refine ⟨(name, value), ⟨rfl, after.reverse, before.reverse, ?_, ?_⟩, rfl⟩
    · simp
    · exact fun pair hpair => hafter pair (List.mem_reverse.mp hpair)

/-- The map of a query that is sent gives each name its last value, and has no other names. -/
theorem params_of_sent {path : List Char} (hpath : '?' ∉ path) (q : Query) (name value : String) :
    (ofTarget (String.ofList (path ++ '?' :: toChars q))).params[name]? = some value ↔
      ∃ before after, q = before ++ (name, value) :: after ∧ ∀ pair ∈ after, pair.1 ≠ name := by
  rw [ofTarget_toChars hpath, getElem?_params, get?_eq_some_iff]

theorem params_of_sent_sample :
    let q : Query := [("", ""), ("é&=?", "a+b%"), ("key", "1"), ("", "x"), ("key", "☃ *!")]
    let target := "/api/folder?=&%C3%A9%26%3D%3F=a%2Bb%25&key=1&=x&key=%E2%98%83%20*!"
    '?' ∉ "/api/folder".toList ∧ String.ofList ("/api/folder".toList ++ '?' :: toChars q) = target ∧
    (ofTarget target).params[""]? = some "x" ∧ (ofTarget target).params["é&=?"]? = some "a+b%" ∧
    (ofTarget target).params["key"]? = some "☃ *!" ∧ (ofTarget target).params["id"]? = none := by
  intro q target
  have hpath : '?' ∉ "/api/folder".toList := by decide
  have htarget : String.ofList ("/api/folder".toList ++ '?' :: toChars q) = target := by decide +kernel
  have hread : ∀ name value, (ofTarget target).params[name]? = some value ↔
      ∃ before after, q = before ++ (name, value) :: after ∧ ∀ pair ∈ after, pair.1 ≠ name := by
    rw [← htarget]
    exact params_of_sent hpath q
  refine ⟨hpath, htarget, ?_, ?_, ?_, ?_⟩
  · exact (hread _ _).mpr ⟨[("", ""), ("é&=?", "a+b%"), ("key", "1")], [("key", "☃ *!")], rfl, by decide⟩
  · exact (hread _ _).mpr ⟨[("", "")], [("key", "1"), ("", "x"), ("key", "☃ *!")], rfl, by decide⟩
  · exact (hread _ _).mpr ⟨[("", ""), ("é&=?", "a+b%"), ("key", "1"), ("", "x")], [], rfl, by decide⟩
  · apply Option.eq_none_iff_forall_ne_some.mpr
    intro value hvalue
    obtain ⟨before, after, hq, -⟩ := (hread _ _).mp hvalue
    have hmem : "id" ∈ q.map (·.1) := List.mem_map.mpr ⟨("id", value), by rw [hq]; simp, rfl⟩
    exact absurd hmem (by decide)

/-! ### The reading of a query string -/

/-- A piece of a query string has an equals sign, and the first one stands between a name and a value. -/
def Holds (piece : List Char) (name value : String) : Prop :=
  ∃ before after, '=' ∉ before ∧ piece = before ++ '=' :: after ∧
    name = String.ofList (decodeComponent before) ∧ value = String.ofList (decodeComponent after)

/-- The last piece between ampersands that has the name has the value. -/
def Says (s : List Char) (name value : String) : Prop :=
  ∃ before piece after, s = ['&'].intercalate (before ++ piece :: after) ∧
    (∀ part ∈ before ++ piece :: after, '&' ∉ part) ∧
    Holds piece name value ∧ ∀ part ∈ after, ∀ other, ¬ Holds part name other

theorem pair?_eq_some_iff {piece : List Char} : pair? piece = some (name, value) ↔ Holds piece name value := by
  simp only [pair?, Option.map_eq_some_iff, Prod.exists, cut?_eq_some_iff, Prod.mk.injEq, Holds]
  constructor
  · rintro ⟨before, after, ⟨hbefore, hpiece⟩, rfl, rfl⟩
    exact ⟨before, after, hbefore, hpiece, rfl, rfl⟩
  · rintro ⟨before, after, hbefore, hpiece, rfl, rfl⟩
    exact ⟨before, after, ⟨hbefore, hpiece⟩, rfl, rfl⟩

theorem get?_ofChars_eq_some_iff {s : List Char} : (ofChars s).get? name = some value ↔ Says s name value := by
  rw [get?_eq_some_iff, ofChars]
  constructor
  · rintro ⟨pairs, later, hpairs, hlater⟩
    obtain ⟨front, back, hsplit, hfront, hback⟩ := List.filterMap_eq_append_iff.mp hpairs
    obtain ⟨skipped, piece, after, rfl, hskipped, hpiece, hafter⟩ := List.filterMap_eq_cons_iff.mp hback
    rw [← List.append_assoc] at hsplit
    obtain ⟨hs, hparts⟩ := (splitOn_eq_iff (List.append_ne_nil_of_right_ne_nil _ (List.cons_ne_nil _ _))).mp hsplit
    refine ⟨front ++ skipped, piece, after, hs, hparts, pair?_eq_some_iff.mp hpiece, ?_⟩
    intro part hpart other hholds
    have hmem : (name, other) ∈ later := by
      rw [← hafter]
      exact List.mem_filterMap.mpr ⟨part, hpart, pair?_eq_some_iff.mpr hholds⟩
    exact hlater _ hmem rfl
  · rintro ⟨before, piece, after, hs, hparts, hpiece, hafter⟩
    have hsplit : s.splitOn '&' = before ++ piece :: after :=
      (splitOn_eq_iff (List.append_ne_nil_of_right_ne_nil _ (List.cons_ne_nil _ _))).mpr ⟨hs, hparts⟩
    refine ⟨before.filterMap pair?, after.filterMap pair?, ?_, ?_⟩
    · rw [hsplit, List.filterMap_append, List.filterMap_cons_some (pair?_eq_some_iff.mpr hpiece)]
    · rintro ⟨_, other⟩ hmem rfl
      obtain ⟨part, hpart, hpair⟩ := List.mem_filterMap.mp hmem
      exact hafter part hpart other (pair?_eq_some_iff.mp hpair)

/-- The map of a target is what the query says between the first question mark and the second one. It is the whole
query if there is no second one, and otherwise the rest is not read. -/
theorem params_of_target {path : List Char} (hpath : '?' ∉ path) (s : List Char) :
    (∀ name value, (ofTarget (String.ofList (path ++ '?' :: s))).params[name]? = some value ↔
      Says (s.takeWhile (· ≠ '?')) name value) ∧
    ('?' ∉ s → ∀ name value,
      (ofTarget (String.ofList (path ++ '?' :: s))).params[name]? = some value ↔ Says s name value) ∧
    ∀ rest, ofTarget (String.ofList (path ++ '?' :: (s ++ '?' :: rest))) =
      ofTarget (String.ofList (path ++ '?' :: s)) := by
  have hread : ∀ name value, (ofTarget (String.ofList (path ++ '?' :: s))).params[name]? = some value ↔
      Says (s.takeWhile (· ≠ '?')) name value := by
    intro name value
    rw [ofTarget_eq hpath, getElem?_params, get?_ofChars_eq_some_iff]
  refine ⟨hread, ?_, ?_⟩
  · intro hs
    rwa [takeWhile_ne_of_not_mem hs] at hread
  · intro rest
    rw [ofTarget_eq hpath, ofTarget_eq hpath, takeWhile_ne_append_cons]

theorem params_of_target_sample :
    '?' ∉ "/api/open".toList ∧ '?' ∉ "key&id=1&id=%61=b+c".toList ∧
    (ofTarget "/api/open?key&id=1&id=%61=b+c").params["id"]? = some "a=b c" ∧
    (ofTarget "/api/open?key&id=1&id=%61=b+c").params["key"]? = none ∧
    ofTarget "/api/open?key&id=1&id=%61=b+c?d&id=e" = ofTarget "/api/open?key&id=1&id=%61=b+c" := by
  have hpath : '?' ∉ "/api/open".toList := by decide
  have hs : '?' ∉ "key&id=1&id=%61=b+c".toList := by decide
  have htarget : String.ofList ("/api/open".toList ++ '?' :: "key&id=1&id=%61=b+c".toList) =
      "/api/open?key&id=1&id=%61=b+c" := by decide +kernel
  obtain ⟨-, hwhole, hrest⟩ := params_of_target hpath "key&id=1&id=%61=b+c".toList
  rw [htarget] at hwhole hrest
  refine ⟨hpath, hs, ?_, ?_, ?_⟩
  · apply (hwhole hs _ _).mpr
    refine ⟨["key".toList, "id=1".toList], "id=%61=b+c".toList, [], by decide +kernel, by decide, ?_, ?_⟩
    · exact ⟨"id".toList, "%61=b+c".toList, by decide, by decide, by decide +kernel, by decide +kernel⟩
    · exact fun part hpart => absurd hpart List.not_mem_nil
  · rw [getElem?_params]
    decide +kernel
  · rw [← hrest "d&id=e".toList]
    exact congrArg ofTarget (by decide +kernel)

/-- A value with a question mark of its own is cut off there, though the query says all of it. -/
theorem second_question_mark_ends_value : '?' ∉ "/api/open".toList ∧ Says "id=a?b".toList "id" "a?b" ∧
    (ofTarget (String.ofList ("/api/open".toList ++ '?' :: "id=a?b".toList))).params["id"]? = some "a" := by
  refine ⟨by decide, ?_, ?_⟩
  · refine ⟨[], "id=a?b".toList, [], by decide, by decide, ?_, ?_⟩
    · exact ⟨"id".toList, "a?b".toList, by decide, by decide, by decide +kernel, by decide +kernel⟩
    · exact fun part hpart => absurd hpart List.not_mem_nil
  · rw [getElem?_params]
    decide +kernel

end Web.Query

end AlbumBrowser
