import AlbumBrowser.Viewer

/-!
Which albums pass a filter. The keyword stands beside the test of the description, and it can only occur
in a description that is there, so it decides nothing: a filter keeps the albums whose date and time match
and that have a description or are wanted without one. Criteria that are all open keep every album.
-/

namespace AlbumBrowser

/-- A keyword is found in no album without a description. -/
theorem Album.hasDescription_of_matchesKeyword {keyword : String} {a : Album} (hne : keyword ≠ "")
    (h : a.matchesKeyword keyword = true) : a.hasDescription = true := by
  have hany : a.entries.any (fun e => Text.occursIn keyword.toList (Unicode.lower e.value.toList)) = true := by
    simpa [matchesKeyword, hne] using h
  obtain ⟨e, he, -⟩ := List.any_eq_true.mp hany
  exact decide_eq_true (List.ne_nil_of_mem he)

/-- Whether the keyword is found or not, the test of the description has the last word. -/
theorem Album.hit_or_describedOr (keyword : String) (includeUndescribed : Bool) (a : Album) :
    ((keyword ≠ "" && a.matchesKeyword keyword) || a.describedOr includeUndescribed) =
      a.describedOr includeUndescribed := by
  cases hhit : (decide (keyword ≠ "") && a.matchesKeyword keyword) with
  | false => rfl
  | true =>
      obtain ⟨hne, hmatch⟩ := Bool.and_eq_true_iff.mp hhit
      have hd := Album.hasDescription_of_matchesKeyword (of_decide_eq_true hne) hmatch
      simp [Album.describedOr, hd]

namespace Criteria

variable {c : Criteria} {zone : ViewerZone} {a : Album}

/-- The album's date and time match, and it is described or wanted without a description. -/
def Passes (c : Criteria) (zone : ViewerZone) (a : Album) : Prop :=
  a.matchesDate zone c.date = some true ∧ a.matchesTime zone c.startTime c.endTime = some true ∧
    (a.entries ≠ [] ∨ c.includeUndescribed = true)

instance (c : Criteria) (zone : ViewerZone) (a : Album) : Decidable (c.Passes zone a) :=
  inferInstanceAs (Decidable (_ ∧ _ ∧ _))

/-- The tests of an album one after the other, without the keyword. -/
theorem admits_eq (c : Criteria) (zone : ViewerZone) (a : Album) :
    c.admits zone a = (a.matchesDate zone c.date).bind fun onDate =>
      if onDate then (a.matchesTime zone c.startTime c.endTime).map fun inTime =>
        inTime && a.describedOr c.includeUndescribed
      else some false := by
  unfold admits
  cases a.matchesDate zone c.date with
  | none => rfl
  | some onDate =>
      cases onDate with
      | false => rfl
      | true =>
          cases a.matchesTime zone c.startTime c.endTime with
          | none => rfl
          | some inTime =>
              cases inTime with
              | false => rfl
              | true => exact congrArg some (Album.hit_or_describedOr _ _ _)

theorem describedOr_iff (includeUndescribed : Bool) (a : Album) :
    a.describedOr includeUndescribed = true ↔ a.entries ≠ [] ∨ includeUndescribed = true := by
  simp [Album.describedOr, Album.hasDescription]

/-- A test that cannot place the album in the calendar leaves it undecided; the time is only asked for on the
right date. -/
theorem admits_ne_none_iff : c.admits zone a ≠ none ↔ a.matchesDate zone c.date ≠ none ∧
    (a.matchesDate zone c.date = some true → a.matchesTime zone c.startTime c.endTime ≠ none) := by
  rw [admits_eq]
  cases a.matchesDate zone c.date with
  | none => simp
  | some onDate => cases onDate <;> simp

theorem admits_eq_some_true_iff : c.admits zone a = some true ↔ c.Passes zone a := by
  rw [admits_eq, Passes, ← describedOr_iff]
  cases a.matchesDate zone c.date with
  | none => simp
  | some onDate => cases onDate <;> simp

/-- The filter has an answer when every album has one, and then it keeps those that pass. -/
theorem keep_eq_some_iff {albums kept : List Album} :
    c.keep zone albums = some kept ↔
      (∀ a ∈ albums, c.admits zone a ≠ none) ∧ kept = albums.filter fun a => c.Passes zone a := by
  induction albums generalizing kept with
  | nil => simp [keep, eq_comm]
  | cons a rest ih =>
      rw [keep]
      cases hadmits : c.admits zone a with
      | none => simp [hadmits]
      | some passes =>
          have hpasses : c.Passes zone a ↔ passes = true := by
            rw [← admits_eq_some_true_iff, hadmits, Option.some.injEq]
          cases passes with
          | false => simp [hadmits, hpasses, ih]
          | true =>
              simp only [Option.bind_eq_bind, Option.bind_some, if_true, Option.bind_eq_some_iff, ih,
                List.forall_mem_cons, hadmits, List.filter_cons, hpasses, Option.pure_def, Option.some.injEq]
              constructor
              · rintro ⟨tail, ⟨hrest, rfl⟩, rfl⟩
                exact ⟨⟨by simp, hrest⟩, by simp⟩
              · rintro ⟨⟨-, hrest⟩, hkept⟩
                exact ⟨_, ⟨hrest, rfl⟩, by simp [hkept]⟩

/-- An album that open criteria can place at all passes them. -/
theorem passes_anything (h : anything.admits zone a ≠ none) : anything.Passes zone a := by
  -- Open bounds let every time of day through, but a dated album must have one.
  rw [admits_eq] at h
  refine ⟨rfl, ?_, Or.inr rfl⟩
  have htime : a.matchesTime zone "" "" ≠ none := by
    intro hnone
    exact h (by simp [anything, Album.matchesDate, hnone])
  change a.matchesTime zone "" "" = some true
  unfold Album.matchesTime at htime ⊢
  split
  · rfl
  · rename_i hdated
    rw [if_neg hdated] at htime
    cases hkey : zone.clockKey a.timestamp with
    | none => exact absurd (by rw [hkey]; rfl) htime
    | some key => simp

/-- Open criteria keep all albums, unless one of them has no time of day in the zone. -/
theorem eq_of_keep_anything {albums kept : List Album} (h : anything.keep zone albums = some kept) :
    kept = albums := by
  obtain ⟨hanswered, rfl⟩ := keep_eq_some_iff.mp h
  rw [List.filter_eq_self]
  intro a ha
  exact decide_eq_true (passes_anything (hanswered a ha))

theorem keep_sublist {albums kept : List Album} (h : c.keep zone albums = some kept) :
    kept.Sublist albums := by
  obtain ⟨-, rfl⟩ := keep_eq_some_iff.mp h
  exact List.filter_sublist

/-- Criteria that admit the same albums keep the same. -/
theorem keep_congr {c c' : Criteria} {zone : ViewerZone} (h : ∀ a, c.admits zone a = c'.admits zone a)
    (albums : List Album) : c.keep zone albums = c'.keep zone albums := by
  induction albums with
  | nil => rfl
  | cons a rest ih => rw [keep, keep, h a, ih]

theorem admits_keyword (c : Criteria) (keyword : String) (zone : ViewerZone) (a : Album) :
    ({ c with keyword := keyword }).admits zone a = c.admits zone a := by
  rw [admits_eq, admits_eq]

end Criteria

/-- The mark of being filtered is all that a view takes from the criteria. -/
theorem Gallery.galleryView_eq (g : Gallery) (zone : ViewerZone) (filtered : Bool) :
    g.galleryView zone filtered =
      (g.galleryView zone false).map fun view => { view with filtered := filtered } := by
  unfold Gallery.galleryView
  cases g.visible.mapM (·.card zone) <;> rfl

namespace Viewer

/-- A filter that can be shown puts its criteria in force and shows what they keep of all albums. -/
theorem filter_eq (v : Viewer) (c : Criteria) :
    v.filter c = (c.keep v.zone v.gallery.albums).bind fun visible =>
      ((v.gallery.setVisible visible).galleryView v.zone !c.isDefault).map fun view =>
        (view, { v with gallery := v.gallery.setVisible visible, criteria := c }) := by
  unfold filter
  cases c.keep v.zone v.gallery.albums with
  | none => rfl
  | some visible =>
      change (Viewer.galleryView _).bind _ = _
      rw [Option.bind_some, galleryView]
      cases (v.gallery.setVisible visible).galleryView v.zone !c.isDefault <;> rfl

/-- The keyword never changes what a filter keeps: an album is kept exactly when its date and its time
match and it has a description or is wanted without one, and the same cards are shown for every
keyword. -/
theorem keep_regardless_of_keyword (c : Criteria) (keyword : String) (zone : ViewerZone) (albums : List Album)
    (v : Viewer) :
    ({ c with keyword := keyword }).keep zone albums = c.keep zone albums ∧
    (∀ kept, c.keep zone albums = some kept ↔
      (∀ a ∈ albums, a.matchesDate zone c.date ≠ none ∧
        (a.matchesDate zone c.date = some true → a.matchesTime zone c.startTime c.endTime ≠ none)) ∧
      kept = albums.filter fun a =>
        a.matchesDate zone c.date = some true ∧ a.matchesTime zone c.startTime c.endTime = some true ∧
          (a.entries ≠ [] ∨ c.includeUndescribed = true)) ∧
    (v.filter { c with keyword := keyword }).map (fun r => (r.1.count, r.1.countLabel, r.1.cards, r.2.gallery)) =
      (v.filter c).map (fun r => (r.1.count, r.1.countLabel, r.1.cards, r.2.gallery)) := by
  have hkeep := fun zone => Criteria.keep_congr (Criteria.admits_keyword c keyword zone)
  refine ⟨hkeep zone albums, ?_, ?_⟩
  · intro kept
    simp only [← Criteria.admits_ne_none_iff]
    exact Criteria.keep_eq_some_iff
  · rw [filter_eq, filter_eq, hkeep]
    cases c.keep v.zone v.gallery.albums with
    | none => rfl
    | some visible =>
        rw [Option.bind_some, Option.bind_some]
        rw [Gallery.galleryView_eq, Gallery.galleryView_eq _ _ (!c.isDefault)]
        rw [Option.map_map, Option.map_map, Option.map_map, Option.map_map]
        rfl

end Viewer

end AlbumBrowser
