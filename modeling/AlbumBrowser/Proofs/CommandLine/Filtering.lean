import AlbumBrowser.Proofs.Calendar.Layouts
import AlbumBrowser.Proofs.CommandLine.Browse
import AlbumBrowser.Proofs.Viewer.Stops
import AlbumBrowser.Proofs.Web.Refusals

/-!
One filter behind two surfaces. The command that lists albums puts a day or a time of day into its full width
before it filters, and takes what is in full width as it is; the server filters by the texts of a posted
record as they stand. So both show the same albums for texts in full width. A day that is spelled otherwise
is accepted by the command too, but posted as it is it equals the day of no album.
-/

namespace AlbumBrowser

open Calendar Text

namespace CommandLine

variable {c : Civil} {text key : String}

theorem normalize?_write {layout : Layout} (hplain : layout.isPlain = true) (hc : c.Valid)
    (hcarry : (layout.carry c Civil.zero).Valid)
    (hwrite : layout.write (layout.carry c Civil.zero) = layout.write c) :
    normalize? layout (String.ofList (layout.write c)) = some (String.ofList (layout.write c)) := by
  rw [normalize?, String.toList_ofList, Layout.read_write hplain hc hcarry, Option.map_some, hwrite]

/-- A day in full width is taken as it is. -/
theorem date_write (hc : c.Valid) :
    date (String.ofList (Layout.date.write c)) = .ok (String.ofList (Layout.date.write c)) := by
  have hday : (Layout.date.carry c Civil.zero).Valid := ⟨hc.1, Nat.zero_le _, Nat.zero_le _, Nat.zero_le _⟩
  rw [date, normalize?_write (by decide) hc hday rfl]

/-- A time of day in full width is taken as it is. -/
theorem clock_write (hc : c.Valid) :
    clock (String.ofList (Layout.clock.write c)) = .ok (String.ofList (Layout.clock.write c)) := by
  have hsomeDay : Civil.zero.date.Valid := by decide
  have htime : (Layout.clock.carry c Civil.zero).Valid := ⟨hsomeDay, hc.2.1, hc.2.2.1, Nat.zero_le _⟩
  rw [clock, normalize?_write (by decide) hc htime rfl]

theorem exists_of_date (h : date text = .ok key) :
    ∃ c : Civil, c.Valid ∧ key = String.ofList (Layout.date.write c) := by
  unfold date at h
  split at h
  · rename_i written hnormal
    cases h
    obtain ⟨c, hread, rfl⟩ := Option.map_eq_some_iff.mp hnormal
    exact ⟨c, Layout.valid_of_read hread, rfl⟩
  · cases h

theorem exists_of_clock (h : clock text = .ok key) :
    ∃ c : Civil, c.Valid ∧ key = String.ofList (Layout.clock.write c) := by
  unfold clock at h
  split at h
  · rename_i written hnormal
    cases h
    obtain ⟨c, hread, rfl⟩ := Option.map_eq_some_iff.mp hnormal
    exact ⟨c, Layout.valid_of_read hread, rfl⟩
  · cases h

theorem date_idem (h : date text = .ok key) : date key = .ok key := by
  obtain ⟨c, hc, rfl⟩ := exists_of_date h
  exact date_write hc

theorem clock_idem (h : clock text = .ok key) : clock key = .ok key := by
  obtain ⟨c, hc, rfl⟩ := exists_of_clock h
  exact clock_write hc

/-- The text of an absent timestamp is not accepted as a day. -/
theorem date_empty : date "" = .error (.date "") := by decide +kernel

/-- Nor is that of an unreadable one. -/
theorem date_unreadableText : date Zone.unreadableText = .error (.date Zone.unreadableText) := by decide +kernel

/-- The day that an album is filtered by is in full width, or is none. -/
theorem date_dateKey {zone : ViewerZone} {t : Option Timestamp}
    (ht : ∀ x, t = some x → ∀ m, x.moment? = some m → m.InCalendar) {day : String} (hday : zone.dateKey t = some day)
    (h : date day = .ok key) : key = day := by
  have hwritten : ∀ m : Moment, m.InCalendar → day = String.ofList (Layout.date.write m.civil) → key = day := by
    rintro m hm rfl
    rw [date_write (Moment.valid_civil hm)] at h
    cases h
    rfl
  cases t with
  | none =>
      cases hday
      rw [date_empty] at h
      cases h
  | some t =>
      cases t with
      | instant m =>
          obtain ⟨shown, hshown, rfl⟩ := Option.map_eq_some_iff.mp hday
          unfold Zone.wallClock? at hshown
          split at hshown
          · rename_i hinside
            cases hshown
            exact hwritten _ hinside rfl
          · cases hshown
      | wallClock m =>
          cases hday
          exact hwritten m (ht _ rfl m rfl) rfl
      | unreadable raw =>
          cases hday
          rw [date_unreadableText] at h
          cases h

/-- A day that is accepted but not in full width is not the day of any album of a feed. -/
theorem keep_of_other_spelling {feed : String} {albums kept : List Album} (hfeed : Feed.parse feed = .ok albums)
    {zone : ViewerZone} {p : Criteria} (h : date p.date = .ok key) (hne : p.date ≠ key)
    (hkeep : p.keep zone albums = some kept) : kept = [] := by
  obtain ⟨-, rfl⟩ := Criteria.keep_eq_some_iff.mp hkeep
  rw [List.filter_eq_nil_iff]
  intro a ha hpasses
  obtain ⟨hmatch, -⟩ := of_decide_eq_true hpasses
  unfold Album.matchesDate at hmatch
  split at hmatch
  · rename_i hempty
    rw [hempty, date_empty] at h
    cases h
  · obtain ⟨day, hday, heq⟩ := Option.map_eq_some_iff.mp hmatch
    rw [← of_decide_eq_true heq] at h hne
    have hinside : ∀ x, a.timestamp = some x → ∀ m, x.moment? = some m → m.InCalendar :=
      fun x hx m hm => Feed.moment_inCalendar_of_parse hfeed ha hx hm
    exact hne (date_dateKey hinside hday h).symm

/-! ### Options -/

/-- How a text among the options becomes a criterion: a missing one leaves it open. -/
def Fills (read : String → Except ValueError String) (typed : Option String) (key : String) : Prop :=
  typed = none ∧ key = "" ∨ ∃ text, typed = some text ∧ read text = .ok key

theorem fills_iff {read : String → Except ValueError String} {typed : Option String} :
    (∃ value, through (fun text => (read text).toOption) typed = some value ∧ value.getD "" = key) ↔
      Fills read typed key := by
  cases typed with
  | none => simp [through, Fills, eq_comm]
  | some text => cases hread : read text <;> simp [through, Fills, hread, Except.toOption]

variable {a b : Arguments} {c : Criteria}

theorem criteria?_eq_some_iff : criteria? a = some c ↔
    Fills date (a.get? .date) c.date ∧ Fills clock (a.get? .start) c.startTime ∧
      Fills clock (a.get? .stop) c.endTime ∧ c.keyword = (a.get? .keyword).getD "" ∧
      c.includeUndescribed = !a.has .excludeUndescribed := by
  simp only [criteria?, Option.bind_eq_bind, Option.bind_eq_some_iff, Option.pure_def, Option.some.injEq]
  constructor
  · rintro ⟨day, hday, start, hstart, stop, hstop, rfl⟩
    exact ⟨fills_iff.mp ⟨day, hday, rfl⟩, fills_iff.mp ⟨start, hstart, rfl⟩, fills_iff.mp ⟨stop, hstop, rfl⟩, rfl, rfl⟩
  · rintro ⟨hday, hstart, hstop, hkeyword, hdescribed⟩
    obtain ⟨day, hday, hdate⟩ := fills_iff.mpr hday
    obtain ⟨start, hstart, hfrom⟩ := fills_iff.mpr hstart
    obtain ⟨stop, hstop, hto⟩ := fills_iff.mpr hstop
    refine ⟨day, hday, start, hstart, stop, hstop, ?_⟩
    rw [hdate, hfrom, hto, ← hkeyword, ← hdescribed]

/-- The criteria that hold the texts of options as they were typed. -/
def Arguments.texts (a : Arguments) : Criteria where
  date := (a.get? .date).getD ""
  startTime := (a.get? .start).getD ""
  endTime := (a.get? .stop).getD ""
  keyword := (a.get? .keyword).getD ""
  includeUndescribed := !a.has .excludeUndescribed

/-- What a criterion has been filled with fills it again, as it is. -/
theorem Fills.again {read : String → Except ValueError String} {typed : Option String}
    (hidem : ∀ text key, read text = .ok key → read key = .ok key) (h : Fills read typed key)
    {again : Option String} (hagain : again.getD "" = key) (hne : again ≠ some "") : Fills read again key := by
  cases again with
  | none => exact Or.inl ⟨rfl, hagain.symm⟩
  | some text =>
      cases hagain
      rcases h with ⟨-, hempty⟩ | ⟨typed, -, hread⟩
      · exact absurd (congrArg some hempty) hne
      · exact Or.inr ⟨text, rfl, hidem typed text hread⟩

/-- Options in full width are taken as they are. -/
theorem criteria?_of_texts_eq (h : criteria? a = some c) (htexts : b.texts = c) (hne : ∀ k, b.get? k ≠ some "") :
    criteria? b = some c := by
  obtain ⟨hday, hstart, hstop, -, -⟩ := criteria?_eq_some_iff.mp h
  cases htexts
  refine criteria?_eq_some_iff.mpr ⟨?_, ?_, ?_, rfl, rfl⟩
  · exact hday.again (fun _ _ => date_idem) rfl (hne .date)
  · exact hstart.again (fun _ _ => clock_idem) rfl (hne .start)
  · exact hstop.again (fun _ _ => clock_idem) rfl (hne .stop)

theorem date_of_texts_ne (h : criteria? a = some c) (hne : a.texts.date ≠ c.date) :
    date a.texts.date = .ok c.date := by
  obtain ⟨hday, -⟩ := criteria?_eq_some_iff.mp h
  unfold Arguments.texts at hne ⊢
  rcases hday with ⟨htyped, hempty⟩ | ⟨text, htyped, hread⟩
  · rw [htyped, hempty] at hne
    exact absurd rfl hne
  · rw [htyped]
    exact hread

end CommandLine

/-! ### Surfaces -/

/-- What a filter of loaded albums comes to: the view, and the albums that are kept. -/
def Criteria.result (c : Criteria) (zone : ViewerZone) (albums : List Album) : Option (GalleryView × List Album) :=
  (c.keep zone albums).bind fun kept =>
    (({ visible := kept } : Gallery).galleryView zone !c.isDefault).map fun view => (view, kept)

/-- Albums that are kept can also be shown. -/
theorem Criteria.kept_of_result (c : Criteria) (zone : ViewerZone) (albums : List Album) :
    (c.result zone albums).map (·.2) = c.keep zone albums := by
  unfold Criteria.result
  cases hkeep : c.keep zone albums with
  | none => rfl
  | some kept =>
      have hshown : ({ visible := kept } : Gallery).galleryView zone (!c.isDefault) ≠ none := by
        rw [ne_eq, Gallery.galleryView_eq_none_iff]
        rintro ⟨a, ha, hbeyond⟩
        have hnone := (Criteria.keep_eq_none_iff (c := c)).mpr ⟨a, (Criteria.keep_sublist hkeep).subset ha, hbeyond⟩
        rw [hkeep] at hnone
        cases hnone
      obtain ⟨view, hview⟩ := Option.ne_none_iff_exists'.mp hshown
      rw [Option.bind_some, hview]
      rfl

theorem Viewer.filter_eq_result (v : Viewer) (c : Criteria) :
    v.filter c = (c.result v.zone v.gallery.albums).map fun (view, kept) =>
      (view, { v with gallery := v.gallery.setVisible kept, criteria := c }) := by
  rw [filter_eq, Criteria.result, Option.map_bind]
  apply Option.bind_congr
  intro kept _
  rw [Function.comp_apply, Option.map_map]
  rfl

namespace CommandLine

variable {a : Arguments} {c : Criteria} {source : String} {zone : ViewerZone} {albums : List Album}

theorem listScreen_eq (source : String) (zone : ViewerZone) (c : Criteria) (albums : List Album) :
    listScreen source zone c (.ok albums) = (c.result zone albums).map fun (view, _) =>
      .ok (Terminal.header source ++ view.screen) := by
  rw [listScreen, loaded_ok]
  simp only [Viewer.filter_eq_result, Option.map_map]
  rfl

end CommandLine

namespace Web.Server

theorem handle_posting_filter {s : Server} {fetched : Fetched} {r : Request} {text : String} {p : Criteria}
    (hroute : r.route = .filter) (hbody : String.fromUTF8? r.body = some text) (hread : Criteria.read text = .ok p) :
    s.handle fetched r = (p.result s.viewer.zone s.viewer.gallery.albums).map fun (view, kept) =>
      (.ok view.toJson, { s with viewer := { s.viewer with
        gallery := s.viewer.gallery.setVisible kept, criteria := p } }) := by
  rw [handle_eq_onRoute hroute (by decide), onRoute, postFilter, hbody]
  simp only [hread, Viewer.filter_eq_result, Option.map_map]
  rfl

end Web.Server

namespace CommandLine

open Web

/-- Both surfaces filter alike for texts in full width. With criteria that options make up, the command lists the
albums that a server with the same feed and zone shows when these criteria are posted: it is one view, of
the albums that the criteria keep. Their texts are in full width, and options in full width are taken as
they are. A day that is not in full width is accepted as well, but posted as it is it keeps nothing. -/
theorem filters_alike_in_full_width {feed : String} (hfeed : Feed.parse feed = .ok albums)
    (h : criteria? a = some c) :
    (∀ (s : Server) (fetched : Fetched) (r : Request) (text : String), s.viewer.gallery.albums = albums →
      r.route = .filter → String.fromUTF8? r.body = some text → Criteria.read text = .ok c →
      ∃ result : Option (GalleryView × List Album), result.map (·.2) = c.keep s.viewer.zone albums ∧
        (∀ source, listScreen source s.viewer.zone c (.ok albums) = result.map fun (view, _) =>
          .ok (Terminal.header source ++ view.screen)) ∧
        s.handle fetched r = result.map fun (view, kept) => (.ok view.toJson, { s with viewer := { s.viewer with
          gallery := s.viewer.gallery.setVisible kept, criteria := c } })) ∧
    (∀ b : Arguments, b.texts = c → (∀ k, b.get? k ≠ some "") → criteria? b = some c) ∧
    (a.texts.date ≠ c.date → ∀ (p : Criteria) zone kept, p.date = a.texts.date →
      p.keep zone albums = some kept → kept = []) := by
  refine ⟨?_, fun b => criteria?_of_texts_eq h, ?_⟩
  · intro s fetched r text halbums hroute hbody hread
    refine ⟨c.result s.viewer.zone albums, c.kept_of_result _ _, fun source => listScreen_eq source _ c albums, ?_⟩
    rw [Server.handle_posting_filter hroute hbody hread, halbums]
  · intro hne p zone kept hdate hkeep
    have haccepted := date_of_texts_ne h hne
    rw [← hdate] at haccepted hne
    exact keep_of_other_spelling hfeed haccepted hne hkeep

/-- A feed with an album of one day. -/
def dayFeed : String := "[\x7b\"ID\":1,\"fecha\":\"2024-01-05\"\x7d]"

def dayAlbums : List Album := [⟨"1", some (.instant ⟨1704412800, 0⟩), none, [], []⟩]

theorem filters_alike_on_sampleDay :
    Feed.parse dayFeed = .ok dayAlbums ∧
    criteria? { options := [(.date, "2024-1-5")] } = some { date := "2024-01-05" } ∧
    criteria? { options := [(.date, "2024-01-05")] } = some { date := "2024-01-05" } ∧
    ∀ kept, Criteria.keep { date := "2024-1-5" } Zone.utc dayAlbums = some kept → kept = [] := by
  have hfeed : Feed.parse dayFeed = .ok dayAlbums := by decide +kernel
  have hcriteria : criteria? { options := [(.date, "2024-1-5")] } = some { date := "2024-01-05" } := by decide +kernel
  obtain ⟨-, hfull, hother⟩ := filters_alike_in_full_width hfeed hcriteria
  refine ⟨hfeed, hcriteria, hfull { options := [(.date, "2024-01-05")] } rfl ?_, ?_⟩
  · intro k
    cases k <;> decide
  · exact fun kept => hother (by decide) { date := "2024-1-5" } Zone.utc kept rfl

/-- The day of the album, spelled with one digit for the month and one for the day: the command that is given it
lists the album, and a server with the same feed to which it is posted shows nothing. -/
theorem surfaces_differ_for_short_day : ∃ (view view' : GalleryView) (s' : Server),
    (Invocation.parse none ["list", "albums.json", "--date", "2024-1-5"]).map (·.command) =
      .ok (.list "albums.json" { date := "2024-01-05" }) ∧
    Feed.parse dayFeed = .ok dayAlbums ∧
    listScreen "albums.json" Zone.utc { date := "2024-01-05" } (.ok dayAlbums) =
      some (.ok (Terminal.header "albums.json" ++ view.screen)) ∧
    view.cards.map (·.id) = ["1"] ∧
    (Server.new ((Viewer.fresh "albums.json" Zone.utc).load (.ok dayAlbums)).2).handle (.ok dayAlbums)
      ⟨"POST", "/api/filters", "\x7b\"date\":\"2024-1-5\"\x7d".toUTF8⟩ = some (.ok view'.toJson, s') ∧
    view'.cards = [] := by
  have hroute : (Request.mk "POST" "/api/filters" "\x7b\"date\":\"2024-1-5\"\x7d".toUTF8).route = .filter := by
    decide +kernel
  have hbody : String.fromUTF8? "\x7b\"date\":\"2024-1-5\"\x7d".toUTF8 = some "\x7b\"date\":\"2024-1-5\"\x7d" := by
    decide +kernel
  have hread : Criteria.read "\x7b\"date\":\"2024-1-5\"\x7d" = .ok { date := "2024-1-5" } := by decide +kernel
  obtain ⟨view, hlist, hshown⟩ : ∃ view : GalleryView,
      listScreen "albums.json" Zone.utc { date := "2024-01-05" } (.ok dayAlbums) =
        some (.ok (Terminal.header "albums.json" ++ view.screen)) ∧ view.cards.map (·.id) = ["1"] := ⟨_, rfl, rfl⟩
  have hpost : ∃ (view' : GalleryView) (s' : Server),
      (Server.new ((Viewer.fresh "albums.json" Zone.utc).load (.ok dayAlbums)).2).handle (.ok dayAlbums)
        ⟨"POST", "/api/filters", "\x7b\"date\":\"2024-1-5\"\x7d".toUTF8⟩ = some (.ok view'.toJson, s') ∧
      view'.cards = [] := by
    rw [Server.handle_posting_filter hroute hbody hread]
    exact ⟨_, _, rfl, rfl⟩
  obtain ⟨view', s', hpost, hempty⟩ := hpost
  exact ⟨view, view', s', by decide +kernel, by decide +kernel, hlist, hshown, hpost, hempty⟩

end CommandLine

end AlbumBrowser
