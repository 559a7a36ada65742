import AlbumBrowser.Proofs.Web.Controls

/-!
Which album the id on a card opens. Ids are texts, made from whatever value a record has for its id, and the
first loaded album with an id is the one that opens. So an album is opened by its own card unless another one
before it has come to the same id; records whose ids are written differently may do so, a number and its
digits in quotes for one.
-/

namespace AlbumBrowser

/-- A view shows what an album is: its date on the viewer's clock, its description and its folders. -/
structure AlbumView.Shows (view : AlbumView) (zone : ViewerZone) (a : Album) : Prop where
  id : view.id = a.id
  date : zone.display a.timestamp = some view.date
  description : view.description = a.description.map (·.map fun e => ⟨Label.ofKey e.key, e.value⟩)
  folders : view.folders = a.folders.map fun f => ⟨f.label, f.key⟩

theorem OpenAlbum.shows_of_view {o : OpenAlbum} {zone : ViewerZone} {view : AlbumView} (h : o.view zone = some view) :
    view.Shows zone o.album := by
  obtain ⟨date, hdate, heq⟩ := Option.bind_eq_some_iff.mp h
  cases heq
  exact ⟨rfl, hdate, rfl, rfl⟩

theorem OpenAlbum.image_of_view {o : OpenAlbum} {zone : ViewerZone} {view : AlbumView} (h : o.view zone = some view) :
    view.image = o.image? := by
  obtain ⟨date, -, heq⟩ := Option.bind_eq_some_iff.mp h
  cases heq
  rfl

theorem OpenAlbum.images_of_select? {o o' : OpenAlbum} {key : String} {f : Folder}
    (hf : o.album.folder? key = some f) (h : o.select? key = some o') :
    o'.images = o.album.folderImages f ∧ o'.image? = (o.album.folderImages f).head? := by
  rw [select?, hf] at h
  cases h
  exact ⟨rfl, List.head?_eq_getElem?.symm⟩

namespace Viewer

variable {v : Viewer} {a : Album}

/-- An id opens an album: the album is shown, and each of its folders can then be chosen, which shows the album
still, at the first image of the folder, with the images of the folder to step through. -/
def Opens (v : Viewer) (id : String) (a : Album) : Prop :=
  ∃ view w, v.openAlbum id = some (some view, w) ∧ view.Shows v.zone a ∧
    ∀ f ∈ a.folders, ∃ chosen u, w.selectFolder f.key = some (some chosen, u) ∧ chosen.Shows v.zone a ∧
      chosen.activeFolder = some f.key ∧ chosen.image = (a.folderImages f).head? ∧
      chosen.total = (a.folderImages f).length ∧ u.gallery.images = a.folderImages f

theorem opens_of_find? {id : String} (hfound : v.gallery.find? id = some a) (hplaced : ¬ a.Beyond v.zone)
    (hkeys : (a.folders.map (·.key)).Nodup) : v.Opens id a := by
  obtain ⟨view, hview⟩ := Album.exists_view_of_not_beyond hplaced
  refine ⟨view, v.showing { album := a }, ?_, OpenAlbum.shows_of_view hview, ?_⟩
  · rw [openAlbum_of_find? hfound, hview]
    rfl
  · intro f hf
    obtain ⟨o, chosen, hselect, hchosen⟩ := OpenAlbum.exists_select? hkeys hf hview
    have hfolder := Album.folder?_of_mem hkeys hf
    have hshows := OpenAlbum.shows_of_view hchosen
    rw [OpenAlbum.album_of_select? hselect] at hshows
    obtain ⟨hactive, -, htotal⟩ := OpenAlbum.view_of_select? hfolder hselect hchosen
    obtain ⟨himages, hfirst⟩ := OpenAlbum.images_of_select? hfolder hselect
    refine ⟨chosen, v.showing o, ?_, hshows, hactive, ?_, htotal, himages⟩
    · rw [selectFolder_showing hselect, hchosen]
      rfl
    · rw [OpenAlbum.image_of_view hchosen, hfirst]

theorem openAlbum_of_beyond {id : String} (hfound : v.gallery.find? id = some a) (hbeyond : a.Beyond v.zone) :
    v.openAlbum id = none := by
  have hhidden : OpenAlbum.view { album := a } v.zone = none := by
    refine Decidable.byContradiction fun hview => ?_
    exact OpenAlbum.view_ne_none_iff.mp hview (ViewerZone.display_eq_none_iff.mpr hbeyond)
  rw [openAlbum_of_find? hfound, hhidden]
  rfl

/-- Among the albums with the id of a loaded one there is a first, and that one is found. -/
theorem exists_find?_id (ha : a ∈ v.gallery.albums) :
    ∃ first b rest, v.gallery.albums = first ++ b :: rest ∧ b.id = a.id ∧ (∀ d ∈ first, d.id ≠ a.id) ∧
      v.gallery.find? a.id = some b := by
  obtain ⟨b, hb⟩ : ∃ b, v.gallery.find? a.id = some b := by
    rw [← Option.isSome_iff_exists, Gallery.find?, List.find?_isSome]
    exact ⟨a, ha, decide_eq_true rfl⟩
  obtain ⟨hid, first, rest, hlist, hfirst⟩ := List.find?_eq_some_iff_append.mp hb
  refine ⟨first, b, rest, hlist, of_decide_eq_true hid, ?_, hb⟩
  intro d hd
  simpa using hfirst d hd

/-- An album that has no different one with its id before it is the one that its id finds. -/
theorem find?_id_of_first {before after : List Album} (hlist : v.gallery.albums = before ++ a :: after)
    (hfirst : ∀ b ∈ before, b.id = a.id → b = a) : v.gallery.find? a.id = some a := by
  rw [Gallery.find?, hlist, List.find?_append]
  cases hbefore : before.find? (·.id = a.id) with
  | none => simp
  | some b =>
      have hid := List.find?_some hbefore
      rw [hfirst b (List.mem_of_find?_eq_some hbefore) (of_decide_eq_true hid)]
      rfl

/-- In a viewer that has loaded a feed, take an album whose card can be drawn. If no other album before it
has the same id, the id on its card opens this very album. In any case the id opens the first album of the list
that has it, provided that this one can be placed on the viewer's clock; otherwise the viewer stops. -/
theorem opens_own_card {text : String} (hfeed : Feed.parse text = .ok v.gallery.albums) {before after : List Album}
    (hlist : v.gallery.albums = before ++ a :: after) {card : Card} (hcard : a.card v.zone = some card) :
    ((∀ b ∈ before, b.id = a.id → b = a) → v.Opens card.id a) ∧
    ∃ first b rest, v.gallery.albums = first ++ b :: rest ∧ b.id = a.id ∧ (∀ d ∈ first, d.id ≠ a.id) ∧
      (¬ b.Beyond v.zone → v.Opens card.id b) ∧ (b.Beyond v.zone → v.openAlbum card.id = none) := by
  have hkeys : ∀ b ∈ v.gallery.albums, (b.folders.map (·.key)).Nodup := by
    intro b hb
    obtain ⟨members, rfl⟩ := Feed.mem_of_parse hfeed hb
    exact Album.nodup_keys_ofMembers members
  have ha : a ∈ v.gallery.albums := hlist ▸ List.mem_append_right before List.mem_cons_self
  rw [(Album.names_of_card hcard).1]
  refine ⟨?_, ?_⟩
  · intro hfirst
    have hplaced : ¬ a.Beyond v.zone := by
      rw [← Album.card_eq_none_iff, hcard]
      exact Option.some_ne_none card
    exact opens_of_find? (find?_id_of_first hlist hfirst) hplaced (hkeys a ha)
  · obtain ⟨first, b, rest, hlist, hid, hfirst, hfound⟩ := exists_find?_id ha
    have hb := hkeys b (List.mem_of_find?_eq_some hfound)
    exact ⟨first, b, rest, hlist, hid, hfirst, fun hplaced => opens_of_find? hfound hplaced hb,
      openAlbum_of_beyond hfound⟩

/-- Records of three people, the second of whom has the id of the first, written as a text. -/
def twinFeed : String :=
  "[\x7b\"ID\":1,\"descripcion\":\x7b\"a\":\"x\"\x7d\x7d,\x7b\"ID\":\"1\",\"descripcion\":\x7b\"b\":\"y\"\x7d\x7d," ++
    "\x7b\"ID\":2,\"fecha\":\"2024-01-05\",\"ruta_\":\"p/cara\",\"imagenes\":[\"p/cara/1.jpg\",\"p/cuerpo/1.jpg\"]\x7d]"

def twinAlbums : List Album :=
  [⟨"1", none, some [⟨"a", "x"⟩], [], []⟩, ⟨"1", none, some [⟨"b", "y"⟩], [], []⟩,
    ⟨"2", some (.instant ⟨1704412800, 0⟩), none, [⟨"", "p/cara"⟩], ["p/cara/1.jpg", "p/cuerpo/1.jpg"]⟩]

/-- A viewer that has loaded them. -/
def twinViewer : Viewer := ((fresh "albums.json" Zone.utc).load (.ok twinAlbums)).2

theorem parse_twinFeed : Feed.parse twinFeed = .ok twinViewer.gallery.albums := by decide +kernel

/-- The second of them cannot be opened. The id on its card opens the first. -/
theorem twin_not_opened : ∃ a card, Feed.parse twinFeed = .ok twinViewer.gallery.albums ∧
    a ∈ twinViewer.gallery.albums ∧ a.card twinViewer.zone = some card ∧ ¬ twinViewer.Opens card.id a := by
  refine ⟨twinAlbums[1], _, parse_twinFeed, List.mem_cons_of_mem _ List.mem_cons_self, rfl, ?_⟩
  rintro ⟨view, w, hopen, hshows, -⟩
  cases hopen
  have hdescription := hshows.description
  revert hdescription
  decide

/-- The third, behind the two, is opened by its card. -/
theorem opens_own_card_behind_twins : ∃ before after a card,
    Feed.parse twinFeed = .ok twinViewer.gallery.albums ∧ twinViewer.gallery.albums = before ++ a :: after ∧
    before.map (·.id) = ["1", "1"] ∧ a.card twinViewer.zone = some card ∧
    (card.id, card.date) = ("2", "05/01/2024 00:00") ∧ (∀ b ∈ before, b.id = a.id → b = a) ∧
    twinViewer.Opens card.id a ∧ a.folders.map a.folderImages = [["p/cara/1.jpg"]] := by
  have hlist : twinViewer.gallery.albums = twinAlbums.take 2 ++ twinAlbums[2] :: [] := rfl
  have hfirst : ∀ b ∈ twinAlbums.take 2, b.id = twinAlbums[2].id → b = twinAlbums[2] := by decide
  obtain ⟨card, hcard, hshown⟩ : ∃ card, twinAlbums[2].card twinViewer.zone = some card ∧
      (card.id, card.date) = ("2", "05/01/2024 00:00") := ⟨_, rfl, rfl⟩
  have hopens := (opens_own_card parse_twinFeed hlist hcard).1 hfirst
  exact ⟨twinAlbums.take 2, [], twinAlbums[2], card, parse_twinFeed, hlist, rfl, hcard, hshown, hfirst, hopens, rfl⟩

end Viewer

end AlbumBrowser
