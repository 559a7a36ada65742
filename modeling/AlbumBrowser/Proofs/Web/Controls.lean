import AlbumBrowser.Proofs.Web.ReadBack

/-!
What a page shows can be pressed. A page names an album by the id on its card and a folder by the key on its
button, both written into the query of a request; whatever characters they are made of, they are read back.
The id finds a loaded album, shown or not, and this album can be shown, since no card would have been drawn
beside it otherwise; the key finds the very folder of the button, as no other folder has the same key.
-/

namespace AlbumBrowser

variable {zone : ViewerZone}

namespace Album

variable {a : Album} {card : Card}

theorem exists_of_mem_cards {albums : List Album} {cards : List Card} (h : albums.mapM (·.card zone) = some cards)
    (hcard : card ∈ cards) : ∃ a ∈ albums, a.card zone = some card := by
  induction albums generalizing cards with
  | nil =>
      cases h
      cases hcard
  | cons a albums ih =>
      rw [List.mapM_cons] at h
      obtain ⟨first, hfirst, hrest⟩ := Option.bind_eq_some_iff.mp h
      obtain ⟨rest, hmore, heq⟩ := Option.bind_eq_some_iff.mp hrest
      cases heq
      rcases List.mem_cons.mp hcard with rfl | hcard
      · exact ⟨a, List.mem_cons_self, hfirst⟩
      · obtain ⟨b, hb, hdrawn⟩ := ih hmore hcard
        exact ⟨b, List.mem_cons_of_mem a hb, hdrawn⟩

theorem names_of_card (h : a.card zone = some card) : card.id = a.id ∧ card.label = Label.ofId a.id := by
  obtain ⟨date, -, heq⟩ := Option.bind_eq_some_iff.mp h
  cases heq
  exact ⟨rfl, rfl⟩

theorem exists_view_of_not_beyond (h : ¬ a.Beyond zone) : ∃ view, OpenAlbum.view { album := a } zone = some view := by
  rw [Beyond, ← ViewerZone.display_eq_none_iff] at h
  exact Option.ne_none_iff_exists'.mp (OpenAlbum.view_ne_none_iff.mpr h)

end Album

namespace OpenAlbum

variable {o o' : OpenAlbum} {view : AlbumView}

theorem names_of_view (h : o.view zone = some view) :
    view.id = o.album.id ∧ view.title = Label.ofId o.album.id := by
  obtain ⟨date, -, heq⟩ := Option.bind_eq_some_iff.mp h
  cases heq
  exact ⟨rfl, rfl⟩

theorem folders_of_view (h : o.view zone = some view) :
    view.folders = o.album.folders.map fun f => ⟨f.label, f.key⟩ := by
  obtain ⟨date, -, heq⟩ := Option.bind_eq_some_iff.mp h
  cases heq
  rfl

/-- An album that has just been opened is at no image of none. -/
theorem counted_of_view {a : Album} (h : OpenAlbum.view { album := a } zone = some view) : view.Counted := by
  obtain ⟨date, -, heq⟩ := Option.bind_eq_some_iff.mp h
  cases heq
  have hzero : 0 < UInt64.size := by decide
  exact ⟨hzero, hzero⟩

/-- A folder that has just been chosen is shown at its first image, if it has any. -/
theorem view_of_select? {key : String} {f : Folder} (hf : o.album.folder? key = some f) (h : o.select? key = some o')
    (hview : o'.view zone = some view) :
    view.activeFolder = some key ∧ view.position = (if o.album.folderImages f = [] then 0 else 1) ∧
      view.total = (o.album.folderImages f).length := by
  obtain ⟨g, hg, rfl⟩ := Option.map_eq_some_iff.mp h
  rw [hf] at hg
  cases hg
  obtain ⟨date, -, heq⟩ := Option.bind_eq_some_iff.mp hview
  cases heq
  refine ⟨congrArg some (Album.key_of_folder? hf), ?_, rfl⟩
  change (if ((o.album.folderImages f)[0]?).isSome then 0 + 1 else 0) = _
  cases o.album.folderImages f <;> rfl

/-- A folder whose key is no other one's can be chosen, and is shown if the album was. -/
theorem exists_select? (hkeys : (o.album.folders.map (·.key)).Nodup) {f : Folder} (hf : f ∈ o.album.folders)
    (hview : o.view zone = some view) :
    ∃ o' chosen, o.select? f.key = some o' ∧ o'.view zone = some chosen := by
  have hselect : o.select? f.key =
      some { o with folder := some f.key, images := o.album.folderImages f, cursor := 0 } := by
    rw [select?, Album.folder?_of_mem hkeys hf]
    rfl
  obtain ⟨chosen, hchosen⟩ := exists_view hview (album_of_select? hselect)
  exact ⟨_, chosen, hselect, hchosen⟩

end OpenAlbum

namespace Viewer

variable {v : Viewer}

/-- The id on a card finds an album with the name on the card, and one that can be shown. -/
theorem InStep.find?_of_mem_cards (hv : v.InStep) {view : GalleryView} (hview : v.galleryView = some view)
    {card : Card} (hcard : card ∈ view.cards) :
    ∃ a, v.gallery.find? card.id = some a ∧ a.id = card.id ∧ card.label = Label.ofId card.id ∧ ¬ a.Beyond v.zone := by
  obtain ⟨b, hb, hdrawn⟩ := Album.exists_of_mem_cards (galleryView_eq_some hview).1 hcard
  obtain ⟨hid, hlabel⟩ := Album.names_of_card hdrawn
  -- Several albums may have the id; the first of them need not be the one that is shown.
  have hsome : (v.gallery.find? card.id).isSome := by
    rw [Gallery.find?, List.find?_isSome]
    exact ⟨b, hv.sublist.subset hb, decide_eq_true hid.symm⟩
  obtain ⟨a, ha⟩ := Option.isSome_iff_exists.mp hsome
  refine ⟨a, ha, ?_, hid ▸ hlabel, ?_⟩
  · have hfound := List.find?_some ha
    exact of_decide_eq_true hfound
  · have hdrawable : v.galleryView ≠ none := Option.ne_none_iff_exists'.mpr ⟨view, hview⟩
    exact hv.not_beyond hdrawable (List.mem_of_find?_eq_some ha)

theorem opened_of_albumView {view : AlbumView} (h : v.albumView = some (some view)) :
    ∃ o, v.gallery.opened = some o ∧ o.view v.zone = some view := by
  unfold albumView Gallery.albumView at h
  split at h
  · cases h
  · rename_i o ho
    obtain ⟨shown, hshown, heq⟩ := Option.map_eq_some_iff.mp h
    cases heq
    exact ⟨o, ho, hshown⟩

end Viewer

namespace Web.Server

open Viewer

variable {source : String} {s : Server} {o : OpenAlbum}

theorem showing_eq_self (h : s.viewer.gallery.opened = some o) : s.showing o = s := by
  obtain ⟨⟨source, zone, ⟨albums, visible, opened⟩, criteria, issued, applied⟩, page⟩ := s
  cases h
  rfl

/-- A card that is shown opens the first loaded album with its id. -/
theorem handle_opening_card (hs : s.InService source zone) {gallery : GalleryView}
    (hgallery : s.viewer.galleryView = some gallery) {card : Card} (hcard : card ∈ gallery.cards) :
    ∃ (a : Album) (view : AlbumView) (response : Response),
      s.viewer.gallery.albums.find? (·.id = card.id) = some a ∧ view.id = card.id ∧ view.title = card.label ∧
      OpenAlbum.view { album := a } zone = some view ∧ view.Counted ∧ response.ShowsAlbum view ∧
      ∀ fetched, s.handle fetched (.posting "/api/open" [("id", card.id)]) =
        some (response, s.showing { album := a }) := by
  obtain ⟨a, hfound, hid, hlabel, hplaced⟩ := hs.inStep.find?_of_mem_cards hgallery hcard
  obtain ⟨view, hview⟩ := Album.exists_view_of_not_beyond hplaced
  obtain ⟨hviewId, htitle⟩ := OpenAlbum.names_of_view hview
  refine ⟨a, view, _, hfound, hviewId.trans hid, ?_, hs.zone_eq ▸ hview, OpenAlbum.counted_of_view hview,
    Response.showsAlbum_ok view, ?_⟩
  · rw [htitle, hlabel, ← hid]
  · intro fetched
    rw [handle_of_asks (Request.posting_asks_openAlbum card.id), answerTo_openAlbum hfound, hview]
    rfl

/-- A button that is shown chooses the folder that it was made from. -/
theorem handle_pressing_button (hs : s.InService source zone) (ho : s.viewer.gallery.opened = some o)
    {opened : AlbumView} (hopened : o.view s.viewer.zone = some opened) {i : Nat} {button : FolderButton}
    (hbutton : opened.folders[i]? = some button) :
    ∃ (f : Folder) (o' : OpenAlbum) (view : AlbumView) (response : Response),
      o.album.folders[i]? = some f ∧ button = ⟨f.label, f.key⟩ ∧ o.select? button.key = some o' ∧
      view.activeFolder = some button.key ∧
      view.position = (if o.album.folderImages f = [] then 0 else 1) ∧
      view.total = (o.album.folderImages f).length ∧ response.ShowsAlbum view ∧
      ∀ fetched, s.handle fetched (.posting "/api/folder" [("key", button.key)]) =
        some (response, s.showing o') := by
  rw [OpenAlbum.folders_of_view hopened, List.getElem?_map] at hbutton
  obtain ⟨f, hf, rfl⟩ := Option.map_eq_some_iff.mp hbutton
  obtain ⟨members, halbum⟩ := hs.holds.opened o.album (congrArg (·.map (·.album)) ho)
  have hkeys : (o.album.folders.map (·.key)).Nodup := halbum ▸ Album.nodup_keys_ofMembers members
  have hfolder := Album.folder?_of_mem hkeys (List.mem_of_getElem? hf)
  obtain ⟨o', view, hselect, hchosen⟩ := OpenAlbum.exists_select? hkeys (List.mem_of_getElem? hf) hopened
  obtain ⟨hactive, hposition, htotal⟩ := OpenAlbum.view_of_select? hfolder hselect hchosen
  refine ⟨f, o', view, _, hf, rfl, hselect, hactive, hposition, htotal, Response.showsAlbum_ok view, ?_⟩
  intro fetched
  have hanswer := answerTo_selectFolder (s := s) hopened hselect
  rw [showing_eq_self ho] at hanswer
  rw [handle_of_asks (Request.posting_asks_selectFolder f.key), hanswer, hchosen]
  rfl

/-- In a server in service every card and every button works. The gallery that is shown can be got, and to press
one of its cards opens the first loaded album with the card's id: what is read in the answer has the id and
the label of the card. An open album that is shown can be got too, and to press one of its buttons chooses
the folder of just that button: what is read in the answer has the key of the button, counts the images of
the folder, and is at the first of them, if there is any. -/
theorem controls_work (hs : s.InService source zone) :
    (∀ gallery, s.viewer.galleryView = some gallery →
      (∃ response, s.Gives .gallery response ∧ response.ShowsGallery gallery) ∧
      ∀ card ∈ gallery.cards, ∃ (a : Album) (view : AlbumView) (response : Response),
        s.viewer.gallery.albums.find? (·.id = card.id) = some a ∧ view.id = card.id ∧ view.title = card.label ∧
        OpenAlbum.view { album := a } zone = some view ∧ view.Counted ∧ response.ShowsAlbum view ∧
        ∀ fetched, s.handle fetched (.posting "/api/open" [("id", card.id)]) =
          some (response, s.showing { album := a })) ∧
    ∀ opened, s.viewer.albumView = some (some opened) →
      (∃ response, s.Gives .album response ∧ response.ShowsAlbum opened) ∧
      ∃ o, s.viewer.gallery.opened = some o ∧ o.view zone = some opened ∧
        ∀ (i : Nat) button, opened.folders[i]? = some button →
          ∃ (f : Folder) (o' : OpenAlbum) (view : AlbumView) (response : Response),
            o.album.folders[i]? = some f ∧ button = ⟨f.label, f.key⟩ ∧ o.select? button.key = some o' ∧
            view.activeFolder = some button.key ∧
            view.position = (if o.album.folderImages f = [] then 0 else 1) ∧
            view.total = (o.album.folderImages f).length ∧ response.ShowsAlbum view ∧
            ∀ fetched, s.handle fetched (.posting "/api/folder" [("key", button.key)]) =
              some (response, s.showing o') := by
  refine ⟨?_, ?_⟩
  · intro gallery hgallery
    refine ⟨⟨_, gives_gallery hgallery, Response.showsGallery_ok gallery⟩, ?_⟩
    exact fun card hcard => handle_opening_card hs hgallery hcard
  · intro opened hopened
    obtain ⟨o, ho, hview⟩ := opened_of_albumView hopened
    refine ⟨⟨_, gives_album hopened, Response.showsAlbum_ok opened⟩, o, ho, hs.zone_eq ▸ hview, ?_⟩
    exact fun i button hbutton => handle_pressing_button hs ho hview hbutton

/-- The card of an album whose id has to be escaped, and the button of its folder, which has no name. -/
theorem controls_work_in_sampleServer :
    ∃ (gallery : GalleryView) (card : Card) (view chosen : AlbumView) (response pressed : Response) (s s' : Server),
      sampleServer.InService "albums.json" Zone.utc ∧ sampleServer.viewer.galleryView = some gallery ∧
      card ∈ gallery.cards ∧ card.id = "a&b=c?d%e+f" ∧
      (Request.posting "/api/open" [("id", card.id)]).target = "/api/open?id=a%26b%3Dc%3Fd%25e%2Bf" ∧
      sampleServer.handle (.ok []) (.posting "/api/open" [("id", card.id)]) = some (response, s) ∧
      response.status = 200 ∧ AlbumView.read? response.body = some view ∧
      view.id = card.id ∧ view.title = card.label ∧ view.folders = [⟨"cara", ""⟩] ∧
      (Request.posting "/api/folder" [("key", "")]).target = "/api/folder?key=" ∧
      s.handle (.ok []) (.posting "/api/folder" [("key", "")]) = some (pressed, s') ∧
      pressed.status = 200 ∧ AlbumView.read? pressed.body = some chosen ∧
      chosen.activeFolder = some "" ∧ (chosen.position, chosen.total) = (1, 1) := by
  obtain ⟨gallery, card, hgallery, hcard, hid⟩ : ∃ gallery card, sampleServer.viewer.galleryView = some gallery ∧
      gallery.cards[0]? = some card ∧ card.id = "a&b=c?d%e+f" := ⟨_, _, rfl, rfl, rfl⟩
  have hmem := List.mem_of_getElem? hcard
  obtain ⟨-, hcards⟩ := (controls_work inService_sampleServer).1 gallery hgallery
  obtain ⟨a, view, response, hfound, hview, htitle, hshown, hcounted, ⟨hsucceeds, hread⟩, hopens⟩ := hcards card hmem
  rw [hid] at hfound
  cases hfound
  cases hshown
  have hbrings : Feed.Brings (.error .notAList) := fun _ h => by cases h
  have hs := inService_sampleServer.handle hbrings (hopens _)
  obtain ⟨-, o, ho, -, hbuttons⟩ := (controls_work hs).2 _ rfl
  cases ho
  obtain ⟨f, o', chosen, pressed, hf, hbutton, -, hactive, hposition, htotal, ⟨hpressedWell, hpressedRead⟩, hpressed⟩ :=
    hbuttons 0 ⟨"cara", ""⟩ rfl
  cases hf
  have hat : (chosen.position, chosen.total) = (1, 1) := by
    rw [hposition, htotal]
    rfl
  obtain ⟨hfirst, hone⟩ := Prod.mk.inj hat
  have hchosen : chosen.Counted := ⟨by rw [hfirst]; decide, by rw [hone]; decide⟩
  refine ⟨gallery, card, _, chosen, response, pressed, _, _, inService_sampleServer, hgallery, hmem, hid, ?_, hopens _,
    hsucceeds.status, hread hcounted, hview, htitle, rfl, by decide +kernel, hpressed _,
    hpressedWell.status, hpressedRead hchosen, hactive, hat⟩
  rw [hid]
  decide +kernel

end Web.Server

end AlbumBrowser
