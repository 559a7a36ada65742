import AlbumBrowser.View

/-!
Browsing the album that is open. An open album keeps the key of its folder, the images of that folder and
the cursor side by side. Whatever the operations on a gallery and their order, the three agree: the images
are those of the first folder with the key, and the cursor points at one of them or there are none. What
a view says of the folder, the image and its position follows from this.
-/

namespace AlbumBrowser

theorem Album.key_of_folder? {a : Album} {key : String} {f : Folder} (h : a.folder? key = some f) :
    f.key = key := by
  have hkey := List.find?_some h
  exact of_decide_eq_true hkey

theorem Album.mem_of_folder? {a : Album} {key : String} {f : Folder} (h : a.folder? key = some f) :
    f ∈ a.folders := List.mem_of_find?_eq_some h

namespace OpenAlbum

/-- The images and the cursor of an open album agree with the chosen folder. -/
structure Sound (o : OpenAlbum) : Prop where
  images_of_none : o.folder = none → o.images = []
  images_of_some : ∀ key, o.folder = some key →
    ∃ f, o.album.folder? key = some f ∧ o.images = o.album.folderImages f
  cursor_lt : o.images ≠ [] → o.cursor < o.images.length
  cursor_of_nil : o.images = [] → o.cursor = 0

theorem sound_mk (a : Album) : ({ album := a } : OpenAlbum).Sound where
  images_of_none _ := rfl
  images_of_some key h := by cases h
  cursor_lt h := absurd rfl h
  cursor_of_nil _ := rfl

/-- A chosen folder is sound whatever was open before. -/
theorem sound_of_select? {o o' : OpenAlbum} {key : String} (h : o.select? key = some o') : o'.Sound := by
  obtain ⟨f, hf, rfl⟩ := Option.map_eq_some_iff.mp h
  constructor
  · intro hnone
    cases hnone
  · intro k hk
    cases hk
    rw [Album.key_of_folder? hf]
    exact ⟨f, hf, rfl⟩
  · exact List.length_pos_iff.mpr
  · exact fun _ => rfl

theorem Sound.move {o : OpenAlbum} (h : o.Sound) {rule : Nat → Nat → Nat}
    (hrule : ∀ count cursor, 0 < count → rule count cursor < count) : (o.move rule).Sound := by
  unfold OpenAlbum.move
  split
  · rename_i hmoves
    refine ⟨h.images_of_none, h.images_of_some, ?_, fun hnil => absurd hnil hmoves.2⟩
    intro hne
    exact hrule _ _ (List.length_pos_iff.mpr hne)
  · exact h

theorem Sound.next {o : OpenAlbum} (h : o.Sound) : o.next.Sound :=
  h.move fun _ _ hpos => Nat.mod_lt _ hpos

theorem Sound.prev {o : OpenAlbum} (h : o.Sound) : o.prev.Sound :=
  h.move fun _ _ hpos => Nat.mod_lt _ hpos

/-- There is a current image as soon as there are images. -/
theorem Sound.image?_isSome_iff {o : OpenAlbum} (h : o.Sound) : o.image?.isSome ↔ o.images ≠ [] := by
  rw [image?, isSome_getElem?]
  constructor
  · intro hlt hnil
    rw [hnil] at hlt
    exact absurd hlt (Nat.not_lt_zero _)
  · exact h.cursor_lt

/-- Images come from a folder. -/
theorem Sound.folder_isSome {o : OpenAlbum} (h : o.Sound) (hne : o.images ≠ []) : o.folder.isSome := by
  cases hfolder : o.folder with
  | none => exact absurd (h.images_of_none hfolder) hne
  | some key => rfl

end OpenAlbum

/-- What a view says of the place in an album: the folder is one of its buttons and counts the images with
the folder's label, and the image is the one at the position among them. Without images there is nothing to
step through. -/
structure AlbumView.Places (view : AlbumView) (a : Album) : Prop where
  total_of_some : ∀ key, view.activeFolder = some key →
    ∃ f, a.folder? key = some f ∧ ⟨f.label, key⟩ ∈ view.folders ∧
      view.total = (a.images.filter fun image => Text.occursIn f.label.toList image.toList).length
  total_of_none : view.activeFolder = none → view.total = 0
  position_pos_iff : 1 ≤ view.position ↔ view.image.isSome
  total_pos_iff : 1 ≤ view.total ↔ view.image.isSome
  showNavigation_iff : view.showNavigation = true ↔ view.image.isSome
  position_le : view.position ≤ view.total
  image_of_some : ∀ image, view.image = some image →
    ∃ key f, view.activeFolder = some key ∧ a.folder? key = some f ∧
      (a.folderImages f)[view.position - 1]? = some image

theorem OpenAlbum.view_ne_none_iff {o : OpenAlbum} {zone : ViewerZone} :
    o.view zone ≠ none ↔ zone.display o.album.timestamp ≠ none := by
  cases hdate : zone.display o.album.timestamp <;> simp [view, hdate]

theorem OpenAlbum.Sound.places {o : OpenAlbum} (h : o.Sound) {zone : ViewerZone} {view : AlbumView}
    (hview : o.view zone = some view) : view.Places o.album := by
  obtain ⟨date, -, hview⟩ := Option.bind_eq_some_iff.mp hview
  cases hview
  constructor
  · intro key hkey
    obtain ⟨f, hf, himages⟩ := h.images_of_some key hkey
    refine ⟨f, hf, ?_, congrArg List.length himages⟩
    rw [← Album.key_of_folder? hf]
    exact List.mem_map_of_mem (Album.mem_of_folder? hf)
  · intro hnone
    rw [h.images_of_none hnone]
    rfl
  · change 1 ≤ (if o.image?.isSome then o.cursor + 1 else 0) ↔ o.image?.isSome = true
    split <;> simp_all
  · change 1 ≤ o.images.length ↔ o.image?.isSome = true
    rw [h.image?_isSome_iff]
    exact List.length_pos_iff
  · change (o.folder.isSome && decide (o.images ≠ [])) = true ↔ o.image?.isSome = true
    rw [h.image?_isSome_iff, Bool.and_eq_true, decide_eq_true_iff]
    exact ⟨And.right, fun hne => ⟨h.folder_isSome hne, hne⟩⟩
  · change (if o.image?.isSome then o.cursor + 1 else 0) ≤ o.images.length
    split
    · rename_i hsome
      exact h.cursor_lt (h.image?_isSome_iff.mp hsome)
    · exact Nat.zero_le _
  · intro image himage
    change o.image? = some image at himage
    have hsome : o.image?.isSome = true := by rw [himage]; rfl
    obtain ⟨key, hkey⟩ := Option.isSome_iff_exists.mp (h.folder_isSome (h.image?_isSome_iff.mp hsome))
    obtain ⟨f, hf, himages⟩ := h.images_of_some key hkey
    refine ⟨key, f, hkey, hf, ?_⟩
    change (o.album.folderImages f)[(if o.image?.isSome then o.cursor + 1 else 0) - 1]? = some image
    rw [← himages, if_pos hsome]
    exact himage

namespace Gallery

/-- What can be done to a gallery. -/
inductive Operation where
  | replace (albums : List Album)
  | setVisible (albums : List Album)
  | openAlbum (a : Album)
  | select (key : String)
  | next
  | prev
  | close

/-- The operations that concern the open album only. -/
def Operation.browses : Operation → Bool
  | .replace _ | .setVisible _ => false
  | .openAlbum _ | .select _ | .next | .prev | .close => true

/-- The gallery after an operation; choosing a folder that is not there changes nothing. -/
def perform (g : Gallery) : Operation → Gallery
  | .replace albums => g.replace albums
  | .setVisible albums => g.setVisible albums
  | .openAlbum a => g.openAlbum a
  | .select key => (g.select? key).getD g
  | .next => g.next
  | .prev => g.prev
  | .close => g.close

def run (g : Gallery) (ops : List Operation) : Gallery := ops.foldl perform g

/-- The galleries that operations lead to from an empty one. -/
def Reached (g : Gallery) : Prop := ∃ ops, g = ({} : Gallery).run ops

theorem reached_empty : ({} : Gallery).Reached := ⟨[], rfl⟩

theorem Reached.perform {g : Gallery} (h : g.Reached) (op : Operation) : (g.perform op).Reached := by
  obtain ⟨ops, rfl⟩ := h
  refine ⟨ops ++ [op], ?_⟩
  rw [run, run, List.foldl_append]
  rfl

/-- Browsing leaves both lists alone. -/
theorem lists_of_browses {op : Operation} (h : op.browses = true) (g : Gallery) :
    (g.perform op).albums = g.albums ∧ (g.perform op).visible = g.visible := by
  cases op with
  | replace => cases h
  | setVisible => cases h
  | select key =>
      change ((g.select? key).getD g).albums = _ ∧ ((g.select? key).getD g).visible = _
      unfold select?
      cases g.opened.bind (·.select? key) <;> exact ⟨rfl, rfl⟩
  | _ => exact ⟨rfl, rfl⟩

def Sound (g : Gallery) : Prop := ∀ o, g.opened = some o → o.Sound

theorem Sound.perform {g : Gallery} (h : g.Sound) (op : Operation) : (g.perform op).Sound := by
  intro o ho
  cases op with
  | replace | setVisible => exact h o ho
  | openAlbum a =>
      cases ho
      exact OpenAlbum.sound_mk a
  | select key =>
      change ((g.select? key).getD g).opened = some o at ho
      unfold select? at ho
      cases hselect : g.opened.bind (·.select? key) with
      | none =>
          rw [hselect] at ho
          exact h o ho
      | some chosen =>
          rw [hselect] at ho
          cases ho
          obtain ⟨before, -, hchosen⟩ := Option.bind_eq_some_iff.mp hselect
          exact OpenAlbum.sound_of_select? hchosen
  | next =>
      obtain ⟨before, hbefore, rfl⟩ := Option.map_eq_some_iff.mp ho
      exact (h before hbefore).next
  | prev =>
      obtain ⟨before, hbefore, rfl⟩ := Option.map_eq_some_iff.mp ho
      exact (h before hbefore).prev
  | close => cases ho

theorem Sound.run {g : Gallery} (h : g.Sound) (ops : List Operation) : (g.run ops).Sound := by
  induction ops generalizing g with
  | nil => exact h
  | cons op ops ih => exact ih (h.perform op)

theorem Reached.sound {g : Gallery} (h : g.Reached) : g.Sound := by
  obtain ⟨ops, rfl⟩ := h
  apply Sound.run
  intro o ho
  cases ho

theorem phase_eq_closed_iff {g : Gallery} : g.phase = .closed ↔ g.opened = none := by
  unfold phase
  cases g.opened with
  | none => exact iff_of_true rfl rfl
  | some o => cases hfolder : o.folder <;> simp [hfolder]

theorem albumView_eq_some_none_iff {g : Gallery} {zone : ViewerZone} :
    g.albumView zone = some none ↔ g.phase = .closed := by
  rw [phase_eq_closed_iff, albumView]
  cases g.opened with
  | none => exact iff_of_true rfl rfl
  | some o => simp

theorem albumView_of_opened {g : Gallery} {zone : ViewerZone} {o : OpenAlbum} (h : g.opened = some o) :
    g.albumView zone = (o.view zone).map some := by
  unfold albumView
  rw [h]

/-- What is open in a sound gallery has a view that places its image, unless its time cannot be shown. -/
theorem Sound.exists_view {g : Gallery} (hg : g.Sound) {zone : ViewerZone} {o : OpenAlbum} (ho : g.opened = some o)
    (hdate : zone.display o.album.timestamp ≠ none) :
    ∃ view, g.albumView zone = some (some view) ∧ view.Places o.album := by
  obtain ⟨view, hview⟩ := Option.ne_none_iff_exists'.mp (OpenAlbum.view_ne_none_iff.mpr hdate)
  refine ⟨view, ?_, (hg o ho).places hview⟩
  rw [albumView_of_opened ho, hview]
  rfl

end Gallery

end AlbumBrowser
