import AlbumBrowser.Proofs.Album.Members
import Mathlib.Data.List.Infix

/-!
Which images a folder selects. Its label is what stands behind the last slash of its path, and it selects the images that
have the label somewhere in them: all of them, in their order, and among them every one that has the whole path. A path
that ends in a slash has nothing behind it, and then the folder selects every image of the album.
-/

namespace AlbumBrowser

open Text

namespace Text

variable {separator : Char} {s piece : List Char}

/-- The last piece has no separator, and it is the whole text or stands behind one. -/
theorem lastPiece_eq_iff : lastPiece separator s = piece ↔
    separator ∉ piece ∧ (s = piece ∨ ∃ before, s = before ++ separator :: piece) := by
  constructor
  · rintro rfl
    by_cases hs : separator ∈ s
    · -- The last separator of a text is the first one of the text read backwards.
      obtain ⟨after, before, hreverse, hafter⟩ := List.eq_append_cons_of_mem (List.mem_reverse.mpr hs)
      have hsplit : s = before.reverse ++ separator :: after.reverse := by
        rw [← List.reverse_reverse s, hreverse]
        simp
      have hlast : separator ∉ after.reverse := fun h => hafter (List.mem_reverse.mp h)
      rw [hsplit, lastPiece_append hlast]
      exact ⟨hlast, Or.inr ⟨before.reverse, rfl⟩⟩
    · rw [lastPiece_of_notMem hs]
      exact ⟨hs, Or.inl rfl⟩
  · rintro ⟨hpiece, rfl | ⟨before, rfl⟩⟩
    · exact lastPiece_of_notMem hpiece
    · exact lastPiece_append hpiece before

end Text

variable {f g : Folder} {image : String}

namespace Folder

theorem toList_label (f : Folder) : f.label.toList = lastPiece '/' f.path.toList := String.toList_ofList

/-- The label is the last segment of the path. -/
theorem label_last (f : Folder) : '/' ∉ f.label.toList ∧
    (f.path.toList = f.label.toList ∨ ∃ before, f.path.toList = before ++ '/' :: f.label.toList) :=
  lastPiece_eq_iff.mp (toList_label f).symm

theorem label_suffix (f : Folder) : f.label.toList <:+ f.path.toList := by
  rcases (label_last f).2 with hpath | ⟨before, hpath⟩
  · exact ⟨[], by rw [List.nil_append, hpath]⟩
  · rw [hpath]
    exact (List.suffix_cons _ _).trans (List.suffix_append _ _)

theorem contains_iff : f.contains image = true ↔ f.label.toList <:+: image.toList := occursIn_iff

theorem label_eq_empty_iff : f.label = "" ↔ f.path = "" ∨ ∃ before, f.path = before ++ "/" := by
  rw [← String.toList_inj, toList_label, String.toList_empty, lastPiece_eq_iff, and_iff_right List.not_mem_nil]
  refine or_congr String.toList_eq_nil_iff ⟨?_, ?_⟩
  · rintro ⟨before, hpath⟩
    refine ⟨String.ofList before, String.toList_injective ?_⟩
    rw [hpath, String.toList_append, String.toList_ofList]
    rfl
  · rintro ⟨before, hpath⟩
    refine ⟨before.toList, ?_⟩
    rw [hpath, String.toList_append]
    rfl

/-- Behind a slash there is no label. -/
theorem label_slash (f : Folder) : ({ f with path := f.path ++ "/" } : Folder).label = "" :=
  label_eq_empty_iff.mpr (Or.inr ⟨f.path, rfl⟩)

theorem contains_of_label_empty (h : f.label = "") (image : String) : f.contains image = true := by
  rw [contains_iff, h]
  exact List.nil_infix

/-- A label that is there is missing in some image. -/
theorem label_eq_empty_of_forall (h : ∀ image, f.contains image = true) : f.label = "" := by
  have hempty := contains_iff.mp (h "")
  rwa [String.toList_empty, List.infix_nil, String.toList_eq_nil_iff] at hempty

end Folder

namespace Album

variable (a : Album)

theorem folderImages_eq_filter (f : Folder) :
    a.folderImages f = a.images.filter fun image => f.label.toList <:+: image.toList := by
  refine List.filter_congr fun image _ => ?_
  rw [Bool.eq_iff_iff, Folder.contains_iff, decide_eq_true_eq]

theorem folderImages_of_label_empty (h : f.label = "") : a.folderImages f = a.images :=
  List.filter_eq_self.mpr fun image _ => Folder.contains_of_label_empty h image

/-- A folder selects, in their order, all the images of an album that have its label in them. The label is the last segment
of the folder's path, so that every image with the whole path is among them. And the folder of a label that is part of
another one selects all that the other selects. -/
theorem selects_by_last_segment (f g : Folder) :
    (a.folderImages f = a.images.filter fun image => f.label.toList <:+: image.toList) ∧
    '/' ∉ f.label.toList ∧
    (f.path.toList = f.label.toList ∨ ∃ before, f.path.toList = before ++ '/' :: f.label.toList) ∧
    f.label.toList <:+ f.path.toList ∧
    (∀ image ∈ a.images, f.path.toList <:+: image.toList → image ∈ a.folderImages f) ∧
    (f.label.toList <:+: g.label.toList → (a.folderImages g).Sublist (a.folderImages f)) := by
  obtain ⟨hslash, hlast⟩ := Folder.label_last f
  refine ⟨a.folderImages_eq_filter f, hslash, hlast, f.label_suffix, ?_, ?_⟩
  · intro image himage hpath
    have hlabel : f.label.toList <:+: image.toList := f.label_suffix.isInfix.trans hpath
    exact List.mem_filter.mpr ⟨himage, Folder.contains_iff.mpr hlabel⟩
  · intro hlabel
    refine List.monotone_filter_right _ fun image hg => ?_
    exact Folder.contains_iff.mpr (hlabel.trans (Folder.contains_iff.mp hg))

/-- Folders whose names overlap share images. -/
example : let a : Album := ⟨"1", none, none, [], ["p/cara/1.jpg", "p/caras/2.jpg"]⟩
    a.folderImages ⟨"cara", "p/cara"⟩ = ["p/cara/1.jpg", "p/caras/2.jpg"] ∧
    a.folderImages ⟨"caras", "p/caras"⟩ = ["p/caras/2.jpg"] := by decide +kernel

end Album

namespace Feed

variable {text : String} {albums : List Album} {a : Album}

/-- The folders of a loaded album have paths. -/
theorem path_ne_empty_of_parse (h : parse text = .ok albums) (ha : a ∈ albums) (hf : f ∈ a.folders) : f.path ≠ "" := by
  obtain ⟨members, rfl⟩ := mem_of_parse h ha
  obtain ⟨member, -, hfolder⟩ := List.mem_filterMap.mp hf
  exact (Album.Record.folder?_eq_some_iff.mp hfolder).2.2

/-- A folder of a loaded album is without a label exactly if its path ends in a slash, and exactly then it selects every
image there is. So a slash behind the path of any folder takes its label away, and all images of every album are
selected, whatever the path selects without it. -/
theorem vacuous_exactly_behind_slash (h : parse text = .ok albums) (ha : a ∈ albums) (hf : f ∈ a.folders) :
    (f.label = "" ↔ ∃ before, f.path = before ++ "/") ∧
    ((∀ image, f.contains image = true) ↔ ∃ before, f.path = before ++ "/") ∧
    ({ f with path := f.path ++ "/" } : Folder).label = "" ∧
    ∀ b : Album, b.folderImages { f with path := f.path ++ "/" } = b.images := by
  have hlabel : f.label = "" ↔ ∃ before, f.path = before ++ "/" := by
    rw [Folder.label_eq_empty_iff, or_iff_right (path_ne_empty_of_parse h ha hf)]
  refine ⟨hlabel, ?_, f.label_slash, fun b => b.folderImages_of_label_empty f.label_slash⟩
  rw [← hlabel]
  exact ⟨Folder.label_eq_empty_of_forall, Folder.contains_of_label_empty⟩

/-- A record with a folder whose path ends in a slash, and one whose path does not. -/
def slashFeed : String :=
  "[\x7b\"ID\":1,\"ruta_cara\":\"p/cara/\",\"ruta_cuerpo\":\"p/cuerpo\"," ++
    "\"imagenes\":[\"p/cara/1.jpg\",\"p/cuerpo/1.jpg\"]\x7d]"

def slashAlbum : Album :=
  ⟨"1", none, none, [⟨"cara", "p/cara/"⟩, ⟨"cuerpo", "p/cuerpo"⟩], ["p/cara/1.jpg", "p/cuerpo/1.jpg"]⟩

theorem parse_slashFeed : parse slashFeed = .ok [slashAlbum] := by decide +kernel

theorem vacuous_exactly_behind_slash_in_slashFeed : ∃ f, parse slashFeed = .ok [slashAlbum] ∧
    slashAlbum ∈ [slashAlbum] ∧ f ∈ slashAlbum.folders ∧ f.key = "cuerpo" ∧ f.label ≠ "" ∧
    (¬ ∀ image, f.contains image = true) ∧
    slashAlbum.folderImages { f with path := f.path ++ "/" } = ["p/cara/1.jpg", "p/cuerpo/1.jpg"] := by
  have ha : slashAlbum ∈ [slashAlbum] := List.mem_singleton_self _
  have hf : ⟨"cuerpo", "p/cuerpo"⟩ ∈ slashAlbum.folders := by decide
  obtain ⟨hlabel, hall, -, himages⟩ := vacuous_exactly_behind_slash parse_slashFeed ha hf
  have hslash : ¬ ∃ before, "p/cuerpo" = before ++ "/" := by
    rintro ⟨before, hpath⟩
    have hlast : "p/cuerpo".toList.getLast? = some '/' := by
      rw [hpath, String.toList_append]
      exact List.getLast?_concat
    exact absurd hlast (by decide)
  exact ⟨_, parse_slashFeed, ha, hf, rfl, fun h => hslash (hlabel.mp h), fun h => hslash (hall.mp h), himages _⟩

/-- The folder of the path with the slash has no label and selects an image of the other folder, which the same path without
the slash does not. -/
theorem trailing_slash_selects_all : ∃ f, parse slashFeed = .ok [slashAlbum] ∧ f ∈ slashAlbum.folders ∧
    f.path = "p/cara/" ∧ f.label = "" ∧ slashAlbum.folderImages f = ["p/cara/1.jpg", "p/cuerpo/1.jpg"] ∧
    ({ f with path := "p/cara" } : Folder).label = "cara" ∧
    slashAlbum.folderImages { f with path := "p/cara" } = ["p/cara/1.jpg"] :=
  ⟨⟨"cara", "p/cara/"⟩, parse_slashFeed, by decide, rfl, by decide +kernel, by decide +kernel, by decide +kernel,
    by decide +kernel⟩

end Feed

end AlbumBrowser
