import AlbumBrowser.Proofs.Text.Digits
import AlbumBrowser.Terminal.Screen

/-!
Colours and the text under them. An escape code is an escape character, a bracket, digits and an `m`. Where the texts of a
view have no escape character of their own, a coloured screen whose codes are taken out is the screen without colours. It is
enough to know of every piece of a screen what it leaves when the codes are taken out, whatever follows it: a code
leaves nothing, a text leaves itself, and pieces in a row leave what each of them leaves.
-/

namespace AlbumBrowser

open Text

namespace Terminal

variable {digits s t t' p p' rest : List Char} {c : Char}

/-- A text without the character that begins an escape code. -/
def IsBare (t : List Char) : Prop := '\x1b' ∉ t

instance (t : List Char) : Decidable (IsBare t) := inferInstanceAs (Decidable (¬ _))

/-! ### Taking codes out -/

/-- What follows an escape code at the start of a text, if one stands there. -/
def behindCode? (s : List Char) : Option (List Char) := do
  let rest ← behind? ['\x1b', '['] s
  if rest.takeWhile Char.isDigit = [] then none else behind? ['m'] (rest.dropWhile Char.isDigit)

theorem behindCode?_eq_some_iff : behindCode? s = some rest ↔
    ∃ digits, IsDigits digits ∧ digits ≠ [] ∧ s = escapeCode digits ++ rest := by
  rw [behindCode?, Option.bind_eq_bind, Option.bind_eq_some_iff]
  constructor
  · rintro ⟨after, hafter, hrest⟩
    obtain ⟨hne, hend⟩ := Option.ite_none_left_eq_some.mp hrest
    rw [behind?_eq_some_iff] at hafter hend
    refine ⟨after.takeWhile Char.isDigit, isDigits_takeWhile after, hne, ?_⟩
    calc
      s = ['\x1b', '['] ++ (after.takeWhile Char.isDigit ++ after.dropWhile Char.isDigit) := by
        rw [hafter, List.takeWhile_append_dropWhile]
      _ = ['\x1b', '['] ++ (after.takeWhile Char.isDigit ++ (['m'] ++ rest)) := by rw [hend]
      _ = escapeCode (after.takeWhile Char.isDigit) ++ rest := by simp [escapeCode]
  · rintro ⟨digits, hdigits, hne, rfl⟩
    have hends : Ends ('m' :: rest) := ends_cons (by decide)
    refine ⟨digits ++ 'm' :: rest, behind?_eq_some_iff.mpr (by simp [escapeCode]), ?_⟩
    rw [takeWhile_run hdigits hends, if_neg hne, dropWhile_run hdigits hends]
    exact behind?_eq_some_iff.mpr rfl

theorem length_lt_of_behindCode? (h : behindCode? s = some rest) : rest.length < s.length := by
  obtain ⟨digits, -, -, rfl⟩ := behindCode?_eq_some_iff.mp h
  rw [List.length_append, escapeCode]
  exact Nat.lt_add_of_pos_left (Nat.succ_pos _)

/-- A text with all its escape codes taken out, from the left to the right. -/
def withoutCodes : List Char → List Char
  | [] => []
  | c :: rest =>
    match h : behindCode? (c :: rest) with
    | some after =>
      have := length_lt_of_behindCode? h
      withoutCodes after
    | none => c :: withoutCodes rest
termination_by s => s.length
decreasing_by
  · exact this
  · exact Nat.lt_succ_self rest.length

theorem withoutCodes_nil : withoutCodes [] = [] := by rw [withoutCodes]

theorem withoutCodes_code (hdigits : IsDigits digits) (hne : digits ≠ []) (s : List Char) :
    withoutCodes (escapeCode digits ++ s) = withoutCodes s := by
  have hbehind : behindCode? (escapeCode digits ++ s) = some s :=
    behindCode?_eq_some_iff.mpr ⟨digits, hdigits, hne, rfl⟩
  rw [escapeCode, List.cons_append] at hbehind ⊢
  rw [withoutCodes]
  split
  · rename_i after h
    rw [hbehind] at h
    cases h
    rfl
  · rename_i h
    rw [hbehind] at h
    cases h

theorem withoutCodes_cons (hc : c ≠ '\x1b') (s : List Char) : withoutCodes (c :: s) = c :: withoutCodes s := by
  rw [withoutCodes]
  split
  · rename_i after h
    obtain ⟨digits, -, -, hcode⟩ := behindCode?_eq_some_iff.mp h
    exact absurd (List.head_eq_of_cons_eq hcode) hc
  · rfl

/-- Whatever follows a piece of a text, the text `t` is left of the piece when the codes are taken out. -/
def Leaves (t piece : List Char) : Prop := ∀ s, withoutCodes (piece ++ s) = t ++ withoutCodes s

namespace Leaves

theorem nil : Leaves [] [] := fun _ => rfl

theorem code (hdigits : IsDigits digits) (hne : digits ≠ []) : Leaves [] (escapeCode digits) :=
  withoutCodes_code hdigits hne

theorem bare (h : IsBare t) : Leaves t t := by
  intro s
  induction t with
  | nil => rfl
  | cons c t ih =>
      obtain ⟨hc, ht⟩ := not_or.mp (mt List.mem_cons.mpr h)
      rw [List.cons_append, withoutCodes_cons (Ne.symm hc), ih ht, List.cons_append]

theorem append (h : Leaves t p) (h' : Leaves t' p') : Leaves (t ++ t') (p ++ p') := by
  intro s
  rw [List.append_assoc, h, h', List.append_assoc]

theorem flatMap {α : Type} {f g : α → List Char} {l : List α} (h : ∀ x ∈ l, Leaves (f x) (g x)) :
    Leaves (l.flatMap f) (l.flatMap g) := by
  induction l with
  | nil => exact nil
  | cons x l ih =>
      obtain ⟨hx, hl⟩ := List.forall_mem_cons.mp h
      rw [List.flatMap_cons, List.flatMap_cons]
      exact hx.append (ih hl)

theorem withoutCodes_eq (h : Leaves t p) : withoutCodes p = t := by
  have hend := h []
  rwa [List.append_nil, withoutCodes_nil, List.append_nil] at hend

end Leaves

/-! ### Screens -/

/-- The codes of a style leave nothing: they have one or two digits each. -/
theorem Style.leaves_codes (style : Style) : Leaves [] style.codes := by
  have hswitch : ∀ (on : Bool) (d : Char), d.isDigit = true → Leaves [] (if on then escapeCode [d] else []) := by
    intro on d hd
    cases on with
    | false => exact .nil
    | true => exact .code (isDigits_nil.cons hd) (List.cons_ne_nil _ _)
  obtain ⟨colour, bold, dim⟩ := style
  have hattributes := (hswitch bold '1' rfl).append (hswitch dim '2' rfl)
  unfold Style.codes
  rw [List.append_assoc]
  cases colour with
  | none => exact hattributes
  | some c =>
      have hcolour : Leaves [] (escapeCode ['3', c.code]) := .code (by cases c <;> decide) (List.cons_ne_nil _ _)
      exact hcolour.append hattributes

theorem Span.leaves_render {s : Span} (h : IsBare s.text) : Leaves s.text (s.render true) := by
  unfold Span.render
  split
  · have hreset : Leaves [] (escapeCode ['0']) := .code (by decide) (List.cons_ne_nil _ _)
    have hspan := (s.style.leaves_codes.append (.bare h)).append hreset
    rwa [List.nil_append, List.append_nil] at hspan
  · exact .bare h

/-- No text on a line has an escape character. -/
def IsBareLine (l : Line) : Prop := ∀ s ∈ l, IsBare s.text

instance (l : Line) : Decidable (IsBareLine l) := inferInstanceAs (Decidable (∀ s ∈ l, _))

/-- No text on a screen has one. -/
def IsBareScreen (lines : List Line) : Prop := ∀ l ∈ lines, IsBareLine l

variable {lines lines' : List Line} {l : Line}

theorem Line.leaves_render (h : IsBareLine l) : Leaves (l.render false) (l.render true) := by
  have hspans : Leaves (l.flatMap (·.render false)) (l.flatMap (·.render true)) :=
    .flatMap fun s hs => Span.leaves_render (h s hs)
  exact hspans.append (.bare (by decide))

theorem Line.isBare_render (h : IsBareLine l) : IsBare (l.render false) := by
  intro hmem
  rcases List.mem_append.mp hmem with hspans | hend
  · obtain ⟨s, hs, htext⟩ := List.mem_flatMap.mp hspans
    exact h s hs htext
  · exact absurd hend (by decide)

/-- A written text with its escape codes taken out. -/
def uncoloured (screen : String) : String := String.ofList (withoutCodes screen.toList)

/-- A coloured screen without its codes is the screen without colours. -/
theorem uncoloured_render (h : IsBareScreen lines) : uncoloured (render true lines) = render false lines := by
  have hlines : Leaves (lines.flatMap (·.render false)) (lines.flatMap (·.render true)) :=
    .flatMap fun l hl => Line.leaves_render (h l hl)
  rw [uncoloured, render, render, String.toList_ofList, hlines.withoutCodes_eq]

/-- No code is left, and nothing that could begin one. -/
theorem isBare_render (h : IsBareScreen lines) : IsBare (render false lines).toList := by
  rw [render, String.toList_ofList]
  intro hmem
  obtain ⟨l, hl, hline⟩ := List.mem_flatMap.mp hmem
  exact Line.isBare_render (h l hl) hline

/-! ### Views -/

theorem IsBare.append (h : IsBare t) (h' : IsBare t') : IsBare (t ++ t') := fun hmem =>
  (List.mem_append.mp hmem).elim h h'

theorem IsBare.leftpad (h : IsBare t) (width : Nat) : IsBare (t.leftpad width ' ') := by
  intro hmem
  rcases List.mem_append.mp hmem with hpad | htext
  · exact absurd (List.eq_of_mem_replicate hpad) (by decide)
  · exact h htext

theorem isBare_digits (n : Nat) : IsBare (Text.digits n) := fun hmem =>
  absurd (Nat.isDigit_of_mem_toDigits (by decide) (by decide) hmem) (by decide)

/-- Texts of which none has an escape character. -/
def AreBare (texts : List String) : Prop := ∀ s ∈ texts, IsBare s.toList

instance (texts : List String) : Decidable (AreBare texts) := inferInstanceAs (Decidable (∀ s ∈ texts, _))

theorem forall_mem_intersperse {α : Type} {P : α → Prop} {separator : α} {l : List α} (hseparator : P separator)
    (h : ∀ x ∈ l, P x) : ∀ x ∈ l.intersperse separator, P x := by
  induction l with
  | nil => exact h
  | cons x l ih =>
      cases l with
      | nil => exact h
      | cons y l =>
          obtain ⟨hx, hl⟩ := List.forall_mem_cons.mp h
          rw [List.intersperse_cons_cons]
          exact List.forall_mem_cons.mpr ⟨hx, List.forall_mem_cons.mpr ⟨hseparator, ih hl⟩⟩

theorem isBareScreen_singleton (h : IsBareLine l) : IsBareScreen [l] :=
  List.forall_mem_singleton.mpr h

theorem IsBareScreen.append (h : IsBareScreen lines) (h' : IsBareScreen lines') : IsBareScreen (lines ++ lines') :=
  List.forall_mem_append.mpr ⟨h, h'⟩

end Terminal

open Terminal

/-- The texts that a gallery shows. -/
def GalleryView.texts (v : GalleryView) : List String :=
  v.countLabel :: v.cards.flatMap fun c => [c.id, c.label, c.date]

/-- The texts that an open album shows. -/
def AlbumView.texts (v : AlbumView) : List String :=
  [v.title, v.date] ++ (v.description.getD []).flatMap (fun l => [l.label, l.value]) ++ v.folders.map (·.label) ++
    v.image.toList

theorem Card.isBare_line {c : Card} (h : AreBare [c.id, c.label, c.date]) : IsBareLine c.line := by
  obtain ⟨hid, hlabel, hdate, -⟩ := by simpa only [AreBare, List.forall_mem_cons] using h
  have hgap : IsBare "  ".toList := by decide
  simp only [IsBareLine, Card.line, List.forall_mem_cons]
  exact ⟨hgap, hid.leftpad 4, hgap, hlabel, hgap, hdate, List.forall_mem_nil _⟩

theorem GalleryView.isBareScreen {v : GalleryView} (h : AreBare v.texts) : IsBareScreen v.screen := by
  obtain ⟨hcount, hcards⟩ := List.forall_mem_cons.mp h
  refine List.forall_mem_cons.mpr ⟨?_, ?_⟩
  · have hmark : IsBareLine (if v.filtered then [dim " (filtré)"] else []) := by
      cases v.filtered <;> decide
    exact List.forall_mem_append.mpr ⟨List.forall_mem_cons.mpr ⟨by decide, List.forall_mem_singleton.mpr hcount⟩, hmark⟩
  · split
    · exact isBareScreen_singleton (by decide)
    · refine List.forall_mem_map.mpr fun c hc => Card.isBare_line fun s hs => ?_
      exact hcards s (List.mem_flatMap.mpr ⟨c, hc, hs⟩)

theorem FolderButton.isBare_span {b : FolderButton} (h : IsBare b.label.toList) (active : Option String) :
    IsBare (b.span active).text := by
  have hframed : ∀ before after : String, IsBare before.toList → IsBare after.toList →
      IsBare (before ++ b.label ++ after).toList := by
    intro before after hbefore hafter
    rw [String.toList_append, String.toList_append]
    exact (hbefore.append h).append hafter
  unfold FolderButton.span
  split
  · exact hframed "[" "]" (by decide) (by decide)
  · exact hframed " " " " (by decide) (by decide)

namespace AlbumView

variable {v : AlbumView}

theorem isBareScreen_descriptionLines (h : AreBare ((v.description.getD []).flatMap fun l => [l.label, l.value])) :
    IsBareScreen v.descriptionLines := by
  unfold descriptionLines
  cases hdescription : v.description with
  | none => exact isBareScreen_singleton (by decide)
  | some lines =>
      rw [hdescription, Option.getD_some] at h
      refine List.forall_mem_map.mpr fun l hl => ?_
      have htexts : AreBare [l.label, l.value] := fun s hs => h s (List.mem_flatMap.mpr ⟨l, hl, hs⟩)
      obtain ⟨hlabel, hvalue, -⟩ := by simpa only [AreBare, List.forall_mem_cons] using htexts
      have hgap : IsBare "  ".toList := by decide
      have hcolon : IsBare ": ".toList := by decide
      simp only [IsBareLine, DescriptionLine.line, List.forall_mem_cons]
      exact ⟨hgap, hlabel, hcolon, hvalue, List.forall_mem_nil _⟩

theorem isBareScreen_folderLines (h : AreBare (v.folders.map (·.label))) : IsBareScreen v.folderLines := by
  unfold folderLines
  split
  · exact List.forall_mem_nil _
  · have hbuttons : ∀ s ∈ v.folders.map (·.span v.activeFolder), IsBare s.text :=
      List.forall_mem_map.mpr fun b hb => FolderButton.isBare_span (h _ (List.mem_map_of_mem hb)) _
    have hrow : ∀ s ∈ (v.folders.map (·.span v.activeFolder)).intersperse (.plain " "), IsBare s.text :=
      forall_mem_intersperse (by decide) hbuttons
    have hfirst : IsBareLine [.plain "  ", dim "Dossiers", .plain "  "] := by decide
    exact isBareScreen_singleton (List.forall_mem_append.mpr ⟨hfirst, hrow⟩)

theorem isBareScreen_imageLines (h : AreBare v.image.toList) : IsBareScreen v.imageLines := by
  unfold imageLines
  cases himage : v.image with
  | none =>
      cases v.activeFolder with
      | none => exact List.forall_mem_nil _
      | some key => exact isBareScreen_singleton (by decide)
  | some image =>
      rw [himage] at h
      have htext : IsBare image.toList := h image List.mem_cons_self
      have hslash : IsBare ['/'] := by decide
      have hplace : IsBare (String.ofList (Text.digits v.position ++ '/' :: Text.digits v.total)).toList := by
        rw [String.toList_ofList]
        exact (isBare_digits _).append (hslash.append (isBare_digits _))
      have hdot : IsBareLine [.plain " ", dim "·", .plain "  "] := by decide
      have hrest : IsBareLine ([.plain " ", dim "·", .plain "  "] ++ [.plain image]) :=
        List.forall_mem_append.mpr ⟨hdot, List.forall_mem_singleton.mpr htext⟩
      exact isBareScreen_singleton (List.forall_mem_cons.mpr ⟨by decide, List.forall_mem_cons.mpr ⟨hplace, hrest⟩⟩)

theorem isBareScreen (h : AreBare v.texts) : IsBareScreen v.screen := by
  obtain ⟨h, himage⟩ := List.forall_mem_append.mp h
  obtain ⟨h, hfolders⟩ := List.forall_mem_append.mp h
  obtain ⟨h, hdescription⟩ := List.forall_mem_append.mp h
  obtain ⟨htitle, hdate, -⟩ := by simpa only [List.forall_mem_cons] using h
  have hfirst : IsBareLine [.plain "  ", bold (some .cyan) v.title] :=
    List.forall_mem_cons.mpr ⟨by decide, List.forall_mem_singleton.mpr htitle⟩
  have hdateLine : IsBareScreen (if v.date = "" then [] else [[.plain "  ", dim v.date]]) := by
    split
    · exact List.forall_mem_nil _
    · exact isBareScreen_singleton (List.forall_mem_cons.mpr ⟨by decide, List.forall_mem_singleton.mpr hdate⟩)
  have hempty : IsBareScreen [[]] := isBareScreen_singleton (List.forall_mem_nil _)
  exact ((((((isBareScreen_singleton hfirst).append hdateLine).append hempty).append
    (isBareScreen_descriptionLines hdescription)).append hempty).append
    (isBareScreen_folderLines hfolders)).append (isBareScreen_imageLines himage)

end AlbumView

namespace Terminal

/-- Colours never change the text of a view: where no text that it shows has an escape character, the coloured screen
without its escape codes is the screen without colours, on which no escape character is left. -/
theorem colours_change_no_text :
    (∀ v : GalleryView, AreBare v.texts →
      uncoloured (render true v.screen) = render false v.screen ∧ IsBare (render false v.screen).toList) ∧
    ∀ v : AlbumView, AreBare v.texts →
      uncoloured (render true v.screen) = render false v.screen ∧ IsBare (render false v.screen).toList := by
  constructor
  · intro v h
    have hscreen := GalleryView.isBareScreen h
    exact ⟨uncoloured_render hscreen, isBare_render hscreen⟩
  · intro v h
    have hscreen := AlbumView.isBareScreen h
    exact ⟨uncoloured_render hscreen, isBare_render hscreen⟩

/-- A gallery whose texts read like the rest of a code. -/
def codeLikeGallery : GalleryView where
  count := 1
  countLabel := "[1m"
  filtered := true
  cards := [⟨"2m", "[0m", ""⟩]

/-- An album whose texts read like the rest of a code, with its second folder chosen. -/
def codeLikeAlbum : AlbumView where
  id := "2m"
  title := "0m"
  date := "[36m"
  description := some [⟨"1m", "[0m"⟩]
  folders := [⟨"0m", "cara"⟩, ⟨"3", "cuerpo"⟩]
  activeFolder := some "cuerpo"
  image := some "[3m"
  position := 2
  total := 36
  showNavigation := true

/-- Texts that stand next to codes and read like their rest stay as they are. -/
theorem colours_change_no_text_beside_codes :
    uncoloured (render true codeLikeGallery.screen) = "  [1m (filtré)\n    2m  [0m  \n" ∧
    uncoloured (render true codeLikeAlbum.screen) =
      "  0m\n  [36m\n\n  1m: [0m\n\n  Dossiers   0m  [3]\n  2/36 ·  [3m\n" := by
  obtain ⟨hgallery, -⟩ := colours_change_no_text.1 codeLikeGallery (by decide)
  obtain ⟨halbum, -⟩ := colours_change_no_text.2 codeLikeAlbum (by decide)
  exact ⟨hgallery.trans (by rfl), halbum.trans (by rfl)⟩

end Terminal

end AlbumBrowser
