import AlbumBrowser.Proofs.Json.RoundTrip
import AlbumBrowser.Web.Server

/-!
What is read of an answer. A page takes the members of a view by their names, and finds each of them as the view
has it; so the text of an answer shows the view that it was made from, and no other. The record of criteria
holds every member once, and each is read into its own place, whatever has been read before it; so it
gives back the criteria that it was written for.
-/

namespace AlbumBrowser

open Json

namespace Json.Value

variable {α : Type}

/-- The member of an object that has a name, read in a given way. -/
def get? (v : Value) (name : String) (read : Value → Option α) : Option α :=
  (v.asObject?.bind (member? name)).bind read

def asBool? : Value → Option Bool
  | .bool b => some b
  | _ => none

def asNat? : Value → Option Nat
  | .number (.whole (.ofNat n)) => some n
  | _ => none

/-- Null is read as nothing. -/
def orNull? (read : Value → Option α) : Value → Option (Option α)
  | .null => some none
  | v => (read v).map some

def asList? (read : Value → Option α) (v : Value) : Option (List α) := v.asArray?.bind (·.mapM read)

variable {read : Value → Option α} {write : α → Value}

theorem asList?_map (h : ∀ x, read (write x) = some x) (xs : List α) :
    asList? read (.array (xs.map write)) = some xs := by
  change (xs.map write).mapM read = some xs
  induction xs with
  | nil => rfl
  | cons x xs ih =>
      rw [List.map_cons, List.mapM_cons, h, ih]
      rfl

theorem orNull?_ofOption (h : ∀ x, read (write x) = some x) (hnull : ∀ x, write x ≠ .null) (x : Option α) :
    orNull? read (.ofOption write x) = some x := by
  cases x with
  | none => rfl
  | some x =>
      rw [ofOption, orNull?, h]
      · rfl
      · exact hnull x

variable {depth : Nat}

theorem Readable.ofNat {n : Nat} (h : n < UInt64.size) : Readable depth (.ofNat n) :=
  .whole (Int.le_trans (by decide) (Int.natCast_nonneg n)) (Int.ofNat_lt.mpr h)

theorem Readable.ofOption (h : ∀ x, (write x).Readable depth) (x : Option α) : Readable depth (.ofOption write x) := by
  cases x with
  | none => exact .null
  | some x => exact h x

theorem Readable.list (h : ∀ x, (write x).Readable depth) (xs : List α) :
    Readable (depth + 1) (.array (xs.map write)) := by
  refine .array fun v hv => ?_
  obtain ⟨x, -, rfl⟩ := List.mem_map.mp hv
  exact h x

end Json.Value

open Json.Value

/-! ### Views -/

namespace Card

def ofJson? (v : Json.Value) : Option Card := do
  return { id := ← v.get? "id" asString?, label := ← v.get? "label" asString?, date := ← v.get? "date" asString? }

theorem ofJson?_toJson (c : Card) : ofJson? c.toJson = some c := by
  simp [ofJson?, toJson, get?, asObject?, asString?, member?]

theorem readable_toJson (c : Card) : c.toJson.Readable 1 :=
  .object (by simp) (by simp [Readable.string])

end Card

namespace GalleryView

/-- The number of cards is a word. -/
def Counted (v : GalleryView) : Prop := v.count < UInt64.size

def ofJson? (v : Json.Value) : Option GalleryView := do
  return {
    count := ← v.get? "count" asNat?
    countLabel := ← v.get? "count_label" asString?
    filtered := ← v.get? "filtered" asBool?
    cards := ← v.get? "albums" (asList? Card.ofJson?) }

theorem ofJson?_toJson (v : GalleryView) : ofJson? v.toJson = some v := by
  simp [ofJson?, toJson, get?, asObject?, asString?, asBool?, asNat?, ofNat, member?, asList?_map Card.ofJson?_toJson]

theorem readable_toJson {v : GalleryView} (h : v.Counted) : v.toJson.Readable 3 :=
  .object (by simp) (by simp [Readable.string, Readable.bool, Readable.ofNat h, Readable.list Card.readable_toJson])

/-- The view that a text in JSON shows. -/
def read? (text : String) : Option GalleryView := (read text).toOption.bind ofJson?

theorem read?_toJson {v : GalleryView} (h : v.Counted) : read? v.toJson.text = some v := by
  rw [read?, (readable_toJson h).read_text (by decide)]
  exact v.ofJson?_toJson

end GalleryView

namespace DescriptionLine

def ofJson? (v : Json.Value) : Option DescriptionLine := do
  return { label := ← v.get? "label" asString?, value := ← v.get? "value" asString? }

theorem ofJson?_toJson (l : DescriptionLine) : ofJson? l.toJson = some l := by
  simp [ofJson?, toJson, get?, asObject?, asString?, member?]

theorem readable_toJson (l : DescriptionLine) : l.toJson.Readable 1 :=
  .object (by simp) (by simp [Readable.string])

end DescriptionLine

namespace FolderButton

def ofJson? (v : Json.Value) : Option FolderButton := do
  return { label := ← v.get? "label" asString?, key := ← v.get? "key" asString? }

theorem ofJson?_toJson (b : FolderButton) : ofJson? b.toJson = some b := by
  simp [ofJson?, toJson, get?, asObject?, asString?, member?]

theorem readable_toJson (b : FolderButton) : b.toJson.Readable 1 :=
  .object (by simp) (by simp [Readable.string])

end FolderButton

namespace AlbumView

/-- The number of images, and the place among them, are words. -/
structure Counted (v : AlbumView) : Prop where
  position : v.position < UInt64.size
  total : v.total < UInt64.size

def ofJson? (v : Json.Value) : Option AlbumView := do
  return {
    id := ← v.get? "id" asString?
    title := ← v.get? "title" asString?
    date := ← v.get? "date" asString?
    description := ← v.get? "description" (orNull? (asList? DescriptionLine.ofJson?))
    folders := ← v.get? "folders" (asList? FolderButton.ofJson?)
    activeFolder := ← v.get? "active_folder" (orNull? asString?)
    image := ← v.get? "image" (orNull? asString?)
    position := ← v.get? "position" asNat?
    total := ← v.get? "total" asNat?
    showNavigation := ← v.get? "show_navigation" asBool? }

theorem ofJson?_toJson (v : AlbumView) : ofJson? v.toJson = some v := by
  have hdescription := orNull?_ofOption (asList?_map DescriptionLine.ofJson?_toJson) (by simp) v.description
  have hfolders := asList?_map FolderButton.ofJson?_toJson v.folders
  have hstring : ∀ x, orNull? asString? (.ofOption .string x) = some x := orNull?_ofOption (fun _ => rfl) (by simp)
  simp [ofJson?, toJson, get?, asObject?, asString?, asBool?, asNat?, ofNat, member?, hdescription, hfolders, hstring]

theorem readable_toJson {v : AlbumView} (h : v.Counted) : v.toJson.Readable 3 := by
  have hdescription := Readable.ofOption (Readable.list DescriptionLine.readable_toJson) v.description
  have hfolders := Readable.list FolderButton.readable_toJson v.folders
  have hstring : ∀ x, (Json.Value.ofOption .string x).Readable 2 := Readable.ofOption Readable.string
  refine .object (by simp) ?_
  simp [Readable.string, Readable.bool, Readable.ofNat h.position, Readable.ofNat h.total, hdescription, hfolders, hstring]

/-- The view that a text in JSON shows. -/
def read? (text : String) : Option AlbumView := (read text).toOption.bind ofJson?

theorem read?_toJson {v : AlbumView} (h : v.Counted) : read? v.toJson.text = some v := by
  rw [read?, (readable_toJson h).read_text (by decide)]
  exact v.ofJson?_toJson

end AlbumView

/-! ### Criteria -/

namespace Criteria

variable {c : Criteria} {p : Progress} {rest : List Char}

/-- Criteria with a member taken from other ones. -/
def Member.carry (m : Member) (c acc : Criteria) : Criteria :=
  match m with
  | date => { acc with date := c.date }
  | startTime => { acc with startTime := c.startTime }
  | endTime => { acc with endTime := c.endTime }
  | keyword => { acc with keyword := c.keyword }
  | includeUndescribed => { acc with includeUndescribed := c.includeUndescribed }

theorem Member.read_write (m : Member) (c acc : Criteria) (rest : List Char) :
    m.read acc ((m.write c).chars ++ rest) = .ok (m.carry c acc, rest) := by
  cases m with
  | includeUndescribed =>
      rw [Member.read, Member.write, boolValue_chars]
      rfl
  | _ =>
      rw [Member.read, Member.write, Value.chars, stringValue_quoted]
      rfl

theorem Member.ofName?_name (m : Member) : ofName? m.name = some m := by
  cases m <;> decide

theorem readMember_write {m : Member} (h : m ∉ p.seen) (rest : List Char) :
    readMember p m.name (':' :: ((m.write c).chars ++ rest)) = .ok (⟨m.carry c p.criteria, m :: p.seen⟩, rest) := by
  have hvalue : memberValue (m.read p.criteria) (':' :: ((m.write c).chars ++ rest)) =
      .ok (m.carry c p.criteria, rest) :=
    memberValue_eq_ok_iff.mpr ⟨[], _, isSpace_nil, rfl, m.read_write c p.criteria rest⟩
  rw [readMember, Member.ofName?_name]
  simp only [if_neg h, hvalue]
  rfl

/-- Members of their own kind each are taken in one by one, in any order. -/
theorem takesIn_write {members : List Member} (hnodup : members.Nodup) (hnew : ∀ m ∈ members, m ∉ p.seen) :
    TakesIn readMember p (members.map fun m => (m.name, m.write c))
      ⟨members.foldl (fun acc m => m.carry c acc) p.criteria, members.reverse ++ p.seen⟩ := by
  induction members generalizing p with
  | nil => exact .nil
  | cons m members ih =>
      obtain ⟨hm, hrest⟩ := List.forall_mem_cons.mp hnew
      obtain ⟨hother, hnodup⟩ := List.nodup_cons.mp hnodup
      refine .cons (readMember_write hm) ?_
      rw [List.reverse_cons, List.append_assoc]
      refine ih hnodup ?_
      intro m' hm' hseen
      rcases List.mem_cons.mp hseen with rfl | hseen
      · exact hother hm'
      · exact hrest m' hm' hseen

/-- A record of criteria is read back as it was written. -/
theorem read_toJson (c : Criteria) : read c.toJson.text = .ok c := by
  have hkinds : Member.all.Nodup := by decide
  have htaken := takesIn_write (c := c) (p := {}) hkinds fun _ _ => List.not_mem_nil
  have hbound := Nat.le_add_right_of_le (k := 1) (length_le_memberChars (Member.all.map fun m => (m.name, m.write c)))
  rw [← List.length_singleton (a := '\x7d'), ← List.length_append] at hbound
  have hrecord := foldMembers_memberChars htaken hbound []
  refine readWhole_eq_ok_iff.mpr ⟨[], ?_, isSpace_nil⟩
  rw [Value.text, String.toList_ofList, toJson, Value.chars]
  exact map_eq_ok_iff.mpr ⟨_, hrecord, rfl⟩

end Criteria

/-! ### Answers -/

namespace Web.Response

variable {r : Response}

/-- An answer in JSON that everything went well. -/
structure Succeeds (r : Response) : Prop where
  status : r.status = 200
  contentType : r.contentType = "application/json"

/-- The answer is read as the view of an album. Its numbers are those of words, which no list outgrows. -/
def ShowsAlbum (r : Response) (view : AlbumView) : Prop :=
  r.Succeeds ∧ (view.Counted → AlbumView.read? r.body = some view)

def ShowsGallery (r : Response) (view : GalleryView) : Prop :=
  r.Succeeds ∧ (view.Counted → GalleryView.read? r.body = some view)

theorem succeeds_ok (v : Json.Value) : (ok v).Succeeds := ⟨rfl, rfl⟩

theorem showsAlbum_ok (view : AlbumView) : (ok view.toJson).ShowsAlbum view :=
  ⟨succeeds_ok _, AlbumView.read?_toJson⟩

theorem showsGallery_ok (view : GalleryView) : (ok view.toJson).ShowsGallery view :=
  ⟨succeeds_ok _, GalleryView.read?_toJson⟩

end Web.Response

end AlbumBrowser
