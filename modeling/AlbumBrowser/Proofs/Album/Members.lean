import AlbumBrowser.Proofs.Feed.Records
import Mathlib.Logic.Relation

/-!
What an album takes from the members of its record. Four members have a meaning of their own wherever they stand. The
others count only if they describe folders, and these come in their order. So members of no use may come and go, and all
but the folders may change their places, and the album stays as it is.
-/

namespace AlbumBrowser

open Json

namespace Json

variable {α : Type} {members : List (String × α)} {name : String} {v : α}

theorem member?_cons (member : String × α) (members : List (String × α)) :
    member? name (member :: members) = if member.1 = name then some member.2 else member? name members := by
  unfold member?
  by_cases h : member.1 = name <;> simp [h]

theorem member?_of_not_mem (h : name ∉ members.map Prod.fst) : member? name members = none := by
  rw [member?, Option.map_eq_none_iff, List.find?_eq_none]
  intro member hmem hname
  exact h (of_decide_eq_true hname ▸ List.mem_map_of_mem hmem)

/-- Among members with names of their own, to be found is to be there. -/
theorem member?_eq_some_iff_mem (h : (members.map Prod.fst).Nodup) : member? name members = some v ↔ (name, v) ∈ members := by
  rw [member?, Option.map_eq_some_iff]
  constructor
  · rintro ⟨⟨_, _⟩, hfound, rfl⟩
    obtain ⟨hmem, rfl⟩ := (find?_key_eq_some_iff h).mp hfound
    exact hmem
  · intro hmem
    exact ⟨(name, v), (find?_key_eq_some_iff h).mpr ⟨hmem, rfl⟩, rfl⟩

end Json

namespace Album

variable {members members' : List (String × Json.Value)} {member : String × Json.Value} {f : Folder}

/-- One of the four members with a meaning of their own. -/
def HasOwnMeaning (member : String × Json.Value) : Prop := member.1 ∈ ["ID", "fecha", "descripcion", "imagenes"]

instance (member : String × Json.Value) : Decidable (HasOwnMeaning member) := inferInstanceAs (Decidable (_ ∈ _))

/-- The member's name is the folder's key behind a mark, and its value the folder's path, which is not empty. -/
def Describes (member : String × Json.Value) (f : Folder) : Prop :=
  member.1 = "ruta_" ++ f.key ∧ member.2 = .string f.path ∧ f.path ≠ ""

def DescribesFolder (member : String × Json.Value) : Prop := ∃ f, Describes member f

theorem hasOwnMeaning_iff : HasOwnMeaning member ↔ ∃ m : Member, m.name = member.1 := by
  constructor
  · intro h
    simp only [HasOwnMeaning, List.mem_cons, List.not_mem_nil, or_false] at h
    rcases h with h | h | h | h
    · exact ⟨.id, h.symm⟩
    · exact ⟨.timestamp, h.symm⟩
    · exact ⟨.description, h.symm⟩
    · exact ⟨.images, h.symm⟩
  · rintro ⟨m, hm⟩
    rw [HasOwnMeaning, ← hm]
    cases m <;> decide

/-! ### Folders -/

/-- None of the four names begins like a folder's. -/
theorem HasOwnMeaning.not_describesFolder (h : HasOwnMeaning member) : ¬ DescribesFolder member := by
  rintro ⟨f, hname, -⟩
  have hhead : member.1.toList.head? = some 'r' := by
    rw [hname, String.toList_append]
    rfl
  simp only [HasOwnMeaning, List.mem_cons, List.not_mem_nil, or_false] at h
  rcases h with h | h | h | h <;> rw [h] at hhead <;> exact absurd hhead (by decide)

theorem Record.folder?_eq_some_iff : Record.folder? member = some f ↔ Describes member f := by
  obtain ⟨name, v⟩ := member
  constructor
  · intro h
    refine ⟨name_of_folder? h, ?_⟩
    simp only [folder?, Option.bind_eq_bind, Option.bind_eq_some_iff] at h
    obtain ⟨key, -, path, hpath, h⟩ := h
    split at h
    · cases h
    · rename_i hne
      cases h
      cases v with
      | string s =>
          cases hpath
          exact ⟨rfl, hne⟩
      | _ => cases hpath
  · rintro ⟨hname, hv, hne⟩
    have hkey : Text.behind? folderMark.toList name.toList = some f.key.toList := by
      rw [Text.behind?_eq_some_iff, ← String.toList_append]
      exact congrArg String.toList hname
    simp only [folder?, Option.bind_eq_bind, Option.bind_eq_some_iff]
    refine ⟨f.key.toList, hkey, f.path, congrArg Json.Value.asString? hv, ?_⟩
    rw [if_neg hne, String.ofList_toList]

instance : DecidablePred DescribesFolder := fun member =>
  decidable_of_iff (Record.folder? member).isSome (by
    simp only [Option.isSome_iff_exists, Record.folder?_eq_some_iff, DescribesFolder])

theorem folder?_eq_none_iff : Record.folder? member = none ↔ ¬ DescribesFolder member := by
  simp only [DescribesFolder, ← Record.folder?_eq_some_iff, ← Option.isSome_iff_exists, Option.not_isSome_iff_eq_none]

/-- The members that describe folders, one after the other with the folders that they describe. -/
theorem forall₂_describes (members : List (String × Json.Value)) :
    List.Forall₂ Describes (members.filter DescribesFolder) (members.filterMap Record.folder?) := by
  induction members with
  | nil => exact .nil
  | cons member members ih =>
      cases hfolder : Record.folder? member with
      | none =>
          rw [List.filterMap_cons_none hfolder, List.filter_cons_of_neg]
          · exact ih
          · simpa using folder?_eq_none_iff.mp hfolder
      | some f =>
          have hf := Record.folder?_eq_some_iff.mp hfolder
          have hdescribes : DescribesFolder member := ⟨f, hf⟩
          rw [List.filterMap_cons_some hfolder, List.filter_cons, if_pos (decide_eq_true hdescribes)]
          exact .cons hf ih

theorem filterMap_filter_describesFolder (members : List (String × Json.Value)) :
    (members.filter DescribesFolder).filterMap Record.folder? = members.filterMap Record.folder? := by
  rw [List.filterMap_filter]
  refine List.filterMap_congr fun member _ => ?_
  split
  · rfl
  · rename_i hnone
    exact (folder?_eq_none_iff.mpr (by simpa using hnone)).symm

/-! ### The record of an object -/

theorem Member.name_inj {m m' : Member} : m.name = m'.name ↔ m = m' := by
  cases m <;> cases m' <;> decide

theorem Member.ofName?_eq_some_iff {name : String} {m : Member} : ofName? name = some m ↔ m.name = name := by
  refine ⟨name_of_ofName?, ?_⟩
  rintro rfl
  cases m <;> rfl

namespace Record

/-- The value of one of the four members. -/
def get (r : Record) : Member → Json.Value
  | .id => r.id
  | .timestamp => r.timestamp
  | .description => r.description
  | .images => r.images

theorem get_set (r : Record) (m : Member) (v : Json.Value) (m' : Member) :
    (r.set m v).get m' = if m = m' then v else r.get m' := by
  cases m <;> cases m' <;> rfl

theorem attributes_set (r : Record) (m : Member) (v : Json.Value) : (r.set m v).attributes = r.attributes := by
  cases m <;> rfl

theorem get_add (r : Record) (name : String) (v : Json.Value) (m : Member) :
    (r.add name v).get m = if name = m.name then v else r.get m := by
  unfold add
  cases hname : Member.ofName? name with
  | none =>
      rw [if_neg fun h => Option.some_ne_none m ((Member.ofName?_eq_some_iff.mpr h.symm).symm.trans hname)]
      cases m <;> rfl
  | some own =>
      rw [get_set, ← Member.name_of_ofName? hname]
      exact if_congr Member.name_inj.symm rfl rfl

theorem mem_names_add {r : Record} {name other : String} {v : Json.Value}
    (h : other ∈ (r.add name v).attributes.map Prod.fst) : other = name ∨ other ∈ r.attributes.map Prod.fst := by
  unfold add at h
  split at h
  · rw [attributes_set] at h
    exact Or.inr h
  · rw [names_insertMember] at h
    split at h
    · exact Or.inr h
    · rw [List.mem_append, List.mem_singleton] at h
      exact h.symm

theorem folders_add {r : Record} (hnew : member.1 ∉ r.attributes.map Prod.fst) :
    (r.add member.1 member.2).attributes.filterMap folder? =
      r.attributes.filterMap folder? ++ [member].filterMap folder? := by
  unfold add
  cases hname : Member.ofName? member.1 with
  | none => rw [insertMember_of_not_mem hnew, List.filterMap_append]
  | some own =>
      have hown : HasOwnMeaning member := hasOwnMeaning_iff.mpr ⟨own, Member.name_of_ofName? hname⟩
      have hnone := folder?_eq_none_iff.mpr hown.not_describesFolder
      rw [attributes_set, List.filterMap_cons_none hnone, List.filterMap_nil, List.append_nil]

/-- Members with names of their own give the four members their values. -/
theorem get_ofMembers (h : (members.map Prod.fst).Nodup) (m : Member) :
    (ofMembers members).get m = (member? m.name members).getD .null := by
  have hfold : ∀ r : Record, (members.foldl (fun r member => r.add member.1 member.2) r).get m =
      (member? m.name members).getD (r.get m) := by
    induction members with
    | nil => exact fun r => rfl
    | cons member members ih =>
        obtain ⟨hnew, hrest⟩ := List.nodup_cons.mp h
        intro r
        rw [List.foldl_cons, ih hrest, get_add, member?_cons]
        split
        · rename_i hname
          rw [member?_of_not_mem (hname ▸ hnew)]
          rfl
        · rfl
  refine (hfold {}).trans (congrArg _ ?_)
  cases m <;> rfl

/-- Members with names of their own give the folders that they describe. -/
theorem folders_ofMembers (h : (members.map Prod.fst).Nodup) :
    (ofMembers members).attributes.filterMap folder? = members.filterMap folder? := by
  have hfold : ∀ r : Record, (∀ name ∈ r.attributes.map Prod.fst, name ∉ members.map Prod.fst) →
      (members.foldl (fun r member => r.add member.1 member.2) r).attributes.filterMap folder? =
        r.attributes.filterMap folder? ++ members.filterMap folder? := by
    induction members with
    | nil => exact fun r _ => (List.append_nil _).symm
    | cons member members ih =>
        obtain ⟨hnew, hrest⟩ := List.nodup_cons.mp h
        intro r hr
        have hmember : member.1 ∉ r.attributes.map Prod.fst := fun hmem => hr _ hmem List.mem_cons_self
        have hadded : ∀ name ∈ (r.add member.1 member.2).attributes.map Prod.fst, name ∉ members.map Prod.fst := by
          intro name hname
          rcases mem_names_add hname with rfl | hname
          · exact hnew
          · exact fun hmem => hr name hname (List.mem_cons_of_mem _ hmem)
        rw [List.foldl_cons, ih hrest _ hadded, folders_add hmember, List.append_assoc, ← List.filterMap_append]
        rfl
  exact hfold {} fun name hname => nomatch hname

theorem toAlbum_congr {r r' : Record} (hget : ∀ m, r.get m = r'.get m)
    (hfolders : r.attributes.filterMap folder? = r'.attributes.filterMap folder?) : r.toAlbum = r'.toAlbum := by
  have hid : r.id = r'.id := hget .id
  have htimestamp : r.timestamp = r'.timestamp := hget .timestamp
  have hdescription : r.description = r'.description := hget .description
  have himages : r.images = r'.images := hget .images
  simp only [toAlbum, hid, htimestamp, hdescription, himages, hfolders]

end Record

/-! ### Members that come, go and move -/

/-- One change to the members of an object: a member of no use comes in under a new name or goes, or a member other than
a folder's takes another place. -/
inductive Edit : List (String × Json.Value) → List (String × Json.Value) → Prop
  | insert {before after : List (String × Json.Value)} {member : String × Json.Value}
      (hown : ¬ HasOwnMeaning member) (hfolder : ¬ DescribesFolder member)
      (hnew : member.1 ∉ (before ++ after).map Prod.fst) : Edit (before ++ after) (before ++ member :: after)
  | delete {before after : List (String × Json.Value)} {member : String × Json.Value}
      (hown : ¬ HasOwnMeaning member) (hfolder : ¬ DescribesFolder member) :
      Edit (before ++ member :: after) (before ++ after)
  | move {before after before' after' : List (String × Json.Value)} {member : String × Json.Value}
      (hfolder : ¬ DescribesFolder member) (hothers : before ++ after = before' ++ after') :
      Edit (before ++ member :: after) (before' ++ member :: after')

/-- What two objects have to share for their albums to be the same. -/
structure Agree (members members' : List (String × Json.Value)) : Prop where
  own : ∀ member, HasOwnMeaning member → (member ∈ members ↔ member ∈ members')
  folders : members.filter DescribesFolder = members'.filter DescribesFolder

theorem ofMembers_congr (h : (members.map Prod.fst).Nodup) (h' : (members'.map Prod.fst).Nodup)
    (hagree : Agree members members') : ofMembers members = ofMembers members' := by
  refine Record.toAlbum_congr (fun m => ?_) ?_
  · have hsame : member? m.name members = member? m.name members' := by
      apply Option.ext
      intro v
      rw [member?_eq_some_iff_mem h, member?_eq_some_iff_mem h']
      exact hagree.own _ (hasOwnMeaning_iff.mpr ⟨m, rfl⟩)
    rw [Record.get_ofMembers h, Record.get_ofMembers h', hsame]
  · rw [Record.folders_ofMembers h, Record.folders_ofMembers h', ← filterMap_filter_describesFolder, hagree.folders,
      filterMap_filter_describesFolder]

theorem filter_middle {before after : List (String × Json.Value)} (hfolder : ¬ DescribesFolder member) :
    (before ++ member :: after).filter DescribesFolder = (before ++ after).filter DescribesFolder := by
  rw [List.filter_append, List.filter_append, List.filter_cons, if_neg (by simpa using hfolder)]

theorem nodup_middle_iff {before after : List (String × Json.Value)} :
    ((before ++ member :: after).map Prod.fst).Nodup ↔
      member.1 ∉ (before ++ after).map Prod.fst ∧ ((before ++ after).map Prod.fst).Nodup := by
  rw [(List.perm_middle.map Prod.fst).nodup_iff, List.map_cons, List.nodup_cons]

theorem mem_middle_of_own {before after : List (String × Json.Value)} {own : String × Json.Value}
    (hown : HasOwnMeaning own) (hmember : ¬ HasOwnMeaning member) :
    own ∈ before ++ member :: after ↔ own ∈ before ++ after := by
  have hne : own ≠ member := by
    rintro rfl
    exact hmember hown
  rw [List.perm_middle.mem_iff, List.mem_cons, or_iff_right hne]

theorem Edit.nodup (h : Edit members members') (hnames : (members.map Prod.fst).Nodup) :
    (members'.map Prod.fst).Nodup := by
  cases h with
  | insert _ _ hnew => exact nodup_middle_iff.mpr ⟨hnew, hnames⟩
  | delete => exact (nodup_middle_iff.mp hnames).2
  | move _ hothers =>
      rw [nodup_middle_iff] at hnames ⊢
      rwa [← hothers]

theorem Edit.agree (h : Edit members members') : Agree members members' := by
  cases h with
  | insert hown hfolder => exact ⟨fun _ h => (mem_middle_of_own h hown).symm, (filter_middle hfolder).symm⟩
  | delete hown hfolder => exact ⟨fun _ h => mem_middle_of_own h hown, filter_middle hfolder⟩
  | move hfolder hothers =>
      refine ⟨fun _ _ => ?_, ?_⟩
      · rw [List.perm_middle.mem_iff, List.perm_middle.mem_iff, hothers]
      · rw [filter_middle hfolder, filter_middle hfolder, hothers]

/-- However often the members are changed so, they make up the same album. -/
theorem ofMembers_of_edits (h : Relation.ReflTransGen Edit members members') (hnames : (members.map Prod.fst).Nodup) :
    (members'.map Prod.fst).Nodup ∧ ofMembers members' = ofMembers members := by
  induction h with
  | refl => exact ⟨hnames, rfl⟩
  | tail _ hedit ih =>
      have hnext := hedit.nodup ih.1
      exact ⟨hnext, (ofMembers_congr ih.1 hnext hedit.agree).symm.trans ih.2⟩

/-- Every object whose members have names of their own describes an album. Its folders are those that members describe, in
their order; their keys are all different, so that each is found by its key. And the album stays the same when members
that neither have a meaning of their own nor describe folders come, go or move, or when one of those with a meaning
of their own moves. -/
theorem ofValue_of_documented_members (h : (members.map Prod.fst).Nodup) :
    ∃ a, ofValue (.object members) = .ok a ∧
      List.Forall₂ Describes (members.filter DescribesFolder) a.folders ∧
      (a.folders.map (·.key)).Nodup ∧ (∀ f ∈ a.folders, a.folder? f.key = some f) ∧
      ∀ members', Relation.ReflTransGen Edit members members' → ofValue (.object members') = .ok a := by
  have hkeys := nodup_keys_ofMembers members
  refine ⟨ofMembers members, ofValue_of_nodup h, ?_, hkeys, fun f hf => folder?_of_mem hkeys hf, ?_⟩
  · have hfolders : (ofMembers members).folders = members.filterMap Record.folder? := Record.folders_ofMembers h
    rw [hfolders]
    exact forall₂_describes members
  · intro members' hedits
    obtain ⟨hnames, hsame⟩ := ofMembers_of_edits hedits h
    rw [ofValue_of_nodup hnames, hsame]

/-- A record with a folder of the empty key and a member that looks like a folder's. -/
def sampleMembers : List (String × Json.Value) :=
  [("ruta_", .string "p/base"), ("nombre", .string "Ana"), ("ID", .number (.whole 7)), ("ruta_cara", .null),
    ("ruta_cuerpo", .string "p/cuerpo")]

/-- The same record with the id at its end, without a name and with an age. -/
def editedMembers : List (String × Json.Value) :=
  [("ruta_", .string "p/base"), ("ruta_cara", .null), ("edad", .number (.whole 30)), ("ruta_cuerpo", .string "p/cuerpo"),
    ("ID", .number (.whole 7))]

theorem ofValue_of_documented_members_in_sample : (sampleMembers.map Prod.fst).Nodup ∧
    ∃ a, ofValue (.object sampleMembers) = .ok a ∧ a.folders = [⟨"", "p/base"⟩, ⟨"cuerpo", "p/cuerpo"⟩] ∧
      a.folder? "" = some ⟨"", "p/base"⟩ ∧ ofValue (.object editedMembers) = .ok a := by
  have hnames : (sampleMembers.map Prod.fst).Nodup := by decide
  obtain ⟨a, hvalue, -, -, hfound, hedits⟩ := ofValue_of_documented_members hnames
  have hfolders : a.folders = [⟨"", "p/base"⟩, ⟨"cuerpo", "p/cuerpo"⟩] := by
    have ha : ofValue (.object sampleMembers) = .ok ⟨"7", none, none, [⟨"", "p/base"⟩, ⟨"cuerpo", "p/cuerpo"⟩], []⟩ := by
      decide +kernel
    rw [Except.ok.inj (hvalue.symm.trans ha)]
  refine ⟨hnames, a, hvalue, hfolders, hfound ⟨"", "p/base"⟩ (by rw [hfolders]; exact List.mem_cons_self), ?_⟩
  apply hedits
  have hmove : Edit sampleMembers (sampleMembers.eraseIdx 2 ++ [("ID", .number (.whole 7))]) :=
    @Edit.move (sampleMembers.take 2) (sampleMembers.drop 3) _ [] _ (by decide +kernel) rfl
  have hdelete : Edit (sampleMembers.eraseIdx 2 ++ [("ID", .number (.whole 7))]) (editedMembers.eraseIdx 2) :=
    @Edit.delete (editedMembers.take 1) (editedMembers.eraseIdx 2).tail _ (by decide) (by decide +kernel)
  have hinsert : Edit (editedMembers.eraseIdx 2) editedMembers :=
    @Edit.insert (editedMembers.take 2) (editedMembers.drop 3) _ (by decide) (by decide +kernel) (by decide)
  exact .head hmove (.head hdelete (.single hinsert))

end Album

end AlbumBrowser
