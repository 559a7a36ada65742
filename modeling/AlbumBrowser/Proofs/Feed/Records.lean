import AlbumBrowser.Feed
import Mathlib.Data.List.Forall2
import Mathlib.Data.List.Nodup

/-!
The records of a feed and the albums that they describe. A record is decoded member by member, and only a member that
is given twice can stop this; so members with names of their own always make up a record, and the folders
of its album have keys of their own.
-/

namespace AlbumBrowser

/-- Where keys are all different, what is found by a key is what has it. -/
theorem find?_key_eq_some_iff {α κ : Type} [DecidableEq κ] {key : α → κ} {items : List α} (h : (items.map key).Nodup)
    {k : κ} {item : α} : items.find? (key · = k) = some item ↔ item ∈ items ∧ key item = k := by
  constructor
  · intro hfound
    have hkey := List.find?_some hfound
    exact ⟨List.mem_of_find?_eq_some hfound, of_decide_eq_true hkey⟩
  · rintro ⟨hmem, rfl⟩
    cases hfound : items.find? (key · = key item) with
    | none =>
        have hnone := List.find?_eq_none.mp hfound item hmem
        exact absurd (decide_eq_true rfl) hnone
    | some first =>
        have hkey := List.find?_some hfound
        rw [List.inj_on_of_nodup_map h (List.mem_of_find?_eq_some hfound) hmem (of_decide_eq_true hkey)]

theorem Json.nodup_names_insertMember {α : Type} {members : List (String × α)} (h : (members.map Prod.fst).Nodup)
    (name : String) (v : α) : ((insertMember name v members).map Prod.fst).Nodup := by
  rw [names_insertMember]
  split
  · exact h
  · rename_i hnew
    exact h.append (List.nodup_singleton name) (by simpa using hnew)

namespace Album

namespace Member

theorem name_of_ofName? {name : String} {m : Member} (h : ofName? name = some m) : m.name = name := by
  have hname := List.find?_some h
  exact of_decide_eq_true hname

end Member

namespace Record

theorem takeMember_eq_ok_iff {p q : Progress} {member : String × Json.Value} :
    takeMember p member = .ok q ↔ p.repeats member.1 = false ∧ q = p.put member.1 member.2 := by
  unfold takeMember
  cases p.repeats member.1 <;> simp [eq_comm]

/-- Members are taken in one after the other. -/
theorem record_of_foldlM {members : List (String × Json.Value)} {p q : Progress}
    (h : members.foldlM takeMember p = .ok q) :
    q.record = members.foldl (fun r member => r.add member.1 member.2) p.record := by
  induction members generalizing p with
  | nil =>
      cases h
      rfl
  | cons member members ih =>
      rw [List.foldlM_cons, Json.bind_eq_ok_iff] at h
      obtain ⟨next, htake, hmore⟩ := h
      obtain ⟨-, rfl⟩ := takeMember_eq_ok_iff.mp htake
      exact ih hmore

/-- If members make up a record at all, it is the one that they make up one by one. -/
theorem eq_ofMembers_of_decode {members : List (String × Json.Value)} {r : Record} (h : decode members = .ok r) :
    r = ofMembers members := by
  obtain ⟨p, hfold, rfl⟩ := Json.map_eq_ok_iff.mp h
  exact record_of_foldlM hfold

/-- Members with names of their own are never refused. -/
theorem foldlM_ne_error {members : List (String × Json.Value)} (h : (members.map Prod.fst).Nodup) {p : Progress}
    (hp : ∀ m ∈ p.seen, m.name ∉ members.map Prod.fst) : ∃ q, members.foldlM takeMember p = .ok q := by
  induction members generalizing p with
  | nil => exact ⟨p, rfl⟩
  | cons member members ih =>
      obtain ⟨hnew, hrest⟩ := List.nodup_cons.mp h
      have hfirst : p.repeats member.1 = false := by
        unfold Progress.repeats
        cases hname : Member.ofName? member.1 with
        | none => rfl
        | some m =>
            refine decide_eq_false ?_
            intro hm
            exact hp m hm (Member.name_of_ofName? hname ▸ List.mem_cons_self)
      rw [List.foldlM_cons, takeMember_eq_ok_iff.mpr ⟨hfirst, rfl⟩]
      refine ih hrest ?_
      intro m hm
      rcases List.mem_append.mp hm with hnow | hbefore
      · rw [Member.name_of_ofName? (Option.mem_toList.mp hnow)]
        exact hnew
      · exact fun hin => hp m hbefore (List.mem_cons_of_mem _ hin)

theorem decode_of_nodup {members : List (String × Json.Value)} (h : (members.map Prod.fst).Nodup) :
    decode members = .ok (ofMembers members) := by
  obtain ⟨p, hfold⟩ := foldlM_ne_error h (p := {}) (fun m hm => absurd hm List.not_mem_nil)
  have hdecode : decode members = .ok p.record := by
    rw [decode, hfold]
    rfl
  rw [hdecode, eq_ofMembers_of_decode hdecode]

theorem nodup_names_add {r : Record} (h : (r.attributes.map Prod.fst).Nodup) (name : String) (v : Json.Value) :
    ((r.add name v).attributes.map Prod.fst).Nodup := by
  unfold add
  cases Member.ofName? name with
  | none => exact Json.nodup_names_insertMember h name v
  | some m => cases m <;> exact h

theorem nodup_names_ofMembers (members : List (String × Json.Value)) :
    ((ofMembers members).attributes.map Prod.fst).Nodup := by
  have hfold : ∀ r : Record, (r.attributes.map Prod.fst).Nodup →
      ((members.foldl (fun r member => r.add member.1 member.2) r).attributes.map Prod.fst).Nodup := by
    induction members with
    | nil => exact fun r hr => hr
    | cons member members ih => exact fun r hr => ih _ (nodup_names_add hr member.1 member.2)
  exact hfold {} List.nodup_nil

theorem name_of_folder? {member : String × Json.Value} {f : Folder} (h : folder? member = some f) :
    member.1 = folderMark ++ f.key := by
  simp only [folder?, Option.bind_eq_bind, Option.bind_eq_some_iff] at h
  obtain ⟨key, hkey, path, -, h⟩ := h
  split at h
  · cases h
  · cases h
    apply String.toList_injective
    rw [Text.behind?_eq_some_iff.mp hkey, String.toList_append, String.toList_ofList]

end Record

/-- The folders of an album have keys of their own, since the members that describe them have names of their
own. -/
theorem nodup_keys_ofMembers (members : List (String × Json.Value)) :
    ((ofMembers members).folders.map (·.key)).Nodup := by
  have hnames := Record.nodup_names_ofMembers members
  unfold List.Nodup at hnames ⊢
  rw [List.pairwise_map] at hnames ⊢
  refine hnames.filterMap Record.folder? ?_
  intro member other hne f hf g hg hkey
  apply hne
  rw [Record.name_of_folder? hf, Record.name_of_folder? hg, hkey]

/-- Among folders with keys of their own each is found by its key. -/
theorem folder?_of_mem {a : Album} (h : (a.folders.map (·.key)).Nodup) {f : Folder} (hf : f ∈ a.folders) :
    a.folder? f.key = some f :=
  (find?_key_eq_some_iff h).mpr ⟨hf, rfl⟩

/-- Only objects describe albums, and each the album of its members. -/
theorem eq_ofMembers_of_ofValue {v : Json.Value} {a : Album} (h : ofValue v = .ok a) :
    ∃ members, v = .object members ∧ a = ofMembers members := by
  cases v with
  | object members =>
      obtain ⟨r, hdecode, rfl⟩ := Json.map_eq_ok_iff.mp h
      exact ⟨members, rfl, congrArg Record.toAlbum (Record.eq_ofMembers_of_decode hdecode)⟩
  | _ => cases h

theorem ofValue_of_nodup {members : List (String × Json.Value)} (h : (members.map Prod.fst).Nodup) :
    ofValue (.object members) = .ok (ofMembers members) := by
  rw [ofValue, Record.decode_of_nodup h]
  rfl

end Album

namespace Feed

/-- Reading one by one succeeds when it does for each. -/
theorem mapM_eq_ok_iff {α β ε : Type} {f : α → Except ε β} {xs : List α} {ys : List β} :
    xs.mapM f = .ok ys ↔ List.Forall₂ (fun x y => f x = .ok y) xs ys := by
  induction xs generalizing ys with
  | nil =>
      rw [List.mapM_nil, List.forall₂_nil_left_iff]
      exact ⟨fun h => by cases h; rfl, fun h => by rw [h]; rfl⟩
  | cons x xs ih =>
      rw [List.mapM_cons, List.forall₂_cons_left_iff, Json.bind_eq_ok_iff]
      constructor
      · rintro ⟨y, hy, hrest⟩
        obtain ⟨ys, hys, hwhole⟩ := Json.bind_eq_ok_iff.mp hrest
        cases hwhole
        exact ⟨y, ys, hy, ih.mp hys, rfl⟩
      · rintro ⟨y, ys, hy, hys, rfl⟩
        exact ⟨y, hy, Json.bind_eq_ok_iff.mpr ⟨ys, ih.mpr hys, rfl⟩⟩

/-- The albums of a feed are those that its records describe. -/
theorem mem_of_parse {text : String} {albums : List Album} (h : parse text = .ok albums) {a : Album}
    (ha : a ∈ albums) : ∃ members, a = Album.ofMembers members := by
  unfold parse at h
  split at h
  · cases h
  · split at h
    · obtain ⟨i, hi, rfl⟩ := List.getElem_of_mem ha
      obtain ⟨hlength, hitems⟩ := List.forall₂_iff_get.mp (mapM_eq_ok_iff.mp (Json.mapError_eq_ok_iff.mp h))
      obtain ⟨members, -, halbum⟩ := Album.eq_ofMembers_of_ofValue (hitems i (hlength ▸ hi) hi)
      exact ⟨members, halbum⟩
    · cases h

end Feed

end AlbumBrowser
