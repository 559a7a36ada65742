import AlbumBrowser.Proofs.Feed.Records
import AlbumBrowser.Proofs.Json.Values

/-!
What a feed's text comes to. It is no JSON, or JSON of another kind than a list of objects, or it lists records
and gives one album for each. The second step, which decodes each record, refuses none: the members of an
object that has been read have names of their own, and no kind of value is refused.
-/

namespace AlbumBrowser

open Json

namespace Json

variable {close : Char} {α : Type} {P : α → List Char → Prop} {first : Bool} {xs : List α} {t : List Char}

theorem nodup_names_mergeMembers (members : List (String × α)) : ((mergeMembers members).map Prod.fst).Nodup := by
  have hfold : ∀ merged : List (String × α), (merged.map Prod.fst).Nodup →
      ((members.foldl (fun merged m => insertMember m.1 m.2 merged) merged).map Prod.fst).Nodup := by
    induction members with
    | nil => exact fun merged h => h
    | cons m members ih => exact fun merged h => ih _ (nodup_names_insertMember h m.1 m.2)
  exact hfold [] List.nodup_nil

theorem Items.exists_of_mem (h : Items close P first xs t) {x : α} (hx : x ∈ xs) : ∃ u, P x u := by
  induction h with
  | close => cases hx
  | next _ _ hy _ ih =>
      rcases List.mem_cons.mp hx with rfl | hx
      · exact ⟨_, hy⟩
      · exact ih hx

variable {depth : Nat} {members : List (String × Value)}

/-- The members of an object have names of their own, however often a name is given in the text. -/
theorem Spells.nodup_names (h : Spells depth (.object members) t) : (members.map Prod.fst).Nodup := by
  cases depth with
  | zero => cases h
  | succ depth =>
      rcases h with h | h
      · cases h
      · cases h
        exact nodup_names_mergeMembers _

theorem Spells.nodup_names_of_mem {items : List Value} (h : Spells depth (.array items) t)
    (hmem : .object members ∈ items) : (members.map Prod.fst).Nodup := by
  cases depth with
  | zero => cases h
  | succ depth =>
      rcases h with h | h
      · cases h
      · cases h with
        | array hitems =>
            obtain ⟨u, hu⟩ := hitems.exists_of_mem hmem
            exact hu.nodup_names

theorem Writes.nodup_names_of_mem {text : String} {items : List Value} (h : Writes text (.array items))
    (hmem : .object members ∈ items) : (members.map Prod.fst).Nodup := by
  obtain ⟨-, h, -⟩ := h
  exact h.nodup_names_of_mem hmem

end Json

namespace Feed

variable {text : String} {v : Value} {items : List Value} {records : List (List (String × Value))}

/-- The list of objects with given members. -/
def ofRecords (records : List (List (String × Value))) : Value := .array (records.map .object)

theorem objects?_ofRecords (records : List (List (String × Value))) :
    objects? (ofRecords records) = some (records.map .object) := by
  have hall : (records.map Value.object).all (·.asObject?.isSome) = true := by
    simp [Value.asObject?]
  exact if_pos hall

theorem eq_ofRecords_of_objects? (h : objects? v = some items) : ∃ records, v = ofRecords records := by
  cases v with
  | array all =>
      change (if all.all (·.asObject?.isSome) then some all else none) = some items at h
      split at h
      · rename_i hobjects
        rw [List.all_eq_true] at hobjects
        refine ⟨all.filterMap Value.asObject?, congrArg Value.array ?_⟩
        clear h
        induction all with
        | nil => rfl
        | cons item all ih =>
            obtain ⟨hitem, hrest⟩ := List.forall_mem_cons.mp hobjects
            cases item with
            | object members => exact congrArg (Value.object members :: ·) (ih hrest)
            | _ => cases hitem
      · cases h
  | _ => cases h

/-- Decoding the records of a text one by one refuses none of them. -/
theorem mapM_ofValue (h : Writes text (ofRecords records)) :
    (records.map Value.object).mapM Album.ofValue = .ok (records.map Album.ofMembers) := by
  rw [mapM_eq_ok_iff, List.forall₂_map_left_iff, List.forall₂_map_right_iff, List.forall₂_same]
  intro members hmem
  exact Album.ofValue_of_nodup (h.nodup_names_of_mem (List.mem_map_of_mem hmem))

theorem parse_of_error {e : Json.Error} (h : Json.read text = .error e) : parse text = .error (.malformed e) := by
  simp only [parse, h]

theorem parse_of_records (h : Writes text (ofRecords records)) : parse text = .ok (records.map Album.ofMembers) := by
  simp only [parse, read_eq_ok_iff.mpr h, objects?_ofRecords, mapM_ofValue h]
  rfl

theorem parse_of_other (h : Writes text v) (hother : ∀ records, v ≠ ofRecords records) :
    parse text = .error .notAList := by
  have hnone : objects? v = none := by
    cases hobjects : objects? v with
    | none => rfl
    | some items =>
        obtain ⟨records, hv⟩ := eq_ofRecords_of_objects? hobjects
        exact absurd hv (hother records)
  simp only [parse, read_eq_ok_iff.mpr h, hnone]

/-- A text is of one of three kinds, and each has its outcome. -/
theorem parse_cases (text : String) :
    (∃ e, Json.read text = .error e ∧ parse text = .error (.malformed e)) ∨
    (∃ v, (Writes text v ∧ ∀ records, v ≠ ofRecords records) ∧ parse text = .error .notAList) ∨
    ∃ records, Writes text (ofRecords records) ∧ parse text = .ok (records.map Album.ofMembers) := by
  cases hread : Json.read text with
  | error e => exact Or.inl ⟨e, rfl, parse_of_error hread⟩
  | ok v =>
      have hv := read_eq_ok_iff.mp hread
      by_cases hrecords : ∃ records, v = ofRecords records
      · obtain ⟨records, rfl⟩ := hrecords
        exact Or.inr (Or.inr ⟨records, hv, parse_of_records hv⟩)
      · have hother := not_exists.mp hrecords
        exact Or.inr (Or.inl ⟨v, ⟨hv, hother⟩, parse_of_other hv hother⟩)

theorem parse_eq_malformed_iff {e : Json.Error} : parse text = .error (.malformed e) ↔ Json.read text = .error e := by
  refine ⟨fun h => ?_, parse_of_error⟩
  rcases parse_cases text with ⟨e', hread, hparse⟩ | ⟨v, -, hparse⟩ | ⟨records, -, hparse⟩ <;>
    rw [hparse] at h <;> cases h
  exact hread

theorem parse_eq_notAList_iff :
    parse text = .error .notAList ↔ ∃ v, Writes text v ∧ ∀ records, v ≠ ofRecords records := by
  constructor
  · intro h
    rcases parse_cases text with ⟨e, -, hparse⟩ | ⟨v, hother, hparse⟩ | ⟨records, -, hparse⟩ <;>
      rw [hparse] at h <;> cases h
    exact ⟨v, hother⟩
  · rintro ⟨v, hv, hother⟩
    exact parse_of_other hv hother

theorem parse_eq_ok_iff {albums : List Album} :
    parse text = .ok albums ↔ ∃ records, Writes text (ofRecords records) ∧ albums = records.map Album.ofMembers := by
  constructor
  · intro h
    rcases parse_cases text with ⟨e, -, hparse⟩ | ⟨v, -, hparse⟩ | ⟨records, hrecords, hparse⟩ <;>
      rw [hparse] at h <;> cases h
    exact ⟨records, hrecords, rfl⟩
  · rintro ⟨records, hrecords, rfl⟩
    exact parse_of_records hrecords

/-- The text of a feed is refused as malformed exactly if it writes no JSON value, with the error that reading it has,
and as no list exactly if it writes a value that is no list of objects. Otherwise it gives one album for each
object, in their order: the album that the members of this object describe. Decoding the objects one by
one, the second step, refuses none of them. -/
theorem parse_by_kind (text : String) :
    ((∃ e, parse text = .error (.malformed e)) ↔ ∀ v, ¬Writes text v) ∧
    (∀ e, parse text = .error (.malformed e) ↔ Json.read text = .error e) ∧
    (parse text = .error .notAList ↔ ∃ v, Writes text v ∧ ∀ records, v ≠ ofRecords records) ∧
    (∀ albums, parse text = .ok albums ↔
      ∃ records, Writes text (ofRecords records) ∧ albums = records.map Album.ofMembers) ∧
    ∀ records, Writes text (ofRecords records) →
      (records.map Value.object).mapM Album.ofValue = .ok (records.map Album.ofMembers) := by
  refine ⟨?_, fun _ => parse_eq_malformed_iff, parse_eq_notAList_iff, fun _ => parse_eq_ok_iff, fun _ => mapM_ofValue⟩
  rw [← read_eq_error_iff]
  exact exists_congr fun _ => parse_eq_malformed_iff

/-- A feed with a member that is given twice, a record without any, and values of other kinds than usual. -/
example : (parse "[\x7b\"ID\":1,\"ID\":[],\"fecha\":false\x7d, \x7b\x7d]").map (·.map (·.id)) =
    .ok ["[]", "null"] := by decide +kernel

end Feed

end AlbumBrowser
