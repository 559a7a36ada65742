import AlbumBrowser.Proofs.Text.Ascii
import AlbumBrowser.Text.Utf8.RoundTrip
import AlbumBrowser.Web.Query
import Mathlib.Data.List.TakeWhile

/-!
Reading a query undoes writing it. A byte of a component is written as itself or as an escape, and either is
read back whatever follows; and no component is written with a character that sets pairs, names and values,
or a path and its query apart.
-/

namespace AlbumBrowser.Web

open Text

theorem percentDecode_cons_of_ne {b : UInt8} (h : b ≠ 0x25) (rest : List UInt8) :
    percentDecode (b :: rest) = plainByte b :: percentDecode rest := by
  match rest with
  | [] | [_] => rfl
  | high :: low :: rest => simp only [percentDecode, if_neg h]

theorem percentDecode_escape {high low b : UInt8} (h : percentByte? high low = some b) (rest : List UInt8) :
    percentDecode (0x25 :: high :: low :: rest) = b :: percentDecode rest := by
  simp only [percentDecode, if_true, h]

theorem encode_unreserved : ∀ b : UInt8, isUnreserved b = true →
    encode [Char.ofNat b.toNat] = [b] ∧ b ≠ 0x25 ∧ b ≠ 0x2B :=
  forall_byte (by decide +kernel)

/-- The two digits of an escape are one byte each, and these have the value of the escaped byte. -/
theorem encode_escape : ∀ b : UInt8,
    encode ['%', hexDigit (b.toNat / 16), hexDigit (b.toNat % 16)] =
      [0x25, (hexDigit (b.toNat / 16)).toUInt8, (hexDigit (b.toNat % 16)).toUInt8] ∧
    percentByte? (hexDigit (b.toNat / 16)).toUInt8 (hexDigit (b.toNat % 16)).toUInt8 = some b :=
  forall_byte (by decide +kernel)

theorem percentDecode_encodeByte (b : UInt8) (rest : List UInt8) :
    percentDecode (encode (encodeByte b) ++ rest) = b :: percentDecode rest := by
  unfold encodeByte
  split
  · rename_i hplain
    obtain ⟨hself, hpercent, hplus⟩ := encode_unreserved b hplain
    rw [hself, List.singleton_append, percentDecode_cons_of_ne hpercent, plainByte, if_neg hplus]
  · obtain ⟨hbytes, hvalue⟩ := encode_escape b
    rw [hbytes]
    exact percentDecode_escape hvalue rest

/-- A component is read back, and nothing of it is left over. -/
theorem decodeComponent_encodeComponent (s : List Char) : decodeComponent (encodeComponent s) = s := by
  have hbytes : ∀ bytes : List UInt8, percentDecode (encode (bytes.flatMap encodeByte)) = bytes := by
    intro bytes
    induction bytes with
    | nil => rfl
    | cons b bytes ih => rw [List.flatMap_cons, encode_append, percentDecode_encodeByte, ih]
  rw [decodeComponent, encodeComponent, hbytes]
  exact decodeLossy_encode s

theorem separators_not_mem_encodeByte : ∀ b : UInt8, '?' ∉ encodeByte b ∧ '&' ∉ encodeByte b ∧ '=' ∉ encodeByte b :=
  forall_byte (by decide +kernel)

theorem separator_not_mem_encodeComponent {c : Char} (h : c ∈ ['?', '&', '=']) (s : List Char) :
    c ∉ encodeComponent s := by
  intro hmem
  obtain ⟨b, -, hb⟩ := List.mem_flatMap.mp hmem
  obtain ⟨hquestion, hand, hequals⟩ := separators_not_mem_encodeByte b
  simp only [List.mem_cons, List.not_mem_nil, or_false] at h
  rcases h with rfl | rfl | rfl
  · exact hquestion hb
  · exact hand hb
  · exact hequals hb

theorem takeWhile_ne_of_not_mem {c : Char} {s : List Char} (h : c ∉ s) : s.takeWhile (· ≠ c) = s :=
  List.takeWhile_eq_self_iff.mpr fun _ hd => decide_eq_true (ne_of_mem_of_not_mem hd h)

theorem takeWhile_ne_append_cons (c : Char) (s rest : List Char) :
    (s ++ c :: rest).takeWhile (· ≠ c) = s.takeWhile (· ≠ c) := by
  induction s with
  | nil => simp
  | cons d s ih => rw [List.cons_append, List.takeWhile_cons, List.takeWhile_cons, ih]

namespace Query

/-- A pair as it is written. -/
def piece (pair : String × String) : List Char :=
  encodeComponent pair.1.toList ++ '=' :: encodeComponent pair.2.toList

theorem pair?_piece (pair : String × String) : pair? (piece pair) = some pair := by
  have hcut : cut? '=' (piece pair) = some (encodeComponent pair.1.toList, encodeComponent pair.2.toList) :=
    cut?_eq_some_iff.mpr ⟨separator_not_mem_encodeComponent (by decide) _, rfl⟩
  rw [pair?, hcut]
  simp only [Option.map_some, decodeComponent_encodeComponent, String.ofList_toList]

theorem separator_not_mem_piece {c : Char} (h : c ∈ ['?', '&']) (pair : String × String) : c ∉ piece pair := by
  have hencoded : ∀ s, c ∉ encodeComponent s := separator_not_mem_encodeComponent (List.mem_append_left ['='] h)
  have hequals : c ≠ '=' := by
    rintro rfl
    exact absurd h (by decide)
  simp [piece, hencoded, hequals]

theorem toChars_cons_cons (pair next : String × String) (q : Query) :
    toChars (pair :: next :: q) = piece pair ++ '&' :: toChars (next :: q) := by
  rw [toChars, List.map_cons, List.map_cons, List.intercalate_cons_cons, List.append_assoc]
  rfl

theorem question_not_mem_toChars (q : Query) : '?' ∉ toChars q := by
  induction q with
  | nil => exact List.not_mem_nil
  | cons pair q ih =>
      have hpair := separator_not_mem_piece (c := '?') (by decide) pair
      cases q with
      | nil =>
          change '?' ∉ ['&'].intercalate [piece pair]
          simpa using hpair
      | cons next q =>
          rw [toChars_cons_cons]
          simp [hpair, ih]

theorem ofChars_toChars (q : Query) : ofChars (toChars q) = q := by
  cases q with
  | nil => rfl
  | cons pair q =>
      have hpieces : (toChars (pair :: q)).splitOn '&' = (pair :: q).map piece := by
        apply List.splitOn_intercalate
        · intro l hl
          obtain ⟨other, -, rfl⟩ := List.mem_map.mp hl
          exact separator_not_mem_piece (by decide) other
        · exact List.cons_ne_nil _ _
      have hread : pair? ∘ piece = some := funext pair?_piece
      rw [ofChars, hpieces, List.filterMap_map, hread, List.filterMap_some]

/-- The query string goes from the first question mark to the second one. -/
theorem ofTarget_eq {path : List Char} (hpath : '?' ∉ path) (s : List Char) :
    ofTarget (String.ofList (path ++ '?' :: s)) = ofChars (s.takeWhile (· ≠ '?')) := by
  have hpart : part? (String.ofList (path ++ '?' :: s)) = (s.splitOn '?')[0]? := by
    rw [part?, String.toList_ofList, List.splitOn_append_cons_self_of_not_mem hpath]
    rfl
  rw [ofTarget, hpart]
  by_cases hs : '?' ∈ s
  · obtain ⟨before, after, rfl, hbefore⟩ := List.eq_append_cons_of_mem hs
    rw [List.splitOn_append_cons_self_of_not_mem hbefore, takeWhile_ne_append_cons, takeWhile_ne_of_not_mem hbefore]
    rfl
  · rw [List.splitOn_eq_singleton hs, takeWhile_ne_of_not_mem hs]
    rfl

/-- A query that is sent is read as the pairs that it was made of. -/
theorem ofTarget_toChars {path : List Char} (hpath : '?' ∉ path) (q : Query) :
    ofTarget (String.ofList (path ++ '?' :: toChars q)) = q := by
  rw [ofTarget_eq hpath, takeWhile_ne_of_not_mem (question_not_mem_toChars q), ofChars_toChars]

end Query

end AlbumBrowser.Web
