import AlbumBrowser.Json.Reader
import AlbumBrowser.Proofs.Text.Digits

/-!
The grammar of JSON texts, as relations between what is meant and the characters that spell it. Values are
spelled from their first character on; the white space around them belongs to the lists, objects and texts that
they stand in.
-/

namespace AlbumBrowser.Json

open Text

variable {α : Type}

def IsSpace (w : List Char) : Prop := ∀ c ∈ w, isSpace c = true

/-! ### Strings -/

/-- Four hexadecimal digits and their value. -/
inductive SpellsQuad : Nat → List Char → Prop
  | digits {a b c d : Char} {i j k l : Nat} (ha : hexValue a = some i) (hb : hexValue b = some j)
      (hc : hexValue c = some k) (hd : hexValue d = some l) :
      SpellsQuad (4096 * i + 256 * j + 16 * k + l) [a, b, c, d]

/-- A character of a string: as it is, by a letter behind a backslash, or by its number. Above 16 bits it takes the
two halves of a surrogate pair. -/
inductive SpellsChar : Char → List Char → Prop
  | plain {c : Char} (hmark : c ≠ '"') (hslash : c ≠ '\\') (hcontrol : ¬c < ' ') : SpellsChar c [c]
  | letter {c x : Char} (h : escapeLetter? x = some c) : SpellsChar c ['\\', x]
  | number {n : Nat} {t : List Char} (h : SpellsQuad n t) (hn : n < 0xD800 ∨ 0xDFFF < n) :
      SpellsChar (Char.ofNat n) ('\\' :: 'u' :: t)
  | pair {high low : Nat} {t u : List Char} (ht : SpellsQuad high t) (hu : SpellsQuad low u)
      (hhigh : 0xD800 ≤ high ∧ high ≤ 0xDBFF) (hlow : 0xDC00 ≤ low ∧ low ≤ 0xDFFF) :
      SpellsChar (Char.ofNat (0x10000 + 0x400 * (high - 0xD800) + (low - 0xDC00)))
        ('\\' :: 'u' :: (t ++ '\\' :: 'u' :: u))

/-- The characters of a string and its closing mark. -/
inductive SpellsChars : List Char → List Char → Prop
  | nil : SpellsChars [] ['"']
  | cons {c : Char} {cs t u : List Char} (hc : SpellsChar c t) (hcs : SpellsChars cs u) :
      SpellsChars (c :: cs) (t ++ u)

/-! ### Numbers -/

/-- Digits that do not begin with a zero, unless it is the only one. -/
inductive WholePart : List Char → Prop
  | zero : WholePart ['0']
  | digits {c : Char} {t : List Char} (hc : c ≠ '0') (h : IsDigits (c :: t)) : WholePart (c :: t)

inductive FractionPart : List Char → Prop
  | none : FractionPart []
  | digits {t : List Char} (hne : t ≠ []) (h : IsDigits t) : FractionPart ('.' :: t)

/-- Digits of an exponent, with a sign or without. -/
inductive SignedDigits : List Char → Prop
  | digits {sign t : List Char} (hsign : sign = [] ∨ sign = ['+'] ∨ sign = ['-']) (hne : t ≠ []) (h : IsDigits t) :
      SignedDigits (sign ++ t)

inductive ExponentPart : List Char → Prop
  | none : ExponentPart []
  | marked {c : Char} {t : List Char} (hc : c = 'e' ∨ c = 'E') (h : SignedDigits t) : ExponentPart (c :: t)

/-- A number without its sign. -/
inductive IsNumeral : List Char → Prop
  | parts {w f e : List Char} (hw : WholePart w) (hf : FractionPart f) (he : ExponentPart e) :
      IsNumeral (w ++ (f ++ e))

/-! ### Values -/

/-- What stands in front of an item: a comma, unless it is the first. -/
inductive Separator : (first : Bool) → List Char → Prop
  | none : Separator true []
  | comma {w : List Char} (hw : IsSpace w) : Separator false (w ++ [','])

/-- The items of a list or an object, from some item on, and the closing bracket. -/
inductive Items (close : Char) (P : α → List Char → Prop) : (first : Bool) → List α → List Char → Prop
  | close {first : Bool} {w : List Char} (hw : IsSpace w) : Items close P first [] (w ++ [close])
  | next {first : Bool} {b w t u : List Char} {x : α} {xs : List α} (hb : Separator first b) (hw : IsSpace w)
      (hx : P x t) (hxs : Items close P false xs u) : Items close P first (x :: xs) (b ++ (w ++ (t ++ u)))

/-- A name, a colon and a value. -/
inductive SpellsMember (P : α → List Char → Prop) : String × α → List Char → Prop
  | colon {name : String} {t w w' u : List Char} {x : α} (hname : SpellsChars name.toList t) (hw : IsSpace w)
      (hw' : IsSpace w') (hx : P x u) : SpellsMember P (name, x) ('"' :: (t ++ (w ++ ':' :: (w' ++ u))))

/-- Values without brackets. A number has the value that its numeral has by itself. -/
inductive SpellsScalar : Value → List Char → Prop
  | null : SpellsScalar .null ['n', 'u', 'l', 'l']
  | yes : SpellsScalar (.bool true) ['t', 'r', 'u', 'e']
  | no : SpellsScalar (.bool false) ['f', 'a', 'l', 's', 'e']
  | string {s : String} {t : List Char} (h : SpellsChars s.toList t) : SpellsScalar (.string s) ('"' :: t)
  | number {n : Number} {t : List Char} (h : IsNumeral t) (hn : Json.number false t = .ok (n, [])) :
      SpellsScalar (.number n) t
  | negative {n : Number} {t : List Char} (h : IsNumeral t) (hn : Json.number true t = .ok (n, [])) :
      SpellsScalar (.number n) ('-' :: t)

/-- The members that an object has if members are given to it one by one. -/
def mergeMembers (members : List (String × α)) : List (String × α) :=
  members.foldl (fun merged m => insertMember m.1 m.2 merged) []

/-- Lists and objects of what `P` spells. -/
inductive SpellsBracketed (P : Value → List Char → Prop) : Value → List Char → Prop
  | array {items : List Value} {t : List Char} (h : Items ']' P true items t) :
      SpellsBracketed P (.array items) ('[' :: t)
  | object {members : List (String × Value)} {t : List Char} (h : Items '\x7d' (SpellsMember P) true members t) :
      SpellsBracketed P (.object (mergeMembers members)) ('\x7b' :: t)

/-- Values with at most `depth` brackets open at once. -/
def Spells : (depth : Nat) → Value → List Char → Prop
  | 0, v, t => SpellsScalar v t
  | depth + 1, v, t => SpellsScalar v t ∨ SpellsBracketed (Spells depth) v t

/-- A whole text that writes a value. -/
inductive Writes : String → Value → Prop
  | text {w t w' : List Char} {v : Value} (hw : IsSpace w) (h : Spells depthLimit v t) (hw' : IsSpace w') :
      Writes (String.ofList (w ++ (t ++ w'))) v

/-! ### White space -/

theorem isSpace_nil : IsSpace [] := fun _ hc => absurd hc List.not_mem_nil

theorem isSpace_takeWhile (s : List Char) : IsSpace (s.takeWhile isSpace) := List.all_eq_true.mp List.all_takeWhile

variable {w s rest : List Char} {c : Char}

theorem takeWhile_append_skipSpace (s : List Char) : s.takeWhile isSpace ++ skipSpace s = s :=
  List.takeWhile_append_dropWhile

theorem skipSpace_append (hw : IsSpace w) (s : List Char) : skipSpace (w ++ s) = skipSpace s :=
  List.dropWhile_append_of_pos hw

theorem skipSpace_append_cons (hw : IsSpace w) (hc : isSpace c = false) (s : List Char) :
    skipSpace (w ++ c :: s) = c :: s := by
  rw [skipSpace_append hw]
  exact List.dropWhile_cons_of_neg (by simp [hc])

/-- What is found by skipping white space stands behind some, and is none. -/
theorem skipSpace_eq_cons_iff : skipSpace s = c :: rest ↔ ∃ w, IsSpace w ∧ isSpace c = false ∧ s = w ++ c :: rest := by
  constructor
  · intro h
    refine ⟨s.takeWhile isSpace, isSpace_takeWhile s, ?_, ?_⟩
    · have hhead := List.head?_dropWhile_not isSpace s
      rw [show s.dropWhile isSpace = c :: rest from h] at hhead
      simpa using hhead
    · calc s = s.takeWhile isSpace ++ skipSpace s := (takeWhile_append_skipSpace s).symm
        _ = s.takeWhile isSpace ++ c :: rest := by rw [h]
  · rintro ⟨w, hw, hc, rfl⟩
    exact skipSpace_append_cons hw hc rest

theorem skipSpace_eq_nil_iff : skipSpace s = [] ↔ IsSpace s := by
  constructor
  · intro h
    have hall := takeWhile_append_skipSpace s
    rw [h, List.append_nil] at hall
    exact hall ▸ isSpace_takeWhile s
  · intro h
    have hskip := skipSpace_append h []
    rwa [List.append_nil] at hskip

end AlbumBrowser.Json
