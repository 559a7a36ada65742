import AlbumBrowser.Proofs.Gallery.Browsing
import Mathlib.Data.Int.DivMod
import Mathlib.Logic.Function.Iterate

/-!
Steps through the images of an open album go round in a circle. Whatever their order, steps on and steps back lead as
far as their numbers differ, counted modulo the number of images, and so a step back undoes a step on. Each place is
reckoned by a sum, a difference and a remainder; none of these fails in words of which there are at least twice as many
as images.
-/

namespace AlbumBrowser

/-- A step through the images of a folder. -/
inductive Turn where
  | on
  | back
  deriving DecidableEq, Repr

/-! ### Words

Numbers below a given size, where an operation whose result is no such number has none. -/

namespace Word

def add? (size m n : Nat) : Option Nat := if m + n < size then some (m + n) else none

def sub? (m n : Nat) : Option Nat := if n ≤ m then some (m - n) else none

def mod? (m n : Nat) : Option Nat := if n = 0 then none else some (m % n)

end Word

namespace Turn

variable {size count cursor : Nat} {turns : List Turn}

/-- The place that a step leads to. -/
def place (count cursor : Nat) : Turn → Nat
  | on => (cursor + 1) % count
  | back => (cursor + count - 1) % count

/-- The place that a step leads to, reckoned in words. -/
def place? (size count cursor : Nat) : Turn → Option Nat
  | on => do Word.mod? (← Word.add? size cursor 1) count
  | back => do
    let sum ← Word.add? size cursor count
    Word.mod? (← Word.sub? sum 1) count

/-- How far a step leads. -/
def length : Turn → Int
  | on => 1
  | back => -1

/-- How far steps lead together. -/
def net (turns : List Turn) : Int := turns.count .on - turns.count .back

theorem net_cons (turn : Turn) (turns : List Turn) : net (turn :: turns) = turn.length + net turns := by
  cases turn <;> simp [net, length] <;> omega

theorem net_append (turns turns' : List Turn) : net (turns ++ turns') = net turns + net turns' := by
  simp [net]
  omega

theorem net_replicate (n : Nat) (turn : Turn) : net (List.replicate n turn) = n * turn.length := by
  cases turn <;> simp [net, length, List.count_replicate]

theorem place_lt (hcount : 0 < count) (turn : Turn) : turn.place count cursor < count := by
  cases turn <;> exact Nat.mod_lt _ hcount

theorem place_eq (hcount : 0 < count) (turn : Turn) :
    (turn.place count cursor : Int) = (cursor + turn.length) % count := by
  cases turn with
  | on => rfl
  | back =>
      have hsum : ((cursor + count - 1 : Nat) : Int) = cursor + -1 + count := by omega
      rw [place, Int.natCast_emod, hsum, Int.add_emod_right]
      rfl

/-- Steps lead to the place that is as far on as they lead together. -/
theorem foldl_place_eq (hcursor : cursor < count) (turns : List Turn) :
    ((turns.foldl (place count) cursor : Nat) : Int) = (cursor + net turns) % count := by
  induction turns generalizing cursor with
  | nil => exact (Int.emod_eq_of_lt (Int.natCast_nonneg cursor) (Int.ofNat_lt.mpr hcursor)).symm
  | cons turn turns ih =>
      have hcount := Nat.zero_lt_of_lt hcursor
      rw [List.foldl_cons, ih (turn.place_lt hcount), turn.place_eq hcount, Int.emod_add_emod, net_cons, Int.add_assoc]

theorem place?_eq_some (hcursor : cursor < count) (hcount : 2 * count ≤ size) (turn : Turn) :
    turn.place? size count cursor = some (turn.place count cursor) := by
  have hmod : ∀ n, Word.mod? n count = some (n % count) := fun n => if_neg (Nat.ne_zero_of_lt hcursor)
  cases turn with
  | on =>
      have hadd : Word.add? size cursor 1 = some (cursor + 1) := if_pos (by omega)
      rw [place?, hadd, Option.bind_eq_bind, Option.bind_some, hmod]
      rfl
  | back =>
      have hadd : Word.add? size cursor count = some (cursor + count) := if_pos (by omega)
      have hsub : Word.sub? (cursor + count) 1 = some (cursor + count - 1) := if_pos (by omega)
      rw [place?, hadd, Option.bind_eq_bind, Option.bind_some, hsub, Option.bind_some, hmod]
      rfl

theorem foldlM_place?_eq_some (hcursor : cursor < count) (hcount : 2 * count ≤ size) (turns : List Turn) :
    turns.foldlM (place? size count) cursor = some (turns.foldl (place count) cursor) := by
  induction turns generalizing cursor with
  | nil => rfl
  | cons turn turns ih =>
      rw [List.foldlM_cons, place?_eq_some hcursor hcount]
      exact ih (turn.place_lt (Nat.zero_lt_of_lt hcursor))

end Turn

namespace OpenAlbum

variable {o : OpenAlbum} {turns turns' : List Turn}

@[simp] theorem album_next (o : OpenAlbum) : o.next.album = o.album := album_move _ o

@[simp] theorem album_prev (o : OpenAlbum) : o.prev.album = o.album := album_move _ o

/-- Without a folder there is nothing to step through. -/
theorem move_of_no_folder (h : o.folder = none) (rule : Nat → Nat → Nat) : o.move rule = o := by
  rw [move, if_neg]
  rintro ⟨hsome, -⟩
  rw [h] at hsome
  cases hsome

/-- The open album after a step. -/
def turned (o : OpenAlbum) : Turn → OpenAlbum
  | .on => o.next
  | .back => o.prev

theorem turned_eq (o : OpenAlbum) (turn : Turn) : o.turned turn = o.move fun count cursor => turn.place count cursor := by
  cases turn <;> rfl

/-- There is something to step through. -/
def Turns (o : OpenAlbum) : Prop := o.folder.isSome ∧ o.images ≠ []

theorem foldl_turned_of_not (h : ¬ o.Turns) (turns : List Turn) : turns.foldl turned o = o := by
  induction turns with
  | nil => rfl
  | cons turn turns ih =>
      have hstays : o.turned turn = o := (o.turned_eq turn).trans (if_neg h)
      rw [List.foldl_cons, hstays, ih]

theorem foldl_turned (h : o.Turns) (turns : List Turn) :
    turns.foldl turned o = { o with cursor := turns.foldl (Turn.place o.images.length) o.cursor } := by
  induction turns generalizing o with
  | nil => rfl
  | cons turn turns ih =>
      have hturn : o.turned turn = { o with cursor := turn.place o.images.length o.cursor } :=
        (o.turned_eq turn).trans (if_pos h)
      rw [List.foldl_cons, hturn]
      exact ih (o := { o with cursor := turn.place o.images.length o.cursor }) h

/-- Steps lead to the residue of the place that they would come to on a line. -/
theorem Sound.foldl_turned (ho : o.Sound) (h : o.Turns) (turns : List Turn) : turns.foldl turned o =
    { o with cursor := ((o.cursor + Turn.net turns : Int) % o.images.length).toNat } := by
  rw [OpenAlbum.foldl_turned h, ← Turn.foldl_place_eq (ho.cursor_lt h.2), Int.toNat_natCast]

/-- Steps that lead equally far together lead to the same place. -/
theorem Sound.foldl_turned_congr (ho : o.Sound) (hnet : Turn.net turns = Turn.net turns') :
    turns.foldl turned o = turns'.foldl turned o := by
  by_cases h : o.Turns
  · rw [ho.foldl_turned h, ho.foldl_turned h, hnet]
  · rw [foldl_turned_of_not h, foldl_turned_of_not h]

/-- Steps that go round all the way, or come back, lead nowhere. -/
theorem Sound.foldl_turned_of_dvd (ho : o.Sound) (hnet : (o.images.length : Int) ∣ Turn.net turns) :
    turns.foldl turned o = o := by
  by_cases h : o.Turns
  · have hplace : ((o.cursor + Turn.net turns : Int) % o.images.length).toNat = o.cursor := by
      rw [Int.add_emod, Int.emod_eq_zero_of_dvd hnet, Int.add_zero, Int.emod_emod,
        Int.emod_eq_of_lt (Int.natCast_nonneg _) (Int.ofNat_lt.mpr (ho.cursor_lt h.2)), Int.toNat_natCast]
    rw [ho.foldl_turned h, hplace]
  · exact foldl_turned_of_not h turns

theorem iterate_turned (turn : Turn) (n : Nat) (o : OpenAlbum) :
    (turned · turn)^[n] o = (List.replicate n turn).foldl turned o := by
  induction n generalizing o with
  | zero => rfl
  | succ n ih => rw [Function.iterate_succ_apply, ih, List.replicate_succ, List.foldl_cons]

/-- Steps on and then back are as many steps as they differ by, on if there were more of these. -/
theorem Sound.iterate_prev_iterate_next (h : o.Sound) (n m : Nat) :
    OpenAlbum.prev^[m] (OpenAlbum.next^[n] o) =
      (if 0 < (n - m : Int) then OpenAlbum.next else OpenAlbum.prev)^[(n - m : Int).natAbs] o := by
  have hon : ∀ n o, OpenAlbum.next^[n] o = (List.replicate n Turn.on).foldl turned o := iterate_turned .on
  have hback : ∀ n o, OpenAlbum.prev^[n] o = (List.replicate n Turn.back).foldl turned o := iterate_turned .back
  have hnet : Turn.net (List.replicate n .on ++ List.replicate m .back) = (n - m : Int) := by
    rw [Turn.net_append, Turn.net_replicate, Turn.net_replicate]
    simp [Turn.length]
    omega
  rw [hon, hback, ← List.foldl_append]
  split
  · rename_i hmore
    rw [hon]
    apply h.foldl_turned_congr
    rw [hnet, Turn.net_replicate, Turn.length]
    omega
  · rename_i hless
    rw [hback]
    apply h.foldl_turned_congr
    rw [hnet, Turn.net_replicate, Turn.length]
    omega

end OpenAlbum

end AlbumBrowser
