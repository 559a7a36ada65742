/-!
JSON values. Numbers keep apart whole numbers of 64 bits and floating-point ones, and the members of
an object keep their order.
-/

namespace AlbumBrowser.Json

inductive Number where
  /-- A whole number from `-2 ^ 63` up to but not including `2 ^ 64`. -/
  | whole (n : Int)
  | float (x : Float)
  deriving Repr, BEq

inductive Value where
  | null
  | bool (b : Bool)
  | number (n : Number)
  | string (s : String)
  | array (items : List Value)
  | object (members : List (String × Value))
  deriving Repr, Inhabited

/-- Puts a member into an object: a name that is there already keeps its place and takes the new
value. -/
def insertMember {α : Type} (name : String) (value : α) : List (String × α) → List (String × α)
  | [] => [(name, value)]
  | (other, old) :: rest =>
    if other = name then (name, value) :: rest else (other, old) :: insertMember name value rest

/-- The value of the member with a given name. -/
def member? {α : Type} (name : String) (members : List (String × α)) : Option α :=
  (members.find? (·.1 = name)).map (·.2)

/-- A member with a new name is put behind the others. -/
theorem insertMember_of_not_mem {α : Type} {name : String} {members : List (String × α)}
    (h : name ∉ members.map Prod.fst) (value : α) : insertMember name value members = members ++ [(name, value)] := by
  induction members with
  | nil => rfl
  | cons member members ih =>
    rw [List.map_cons, List.mem_cons, not_or] at h
    rw [insertMember, if_neg (Ne.symm h.1), ih h.2, List.cons_append]

theorem names_insertMember {α : Type} (name : String) (value : α) (members : List (String × α)) :
    (insertMember name value members).map Prod.fst =
      if name ∈ members.map Prod.fst then members.map Prod.fst else members.map Prod.fst ++ [name] := by
  induction members with
  | nil => simp [insertMember]
  | cons m rest ih =>
    obtain ⟨other, old⟩ := m
    by_cases h : other = name
    · simp [insertMember, h]
    · simp only [insertMember, h, if_false, List.map_cons, ih, List.mem_cons, Ne.symm h, false_or]
      split <;> rfl

namespace Value

def asString? : Value → Option String
  | string s => some s
  | _ => none

def asArray? : Value → Option (List Value)
  | array items => some items
  | _ => none

def asObject? : Value → Option (List (String × Value))
  | object members => some members
  | _ => none

end Value

end AlbumBrowser.Json
