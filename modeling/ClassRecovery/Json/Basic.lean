import ClassRecovery.Decimal

namespace ClassRecovery

/-!
# JSON values

Whole numbers and decimals are different values here, as they are for a reader
that refuses `1.0` where a register number belongs.  An object keeps its fields
in the order in which they were given.
-/

inductive Json where
  | null
  | boolean (value : Bool)
  | integer (value : Int)
  | decimal (value : Decimal)
  | string (text : String)
  | array (elements : List Json)
  | object (fields : List (String × Json))

namespace Json

instance : Inhabited Json := ⟨.null⟩

mutual

/-- How deeply values are nested; a value with nothing inside counts one. -/
def depth : Json → Nat
  | .array elements => depthOfElements elements + 1
  | .object fields => depthOfFields fields + 1
  | _ => 1

def depthOfElements : List Json → Nat
  | [] => 0
  | element :: rest => max element.depth (depthOfElements rest)

def depthOfFields : List (String × Json) → Nat
  | [] => 0
  | (_, value) :: rest => max value.depth (depthOfFields rest)

end

/-- The value of a field, where the value is an object that has the field. -/
def field? (name : String) : Json → Option Json
  | .object fields => fields.lookup name
  | _ => none

def text? : Json → Option String
  | .string text => some text
  | _ => none

def boolean? : Json → Option Bool
  | .boolean value => some value
  | _ => none

def integer? : Json → Option Int
  | .integer value => some value
  | _ => none

def elements? : Json → Option (List Json)
  | .array elements => some elements
  | _ => none

/-- A whole number from zero up to but not including a bound. -/
def natural? (bound : Nat) (json : Json) : Option Nat :=
  json.integer?.bind fun value =>
    if 0 ≤ value ∧ value < bound then some value.toNat else none

/-- A list of strings. -/
def texts? (json : Json) : Option (List String) :=
  json.elements?.bind fun elements => elements.mapM text?

theorem depth_le_of_mem {element : Json} {elements : List Json} (member : element ∈ elements) :
    element.depth ≤ depthOfElements elements := by
  induction elements with
  | nil => cases member
  | cons first rest hypothesis =>
      simp only [depthOfElements]
      rcases List.mem_cons.mp member with same | later
      · subst same
        exact Nat.le_max_left ..
      · exact Nat.le_trans (hypothesis later) (Nat.le_max_right ..)

theorem depth_le_of_mem_fields {name : String} {value : Json} {fields : List (String × Json)}
    (member : (name, value) ∈ fields) : value.depth ≤ depthOfFields fields := by
  induction fields with
  | nil => cases member
  | cons first rest hypothesis =>
      obtain ⟨firstName, firstValue⟩ := first
      simp only [depthOfFields]
      rcases List.mem_cons.mp member with same | later
      · cases same
        exact Nat.le_max_left ..
      · exact Nat.le_trans (hypothesis later) (Nat.le_max_right ..)

end Json

end ClassRecovery
