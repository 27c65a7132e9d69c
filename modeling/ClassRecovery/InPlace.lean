import ClassRecovery.Roles
import ClassRecovery.Site

namespace ClassRecovery

/-!
# Changes made in place

A function that fails has changed nothing, for there is nothing that it could give back.
Here a table of roles and a list of statements are changed in place, one entry and one
range after the other, and what has been changed before a failure stays changed.

Roles are entered by register.  Nothing in the form of the table keeps two registers from
having the same role, or one register from being entered twice.

Places in a list are words of sixty-four bits.  A place outside of the list is a fault, and
so is a sum that is not a word.
-/

/-- A computation that changes a subject and may fail, the changes up to there being kept. -/
abbrev InPlace (subject fault α : Type) : Type :=
  ExceptT fault (StateM subject) α

namespace InPlace

variable {subject fault α : Type}

/-- How a computation ends, and what the subject has become by then. -/
def outcome (change : InPlace subject fault α) (before : subject) : Except fault α × subject :=
  StateT.run (ExceptT.run change) before

/-- A reading that changes nothing. -/
def answer (reading : Except fault α) : InPlace subject fault α :=
  ExceptT.mk (pure reading)

/-- A computation goes on with what the first part has left of the subject, and where the
first part fails it leaves just that. -/
theorem outcome_bind {β : Type} (change : InPlace subject fault α)
    (next : α → InPlace subject fault β) (before : subject) :
    (change >>= next).outcome before =
      match change.outcome before with
      | (.ok value, after) => (next value).outcome after
      | (.error cause, after) => (.error cause, after) := by
  change (ExceptT.bindCont next (change.outcome before).1).run (change.outcome before).2 = _
  rcases change.outcome before with ⟨ending | value, after⟩ <;> rfl

end InPlace

open InPlace

/-! ## Roles by register -/

/-- The registers that have a role, in ascending order. -/
abbrev RoleTable : Type :=
  List (UInt32 × Role)

namespace RoleTable

def roleOf (table : RoleTable) (register : UInt32) : Option Role :=
  table.lookup register

/-- The first register that has a role. -/
def registerFor (table : RoleTable) (role : Role) : Option UInt32 :=
  (table.find? fun entry => entry.2 = role).map (·.1)

/-- Strike out all registers that have a role. -/
def strike (table : RoleTable) (role : Role) : RoleTable :=
  table.filter fun entry => entry.2 ≠ role

/-- Enter a register, in the place of its entry if it has one. -/
def enter (register : UInt32) (role : Role) : RoleTable → RoleTable
  | [] => [(register, role)]
  | entry :: rest =>
      if register < entry.1 then (register, role) :: entry :: rest
      else if register = entry.1 then (register, role) :: rest
      else entry :: enter register role rest

/-- Give a role to a register.  All others lose it before the register is entered. -/
def assign (register : UInt32) (role : Role) : InPlace RoleTable Rejection Unit := do
  match (← get).roleOf register with
  | some held => if held = role then return () else throw (.roleConflict register held)
  | none =>
      modify (strike · role)
      modify (enter register role)

/-- Learn the role of a register from its known value.  The type of a new prototype is read
off its construction when the role has been given already. -/
def derive (options : Options) (path : Path) (register : UInt32) (known : Option Node) :
    InPlace RoleTable Rejection Binding := do
  let write ← answer (CarriedWrite.ofKnown options known)
  answer (write.checkPath options path)
  let name := write.source.withoutRoot options.rootNamespace
  let stored ← answer (write.stored register)
  match write.ofPrototype, stored with
  | true, .newObject .. | true, .newMethod .. =>
      assign register .prototypeObject
      let type ← answer stored.constructedType
      return .prototypeObject name (type.withoutRoot options.rootNamespace)
  | false, .function construct =>
      assign register .classObject
      return .classObject name construct
  | _, other => throw (.mismatch (.carriedOtherKind other.kind))

end RoleTable

/-- What is asked of a table of roles. -/
inductive RoleCall where
  | assign (register : UInt32) (role : Role)
  | derive (options : Options) (path : Path) (register : UInt32) (known : Option Node)

/-- What a call brings about when it succeeds. -/
inductive RoleGrant where
  | assigned (role : Role)
  | derived (binding : Binding)

def RoleGrant.role : RoleGrant → Role
  | .assigned role => role
  | .derived binding => binding.role

namespace RoleCall

def register : RoleCall → UInt32
  | .assign register _ => register
  | .derive _ _ register _ => register

/-- The call on roles that are not changed but replaced. -/
def onRoles (roles : Roles) : RoleCall → Except Rejection (RoleGrant × Roles)
  | .assign register role => do
      let after ← roles.assign register role
      return (.assigned role, after)
  | .derive options path register known => do
      let (binding, after) ← roles.derive options path register known
      return (.derived binding, after)

/-- The call on a table. -/
def inPlace : RoleCall → InPlace RoleTable Rejection RoleGrant
  | .assign register role => do
      RoleTable.assign register role
      return .assigned role
  | .derive options path register known => do
      return .derived (← RoleTable.derive options path register known)

end RoleCall

/-- The roles after some calls.  Those that fail leave no trace. -/
def Roles.after : List RoleCall → Roles :=
  List.foldl (fun roles call => ((call.onRoles roles).toOption.map (·.2)).getD roles) {}

/-- The table after some calls, those that fail having left behind what they had changed. -/
def RoleTable.after : List RoleCall → RoleTable :=
  List.foldl (fun table call => (call.inPlace.outcome table).2) []

/-! ## Statements by place -/

/-- Why a list cannot be changed at a place. -/
inductive PlaceFault where
  /-- The place is not in the list. -/
  | outside
  /-- The place is not a word. -/
  | overflow
deriving DecidableEq, Inhabited, Repr

/-- The sum of two words, which has to be a word itself. -/
def addWords {subject : Type} (left right : UInt64) : InPlace subject PlaceFault UInt64 :=
  if left.toNat + right.toNat < UInt64.size then return left + right else throw .overflow

namespace Statements

/-- Replace the statements from a place on up to and without another. -/
def replaceBetween (start behind : UInt64) (nodes : List Node) :
    InPlace (List Node) PlaceFault Unit := do
  let statements ← get
  if start ≤ behind ∧ behind.toNat ≤ statements.length then
    set (statements.take start.toNat ++ nodes ++ statements.drop behind.toNat)
  else throw .outside

/-- Remove one statement. -/
def removeAt (place : UInt64) : InPlace (List Node) PlaceFault Unit := do
  let statements ← get
  if place.toNat < statements.length then set (statements.eraseIdx place.toNat)
  else throw .outside

/-- A last place, cut to a list of some length.  The place zero is left when the list is
empty. -/
def cutPlace (stop length : UInt64) : UInt64 :=
  let final := if length = 0 then 0 else length - 1
  if stop ≤ final then stop else final

/-- Replace the statements from one place through another, the last place being cut. -/
def replaceThrough (start stop : UInt64) (nodes : List Node) :
    InPlace (List Node) PlaceFault Unit := do
  let last := cutPlace stop (UInt64.ofNat (← get).length)
  if last < start then replaceBetween start start nodes
  else
    let behind ← addWords last 1
    replaceBetween start behind nodes

/-- Remove the statement at a place if it discards a value. -/
def removePopAt (place : UInt64) : InPlace (List Node) PlaceFault Unit := do
  if Site.popAt (← get) place.toNat then removeAt place

/-- Replace statements by a declaration, then remove the value that is discarded right
behind it, then put the alternative there. -/
def spliceThrough (start stop : UInt64) (declaration : Node) (alternative : List Node) :
    InPlace (List Node) PlaceFault Unit := do
  replaceThrough start stop [declaration]
  let next ← addWords start 1
  removePopAt next
  if !alternative.isEmpty then replaceBetween next next alternative

end Statements

end ClassRecovery
