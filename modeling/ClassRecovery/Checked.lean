import ClassRecovery.Pass
import Mathlib.Logic.Relation

namespace ClassRecovery

/-!
# Passes that check where they look

A body is read from a list that gets shorter, and so there is no position in it that
could be wrong.  Here it is read by a position in a list that stays as it is, and each
look at a list is checked: outside of the list there is nothing to be read, and the
reading ends without an answer.  It ends in the same way where it would otherwise have
to make do, that is

* at the body of a class whose path is empty,
* at the end of a class that has a constructor but no name, and
* at a splice that would have to be cut to the list, or could only insert.

This is not how a rejection ends.  A rejection is an answer.
-/

/-- A reading that may be rejected, and that may end without an answer. -/
abbrev Checked (α : Type) : Type :=
  ExceptT Rejection Option α

namespace Checked

variable {α : Type}

def answer (reading : Except Rejection α) : Checked α :=
  ExceptT.mk (some reading)

def noAnswer : Checked α :=
  ExceptT.mk none

/-- The element at a position, which has to be inside the list. -/
def elementAt (list : List α) (position : Nat) : Checked α :=
  match list[position]? with
  | some element => pure element
  | none => noAnswer

/-- The elements from a position on, which may be the end of the list but not lie
behind it. -/
def elementsFrom? (list : List α) (position : Nat) : Option (List α) :=
  if position ≤ list.length then some (list.drop position) else none

end Checked

open Checked

/-! ## Bodies by position -/

/-- The superclass, and the position behind its clause. -/
def superclassAt (options : Options) (parts : List Node) (position : Nat) : Option Node × Nat :=
  match parts[position]? with
  | some (.extendsClause _ superclass) =>
      (some (superclass.withoutRoot options.rootNamespace), position + 1)
  | _ => (none, position)

/-- The binding of both registers, and the position behind it. -/
def bindingAt (options : Options) (path : Path) (parts : List Node) (draft : Draft)
    (position : Nat) : Except Rejection (Draft × Nat) :=
  match parts[position]? with
  | some (.storeRegister register value) => do
      let draft ← draft.bindBoth options path register value
      return (draft, position + 1)
  | _ => .ok (draft, position)

/-- The interface that the write at a position declares. -/
def interfaceAt (options : Options) (path : Path) (parts : List Node) (ancestors : List Node)
    (write : Node) (position : Nat) : Checked InterfaceDecl :=
  match elementsFrom? parts (position + 1) with
  | some rest => answer (readInterface options path ancestors write rest)
  | none => noAnswer

/-- What the members of a body lead to, with the position of the first call. -/
inductive MembersAt where
  | interface (declaration : InterfaceDecl)
  | calls (draft : Draft) (position : Nat)

/-- Members and implemented interfaces from a position on. -/
def membersAt (options : Options) (path : Path) (parts : List Node) (draft : Draft)
    (position : Nat) : Checked MembersAt :=
  match _ : parts[position]? with
  | some (.setMember object name value) =>
      match object.registerBinding? with
      | some (register, known) => do
          let draft ← answer (draft.addMember options path register known name value)
          membersAt options path parts draft (position + 1)
      | none => do
          let declaration ←
            interfaceAt options path parts draft.interfaces (.setMember object name value) position
          return .interface declaration
  | some (.setVariable name value) => do
      let declaration ←
        interfaceAt options path parts draft.interfaces (.setVariable name value) position
      return .interface declaration
  | some (.implementsClause _ interfaces) =>
      membersAt options path parts (draft.addInterfaces interfaces) (position + 1)
  | _ => return .calls draft position
termination_by parts.length - position
decreasing_by
  all_goals
    rcases List.getElem?_eq_some_iff.mp ‹_› with ⟨inside, _⟩
    omega

/-- The arguments of a call, one by one where there are three of them.  With any other
number they are not looked at. -/
def argumentsAt (arguments : List Node) : Checked (List Node) :=
  if arguments.length = 3 then do
    let first ← elementAt arguments 0
    let second ← elementAt arguments 1
    let third ← elementAt arguments 2
    return [first, second, third]
  else return arguments

/-- One of the calls at the end of a body. -/
def Draft.addCallChecked (options : Options) (path : Path) (draft : Draft) (statement : Node) :
    Checked Draft :=
  match statement.withoutPush with
  | .callMethod object method arguments => do
      let name ← answer (method.expectText .methodName)
      if name = options.addPropertyMethod then
        let arguments ← argumentsAt arguments
        answer (draft.addProperty options object arguments)
      else answer (.error (.mismatch (.otherMethod name)))
  | .callFunction function arguments => do
      let name ← answer (function.expectText .functionName)
      if name = options.propFlagsFunction then
        let arguments ← argumentsAt arguments
        let _ ← answer (checkFlags options path arguments)
        return draft
      else answer (.error (.mismatch (.otherFunction name)))
  | other => answer (.error (.unexpectedNode .trailingCall other.kind))

/-- The calls from a position on. -/
def callsAt (options : Options) (path : Path) (parts : List Node) (draft : Draft)
    (position : Nat) : Checked Draft :=
  match _ : parts[position]? with
  | some statement => do
      let draft ← draft.addCallChecked options path statement
      callsAt options path parts draft (position + 1)
  | none => return draft
termination_by parts.length - position
decreasing_by
  rcases List.getElem?_eq_some_iff.mp ‹_› with ⟨inside, _⟩
  omega

/-- The finished class.  With a constructor it must have a name, and its path a last
part. -/
def Draft.finishChecked (path : Path) (draft : Draft) : Checked ClassDecl :=
  if draft.construct.isSome && (path.isEmpty || draft.name.isNone) then noAnswer
  else answer (draft.finish path)

/-- The declaration in the body of a guard. -/
def Declaration.ofBodyChecked (options : Options) (path : Path) (parts : List Node) :
    Checked Declaration :=
  if parts.isEmpty then answer (.error (.mismatch .emptyBody))
  else if path.isEmpty then noAnswer
  else do
    let (superclass, position) := superclassAt options parts 0
    let (draft, position) ←
      answer (bindingAt options path parts { superclass := superclass } position)
    match ← membersAt options path parts draft position with
    | .interface declaration => return .interfaceDecl declaration
    | .calls draft position =>
        let draft ← callsAt options path parts draft position
        let declaration ← draft.finishChecked path
        return .classDecl declaration

/-! ## Scripts by position -/

/-- Follow a chain of guards, with every look at the statements checked.  Without the
root, a path has to have something left. -/
def Site.followChecked (statements : List Node) (start : Nat) (reached : Path) (offset : Nat) :
    Option (Option Site) :=
  if start + offset < statements.length then
    match statements[start + offset]? with
    | none => none
    | some (.branch (.not tested) body alternative) =>
        match tested.memberOf? reached with
        | none => some none
        | some name =>
            if createsNamespace (reached ++ [name]) body then
              if popAt statements (start + offset + 1) then
                followChecked statements start (reached ++ [name]) (offset + 2)
              else followChecked statements start (reached ++ [name]) (offset + 1)
            else (elementsFrom? (reached ++ [name]) 1).map fun path =>
              some ⟨path, offset, body, alternative⟩
    | some _ => some none
  else some none
termination_by statements.length - (start + offset)

namespace Attempt

def ofSiteChecked (options : Options) (site : Site) : Option Attempt :=
  if !site.alternative.isEmpty && !options.preserveAlternative then
    some (.rejected (.mismatch .alternativeNotEmpty))
  else
    match (Declaration.ofBodyChecked options site.path site.body).run with
    | none => none
    | some (.ok declaration) => some (.recognised site.offset declaration site.alternative)
    | some (.error cause) => some (.rejected cause)

def atIndexChecked (options : Options) (statements : List Node) (index : Nat) : Option Attempt :=
  match Site.followChecked statements index [options.rootNamespace] 0 with
  | none => none
  | some none => some .noMatch
  | some (some site) => ofSiteChecked options site

end Attempt

/-- Put a declaration in the place of statements that are all there. -/
def spliceChecked (statements : List Node) (start stop : Nat) (declaration : Node)
    (alternative : List Node) : Option (List Node) :=
  if start ≤ stop ∧ stop < statements.length then
    let replaced := statements.take start ++ [declaration] ++ statements.drop (stop + 1)
    (elementsFrom? replaced (start + 1)).map fun rest =>
      replaced.take (start + 1) ++ alternative ++ dropPop rest
  else none

namespace Pass

/-- Replace the statements up to a guard, where they are all there. -/
def replaceChecked (pass : Pass) (offset : Nat) (declaration : Declaration)
    (alternative : List Node) : Option Pass :=
  let stop := pass.position + offset
  (spliceChecked pass.statements pass.position stop declaration.toNode alternative).map
    fun statements => { pass with
      statements := statements
      report := pass.report.countDeclaration declaration
      notices := pass.notices ++ [.recognised declaration.qualifiedName pass.position stop] }

/-- A step without an answer is not one that has not been taken: a pass at its end has
an answer, namely that it takes none. -/
def stepChecked? (options : Options) (pass : Pass) : Option (Option Pass) :=
  if pass.position < pass.statements.length then
    match Attempt.atIndexChecked options pass.statements pass.position with
    | none => none
    | some .noMatch => some (some pass.moveOn)
    | some (.rejected cause) => some (some (pass.reject cause).moveOn)
    | some (.recognised offset declaration alternative) =>
        (pass.replaceChecked offset declaration alternative).map fun next => some next.moveOn
  else some none

/-- Some number of steps, each with an answer. -/
def LeadsChecked (options : Options) : Pass → Pass → Prop :=
  Relation.ReflTransGen fun earlier later => earlier.stepChecked? options = some (some later)

end Pass

end ClassRecovery
