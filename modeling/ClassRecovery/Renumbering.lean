import ClassRecovery.Node.Renumbering
import ClassRecovery.Pass

namespace ClassRecovery

/-!
# Renumbering all that a recovery goes through

A renumbering of the registers in a script shows at every stage of its recovery: in the
roles and in whatever else is learnt from a body, in the causes of rejections, and in the
pass between two attempts.  Here it is carried over to each of them.

Of the causes only those that name a register change, and only in that.  Indices, counts
and flags, the names of declarations and the properties of classes have no register in
them and stay as they are.
-/

/-! ## Rejections and readings -/

/-- The ways to be rejected, without the details. -/
inductive RejectionForm where
  | notARegister
  | missingConstructor
  | roleConflict
  | unexpectedNode
  | mismatch
deriving DecidableEq, Repr

def Rejection.form : Rejection → RejectionForm
  | .notARegister _ => .notARegister
  | .missingConstructor => .missingConstructor
  | .roleConflict .. => .roleConflict
  | .unexpectedNode .. => .unexpectedNode
  | .mismatch _ => .mismatch

def Mismatch.renumber (number : UInt32 → UInt32) : Mismatch → Mismatch
  | .propertyWithoutRole register => .propertyWithoutRole (number register)
  | .accessorOtherRegister which found property =>
      .accessorOtherRegister which (number found) (number property)
  | cause => cause

def Rejection.renumber (number : UInt32 → UInt32) : Rejection → Rejection
  | .roleConflict register held => .roleConflict (number register) held
  | .mismatch cause => .mismatch (cause.renumber number)
  | cause => cause

/-- A rejection under other register numbers is a rejection of the same form, and just as
serious. -/
theorem Rejection.form_renumber (number : UInt32 → UInt32) (cause : Rejection) :
    (cause.renumber number).form = cause.form ∧
      (cause.renumber number).severity = cause.severity := by
  cases cause <;> exact ⟨rfl, rfl⟩

/-- What comes of a reading under other register numbers, where its value changes in a
given way. -/
def renumberReading {α β : Type} (number : UInt32 → UInt32) (onValue : α → β) :
    Except Rejection α → Except Rejection β
  | .ok value => .ok (onValue value)
  | .error cause => .error (cause.renumber number)

/-- A reading in two stages changes in the way of its second stage. -/
theorem renumberReading_bind {α β γ δ : Type} {number : UInt32 → UInt32} {onValue : α → β}
    {onResult : γ → δ} {reading : Except Rejection α} {other : Except Rejection β}
    {next : α → Except Rejection γ} {otherNext : β → Except Rejection δ}
    (first : other = renumberReading number onValue reading)
    (second : ∀ value, otherNext (onValue value) =
      renumberReading number onResult (next value)) :
    (other >>= otherNext) = renumberReading number onResult (reading >>= next) := by
  rw [first]
  cases reading with
  | error cause => rfl
  | ok value => exact second value

/-! ## What is learnt from a body -/

def Declaration.renumber (number : UInt32 → UInt32) : Declaration → Declaration
  | .classDecl declaration => .classDecl (declaration.renumber number)
  | .interfaceDecl declaration => .interfaceDecl (declaration.renumber number)

def Roles.renumber (number : UInt32 → UInt32) (roles : Roles) : Roles where
  classObject := roles.classObject.map number
  prototypeObject := roles.prototypeObject.map number

def Binding.renumber (number : UInt32 → UInt32) : Binding → Binding
  | .classObject name construct =>
      .classObject (name.renumber number) (construct.renumber number)
  | .prototypeObject name superclass =>
      .prototypeObject (name.renumber number) (superclass.renumber number)

def CarriedWrite.renumber (number : UInt32 → UInt32) (write : CarriedWrite) : CarriedWrite where
  ofPrototype := write.ofPrototype
  source := write.source.renumber number
  value := write.value.renumber number

def Draft.renumber (number : UInt32 → UInt32) (draft : Draft) : Draft where
  roles := draft.roles.renumber number
  name := renumberOptional number draft.name
  superclass := renumberOptional number draft.superclass
  interfaces := renumberNodes number draft.interfaces
  construct := draft.construct.map (·.renumber number)
  members := draft.members.map fun (member, flag) => (member.renumber number, flag)
  properties := draft.properties

def Members.renumber (number : UInt32 → UInt32) : Members → Members
  | .interface declaration => .interface (declaration.renumber number)
  | .calls draft rest => .calls (draft.renumber number) (renumberNodes number rest)

/-! ## Attempts and passes -/

def Site.renumber (number : UInt32 → UInt32) (site : Site) : Site where
  path := site.path
  offset := site.offset
  body := renumberNodes number site.body
  alternative := renumberNodes number site.alternative

def Attempt.renumber (number : UInt32 → UInt32) : Attempt → Attempt
  | .noMatch => .noMatch
  | .rejected cause => .rejected (cause.renumber number)
  | .recognised offset declaration alternative =>
      .recognised offset (declaration.renumber number) (renumberNodes number alternative)

def Notice.renumber (number : UInt32 → UInt32) : Notice → Notice
  | .rejected cause => .rejected (cause.renumber number)
  | .recognised name start stop => .recognised name start stop

def Pass.renumber (number : UInt32 → UInt32) (pass : Pass) : Pass where
  statements := renumberNodes number pass.statements
  position := pass.position
  report := pass.report
  notices := pass.notices.map (·.renumber number)

end ClassRecovery
