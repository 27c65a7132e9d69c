import ClassRecovery.InPlace
import ClassRecovery.Proofs.RegisterBindings

namespace ClassRecovery

/-!
# One register for each role

However registers have been given roles, each role has at most one register and each
register at most one role.  For a table of roles by register neither goes without saying: a
role that moves has to be taken from the register that had it, and a register that has a
role must not get the other one.

A table and the roles that are replaced instead of changed answer every call in the same
way.  So a call that fails has changed nothing in the table, although a role is given
before all of a binding has been read.
-/

/-- What can be asked of roles. -/
structure RoleView where
  roleOf : UInt32 → Option Role
  registerFor : Role → Option UInt32

def RoleTable.view (table : RoleTable) : RoleView :=
  ⟨table.roleOf, table.registerFor⟩

def Roles.view (roles : Roles) : RoleView :=
  ⟨roles.roleOf, roles.registerFor⟩

/-- A role has gone over to a register.  A register that had it before has none, and nothing
else is different. -/
structure RoleView.HandedOver (before after : RoleView) (register : UInt32) (role : Role) :
    Prop where
  holder : after.registerFor role = some register
  known : after.roleOf register = some role
  other : after.registerFor role.other = before.registerFor role.other
  cleared : ∀ earlier, before.roleOf earlier = some role → earlier ≠ register →
    after.roleOf earlier = none
  untouched : ∀ bystander, bystander ≠ register → before.roleOf bystander ≠ some role →
    after.roleOf bystander = before.roleOf bystander

/-! ## Roles that are replaced -/

namespace Roles

/-- No register has both roles. -/
def Apart (roles : Roles) : Prop :=
  ∀ register, roles.classObject = some register → roles.prototypeObject ≠ some register

theorem apart_start : ({} : Roles).Apart :=
  fun _ found => by cases found

theorem roleOf_eq_some_iff {roles : Roles} (apart : roles.Apart) (register : UInt32)
    (role : Role) : roles.roleOf register = some role ↔ roles.registerFor role = some register := by
  unfold roleOf
  by_cases inClass : roles.classObject = some register
  · rw [if_pos inClass]
    cases role with
    | classObject => exact iff_of_true rfl inClass
    | prototypeObject =>
        exact iff_of_false (fun same => by cases same) (apart register inClass)
  · rw [if_neg inClass]
    cases role with
    | classObject =>
        refine iff_of_false (fun same => ?_) inClass
        split at same <;> cases same
    | prototypeObject =>
        by_cases inPrototype : roles.prototypeObject = some register
        · exact iff_of_true (if_pos inPrototype) inPrototype
        · rw [if_neg inPrototype]
          exact iff_of_false (fun none => by cases none) inPrototype

theorem roleOf_eq_none_iff {roles : Roles} (apart : roles.Apart) (register : UInt32) :
    roles.roleOf register = none ↔ ∀ role, roles.registerFor role ≠ some register := by
  rw [Option.eq_none_iff_forall_ne_some]
  exact forall_congr' fun role => not_congr (roleOf_eq_some_iff apart register role)

theorem registerFor_set (roles : Roles) (register : UInt32) (role other : Role) :
    (roles.set register role).registerFor other =
      if other = role then some register else roles.registerFor other := by
  cases role <;> cases other <;> rfl

theorem apart_set {roles : Roles} {register : UInt32} (unknown : roles.roleOf register = none)
    (apart : roles.Apart) (role : Role) : (roles.set register role).Apart := by
  have free := (roleOf_eq_none_iff apart register).mp unknown
  intro held inClass inPrototype
  cases role with
  | classObject =>
      cases inClass
      exact free .prototypeObject inPrototype
  | prototypeObject =>
      cases inPrototype
      exact free .classObject inClass

/-- A role is refused exactly to a register that has the other one. -/
theorem assign_eq_error_iff (roles : Roles) (register : UInt32) (role : Role)
    (cause : Rejection) :
    roles.assign register role = .error cause ↔
      ∃ held, held ≠ role ∧ roles.roleOf register = some held ∧
        cause = .roleConflict register held := by
  unfold assign
  cases known : roles.roleOf register with
  | none =>
      refine iff_of_false (fun refused => by cases refused) ?_
      rintro ⟨held, _, found, _⟩
      cases found
  | some held =>
      dsimp only
      by_cases same : held = role
      · rw [if_pos same]
        refine iff_of_false (fun refused => by cases refused) ?_
        rintro ⟨other, differs, found, _⟩
        cases found
        exact differs same
      · rw [if_neg same]
        constructor
        · intro refused
          cases refused
          exact ⟨held, same, rfl, rfl⟩
        · rintro ⟨other, _, found, rfl⟩
          cases found
          rfl

/-- Where a role is granted, the register either has it already or had none. -/
theorem assign_eq_ok_iff (roles after : Roles) (register : UInt32) (role : Role) :
    roles.assign register role = .ok after ↔
      (roles.roleOf register = some role ∧ after = roles) ∨
        (roles.roleOf register = none ∧ after = roles.set register role) := by
  unfold assign
  cases known : roles.roleOf register with
  | none => simp [eq_comm]
  | some held =>
      dsimp only
      by_cases same : held = role
      · simp [same, eq_comm]
      · simp [same]

/-- A role that is entered moves to its register, and from the one that had it. -/
theorem roleOf_set {roles : Roles} {register : UInt32} (unknown : roles.roleOf register = none)
    (apart : roles.Apart) (role : Role) (other : UInt32) :
    (roles.set register role).roleOf other =
      if other = register then some role
      else if roles.roleOf other = some role then none
      else roles.roleOf other := by
  have after := roleOf_eq_some_iff (apart_set unknown apart role) other
  by_cases same : other = register
  · rw [if_pos same, after, registerFor_set, if_pos rfl, same]
  · rw [if_neg same]
    apply Option.ext
    intro held
    rw [after, registerFor_set]
    by_cases moved : held = role
    · subst moved
      rw [if_pos rfl]
      refine iff_of_false (fun found => same (Option.some.inj found).symm) fun kept => ?_
      split at kept
      · cases kept
      · next differs => exact differs kept
    · rw [if_neg moved, ← roleOf_eq_some_iff apart]
      split
      · next had =>
          rw [had]
          exact iff_of_false (fun same => moved (Option.some.inj same).symm)
            (fun none => by cases none)
      · exact Iff.rfl

/-- A role that is granted goes over to its register. -/
theorem handedOver_of_assign {roles after : Roles} {register : UInt32} {role : Role}
    (apart : roles.Apart) (granted : roles.assign register role = .ok after) :
    after.Apart ∧ roles.view.HandedOver after.view register role := by
  rcases (assign_eq_ok_iff roles after register role).mp granted with
    ⟨known, rfl⟩ | ⟨unknown, rfl⟩
  · have holder := (roleOf_eq_some_iff apart register role).mp known
    refine ⟨apart, holder, known, rfl, fun earlier had differs => ?_, fun _ _ _ => rfl⟩
    have same := ((roleOf_eq_some_iff apart earlier role).mp had).symm.trans holder
    exact absurd (Option.some.inj same) differs
  · have moved := roleOf_set unknown apart role
    have placed := registerFor_set roles register role
    refine ⟨apart_set unknown apart role, (placed role).trans (if_pos rfl),
      (moved register).trans (if_pos rfl), (placed role.other).trans (if_neg ?_),
      fun earlier had differs => ?_, fun bystander differs other => ?_⟩
    · cases role <;> decide
    · exact (moved earlier).trans ((if_neg differs).trans (if_pos had))
    · exact (moved bystander).trans ((if_neg differs).trans (if_neg other))

end Roles

/-! ## Tables that are changed -/

namespace RoleTable

/-- The registers stand in ascending order. -/
def Ascending (table : RoleTable) : Prop :=
  table.Pairwise fun earlier later => earlier.1 < later.1

theorem roleOf_eq_some_iff {table : RoleTable} (ascending : table.Ascending) (register : UInt32)
    (role : Role) : table.roleOf register = some role ↔ (register, role) ∈ table := by
  unfold roleOf
  induction table with
  | nil => exact iff_of_false (fun found => by cases found) List.not_mem_nil
  | cons entry rest hypothesis =>
      obtain ⟨entered, held⟩ := entry
      rcases List.pairwise_cons.mp ascending with ⟨first, others⟩
      rw [List.lookup_cons, List.mem_cons]
      by_cases same : register = entered
      · subst same
        rw [beq_self_eq_true]
        constructor
        · intro found
          exact Or.inl (by cases found; rfl)
        · rintro (found | later)
          · cases found; rfl
          · exact absurd (first _ later) (UInt32.lt_irrefl _)
      · rw [beq_false_of_ne same, hypothesis others]
        constructor
        · exact Or.inr
        · rintro (found | later)
          · cases found; exact absurd rfl same
          · exact later

theorem registerFor_eq_some_iff {table : RoleTable} {role : Role}
    (single : ∀ register other, (register, role) ∈ table → (other, role) ∈ table →
      register = other) (register : UInt32) :
    table.registerFor role = some register ↔ (register, role) ∈ table := by
  unfold registerFor
  constructor
  · intro found
    rcases Option.map_eq_some_iff.mp found with ⟨⟨entered, held⟩, first, rfl⟩
    have same := List.find?_some first
    exact of_decide_eq_true same ▸ List.mem_of_find?_eq_some first
  · intro member
    have present : (table.find? fun entry => entry.2 = role).isSome := by
      rw [List.find?_isSome]
      exact ⟨_, member, decide_eq_true rfl⟩
    rcases Option.isSome_iff_exists.mp present with ⟨⟨entered, held⟩, first⟩
    have same := List.find?_some first
    rw [first, Option.map_some, single register entered member
      (of_decide_eq_true same ▸ List.mem_of_find?_eq_some first)]

section Enter

variable {table : RoleTable} {register : UInt32}

/-- A register that is not in the table is added to it. -/
theorem mem_enter_iff (absent : ∀ role, (register, role) ∉ table) (role : Role)
    (entry : UInt32 × Role) :
    entry ∈ enter register role table ↔ entry = (register, role) ∨ entry ∈ table := by
  induction table with
  | nil => rw [enter, List.mem_singleton, or_iff_left List.not_mem_nil]
  | cons first rest hypothesis =>
      rw [enter]
      split
      · exact List.mem_cons
      · split
        · next same => exact absurd (same ▸ List.mem_cons_self) (absent first.2)
        · rw [List.mem_cons, List.mem_cons,
            hypothesis fun held member => absent held (List.mem_cons_of_mem _ member)]
          exact or_left_comm

/-- It is put where the order has its place. -/
theorem ascending_enter (ascending : table.Ascending) (absent : ∀ role, (register, role) ∉ table)
    (role : Role) : (enter register role table).Ascending := by
  induction table with
  | nil => exact List.pairwise_singleton _ _
  | cons first rest hypothesis =>
      rcases List.pairwise_cons.mp ascending with ⟨lowest, others⟩
      have absentLater : ∀ held, (register, held) ∉ rest :=
        fun held member => absent held (List.mem_cons_of_mem _ member)
      rw [enter]
      split
      · next lower =>
          refine List.pairwise_cons.mpr ⟨fun entry member => ?_, ascending⟩
          rcases List.mem_cons.mp member with rfl | later
          · exact lower
          · exact UInt32.lt_trans lower (lowest entry later)
      · next notLower =>
          split
          · next same => exact absurd (same ▸ List.mem_cons_self) (absent first.2)
          · next differs =>
              refine List.pairwise_cons.mpr
                ⟨fun entry member => ?_, hypothesis others absentLater⟩
              rcases (mem_enter_iff absentLater role entry).mp member with rfl | later
              · exact UInt32.lt_of_le_of_ne (UInt32.not_lt.mp notLower) (Ne.symm differs)
              · exact lowest entry later

end Enter

/-- A table has the registers of roles that are kept apart, and no others. -/
structure Enters (table : RoleTable) (roles : Roles) : Prop where
  ascending : table.Ascending
  apart : roles.Apart
  entries : ∀ register role,
    (register, role) ∈ table ↔ roles.registerFor role = some register

theorem enters_start : Enters [] {} :=
  ⟨List.Pairwise.nil, Roles.apart_start, fun register role =>
    iff_of_false List.not_mem_nil fun found => by cases role <;> cases found⟩

theorem Enters.view_eq {table : RoleTable} {roles : Roles} (enters : Enters table roles) :
    table.view = roles.view := by
  have roleOf : table.roleOf = roles.roleOf := by
    funext register
    apply Option.ext
    intro role
    rw [roleOf_eq_some_iff enters.ascending, enters.entries,
      Roles.roleOf_eq_some_iff enters.apart]
  have registerFor : table.registerFor = roles.registerFor := by
    funext role
    apply Option.ext
    intro register
    rw [registerFor_eq_some_iff ?_, enters.entries]
    intro first second inFirst inSecond
    have holds := (enters.entries first role).mp inFirst
    exact Option.some.inj (holds.symm.trans ((enters.entries second role).mp inSecond))
  rw [view, roleOf, registerFor]
  rfl

/-- What is struck out before a register is entered is what the roles give up when the
register is put into its role. -/
theorem enters_set {table : RoleTable} {roles : Roles} {register : UInt32}
    (enters : Enters table roles) (unknown : roles.roleOf register = none) (role : Role) :
    Enters (enter register role (table.strike role)) (roles.set register role) := by
  have free := (Roles.roleOf_eq_none_iff enters.apart register).mp unknown
  have absent : ∀ held, (register, held) ∉ table.strike role := by
    intro held member
    exact free held ((enters.entries register held).mp (List.mem_filter.mp member).1)
  refine ⟨ascending_enter (enters.ascending.filter _) absent role,
    Roles.apart_set unknown enters.apart role, fun entered held => ?_⟩
  rw [mem_enter_iff absent, strike, List.mem_filter, enters.entries, Roles.registerFor_set,
    decide_eq_true_iff]
  by_cases same : held = role
  · subst same
    rw [if_pos rfl]
    constructor
    · rintro (found | ⟨_, differs⟩)
      · cases found; rfl
      · exact absurd rfl differs
    · intro found
      cases found
      exact Or.inl rfl
  · rw [if_neg same, and_iff_left same, or_iff_right fun found => same (congrArg Prod.snd found)]

/-! ## One call -/

/-- A call ends in place as it ends on roles that are replaced.  When it fails, the table is
what it was before. -/
inductive SameEnd {α : Type} (before : RoleTable) :
    Except Rejection (α × Roles) → Except Rejection α × RoleTable → Prop where
  | failed (cause : Rejection) : SameEnd before (.error cause) (.error cause, before)
  | granted {answer : α} {roles : Roles} {table : RoleTable} (enters : Enters table roles) :
      SameEnd before (.ok (answer, roles)) (.ok answer, table)

section Call

variable {table : RoleTable} {roles : Roles}

theorem sameEnd_answer_bind {α β : Type} {reading : Except Rejection β}
    {plain : β → Except Rejection (α × Roles)} {next : β → InPlace RoleTable Rejection α}
    (same : ∀ value, SameEnd table (plain value) ((next value).outcome table)) :
    SameEnd table (reading >>= plain) ((InPlace.answer reading >>= next).outcome table) := by
  cases reading with
  | error cause => exact .failed cause
  | ok value => exact same value

theorem sameEnd_assign {α : Type} (enters : Enters table roles) (register : UInt32) (role : Role)
    (answer : α) :
    SameEnd table (roles.assign register role >>= fun after => return (answer, after))
      ((assign register role >>= fun _ => return answer).outcome table) := by
  have same : table.roleOf register = roles.roleOf register :=
    congrArg (fun view : RoleView => view.roleOf register) enters.view_eq
  have looked : (get : InPlace RoleTable Rejection RoleTable).outcome table = (.ok table, table) :=
    rfl
  rw [InPlace.outcome_bind, assign, InPlace.outcome_bind, looked, Roles.assign]
  dsimp only
  rw [same]
  cases known : roles.roleOf register with
  | none => exact .granted (enters_set enters known role)
  | some held =>
      dsimp only
      split
      · exact .granted enters
      · exact .failed _

/-- What is done with a value that has been read, role by role, is what its binding says. -/
theorem derive_eq (options : Options) (path : Path) (register : UInt32) (known : Option Node) :
    derive options path register known = (do
      let write ← InPlace.answer (CarriedWrite.ofKnown options known)
      InPlace.answer (write.checkPath options path)
      let stored ← InPlace.answer (write.stored register)
      let binding ← InPlace.answer (write.binding options stored)
      assign register binding.role
      return binding) := by
  refine bind_congr fun write => bind_congr fun _ => bind_congr fun stored => ?_
  rcases write with ⟨ofPrototype, source, value⟩
  cases ofPrototype <;> cases stored <;> rfl

theorem sameEnd_derive (enters : Enters table roles) (options : Options) (path : Path)
    (register : UInt32) (known : Option Node) :
    SameEnd table (roles.derive options path register known)
      ((derive options path register known).outcome table) := by
  rw [derive_eq]
  apply sameEnd_answer_bind
  intro write
  apply sameEnd_answer_bind
  intro _
  apply sameEnd_answer_bind
  intro stored
  apply sameEnd_answer_bind
  intro binding
  exact sameEnd_assign enters register binding.role binding

theorem SameEnd.map {α β : Type} {grant : Except Rejection (α × Roles)}
    {change : InPlace RoleTable Rejection α} (same : SameEnd table grant (change.outcome table))
    (rename : α → β) :
    SameEnd table (grant >>= fun found => return (rename found.1, found.2))
      ((change >>= fun answer => return rename answer).outcome table) := by
  rw [InPlace.outcome_bind]
  generalize change.outcome table = ending at same ⊢
  cases same with
  | failed cause => exact .failed cause
  | granted enters => exact .granted enters

theorem sameEnd_call (enters : Enters table roles) (call : RoleCall) :
    SameEnd table (call.onRoles roles) (call.inPlace.outcome table) := by
  cases call with
  | assign register role => exact sameEnd_assign enters register role (RoleGrant.assigned role)
  | derive options path register known =>
      exact (sameEnd_derive enters options path register known).map RoleGrant.derived

end Call

/-! ## Any number of calls -/

theorem enters_call {table : RoleTable} {roles : Roles} (enters : Enters table roles)
    (call : RoleCall) :
    Enters (call.inPlace.outcome table).2
      (((call.onRoles roles).toOption.map (·.2)).getD roles) := by
  have same := sameEnd_call enters call
  generalize call.onRoles roles = grant, call.inPlace.outcome table = ending at same
  cases same with
  | failed cause => exact enters
  | granted entersAfter => exact entersAfter

theorem enters_foldl {table : RoleTable} {roles : Roles} (enters : Enters table roles)
    (calls : List RoleCall) :
    Enters (calls.foldl (fun table call => (call.inPlace.outcome table).2) table)
      (calls.foldl (fun roles call => ((call.onRoles roles).toOption.map (·.2)).getD roles)
        roles) := by
  induction calls generalizing table roles with
  | nil => exact enters
  | cons call rest hypothesis => exact hypothesis (enters_call enters call)

theorem enters_after (calls : List RoleCall) : Enters (after calls) (Roles.after calls) :=
  enters_foldl enters_start calls

end RoleTable

/-- What a call is granted goes over to the register that it was made for. -/
theorem Roles.handedOver_of_call {roles after : Roles} {grant : RoleGrant} (apart : roles.Apart)
    {call : RoleCall} (granted : call.onRoles roles = .ok (grant, after)) :
    roles.view.HandedOver after.view call.register grant.role := by
  cases call with
  | assign register role =>
      rcases (bind_eq_ok_iff _ _ _).mp granted with ⟨_, assigned, same⟩
      cases same
      exact (handedOver_of_assign apart assigned).2
  | derive options path register known =>
      rcases (bind_eq_ok_iff _ _ _).mp granted with ⟨⟨binding, _⟩, derived, same⟩
      cases same
      exact (handedOver_of_assign apart ((derive_eq_ok_iff ..).mp derived).2).2

/-- After any calls, each role has at most one register, and it is the register of a role
that has the role.  The next call is answered in the table as it is on roles that are
replaced.  If it fails, the table stays as it is.  If it is granted, the role goes over to
the register of the call, and nothing else changes.  A role is refused exactly to a register
that has the other one, and the refusal names both. -/
theorem singleHolders_after (calls : List RoleCall) :
    (RoleTable.after calls).view = (Roles.after calls).view ∧
    (∀ register other role, (RoleTable.after calls).roleOf register = some role →
      (RoleTable.after calls).roleOf other = some role → register = other) ∧
    (∀ register role, (Roles.after calls).registerFor role = some register ↔
      (Roles.after calls).roleOf register = some role) ∧
    (∀ call : RoleCall,
      (call.inPlace.outcome (RoleTable.after calls)).1 =
        (call.onRoles (Roles.after calls)).map (·.1)) ∧
    (∀ (call : RoleCall) (cause : Rejection),
      (call.inPlace.outcome (RoleTable.after calls)).1 = .error cause →
        (call.inPlace.outcome (RoleTable.after calls)).2 = RoleTable.after calls) ∧
    (∀ (call : RoleCall) (grant : RoleGrant),
      (call.inPlace.outcome (RoleTable.after calls)).1 = .ok grant →
        (RoleTable.after calls).view.HandedOver
          (call.inPlace.outcome (RoleTable.after calls)).2.view call.register grant.role) ∧
    ∀ register role cause, (Roles.after calls).assign register role = .error cause ↔
      ∃ held, held ≠ role ∧ (Roles.after calls).roleOf register = some held ∧
        cause = .roleConflict register held := by
  have enters := RoleTable.enters_after calls
  have holds := Roles.roleOf_eq_some_iff enters.apart
  refine ⟨enters.view_eq, fun register other role first second => ?_,
    fun register role => (holds register role).symm, fun call => ?_, fun call cause => ?_,
    fun call grant => ?_, fun register role cause => Roles.assign_eq_error_iff _ _ _ _⟩
  · have same := congrArg RoleView.roleOf enters.view_eq
    change (RoleTable.after calls).roleOf = (Roles.after calls).roleOf at same
    rw [same, holds] at first second
    exact Option.some.inj (first.symm.trans second)
  all_goals
    have same := RoleTable.sameEnd_call enters call
    generalize granting : call.onRoles (Roles.after calls) = outcome at same
    generalize call.inPlace.outcome (RoleTable.after calls) = ending at same
  · cases same <;> rfl
  · intro failed
    cases same with
    | failed => rfl
    | granted => cases failed
  · intro granted
    cases same with
    | failed => cases granted
    | granted entersAfter =>
        cases granted
        rw [enters.view_eq, entersAfter.view_eq]
        exact Roles.handedOver_of_call enters.apart granting

end ClassRecovery
