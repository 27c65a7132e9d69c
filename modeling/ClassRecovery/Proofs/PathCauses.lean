import ClassRecovery.Proofs.GuardChains

namespace ClassRecovery

/-!
# A path is never missed

A body is turned down for want of a path only where its path is empty from the start.
Nothing that is read in it can be turned down for that cause, and at its end the path
has a last part and is read by a chain, even if no name has been learnt.

No guard stands for an empty path, so no attempt is rejected for that cause at all.
-/

/-- A reading that is turned down for want of a path. -/
def Pathless {α : Type} (reading : Except Rejection α) : Prop :=
  reading = .error (.mismatch .emptyPath)

theorem not_pathless_ok {α : Type} (value : α) : ¬ Pathless (.ok value) := by
  intro pathless
  cases pathless

theorem not_pathless_bind {α β : Type} {reading : Except Rejection α}
    {next : α → Except Rejection β} (first : ¬ Pathless reading)
    (second : ∀ value, ¬ Pathless (next value)) : ¬ Pathless (reading >>= next) := by
  cases reading with
  | error cause =>
      intro pathless
      cases pathless
      exact first rfl
  | ok value => exact second value

/-! ## Operands and registers -/

theorem Node.not_pathless_expectText (operand : Operand) (node : Node) :
    ¬ Pathless (node.expectText operand) := by
  intro pathless
  unfold expectText at pathless
  split at pathless <;> cases pathless

theorem Node.not_pathless_registerNumber (operand : Operand) (node : Node) :
    ¬ Pathless (node.registerNumber operand) := by
  intro pathless
  unfold registerNumber at pathless
  split at pathless <;> cases pathless

theorem Roles.not_pathless_assign (roles : Roles) (register : UInt32) (role : Role) :
    ¬ Pathless (roles.assign register role) := by
  intro pathless
  unfold assign at pathless
  split at pathless
  · split at pathless <;> cases pathless
  · cases pathless

namespace CarriedWrite

theorem not_pathless_ofKnown (options : Options) (known : Option Node) :
    ¬ Pathless (ofKnown options known) := by
  intro pathless
  unfold ofKnown at pathless
  split at pathless
  · split at pathless
    · cases pathless
    · split at pathless <;> cases pathless
  · cases pathless

theorem not_pathless_checkPath (options : Options) (path : Path) (write : CarriedWrite) :
    ¬ Pathless (write.checkPath options path) := by
  intro pathless
  unfold checkPath at pathless
  split at pathless
  · cases pathless
  · dsimp only at pathless
    split at pathless <;> cases pathless

theorem not_pathless_stored (register : UInt32) (write : CarriedWrite) :
    ¬ Pathless (write.stored register) := by
  intro pathless
  unfold stored at pathless
  split at pathless
  · split at pathless <;> cases pathless
  · cases pathless

theorem not_pathless_binding (options : Options) (write : CarriedWrite) (stored : Node) :
    ¬ Pathless (write.binding options stored) := by
  intro pathless
  unfold binding at pathless
  dsimp only at pathless
  split at pathless
  · split at pathless <;> cases pathless
  · split at pathless <;> cases pathless

end CarriedWrite

theorem Roles.not_pathless_derive (options : Options) (path : Path) (roles : Roles)
    (register : UInt32) (known : Option Node) :
    ¬ Pathless (roles.derive options path register known) := by
  refine not_pathless_bind (CarriedWrite.not_pathless_ofKnown options known) fun write => ?_
  refine not_pathless_bind (write.not_pathless_checkPath options path) fun _ => ?_
  refine not_pathless_bind (write.not_pathless_stored register) fun stored => ?_
  refine not_pathless_bind (write.not_pathless_binding options stored) fun binding => ?_
  exact not_pathless_bind (roles.not_pathless_assign register binding.role) fun _ => not_pathless_ok _

/-! ## The parts of a body -/

theorem not_pathless_createdClass (options : Options) (path : Path) (write : Node) :
    ¬ Pathless (createdClass options path write) := by
  intro pathless
  unfold createdClass at pathless
  split at pathless
  · cases pathless
  · split at pathless
    · cases pathless
    · split at pathless
      · split at pathless <;> cases pathless
      · cases pathless

theorem not_pathless_classRegister (options : Options) (value : Node) :
    ¬ Pathless (classRegister options value) := by
  unfold classRegister
  split
  · next register write member =>
      refine not_pathless_bind (member.not_pathless_expectText _) fun name => ?_
      split <;> intro pathless <;> cases pathless
  · intro pathless
    cases pathless
  · intro pathless
    cases pathless

theorem not_pathless_takeBinding (options : Options) (path : Path) (draft : Draft)
    (parts : List Node) : ¬ Pathless (takeBinding options path draft parts) := by
  unfold takeBinding
  split
  · next register value rest =>
      refine not_pathless_bind ?_ fun _ => not_pathless_ok _
      refine not_pathless_bind (not_pathless_classRegister options value) fun carried => ?_
      refine not_pathless_bind (not_pathless_createdClass options path carried.2) fun created => ?_
      refine not_pathless_bind (Roles.not_pathless_assign _ _ _) fun roles => ?_
      exact not_pathless_bind (roles.not_pathless_assign _ _) fun _ => not_pathless_ok _
  · intro pathless
    cases pathless

theorem Draft.not_pathless_addMember (options : Options) (path : Path) (draft : Draft)
    (register : UInt32) (known : Option Node) (name value : Node) :
    ¬ Pathless (draft.addMember options path register known name value) := by
  refine not_pathless_bind ?_ fun _ => not_pathless_ok _
  unfold resolveRole
  split
  · intro pathless
    cases pathless
  · exact not_pathless_bind (Roles.not_pathless_derive options path _ register known) fun _ => not_pathless_ok _

theorem not_pathless_implementedBy (statements : List Node) :
    ¬ Pathless (implementedBy statements) := by
  induction statements with
  | nil =>
      intro pathless
      cases pathless
  | cons statement rest hypothesis =>
      unfold implementedBy
      split
      · intro pathless
        cases pathless
      · next same =>
          cases same
          exact not_pathless_bind hypothesis fun _ => not_pathless_ok _
      · intro pathless
        cases pathless

theorem not_pathless_checkInterfaceFunction (value : Option Node) :
    ¬ Pathless (checkInterfaceFunction value) := by
  intro pathless
  unfold checkInterfaceFunction at pathless
  split at pathless
  · split at pathless
    · cases pathless
    · split at pathless
      · cases pathless
      · split at pathless <;> cases pathless
  · cases pathless
  · cases pathless

theorem not_pathless_readInterface (options : Options) (path : Path) (ancestors : List Node)
    (write : Node) (rest : List Node) :
    ¬ Pathless (readInterface options path ancestors write rest) := by
  unfold readInterface
  split
  · split
    · refine not_pathless_bind (not_pathless_checkInterfaceFunction _) fun _ => ?_
      exact not_pathless_bind (not_pathless_implementedBy rest) fun _ => not_pathless_ok _
    · intro pathless
      cases pathless
  · intro pathless
    cases pathless

theorem not_pathless_takeMembers (options : Options) (path : Path) (draft : Draft)
    (parts : List Node) : ¬ Pathless (takeMembers options path draft parts) := by
  fun_induction takeMembers options path draft parts with
  | case1 draft object name value rest register known through hypothesis =>
      exact not_pathless_bind (Draft.not_pathless_addMember _ _ _ _ _ _ _) hypothesis
  | case2 draft object name value rest through =>
      exact not_pathless_bind (not_pathless_readInterface _ _ _ _ _) fun _ => not_pathless_ok _
  | case3 draft name value rest =>
      exact not_pathless_bind (not_pathless_readInterface _ _ _ _ _) fun _ => not_pathless_ok _
  | case4 draft subclass interfaces rest hypothesis => exact hypothesis
  | case5 draft parts noMember noVariable noClause =>
      intro pathless
      cases pathless

/-! ## The calls -/

theorem not_pathless_hasAccessor (options : Options) (register : UInt32) (property : String)
    (which : Accessor) (value : Node) :
    ¬ Pathless (hasAccessor options register property which value) := by
  unfold hasAccessor
  split
  · next object member =>
      refine not_pathless_bind (object.not_pathless_registerNumber _) fun found => ?_
      split
      · refine not_pathless_bind (member.not_pathless_expectText _) fun name => ?_
        split <;> intro pathless <;> cases pathless
      · intro pathless
        cases pathless
  · split <;> intro pathless <;> cases pathless
  · intro pathless
    cases pathless

theorem Draft.not_pathless_addProperty (options : Options) (draft : Draft) (object : Node)
    (arguments : List Node) : ¬ Pathless (draft.addProperty options object arguments) := by
  refine not_pathless_bind (object.not_pathless_registerNumber _) fun register => ?_
  split
  · intro pathless
    cases pathless
  · split
    · next name getter setter =>
        refine not_pathless_bind (name.not_pathless_expectText _) fun name => ?_
        refine not_pathless_bind (not_pathless_hasAccessor _ _ _ _ _) fun hasGetter => ?_
        exact not_pathless_bind (not_pathless_hasAccessor _ _ _ _ _) fun _ => not_pathless_ok _
    · intro pathless
      cases pathless

theorem not_pathless_checkFlags (options : Options) (path : Path) (arguments : List Node) :
    ¬ Pathless (checkFlags options path arguments) := by
  intro pathless
  unfold checkFlags at pathless
  split at pathless
  · split at pathless
    · split at pathless
      · split at pathless
        · split at pathless <;> cases pathless
        · cases pathless
      · cases pathless
    · cases pathless
  · cases pathless

theorem Draft.not_pathless_addCall (options : Options) (path : Path) (draft : Draft)
    (statement : Node) : ¬ Pathless (draft.addCall options path statement) := by
  unfold addCall
  split
  · next object method arguments _ =>
      refine not_pathless_bind (method.not_pathless_expectText _) fun name => ?_
      split
      · exact not_pathless_addProperty options draft object arguments
      · intro pathless
        cases pathless
  · next function arguments _ =>
      refine not_pathless_bind (function.not_pathless_expectText _) fun name => ?_
      split
      · exact not_pathless_bind (not_pathless_checkFlags _ _ _) fun _ => not_pathless_ok _
      · intro pathless
        cases pathless
  · intro pathless
    cases pathless

theorem not_pathless_takeCalls (options : Options) (path : Path) (draft : Draft)
    (statements : List Node) : ¬ Pathless (takeCalls options path draft statements) := by
  induction statements generalizing draft with
  | nil =>
      intro pathless
      cases pathless
  | cons statement rest hypothesis =>
      exact not_pathless_bind (draft.not_pathless_addCall options path statement) hypothesis

/-! ## Whole bodies -/

theorem Draft.not_pathless_finish {path : Path} (nonempty : path ≠ []) (draft : Draft) :
    ¬ Pathless (draft.finish path) := by
  have ends := List.getLast?_eq_some_getLast nonempty
  have named : ∃ name, draft.name.or (Node.ofPath? path) = some name := by
    rcases List.exists_cons_of_ne_nil nonempty with ⟨first, rest, rfl⟩
    cases draft.name with
    | none => exact ⟨_, rfl⟩
    | some name => exact ⟨name, rfl⟩
  rcases named with ⟨name, named⟩
  unfold finish
  split
  · intro pathless
    cases pathless
  · rw [ends, named]
    intro pathless
    cases pathless

theorem Declaration.not_pathless_ofBody (options : Options) {path : Path} (nonempty : path ≠ [])
    (parts : List Node) : ¬ Pathless (ofBody options path parts) := by
  unfold ofBody
  split
  · intro pathless
    cases pathless
  · split
    · next empty => exact absurd (List.isEmpty_iff.mp empty) nonempty
    · refine not_pathless_bind (not_pathless_takeBinding _ _ _ _) fun bound => ?_
      refine not_pathless_bind (not_pathless_takeMembers _ _ _ _) fun members => ?_
      split
      · intro pathless
        cases pathless
      · refine not_pathless_bind (not_pathless_takeCalls _ _ _ _) fun draft => ?_
        exact not_pathless_bind (draft.not_pathless_finish nonempty) fun _ => not_pathless_ok _

/-- A class lies below the root by one name at least. -/
theorem Site.path_ne_nil {options : Options} {statements : List Node} {index : Nat} {site : Site}
    (found : findAt? options statements index = some site) : site.path ≠ [] := by
  rw [findAt?_eq_find?] at found
  rcases (find?_eq_some_iff _ _ _).mp found with ⟨_, _, named, _, _, _⟩
  rw [named]
  exact List.append_ne_nil_of_right_ne_nil _ (List.cons_ne_nil _ _)

theorem Attempt.atIndex_ne_rejected_emptyPath (options : Options) (statements : List Node)
    (index : Nat) :
    atIndex options statements index ≠ .rejected (.mismatch .emptyPath) := by
  unfold atIndex
  split
  · intro pathless
    cases pathless
  · next site found =>
      intro rejected
      rcases (ofSite_eq_rejected_iff _ _ _).mp rejected with ⟨_, other⟩ | ⟨_, pathless⟩
      · cases other
      · exact Declaration.not_pathless_ofBody options (Site.path_ne_nil found) site.body pathless

end ClassRecovery
