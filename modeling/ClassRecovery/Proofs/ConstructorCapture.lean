import ClassRecovery.Proofs.StaticFlags

namespace ClassRecovery

/-!
# Two ways to learn what the constructor is

A write that assigns a function to the place of a class is met in two positions.  The
statement that creates the class carries it in front of `prototype` and binds both registers
at once.  Where that statement is missing, a register carries it into the first member that is
written through it, and its role is derived from it.

Both readings ask for the same place, the same kind of value and the same name.  Only the
derived one asks as well that the function is stored to the very register that carries the
write.  So a creation says what can be derived for whichever register the function is stored
to, even when its class register is another one.
-/

open Grammar

/-! ## The last name of a class -/

/-- The root stands in front, so what is left of a path ends as the path does. -/
theorem Path.getLast?_withoutRoot {root : String} {path : Path}
    (left : path.withoutRoot root ≠ []) : (path.withoutRoot root).getLast? = path.getLast? := by
  cases path with
  | nil => rfl
  | cons first rest =>
      by_cases same : first = root
      · rw [Path.withoutRoot, if_pos same] at left ⊢
        cases rest with
        | nil => exact absurd rfl left
        | cons second rest => exact List.getLast?_cons_cons.symm
      · rw [Path.withoutRoot, if_neg same]

/-- A member that reads a class is the literal last name of the class. -/
theorem Grammar.Reads.member_eq {options : Options} {path : Path} {object member : Node}
    {last : String} (reads : Reads options path (.getMember object member))
    (ends : path.getLast? = some last) : member = .string last := by
  rcases reads with ⟨found, hasPath, same⟩
  rw [Node.path?] at hasPath
  split at hasPath
  · next name inner hasName hasInner =>
      cases hasPath
      have left : Path.withoutRoot options.rootNamespace (inner ++ [name]) ≠ [] := by
        rw [same]
        rintro rfl
        cases ends
      have final := Path.getLast?_withoutRoot left
      rw [same, ends, List.getLast?_concat] at final
      rw [(Node.text?_eq_some_iff member name).mp hasName, Option.some.inj final]
  · cases hasPath

/-! ## The two readings -/

/-- The statement that creates a class by a write, and keeps the class in one register and its
prototype in the other. -/
def Node.creation (options : Options) (prototypeRegister classRegister : UInt32)
    (write : Node) : Node :=
  .storeRegister prototypeRegister
    (.memberNamed (.temporaryRegister classRegister write) options.prototypeMember)

/-- The creation is taken as one of the class with the given name and constructor. -/
def BindsClass (options : Options) (path : Path) (prototypeRegister classRegister : UInt32)
    (write name : Node) (construct : FunctionLiteral) : Prop :=
  Draft.bindBoth options path {} prototypeRegister
      (.memberNamed (.temporaryRegister classRegister write) options.prototypeMember) =
    .ok
      { roles := ⟨some classRegister, some prototypeRegister⟩
        name := some name
        construct := some construct }

/-- While nothing else is known, a register that carries the write is taken to hold the class
with the given name and constructor. -/
def LearnsClass (options : Options) (path : Path) (register : UInt32) (write name : Node)
    (construct : FunctionLiteral) : Prop :=
  ∃ roles, Roles.derive options path {} register (some write) =
    .ok (.classObject name construct, roles)

section Readings

variable {options : Options} {path : Path} {object member value name : Node}
  {construct : FunctionLiteral}

theorem bindsClass_iff {prototypeRegister classRegister : UInt32}
    (distinct : prototypeRegister ≠ classRegister) :
    BindsClass options path prototypeRegister classRegister (.setMember object member value) name
        construct ↔
      Reads options path (.getMember object member) ∧
        (∃ stored, value = .storeRegister stored (.function construct)) ∧
        name = (Node.getMember object member).withoutRoot options.rootNamespace := by
  rw [BindsClass, bindBoth_eq_ok_iff]
  constructor
  · rintro ⟨_, stored, _, _, _, shape, assigns, written, hasTarget, _, same⟩
    cases shape
    cases hasTarget
    cases same
    cases written
    exact ⟨assigns, ⟨stored, rfl⟩, rfl⟩
  · rintro ⟨reads, ⟨stored, rfl⟩, rfl⟩
    exact ⟨classRegister, stored, _, construct, _, rfl, reads, .toMember _ _ _, rfl, distinct, rfl⟩

theorem learnsClass_iff {last : String} {register : UInt32} (ends : path.getLast? = some last)
    (other : last ≠ options.prototypeMember) :
    LearnsClass options path register (.setMember object member value) name construct ↔
      Reads options path (.getMember object member) ∧
        value = .storeRegister register (.function construct) ∧
        name = (Node.getMember object member).withoutRoot options.rootNamespace := by
  simp only [LearnsClass, Roles.derive_eq_ok_iff]
  constructor
  · rintro ⟨roles, carries, _⟩
    cases carries with
    | classObject _ _ reads => exact ⟨reads, rfl, rfl⟩
  · rintro ⟨reads, rfl, rfl⟩
    cases reads.member_eq ends
    exact ⟨_, .classObject construct other reads, Roles.assign_of_unknown rfl _⟩

/-- What a register carries must be stored to that register. -/
theorem derive_of_otherRegister {last : String} {register stored : UInt32}
    (reads : Reads options path (.getMember object member)) (ends : path.getLast? = some last)
    (other : last ≠ options.prototypeMember) (elsewhere : stored ≠ register) :
    Roles.derive options path {} register
        (some (.setMember object member (.storeRegister stored value))) =
      .error (.mismatch .carriedOtherRegister) := by
  have literal := reads.member_eq ends
  have taken := (CarriedWrite.ofKnown_eq_ok_iff options
    (some (.setMember object member (.storeRegister stored value)))
    ⟨false, .getMember object member, .storeRegister stored value⟩).mpr
      ⟨object, last, _, by rw [literal]; rfl, by rw [if_neg other, literal]; rfl⟩
  have checked := (CarriedWrite.checkPath_eq_ok_iff options path
    ⟨false, .getMember object member, .storeRegister stored value⟩ ()).mpr reads
  have refused : CarriedWrite.stored register
      ⟨false, .getMember object member, .storeRegister stored value⟩ =
        .error (.mismatch .carriedOtherRegister) := if_neg elsewhere
  simp only [Roles.derive, bind, Except.bind, taken, checked, refused]

/-- A body that is a creation and nothing else declares the class that the creation binds. -/
theorem ofBody_creation {last : String} {prototypeRegister classRegister : UInt32}
    (ends : path.getLast? = some last) (declaration : Declaration) :
    Declaration.ofBody options path
        [Node.creation options prototypeRegister classRegister (.setMember object member value)] =
        .ok declaration ↔
      ∃ name construct,
        BindsClass options path prototypeRegister classRegister (.setMember object member value)
          name construct ∧
        declaration = .classDecl (classOf path name last construct none [] [] []) := by
  rw [ofBody_eq_ok_iff]
  constructor
  · rintro ⟨_, _, start, left, read, bound, taken, declares⟩
    rcases (bind_eq_ok_iff _ _ _).mp bound with ⟨draft, binds, whole⟩
    cases whole
    rcases (bindBoth_eq_ok_iff _ _ none _ _ _).mp binds with
      ⟨_, _, _, construct, _, shape, _, _, _, _, rfl⟩
    cases shape
    cases taken
    cases declares with
    | calls called finished =>
        cases called
        rcases (finish_eq_ok_iff _ _ _).mp finished with ⟨_, _, _, constructs, final, named, rfl⟩
        cases constructs
        cases named
        cases ends.symm.trans final
        exact ⟨_, construct, binds, rfl⟩
  · rintro ⟨name, construct, binds, rfl⟩
    have nonempty : path ≠ [] := by
      rintro rfl
      cases ends
    have finished := (finish_eq_ok_iff path
      { roles := ⟨some classRegister, some prototypeRegister⟩
        name := some name
        construct := some construct } _).mpr ⟨construct, last, name, rfl, ends, rfl, rfl⟩
    exact ⟨nonempty, List.cons_ne_nil _ _, _, [], .calls _ [],
      (bind_eq_ok_iff _ _ _).mpr ⟨_, binds, rfl⟩, rfl, .calls rfl finished⟩

end Readings

/-- A creation by itself is accepted exactly when the class can be derived for the register that
the constructor is stored to, and both readings then give the class one name and one
constructor.  For the class register itself it can be derived exactly when the constructor is
also stored to that register.  Otherwise the derivation is refused for that reason alone, and
the creation is accepted all the same. -/
theorem ofBody_creation_iff_derive (options : Options) (path : Path)
    (object member value : Node) {last : String} {prototypeRegister classRegister : UInt32}
    (distinct : prototypeRegister ≠ classRegister) (ends : path.getLast? = some last)
    (other : last ≠ options.prototypeMember) :
    (∀ declaration,
      Declaration.ofBody options path
          [Node.creation options prototypeRegister classRegister
            (.setMember object member value)] = .ok declaration ↔
        ∃ name construct,
          BindsClass options path prototypeRegister classRegister
            (.setMember object member value) name construct ∧
          declaration = .classDecl (classOf path name last construct none [] [] [])) ∧
      (∀ name construct,
        BindsClass options path prototypeRegister classRegister (.setMember object member value)
            name construct ↔
          ∃ stored, LearnsClass options path stored (.setMember object member value) name
            construct) ∧
      (∀ name construct,
        LearnsClass options path classRegister (.setMember object member value) name construct ↔
          BindsClass options path prototypeRegister classRegister
              (.setMember object member value) name construct ∧
            ∃ inner, value = .storeRegister classRegister inner) ∧
      ∀ name construct,
        BindsClass options path prototypeRegister classRegister (.setMember object member value)
            name construct →
          (∀ inner, value ≠ .storeRegister classRegister inner) →
            Roles.derive options path {} classRegister (some (.setMember object member value)) =
              .error (.mismatch .carriedOtherRegister) := by
  refine ⟨ofBody_creation ends, fun name construct => ?_, fun name construct => ?_,
    fun name construct binds unmatched => ?_⟩
  · simp only [bindsClass_iff distinct, learnsClass_iff ends other]
    constructor
    · rintro ⟨reads, ⟨stored, store⟩, named⟩
      exact ⟨stored, reads, store, named⟩
    · rintro ⟨stored, reads, store, named⟩
      exact ⟨reads, ⟨stored, store⟩, named⟩
  · rw [bindsClass_iff distinct, learnsClass_iff ends other]
    constructor
    · rintro ⟨reads, store, named⟩
      exact ⟨⟨reads, ⟨classRegister, store⟩, named⟩, _, store⟩
    · rintro ⟨⟨reads, ⟨stored, store⟩, named⟩, inner, matched⟩
      cases store.symm.trans matched
      exact ⟨reads, store, named⟩
  · rcases (bindsClass_iff distinct).mp binds with ⟨reads, ⟨stored, rfl⟩, _⟩
    refine derive_of_otherRegister reads ends other fun same => ?_
    exact unmatched _ (by rw [same])

/-- The constructor is stored to a register that is neither of the two. -/
def strayCreation : Node := Node.creation {} 1 2 (classWrite 5)

theorem ofBody_creation_iff_derive_strayCreation :
    ((1 : UInt32) ≠ 2 ∧ ["C"].getLast? = some "C" ∧ "C" ≠ ({} : Options).prototypeMember) ∧
      (∀ declaration, Declaration.ofBody {} ["C"] [strayCreation] = .ok declaration ↔
        ∃ name construct, BindsClass {} ["C"] 1 2 (classWrite 5) name construct ∧
          declaration = .classDecl (classOf ["C"] name "C" construct none [] [] [])) ∧
      (∀ name construct, BindsClass {} ["C"] 1 2 (classWrite 5) name construct ↔
        ∃ stored, LearnsClass {} ["C"] stored (classWrite 5) name construct) ∧
      (∀ name construct, LearnsClass {} ["C"] 2 (classWrite 5) name construct ↔
        BindsClass {} ["C"] 1 2 (classWrite 5) name construct ∧
          ∃ inner, Node.storeRegister 5 (.function .empty) = .storeRegister 2 inner) ∧
      ∀ name construct, BindsClass {} ["C"] 1 2 (classWrite 5) name construct →
        (∀ inner, Node.storeRegister 5 (.function .empty) ≠ .storeRegister 2 inner) →
          Roles.derive {} ["C"] {} 2 (some (classWrite 5)) =
            .error (.mismatch .carriedOtherRegister) :=
  ⟨⟨by decide, rfl, by decide⟩,
    ofBody_creation_iff_derive {} ["C"] _ _ _ (by decide) rfl (by decide)⟩

/-- The class is declared by its creation, and cannot be derived from the write that the
creation carries in the class register. -/
theorem strayCreation_accepted_not_derived :
    Declaration.ofBody {} ["C"] [strayCreation] =
        .ok (.classDecl (classOf ["C"] (.variableNamed "C") "C" .empty none [] [] [])) ∧
      Roles.derive {} ["C"] {} 2 (some (classWrite 5)) =
        .error (.mismatch .carriedOtherRegister) ∧
      ¬ ∃ binding roles, Roles.derive {} ["C"] {} 2 (some (classWrite 5)) =
        .ok (binding, roles) := by
  have refused : Roles.derive {} ["C"] {} 2 (some (classWrite 5)) =
      .error (.mismatch .carriedOtherRegister) := rfl
  refine ⟨rfl, refused, ?_⟩
  rintro ⟨binding, roles, derived⟩
  cases refused.symm.trans derived

end ClassRecovery
