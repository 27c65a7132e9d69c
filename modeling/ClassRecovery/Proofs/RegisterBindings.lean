import ClassRecovery.Body.Draft
import ClassRecovery.Body.Grammar
import ClassRecovery.Proofs.Naming

namespace ClassRecovery

/-!
# What binds a register to a part of the class

Two fragments of a body tell what a register holds: the statement that creates
the class, and a value that a register carries into a member write.  Both are
read in small steps, each of which can refuse.  The equivalences here put the
steps together again, so that a reading succeeds exactly on the trees of one
rule of the grammar.
-/

/-- A reading in two stages succeeds when both stages do. -/
theorem bind_eq_ok_iff {ε α β : Type} (reading : Except ε α) (next : α → Except ε β)
    (result : β) :
    (reading >>= next) = .ok result ↔ ∃ value, reading = .ok value ∧ next value = .ok result := by
  cases reading with
  | error cause =>
      constructor
      · intro failed
        cases failed
      · rintro ⟨value, failed, _⟩
        cases failed
  | ok value =>
      constructor
      · intro succeeded
        exact ⟨value, rfl, succeeded⟩
      · rintro ⟨other, same, succeeded⟩
        cases same
        exact succeeded

namespace Node

theorem expectText_eq_ok_iff (operand : Operand) (node : Node) (text : String) :
    node.expectText operand = .ok text ↔ node = .string text := by
  constructor
  · intro read
    unfold expectText at read
    split at read <;> cases read
    rfl
  · intro literal
    rw [literal]
    rfl

theorem registerNumber_eq_ok_iff (operand : Operand) (node : Node) (register : UInt32) :
    node.registerNumber operand = .ok register ↔
      ∃ carried, node.ReadsRegister register carried := by
  unfold registerNumber
  constructor
  · intro read
    split at read
    · next number carried found =>
        cases read
        exact ⟨carried, (node.registerBinding?_eq_some_iff _ _).mp found⟩
    · cases read
  · rintro ⟨carried, reads⟩
    rw [(node.registerBinding?_eq_some_iff _ _).mpr reads]

end Node

/-! ## Roles -/

namespace Roles

theorem assign_of_unknown {roles : Roles} {register : UInt32}
    (unknown : roles.roleOf register = none) (role : Role) :
    roles.assign register role = .ok (roles.set register role) := by
  rw [assign, unknown]

/-- The two registers of a class get their roles exactly when they differ. -/
theorem assign_both_eq_ok_iff (classRegister prototypeRegister : UInt32) (roles : Roles) :
    ((({} : Roles).assign classRegister .classObject) >>= fun roles =>
        roles.assign prototypeRegister .prototypeObject) = .ok roles ↔
      prototypeRegister ≠ classRegister ∧
        roles = ⟨some classRegister, some prototypeRegister⟩ := by
  have first : ({} : Roles).assign classRegister .classObject =
      .ok ⟨some classRegister, none⟩ := rfl
  rw [first]
  change (Roles.mk (some classRegister) none).assign prototypeRegister .prototypeObject = _ ↔ _
  by_cases same : prototypeRegister = classRegister
  · subst same
    have held : (Roles.mk (some prototypeRegister) none).roleOf prototypeRegister =
        some .classObject := if_pos rfl
    rw [assign, held]
    exact iff_of_false (fun assigned => by cases assigned) fun distinct => distinct.1 rfl
  · have unknown : (Roles.mk (some classRegister) none).roleOf prototypeRegister = none := by
      rw [roleOf, if_neg fun found => same (Option.some.inj found).symm]
      rfl
    rw [assign_of_unknown unknown]
    constructor
    · intro assigned
      exact ⟨same, (Except.ok.inj assigned).symm⟩
    · intro fits
      rw [fits.2]
      rfl

end Roles

/-! ## A carried value -/

namespace CarriedWrite

theorem ofKnown_eq_ok_iff (options : Options) (known : Option Node) (write : CarriedWrite) :
    ofKnown options known = .ok write ↔
      ∃ object name value, known = some (.assignMember object name value) ∧
        write = if name = options.prototypeMember then ⟨true, object, value⟩
          else ⟨false, .memberNamed object name, value⟩ := by
  constructor
  · intro taken
    unfold ofKnown at taken
    split at taken
    · next object member value =>
        cases hasName : member.text? with
        | none => rw [hasName] at taken; cases taken
        | some name =>
            rw [hasName] at taken
            have literal := (Node.text?_eq_some_iff member name).mp hasName
            refine ⟨object, name, value, by rw [literal]; rfl, ?_⟩
            dsimp only at taken
            split at taken
            · next same => cases taken; rw [if_pos same]
            · next other => cases taken; rw [if_neg other, literal]; rfl
    · cases taken
  · rintro ⟨object, name, value, rfl, rfl⟩
    by_cases same : name = options.prototypeMember
    · rw [if_pos same]
      exact if_pos same
    · rw [if_neg same]
      exact if_neg same

theorem checkPath_eq_ok_iff (options : Options) (path : Path) (write : CarriedWrite)
    (done : Unit) :
    write.checkPath options path = .ok done ↔ Grammar.Reads options path write.source := by
  unfold checkPath
  constructor
  · intro checked
    split at checked
    · cases checked
    · next found hasPath =>
        dsimp only at checked
        split at checked
        · next same => exact ⟨found, hasPath, same⟩
        · cases checked
  · rintro ⟨found, hasPath, same⟩
    rw [hasPath]
    exact if_pos same

theorem stored_eq_ok_iff (register : UInt32) (write : CarriedWrite) (value : Node) :
    write.stored register = .ok value ↔ write.value = .storeRegister register value := by
  unfold stored
  constructor
  · intro taken
    split at taken
    · next number inner whole =>
        split at taken
        · next same =>
            cases taken
            rw [whole, same]
        · cases taken
    · cases taken
  · intro whole
    rw [whole]
    exact if_pos rfl

theorem binding_eq_ok_iff (options : Options) (write : CarriedWrite) (stored : Node)
    (binding : Binding) :
    write.binding options stored = .ok binding ↔
      (write.ofPrototype = true ∧ ∃ type, stored.Constructs type ∧
        binding = .prototypeObject (write.source.withoutRoot options.rootNamespace)
          (type.withoutRoot options.rootNamespace)) ∨
      (write.ofPrototype = false ∧ ∃ construct, stored = .function construct ∧
        binding = .classObject (write.source.withoutRoot options.rootNamespace) construct) := by
  unfold CarriedWrite.binding
  cases ofPrototype : write.ofPrototype with
  | true =>
      simp only [if_true, true_and, Bool.true_eq_false, false_and, or_false]
      constructor
      · intro bound
        split at bound
        · next type constructed =>
            cases bound
            exact ⟨type, (stored.constructedType?_eq_some_iff type).mp constructed, rfl⟩
        · cases bound
      · rintro ⟨type, constructs, rfl⟩
        rw [(stored.constructedType?_eq_some_iff type).mpr constructs]
  | false =>
      simp only [Bool.false_eq_true, if_false, false_and, false_or, true_and]
      constructor
      · intro bound
        split at bound
        · next construct =>
            cases bound
            exact ⟨construct, rfl, rfl⟩
        · cases bound
      · rintro ⟨construct, rfl, rfl⟩
        rfl

end CarriedWrite

/-- A role can be learnt from a carried value exactly when the value says what the
register holds, and the table agrees to it. -/
theorem Roles.derive_eq_ok_iff (options : Options) (path : Path) (roles after : Roles)
    (register : UInt32) (known : Option Node) (binding : Binding) :
    roles.derive options path register known = .ok (binding, after) ↔
      Grammar.Carries options path register known binding ∧
        roles.assign register binding.role = .ok after := by
  unfold derive
  simp only [bind_eq_ok_iff, CarriedWrite.ofKnown_eq_ok_iff, CarriedWrite.checkPath_eq_ok_iff,
    CarriedWrite.stored_eq_ok_iff, CarriedWrite.binding_eq_ok_iff]
  constructor
  · rintro ⟨write, ⟨object, name, value, rfl, rfl⟩, _, reads, stored, store, said, meant, agreed,
      assigned, finished⟩
    cases finished
    refine ⟨?_, assigned⟩
    by_cases same : name = options.prototypeMember
    · rw [if_pos same] at reads store meant
      rcases meant with ⟨_, type, constructed, rfl⟩ | ⟨impossible, _⟩
      · cases store
        rw [same]
        exact .prototypeObject constructed reads
      · cases impossible
    · rw [if_neg same] at reads store meant
      rcases meant with ⟨impossible, _⟩ | ⟨_, construct, rfl, rfl⟩
      · cases impossible
      · cases store
        exact .classObject construct same reads
  · rintro ⟨carries, assigned⟩
    cases carries with
    | @classObject object name construct other reads =>
        refine ⟨⟨false, .memberNamed object name, .storeRegister register (.function construct)⟩,
          ⟨object, name, _, rfl, (if_neg other).symm⟩, (), reads, _, rfl, _,
          Or.inr ⟨rfl, construct, rfl, rfl⟩, after, assigned, rfl⟩
    | @prototypeObject object value type constructed reads =>
        refine ⟨⟨true, object, .storeRegister register value⟩,
          ⟨object, options.prototypeMember, _, rfl, (if_pos rfl).symm⟩, (), reads, _, rfl, _,
          Or.inl ⟨rfl, type, constructed, rfl⟩, after, assigned, rfl⟩

/-! ## The statement that binds both registers -/

theorem classRegister_eq_ok_iff (options : Options) (value : Node)
    (bound : UInt32 × Node) :
    classRegister options value = .ok bound ↔
      value = .memberNamed (.temporaryRegister bound.1 bound.2) options.prototypeMember := by
  constructor
  · intro read
    unfold classRegister at read
    split at read
    · next register write member =>
        rcases (bind_eq_ok_iff _ _ _).mp read with ⟨name, hasName, checked⟩
        rw [(Node.expectText_eq_ok_iff .bindingMember member name).mp hasName]
        split at checked
        · next same =>
            cases checked
            rw [same]
            rfl
        · cases checked
    · cases read
    · cases read
  · intro shape
    rw [shape]
    exact if_pos rfl

/-- The name that is learnt with a constructor is the chain that reads what the
write assigns to, without the root. -/
theorem createdClass_eq_ok_iff (options : Options) (path : Path) (write : Node)
    (created : Node × FunctionLiteral) :
    createdClass options path write = .ok created ↔
      Grammar.Assigns options path write ∧
        (∃ stored, write.Writes (.storeRegister stored (.function created.2))) ∧
          ∃ target, write.target? = some target ∧
            created.1 = target.withoutRoot options.rootNamespace := by
  unfold createdClass
  constructor
  · intro read
    split at read
    · cases read
    · next target hasTarget =>
        split at read
        · cases read
        · next found hasPath =>
            split at read
            · next same =>
                split at read
                · next stored construct written =>
                    cases read
                    exact ⟨⟨found, hasPath, same⟩,
                      ⟨stored, (write.writtenValue?_eq_some_iff _).mp written⟩, target, hasTarget,
                      rfl⟩
                · cases read
                · cases read
            · cases read
  · rintro ⟨⟨found, hasPath, same⟩, ⟨stored, writes⟩, target, hasTarget, named⟩
    have written := (write.writtenValue?_eq_some_iff _).mpr writes
    simp only [hasTarget, hasPath, if_pos same, written]
    rw [← named]

namespace Grammar

/-- What a write assigns to is named by the path of the class. -/
theorem Assigns.ofPath?_target {options : Options} {path : Path} {write target : Node}
    (assigns : Assigns options path write) (hasTarget : write.target? = some target)
    (nonempty : path ≠ []) :
    Node.ofPath? path = some (target.withoutRoot options.rootNamespace) := by
  rcases assigns with ⟨found, hasPath, rfl⟩
  rw [Node.writePath?_eq_bind_target?, hasTarget] at hasPath
  exact Node.ofPath?_withoutRoot hasPath nonempty

theorem Reads.ofPath?_withoutRoot {options : Options} {path : Path} {node : Node}
    (reads : Reads options path node) (nonempty : path ≠ []) :
    Node.ofPath? path = some (node.withoutRoot options.rootNamespace) := by
  rcases reads with ⟨found, hasPath, rfl⟩
  exact Node.ofPath?_withoutRoot hasPath nonempty

end Grammar

end ClassRecovery
