import ClassRecovery.Body.Reading
import ClassRecovery.Proofs.RegisterBindings

namespace ClassRecovery

/-!
# The calls that may end a class body

A call is read by its shape, its name and its arguments in turn.  The statements
that pass all the tests are those of the grammar, and the properties that they
add are read off the rules.  Calls leave the roles of registers alone, so each
is judged by the roles that the members have led to.
-/

/-- Only one number stands for members that are hidden and nothing more. -/
theorem PropFlags.ofInt?_eq_hiddenOnly_iff (value : Int64) :
    ofInt? value = some hiddenOnly ↔ value = 1 :=
  ofInt?_eq_some_iff value hiddenOnly

open Grammar

/-! ## Properties -/

theorem hasAccessor_eq_ok_iff (options : Options) (register : UInt32) (property : String)
    (which : Accessor) (node : Node) (present : Bool) :
    hasAccessor options register property which node = .ok present ↔
      AccessorValue register (options.accessorPrefix which ++ property) node present := by
  constructor
  · intro read
    unfold hasAccessor at read
    split at read
    · next object member =>
        rcases (bind_eq_ok_iff _ _ _).mp read with ⟨found, hasNumber, named⟩
        rcases (Node.registerNumber_eq_ok_iff _ _ _).mp hasNumber with ⟨carried, through⟩
        split at named
        · next same =>
            rcases (bind_eq_ok_iff _ _ _).mp named with ⟨name, hasName, checked⟩
            rw [(Node.expectText_eq_ok_iff _ member name).mp hasName]
            split at checked
            · next expected =>
                cases checked
                rw [expected]
                exact .method (same ▸ through)
            · cases checked
        · cases named
    · next function =>
        split at read
        · next empty =>
            cases read
            rcases function.isPlaceholder_eq_true_iff.mp empty with ⟨inferredName, rfl⟩
            exact .placeholder inferredName
        · cases read
    · cases read
  · intro fits
    cases fits with
    | method through =>
        have number := (Node.registerNumber_eq_ok_iff (.accessor which) _ register).mpr ⟨_, through⟩
        unfold hasAccessor
        simp only [Node.memberNamed]
        rw [number]
        refine (if_pos rfl).trans ?_
        exact if_pos rfl
    | placeholder inferredName => rfl

theorem addProperty_eq_ok_iff (options : Options) (draft after : Draft) (object : Node)
    (arguments : List Node) :
    draft.addProperty options object arguments = .ok after ↔
      ∃ register carried role name getter setter hasGetter hasSetter,
        object.ReadsRegister register carried ∧
          draft.roles.roleOf register = some role ∧
          arguments = [.string name, getter, setter] ∧
          AccessorValue register (options.getterPrefix ++ name) getter hasGetter ∧
          AccessorValue register (options.setterPrefix ++ name) setter hasSetter ∧
          after = { draft with properties := draft.properties ++
            [⟨name, hasGetter, hasSetter, decide (role = .classObject)⟩] } := by
  constructor
  · intro added
    rcases (bind_eq_ok_iff _ _ _).mp added with ⟨register, hasNumber, read⟩
    rcases (Node.registerNumber_eq_ok_iff _ _ _).mp hasNumber with ⟨carried, through⟩
    split at read
    · cases read
    · next role known =>
        split at read
        · next first getter setter =>
            rcases (bind_eq_ok_iff _ _ _).mp read with ⟨name, hasName, read⟩
            rcases (bind_eq_ok_iff _ _ _).mp read with ⟨hasGetter, getting, read⟩
            rcases (bind_eq_ok_iff _ _ _).mp read with ⟨hasSetter, setting, finished⟩
            cases finished
            rw [(Node.expectText_eq_ok_iff _ first name).mp hasName]
            exact ⟨register, carried, role, name, getter, setter, hasGetter, hasSetter, through,
              known, rfl, (hasAccessor_eq_ok_iff _ _ _ _ _ _).mp getting,
              (hasAccessor_eq_ok_iff _ _ _ _ _ _).mp setting, rfl⟩
        · cases read
  · rintro ⟨register, carried, role, name, getter, setter, hasGetter, hasSetter, through, known,
      rfl, getting, setting, rfl⟩
    have number := (Node.registerNumber_eq_ok_iff .propertyObject _ register).mpr ⟨_, through⟩
    have getterRead := (hasAccessor_eq_ok_iff options register name .getter _ _).mpr getting
    have setterRead := (hasAccessor_eq_ok_iff options register name .setter _ _).mpr setting
    unfold Draft.addProperty
    rw [number]
    refine (bind_eq_ok_iff _ _ _).mpr ⟨register, rfl, ?_⟩
    rw [known]
    refine (bind_eq_ok_iff _ _ _).mpr ⟨name, rfl, ?_⟩
    rw [getterRead]
    refine (bind_eq_ok_iff _ _ _).mpr ⟨hasGetter, rfl, ?_⟩
    rw [setterRead]
    rfl

/-! ## Hidden members -/

theorem readsPrototype_eq_true_iff (options : Options) (path : Path) (node : Node) :
    node.readsPrototype options path = true ↔
      Reads options (path ++ [options.prototypeMember]) node := by
  unfold Node.readsPrototype
  constructor
  · intro reads
    split at reads
    · next found hasPath => exact ⟨found, hasPath, eq_of_beq reads⟩
    · cases reads
  · rintro ⟨found, hasPath, same⟩
    rw [hasPath]
    exact beq_iff_eq.mpr same

theorem checkFlags_eq_ok_iff (options : Options) (path : Path) (arguments : List Node)
    (done : Unit) :
    checkFlags options path arguments = .ok done ↔
      ∃ object, arguments = [object, .null, .integer 1] ∧
        Reads options (path ++ [options.prototypeMember]) object := by
  constructor
  · intro checked
    unfold checkFlags at checked
    split at checked
    · next object members flags =>
        split at checked
        · next reads =>
            split at checked
            · split at checked
              · next value =>
                  split at checked
                  · next hidden =>
                      rw [(PropFlags.ofInt?_eq_hiddenOnly_iff value).mp hidden]
                      exact ⟨object, rfl, (readsPrototype_eq_true_iff options path object).mp reads⟩
                  · cases checked
              · cases checked
            · cases checked
        · cases checked
    · cases checked
  · rintro ⟨object, rfl, reads⟩
    have onPrototype := (readsPrototype_eq_true_iff options path object).mpr reads
    refine (if_pos onPrototype).trans ?_
    exact if_pos ((PropFlags.ofInt?_eq_hiddenOnly_iff 1).mpr rfl)

/-! ## Calls in a row -/

/-- No call is itself a value left on the stack, so at most one push is taken off. -/
theorem callStatement_iff (options : Options) (path : Path) (roles : Roles) (statement : Node)
    (properties : List Property) :
    CallStatement options path roles statement properties ↔
      Call options path roles statement.withoutPush properties := by
  constructor
  · intro fits
    cases fits with
    | bare derives =>
        have itself : statement.withoutPush = statement := by cases derives <;> rfl
        rw [itself]
        exact derives
    | pushed derives => exact derives
  · intro derives
    cases statement with
    | push value => exact .pushed derives
    | _ => exact .bare derives

/-- What a draft becomes by properties that are added to it. -/
def Draft.withProperties (draft : Draft) (properties : List Property) : Draft :=
  { draft with properties := draft.properties ++ properties }

theorem addCall_eq_ok_iff (options : Options) (path : Path) (draft after : Draft)
    (statement : Node) :
    draft.addCall options path statement = .ok after ↔
      ∃ properties, CallStatement options path draft.roles statement properties ∧
        after = draft.withProperties properties := by
  simp only [callStatement_iff, Draft.addCall]
  generalize statement.withoutPush = call
  constructor
  · intro added
    split at added
    · next object method arguments =>
        rcases (bind_eq_ok_iff _ _ _).mp added with ⟨name, hasName, checked⟩
        rw [(Node.expectText_eq_ok_iff _ method name).mp hasName]
        split at checked
        · next same =>
            rcases (addProperty_eq_ok_iff options draft after object arguments).mp checked with
              ⟨register, carried, role, property, getter, setter, hasGetter, hasSetter, through,
                known, rfl, getting, setting, rfl⟩
            rw [same]
            exact ⟨_, .property through known getting setting, rfl⟩
        · cases checked
    · next function arguments =>
        rcases (bind_eq_ok_iff _ _ _).mp added with ⟨name, hasName, checked⟩
        rw [(Node.expectText_eq_ok_iff _ function name).mp hasName]
        split at checked
        · next same =>
            rcases (bind_eq_ok_iff _ _ _).mp checked with ⟨done, flags, finished⟩
            rcases (checkFlags_eq_ok_iff options path arguments done).mp flags with
              ⟨object, rfl, reads⟩
            cases finished
            rw [same]
            refine ⟨[], .hideMembers reads, ?_⟩
            rw [Draft.withProperties, List.append_nil]
        · cases checked
    · cases added
  · rintro ⟨properties, derives, rfl⟩
    cases derives with
    | @property object getter setter register carried role name hasGetter hasSetter through known
        getting setting =>
        refine (if_pos rfl).trans ?_
        exact (addProperty_eq_ok_iff _ _ _ _ _).mpr ⟨register, carried, role, name, getter, setter,
          hasGetter, hasSetter, through, known, rfl, getting, setting, rfl⟩
    | @hideMembers object reads =>
        have flags := (checkFlags_eq_ok_iff options path _ ()).mpr ⟨object, rfl, reads⟩
        refine (if_pos rfl).trans ?_
        rw [flags, Draft.withProperties, List.append_nil]
        rfl

/-- The calls at the end of a body are read exactly when they are calls of the
grammar, for the roles that registers have when the calls begin. -/
theorem takeCalls_eq_ok_iff (options : Options) (path : Path) (draft after : Draft)
    (statements : List Node) :
    takeCalls options path draft statements = .ok after ↔
      ∃ properties, CallStatements options path draft.roles statements properties ∧
        after = draft.withProperties properties := by
  induction statements generalizing draft with
  | nil =>
      constructor
      · intro done
        cases done
        refine ⟨[], .nil, ?_⟩
        rw [Draft.withProperties, List.append_nil]
      · rintro ⟨properties, derives, rfl⟩
        cases derives
        rw [Draft.withProperties, List.append_nil]
        rfl
  | cons statement rest hypothesis =>
      rw [takeCalls, bind_eq_ok_iff]
      constructor
      · rintro ⟨next, added, taken⟩
        rcases (addCall_eq_ok_iff _ _ _ _ _).mp added with ⟨properties, first, rfl⟩
        rcases (hypothesis _).mp taken with ⟨more, others, rfl⟩
        refine ⟨properties ++ more, .cons first others, ?_⟩
        simp only [Draft.withProperties, List.append_assoc]
      · rintro ⟨properties, derives, rfl⟩
        cases derives with
        | @cons _ _ properties more first others =>
            refine ⟨draft.withProperties properties,
              (addCall_eq_ok_iff _ _ _ _ _).mpr ⟨properties, first, rfl⟩,
              (hypothesis _).mpr ⟨more, others, ?_⟩⟩
            simp only [Draft.withProperties, List.append_assoc]

end ClassRecovery
