import ClassRecovery.Proofs.InterfaceGrammar
import ClassRecovery.Proofs.StaticFlags

namespace ClassRecovery

/-!
# Whose class a body speaks of

A body speaks of a class in six places, and in four of them it has to be the class at the
path: the binding of the registers writes to it, an interface is written to it, what a
register carries was written to it or to its prototype, and attributes are set on its
prototype.  Anything else rejects the body.

The clauses for the superclass and for interfaces name the class as well, as the subclass.
Nothing asks which class that is.  So a clause counts for the class at the path whatever
class it speaks of.
-/

open Grammar

/-! ## The statements of a body -/

/-- Behind the opening there are the calls of a class, or the write of an interface with
the clauses behind it. -/
inductive Ending (options : Options) (path : Path) : List Node → Prop where
  | calls {roles : Roles} {statements : List Node} {properties : List Property}
      (fits : CallStatements options path roles statements properties) :
      Ending options path statements
  | interface {write : Node} {clauses interfaces : List Node}
      (writeFits : InterfaceWrite options path write)
      (clausesFit : ImplementsClauses clauses interfaces) : Ending options path (write :: clauses)

/-- Both kinds of bodies are an opening and an ending. -/
theorem opening_of_ofBody {options : Options} {path : Path} {parts : List Node}
    {declaration : Declaration}
    (accepted : Declaration.ofBody options path parts = .ok declaration) :
    ∃ opening ending finish interfaces added, parts = opening ++ ending ∧
      Opening options path opening finish interfaces added ∧ Ending options path ending := by
  cases declaration with
  | classDecl declaration =>
      rcases classBody_of_ofBody accepted with ⟨_, _, body⟩
      cases body with
      | intro clauseFits bindingFits membersFit callsFit constructs named ends =>
          exact ⟨_, _, _, _, _, rfl, .intro clauseFits bindingFits membersFit, .calls callsFit⟩
  | interfaceDecl declaration =>
      rcases interfaceBody_of_ofBody accepted with ⟨_, body⟩
      cases body with
      | @intro opening clauses before behind write name finish added opens writeFits clausesFit
          named =>
          refine ⟨opening, write :: clauses, _, _, _, ?_, opens, .interface writeFits clausesFit⟩
          rw [List.append_assoc, List.singleton_append]

/-- The statements of an ending: calls, the write of an interface, and clauses. -/
theorem Ending.statement {options : Options} {path : Path} {ending : List Node}
    (fits : Ending options path ending) :
    ∀ statement ∈ ending,
      (∃ roles properties, CallStatement options path roles statement properties) ∨
        InterfaceWrite options path statement ∨ statement.kind = .implementsClause := by
  cases fits with
  | calls fits =>
      induction fits with
      | nil => exact fun _ member => absurd member List.not_mem_nil
      | cons first others hypothesis =>
          exact List.forall_mem_cons.mpr ⟨Or.inl ⟨_, _, first⟩, hypothesis⟩
  | interface writeFits clausesFit =>
      refine List.forall_mem_cons.mpr ⟨Or.inr (Or.inl writeFits), fun statement member => ?_⟩
      exact Or.inr (Or.inr (kind_of_implementsClauses clausesFit statement member))

theorem kind_of_callStatement {options : Options} {path : Path} {roles : Roles}
    {statement : Node} {properties : List Property}
    (fits : CallStatement options path roles statement properties) :
    statement.kind = .callMethod ∨ statement.kind = .callFunction ∨ statement.kind = .push :=
  kind_of_callStatements (.cons fits .nil) statement List.mem_cons_self

/-- The statements of an opening: clauses, the binding of the registers, and member
writes through a register. -/
inductive OpeningStatement (options : Options) (path : Path) : Node → Prop where
  | clause {statement : Node}
      (kind : statement.kind = .extendsClause ∨ statement.kind = .implementsClause) :
      OpeningStatement options path statement
  | binding (prototypeRegister classRegister : UInt32) {write : Node}
      (assigns : Assigns options path write) :
      OpeningStatement options path
        (.storeRegister prototypeRegister
          (.memberNamed (.temporaryRegister classRegister write) options.prototypeMember))
  | member {object : Node} {register : UInt32} {carried : Option Node} (name value : Node)
      (through : object.ReadsRegister register carried) :
      OpeningStatement options path (.setMember object name value)

theorem Grammar.MemberStatements.statement {options : Options} {path : Path}
    {before behind : Knowledge} {statements interfaces : List Node}
    {members : List (Member × Bool)}
    (derives : MemberStatements options path before statements interfaces members behind) :
    ∀ statement ∈ statements, OpeningStatement options path statement := by
  induction derives with
  | nil knowledge => exact fun _ member => absurd member List.not_mem_nil
  | implements subclass more others hypothesis =>
      exact List.forall_mem_cons.mpr ⟨.clause (Or.inr rfl), hypothesis⟩
  | write through known adds others hypothesis =>
      exact List.forall_mem_cons.mpr ⟨.member _ _ through, hypothesis⟩
  | learn through unknown carries adds others hypothesis =>
      exact List.forall_mem_cons.mpr ⟨.member _ _ through, hypothesis⟩

theorem Grammar.Opening.statement {options : Options} {path : Path}
    {opening interfaces : List Node} {finish : Knowledge} {added : List (Member × Bool)}
    (opens : Opening options path opening finish interfaces added) :
    ∀ statement ∈ opening, OpeningStatement options path statement := by
  cases opens with
  | intro clauseFits bindingFits membersFit =>
      intro statement member
      simp only [List.mem_append] at member
      rcases member with (inClause | inBinding) | inMembers
      · cases clauseFits with
        | absent => cases inClause
        | present subclass superclass =>
            cases List.mem_singleton.mp inClause
            exact .clause (Or.inl rfl)
      · cases bindingFits with
        | absent => cases inBinding
        | present distinct assigns creates =>
            cases List.mem_singleton.mp inBinding
            exact .binding _ _ assigns
      · exact membersFit.statement statement inMembers

/-! ## What has to be about the class -/

/-- What a body says about the class at a path, in the places where it is compared with
the path. -/
structure SpeaksOf (options : Options) (path : Path) (parts : List Node) : Prop where
  /-- The binding of the registers carries a write to the path. -/
  binding : ∀ prototypeRegister value, .storeRegister prototypeRegister value ∈ parts →
    ∃ classRegister write,
      value = .memberNamed (.temporaryRegister classRegister write) options.prototypeMember ∧
        Assigns options path write
  /-- A write that is not through a register is to the path. -/
  directWrite : ∀ write ∈ parts, DirectWrite write → Assigns options path write
  /-- Where the statements in front of a write have not told the role of its register, the
  register carries a write to the path, or to the prototype member of what the path
  reaches. -/
  derivation : ∀ front object name value back register carried,
    parts = front ++ .setMember object name value :: back →
      object.registerBinding? = some (register, carried) →
        ∃ known interfaces added, Opening options path front known interfaces added ∧
          (known.roles.roleOf register = none →
            ∃ place member stored, carried = some (.assignMember place member stored) ∧
              if member = options.prototypeMember then Reads options path place
              else Reads options path (.memberNamed place member))
  /-- A function is called only to set attributes on the prototype of what the path
  reaches. -/
  flags : ∀ statement ∈ parts, ∀ function arguments,
    statement.withoutPush = .callFunction function arguments →
      ∃ object, arguments = [object, .null, .integer 1] ∧
        Reads options (path ++ [options.prototypeMember]) object

section Parts

variable {options : Options} {path : Path} {parts opening ending interfaces : List Node}
  {finish : Knowledge} {added : List (Member × Bool)}

theorem binding_of_parts (opens : Opening options path opening finish interfaces added)
    (ends : Ending options path ending) {prototypeRegister : UInt32} {value : Node}
    (member : .storeRegister prototypeRegister value ∈ opening ++ ending) :
    ∃ classRegister write,
      value = .memberNamed (.temporaryRegister classRegister write) options.prototypeMember ∧
        Assigns options path write := by
  rcases List.mem_append.mp member with inOpening | inEnding
  · cases opens.statement _ inOpening with
    | clause kind => rcases kind with kind | kind <;> cases kind
    | binding _ classRegister assigns => exact ⟨classRegister, _, rfl, assigns⟩
  · rcases ends.statement _ inEnding with ⟨_, _, call⟩ | write | kind
    · rcases kind_of_callStatement call with kind | kind | kind <;> cases kind
    · cases write.direct
    · cases kind

theorem assigns_of_parts (opens : Opening options path opening finish interfaces added)
    (ends : Ending options path ending) {write : Node} (direct : DirectWrite write)
    (member : write ∈ opening ++ ending) : Assigns options path write := by
  rcases List.mem_append.mp member with inOpening | inEnding
  · cases opens.statement write inOpening with
    | clause kind => cases direct <;> rcases kind with kind | kind <;> cases kind
    | binding => cases direct
    | member name value through => exact absurd through (direct.not_readsRegister _ _)
  · rcases ends.statement write inEnding with ⟨_, _, call⟩ | fits | kind
    · cases direct <;> rcases kind_of_callStatement call with kind | kind | kind <;> cases kind
    · exact fits.assigns
    · cases direct <;> cases kind

/-- What a register carries that has just told its role. -/
theorem Grammar.Carries.reads_path {register : UInt32} {carried : Option Node} {binding : Binding}
    (carries : Carries options path register carried binding) :
    ∃ place member stored, carried = some (.assignMember place member stored) ∧
      if member = options.prototypeMember then Reads options path place
      else Reads options path (.memberNamed place member) := by
  cases carries with
  | classObject construct other reads =>
      refine ⟨_, _, _, rfl, ?_⟩
      rw [if_neg other]
      exact reads
  | prototypeObject constructed reads =>
      refine ⟨_, _, _, rfl, ?_⟩
      rw [if_pos rfl]
      exact reads

theorem derivation_of_parts (opens : Opening options path opening finish interfaces added)
    (ends : Ending options path ending) {front back : List Node} {object name value : Node}
    {register : UInt32} {carried : Option Node}
    (split : opening ++ ending = front ++ .setMember object name value :: back)
    (through : object.registerBinding? = some (register, carried)) :
    ∃ known interfaces added, Opening options path front known interfaces added ∧
      (known.roles.roleOf register = none →
        ∃ binding, Carries options path register carried binding) := by
  have notInEnding : Node.setMember object name value ∉ ending := by
    intro member
    rcases ends.statement _ member with ⟨_, _, call⟩ | write | kind
    · rcases kind_of_callStatement call with kind | kind | kind <;> cases kind
    · have reads := (object.registerBinding?_eq_some_iff register carried).mp through
      exact write.direct.not_readsRegister register carried reads
    · cases kind
  cases opens with
  | intro clauseFits bindingFits membersFit =>
      rcases members_of_split_of_not_mem clauseFits bindingFits notInEnding split with
        ⟨earlier, later, rfl, rfl⟩
      rcases membersFit.of_append with ⟨known, _, _, _, _, inFront, behind, _⟩
      refine ⟨known, _, _, .intro clauseFits bindingFits inFront, fun unknown => ?_⟩
      rcases memberStatements_cons_registered through behind with
        ⟨role, following, _, told | ⟨_, binding, carries, _⟩⟩
      · cases unknown.symm.trans told
      · exact ⟨binding, carries⟩

theorem flags_of_parts (opens : Opening options path opening finish interfaces added)
    (ends : Ending options path ending) {statement function : Node} {arguments : List Node}
    (member : statement ∈ opening ++ ending)
    (calls : statement.withoutPush = .callFunction function arguments) :
    ∃ object, arguments = [object, .null, .integer 1] ∧
      Reads options (path ++ [options.prototypeMember]) object := by
  have kinds : statement.kind = .push ∨ statement.kind = .callFunction := by
    cases statement with
    | push value => exact Or.inl rfl
    | callFunction => exact Or.inr rfl
    | _ => cases calls
  rcases List.mem_append.mp member with inOpening | inEnding
  · cases opens.statement statement inOpening with
    | clause kind =>
        rcases kind with kind | kind <;> rcases kinds with other | other <;>
          cases kind.symm.trans other
    | binding => cases calls
    | member => cases calls
  · rcases ends.statement statement inEnding with ⟨roles, properties, call⟩ | write | kind
    · have derives := (callStatement_iff _ _ _ _ _).mp call
      rw [calls] at derives
      cases derives with
      | hideMembers reads => exact ⟨_, rfl, reads⟩
    · cases write.direct <;> cases calls
    · rcases kinds with other | other <;> cases kind.symm.trans other

end Parts

theorem speaksOf_of_ofBody {options : Options} {path : Path} {parts : List Node}
    {declaration : Declaration}
    (accepted : Declaration.ofBody options path parts = .ok declaration) :
    SpeaksOf options path parts := by
  rcases opening_of_ofBody accepted with ⟨opening, ending, _, _, _, rfl, opens, ends⟩
  refine ⟨?_, ?_, ?_, ?_⟩
  · exact fun _ _ member => binding_of_parts opens ends member
  · exact fun write member direct => assigns_of_parts opens ends direct member
  · intro front object name value back register carried split through
    rcases derivation_of_parts opens ends split through with ⟨known, _, _, opened, carries⟩
    refine ⟨known, _, _, opened, fun unknown => ?_⟩
    rcases carries unknown with ⟨binding, carries⟩
    exact carries.reads_path
  · exact fun statement member function arguments calls => flags_of_parts opens ends member calls

/-! ## What nothing asks for -/

/-- The same statement about another subclass. -/
def Node.withSubclass (other : Node → Node) : Node → Node
  | .extendsClause subclass superclass => .extendsClause (other subclass) superclass
  | .implementsClause subclass interfaces => .implementsClause (other subclass) interfaces
  | node => node

/-- The same members, in front of statements about other subclasses. -/
def Members.withSubclass (other : Node → Node) : Members → Members
  | .interface declaration => .interface declaration
  | .calls draft rest => .calls draft (rest.map (·.withSubclass other))

section Subclasses

variable (options : Options) (path : Path) (other : Node → Node)

theorem takeSuperclass_withSubclass (parts : List Node) :
    takeSuperclass options (parts.map (·.withSubclass other)) =
      ((takeSuperclass options parts).1,
        (takeSuperclass options parts).2.map (·.withSubclass other)) := by
  cases parts with
  | nil => rfl
  | cons statement rest => cases statement <;> rfl

theorem takeBinding_withSubclass (draft : Draft) (parts : List Node) :
    takeBinding options path draft (parts.map (·.withSubclass other)) =
      (takeBinding options path draft parts).map fun bound =>
        (bound.1, bound.2.map (·.withSubclass other)) := by
  cases parts with
  | nil => rfl
  | cons statement rest =>
      cases statement with
      | storeRegister register value =>
          simp only [List.map_cons, Node.withSubclass, takeBinding]
          cases draft.bindBoth options path register value <;> rfl
      | _ => rfl

theorem implementedBy_withSubclass (statements : List Node) :
    implementedBy (statements.map (·.withSubclass other)) = implementedBy statements := by
  induction statements with
  | nil => rfl
  | cons statement rest hypothesis =>
      cases statement with
      | implementsClause subclass interfaces =>
          change implementedBy (.implementsClause _ interfaces :: rest.map (·.withSubclass other)) = _
          rw [implementedBy, implementedBy, hypothesis]
      | _ => rfl

theorem readInterface_withSubclass (ancestors : List Node) (write : Node) (rest : List Node) :
    readInterface options path ancestors write (rest.map (·.withSubclass other)) =
      readInterface options path ancestors write rest := by
  simp only [readInterface, implementedBy_withSubclass]

theorem takeMembers_withSubclass (draft : Draft) (parts : List Node) :
    takeMembers options path draft (parts.map (·.withSubclass other)) =
      (takeMembers options path draft parts).map (·.withSubclass other) := by
  induction draft, parts using takeMembers.induct with
  | case1 draft object name value rest register known through hypothesis =>
      change takeMembers options path draft
        (.setMember object name value :: rest.map (·.withSubclass other)) = _
      simp only [takeMembers, through]
      cases draft.addMember options path register known name value with
      | error cause => rfl
      | ok next => exact hypothesis next
  | case2 draft object name value rest through =>
      change takeMembers options path draft
        (.setMember object name value :: rest.map (·.withSubclass other)) = _
      simp only [takeMembers, through, readInterface_withSubclass]
      cases readInterface options path draft.interfaces (.setMember object name value) rest <;> rfl
  | case3 draft name value rest =>
      change takeMembers options path draft
        (.setVariable name value :: rest.map (·.withSubclass other)) = _
      simp only [takeMembers, readInterface_withSubclass]
      cases readInterface options path draft.interfaces (.setVariable name value) rest <;> rfl
  | case4 draft subclass interfaces rest hypothesis =>
      change takeMembers options path draft
        (.implementsClause (other subclass) interfaces :: rest.map (·.withSubclass other)) = _
      rw [takeMembers, takeMembers]
      exact hypothesis
  | case5 draft parts noMember noVariable noClause =>
      cases parts with
      | nil => rfl
      | cons statement rest =>
          cases statement with
          | setMember object name value => exact absurd rfl (noMember object name value rest)
          | setVariable name value => exact absurd rfl (noVariable name value rest)
          | implementsClause subclass interfaces =>
              exact absurd rfl (noClause subclass interfaces rest)
          | _ => rfl

theorem addCall_withSubclass (draft : Draft) (statement : Node) :
    draft.addCall options path (statement.withSubclass other) =
      draft.addCall options path statement := by
  cases statement <;> rfl

theorem takeCalls_withSubclass (draft : Draft) (statements : List Node) :
    takeCalls options path draft (statements.map (·.withSubclass other)) =
      takeCalls options path draft statements := by
  induction statements generalizing draft with
  | nil => rfl
  | cons statement rest hypothesis =>
      simp only [List.map_cons, takeCalls, addCall_withSubclass, hypothesis]

/-- A body is read in the same way whatever subclasses its clauses name. -/
theorem ofBody_withSubclass (parts : List Node) :
    Declaration.ofBody options path (parts.map (·.withSubclass other)) =
      Declaration.ofBody options path parts := by
  unfold Declaration.ofBody
  rw [List.isEmpty_map, takeSuperclass_withSubclass]
  split
  · rfl
  · split
    · rfl
    · rcases takeSuperclass options parts with ⟨superclass, rest⟩
      dsimp only
      rw [takeBinding_withSubclass]
      cases takeBinding options path { superclass := superclass } rest with
      | error cause => rfl
      | ok bound =>
          rcases bound with ⟨draft, left⟩
          change (takeMembers options path draft (left.map (·.withSubclass other)) >>= _) =
            (takeMembers options path draft left >>= _)
          rw [takeMembers_withSubclass]
          cases takeMembers options path draft left with
          | error cause => rfl
          | ok members =>
              cases members with
              | interface declaration => rfl
              | calls draft calls =>
                  change (takeCalls options path draft (calls.map (·.withSubclass other)) >>= _) =
                    (takeCalls options path draft calls >>= _)
                  rw [takeCalls_withSubclass]

end Subclasses

/-- In an accepted body, whatever is compared with the path speaks of the class at the
path: the binding of the registers, a direct write, what a register carries that tells
its role, and the object whose members get attributes.  The clauses for the superclass
and for interfaces are not compared with it, for with any other subclasses in them the
same is declared. -/
theorem ofBody_speaksOf {options : Options} {path : Path} {parts : List Node}
    {declaration : Declaration}
    (accepted : Declaration.ofBody options path parts = .ok declaration) :
    SpeaksOf options path parts ∧
      ∀ other : Node → Node,
        Declaration.ofBody options path (parts.map (·.withSubclass other)) = .ok declaration :=
  ⟨speaksOf_of_ofBody accepted, fun other =>
    (ofBody_withSubclass options path other parts).trans accepted⟩

/-- The body of one class, with the superclass and an interface of another. -/
def foreignBody : List Node :=
  [.extendsClause (Idiom.globalRead {} ["Other"]) (Idiom.globalRead {} ["Base"]),
    bindingOfC,
    .implementsClause (Idiom.globalRead {} ["Other"]) [.variableNamed "J"]]

def foreignClass : ClassDecl :=
  classOf ["C"] (.variableNamed "C") "C" .empty (some (.variableNamed "Base"))
    [.variableNamed "J"] [] []

theorem ofBody_foreignBody :
    Declaration.ofBody {} ["C"] foreignBody = .ok (.classDecl foreignClass) := rfl

theorem ofBody_speaksOf_foreignBody :
    Declaration.ofBody {} ["C"] foreignBody = .ok (.classDecl foreignClass) ∧
      SpeaksOf {} ["C"] foreignBody ∧
        ∀ other : Node → Node,
          Declaration.ofBody {} ["C"] (foreignBody.map (·.withSubclass other)) =
            .ok (.classDecl foreignClass) :=
  ⟨ofBody_foreignBody, ofBody_speaksOf ofBody_foreignBody⟩

/-- The class is given the superclass and the interface of the other one. -/
theorem foreignBody_clauses_attributed :
    Declaration.ofBody {} ["C"] foreignBody = .ok (.classDecl foreignClass) ∧
      (∃ subclass, .extendsClause subclass (Idiom.globalRead {} ["Base"]) ∈ foreignBody ∧
        ¬ Reads {} ["C"] subclass) ∧
      (∃ subclass, .implementsClause subclass [.variableNamed "J"] ∈ foreignBody ∧
        ¬ Reads {} ["C"] subclass) ∧
      foreignClass.superclass = some (.variableNamed "Base") ∧
      foreignClass.interfaces = [.variableNamed "J"] := by
  have different : ¬ Reads {} ["C"] (Idiom.globalRead {} ["Other"]) := by
    rintro ⟨found, hasPath, same⟩
    have other : (Idiom.globalRead {} ["Other"]).path? = some ["_global", "Other"] := rfl
    rw [other] at hasPath
    cases hasPath
    exact absurd same (by decide)
  refine ⟨ofBody_foreignBody, ⟨_, List.mem_cons_self, different⟩, ⟨_, ?_, different⟩, rfl, rfl⟩
  exact List.mem_cons_of_mem _ (List.mem_cons_of_mem _ List.mem_cons_self)

end ClassRecovery
