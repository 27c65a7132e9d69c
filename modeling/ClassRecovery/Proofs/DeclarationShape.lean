import ClassRecovery.Proofs.InterfaceGrammar
import ClassRecovery.Proofs.StaticFlags

namespace ClassRecovery

/-!
# The shape of what is declared

A declaration says the same thing in more than one way.  Its name is a chain and its path a
list of names, learnt from different statements.  The members of a class stand in one list
and their flags in another, and the two views of the members skip the constructor by
different means: one by its place, the other by its flag.

Declarations that are read from a body never contradict themselves.  The name reads the
path, each member has its flag, and the views tell every member exactly once.
-/

open Grammar

/-! ## Lists that are merged by flags -/

/-- A list is merged from two others: each flag in turn says whether the next element is
the next of the unmarked or of the marked ones, and none of either is left over. -/
inductive MergedBy {α : Type} : List Bool → List α → List α → List α → Prop where
  | nil : MergedBy [] [] [] []
  | unmarked {flags : List Bool} {others marked whole : List α} (element : α)
      (rest : MergedBy flags others marked whole) :
      MergedBy (false :: flags) (element :: others) marked (element :: whole)
  | marked {flags : List Bool} {others marked whole : List α} (element : α)
      (rest : MergedBy flags others marked whole) :
      MergedBy (true :: flags) others (element :: marked) (element :: whole)

/-- Merging puts back together what the flags have taken apart. -/
theorem mergedBy_filter {α : Type} (flagged : List (α × Bool)) :
    MergedBy (flagged.map (·.2)) ((flagged.filter (!·.2)).map (·.1))
      ((flagged.filter (·.2)).map (·.1)) (flagged.map (·.1)) := by
  induction flagged with
  | nil => exact .nil
  | cons pair rest hypothesis =>
      rcases pair with ⟨element, flag⟩
      cases flag with
      | false => exact .unmarked element hypothesis
      | true => exact .marked element hypothesis

theorem MergedBy.perm {α : Type} {flags : List Bool} {others marked whole : List α}
    (merged : MergedBy flags others marked whole) : whole.Perm (others ++ marked) := by
  induction merged with
  | nil => exact .refl _
  | unmarked element rest hypothesis => exact hypothesis.cons element
  | marked element rest hypothesis => exact (hypothesis.cons element).trans List.perm_middle.symm

/-! ## Members -/

/-- Where the value of a member is a function, the function knows the member's name. -/
def Member.NamesItsFunction (member : Member) : Prop :=
  ∀ function, member.value = .function function → function.inferredName = some member.name

theorem Grammar.WrittenMember.namesItsFunction {name value : Node} {member : Member}
    (adds : WrittenMember name value member) : member.NamesItsFunction := by
  intro named whole
  cases adds with
  | function function =>
      cases whole
      rfl
  | other noFunction => exact absurd whole (noFunction named)

theorem Grammar.MemberStatements.namesItsFunction {options : Options} {path : Path}
    {before behind : Knowledge} {statements interfaces : List Node}
    {members : List (Member × Bool)}
    (derives : MemberStatements options path before statements interfaces members behind) :
    ∀ pair ∈ members, pair.1.NamesItsFunction := by
  induction derives with
  | nil knowledge => exact fun _ member => absurd member List.not_mem_nil
  | implements subclass more others hypothesis => exact hypothesis
  | write through known adds others hypothesis =>
      exact List.forall_mem_cons.mpr ⟨adds.namesItsFunction, hypothesis⟩
  | learn through unknown carries adds others hypothesis =>
      exact List.forall_mem_cons.mpr ⟨adds.namesItsFunction, hypothesis⟩

/-! ## Classes -/

namespace ClassDecl

/-- A class that does not contradict itself, for a path. -/
structure Shaped (path : Path) (declaration : ClassDecl) : Prop where
  aligned : declaration.members.length = declaration.staticFlags.length
  /-- The first member is a function that is named for the last part of the path, and it is
  the constructor. -/
  constructs : ∃ last function,
    path.getLast? = some last ∧
      declaration.members[0]? = some ⟨.string last, .function function⟩ ∧
      function.inferredName = some (.string last) ∧
      declaration.staticFlags[0]? = some false ∧
      declaration.constructor? = declaration.members[0]?
  named : ∀ member ∈ declaration.members, member.NamesItsFunction
  /-- The further members are those of instances and those of the class object. -/
  merged : MergedBy declaration.staticFlags.tail declaration.instanceMembers
    declaration.staticMembers declaration.members.tail
  /-- Every member is told as often as it stands in the class. -/
  once : declaration.members.Perm
    (declaration.constructor?.toList ++ declaration.instanceMembers ++ declaration.staticMembers)

end ClassDecl

/-- The class of a derivation has the right shape as soon as its further members know
their names. -/
theorem shaped_classOf {path : Path} {last : String} (ends : path.getLast? = some last)
    (name : Node) (construct : FunctionLiteral) (superclass : Option Node)
    (interfaces : List Node) {members : List (Member × Bool)} (properties : List Property)
    (named : ∀ pair ∈ members, pair.1.NamesItsFunction) :
    (classOf path name last construct superclass interfaces members properties).Shaped path := by
  have flagged := flaggedMembers_classOf path name last construct superclass interfaces members
    properties
  have instances : (classOf path name last construct superclass interfaces members
      properties).instanceMembers = (members.filter (!·.2)).map (·.1) := by
    rw [ClassDecl.instanceMembers, flagged]
    rfl
  -- The constructor is not marked, so this view leaves it out without skipping a place.
  have statics : (classOf path name last construct superclass interfaces members
      properties).staticMembers = (members.filter (·.2)).map (·.1) := by
    rw [ClassDecl.staticMembers, flagged]
    rfl
  have merged := mergedBy_filter members
  refine ⟨?_, ⟨last, _, ends, rfl, rfl, rfl, rfl⟩, ?_, ?_, ?_⟩
  · simp only [classOf, List.length_cons, List.length_map]
  · refine List.forall_mem_cons.mpr ⟨(WrittenMember.function construct).namesItsFunction, ?_⟩
    intro member inMembers
    rcases List.mem_map.mp inMembers with ⟨pair, inPairs, rfl⟩
    exact named pair inPairs
  · rw [instances, statics]
    exact merged
  · rw [instances, statics]
    exact merged.perm.cons _

/-- Whatever is accepted declares the path that it was read for, under the name that reads
this path.  A class is of the right shape besides: its lists are in step, the constructor
stands first, every function is named for its member, and the members are told exactly once
by the constructor and the two views, which keep their order. -/
theorem ofBody_shaped {options : Options} {path : Path} {parts : List Node}
    {declaration : Declaration}
    (accepted : Declaration.ofBody options path parts = .ok declaration) :
    declaration.path = path ∧ Node.ofPath? path = some declaration.name ∧
      ∀ ofClass, declaration = .classDecl ofClass → ofClass.Shaped path := by
  cases declaration with
  | classDecl declaration =>
      rcases classBody_of_ofBody accepted with ⟨_, _, body⟩
      cases body with
      | intro clauseFits bindingFits membersFit callsFit constructs named ends =>
          refine ⟨rfl, named, fun ofClass same => ?_⟩
          cases same
          exact shaped_classOf ends _ _ _ _ _ membersFit.namesItsFunction
  | interfaceDecl declaration =>
      rcases interfaceBody_of_ofBody accepted with ⟨_, body⟩
      cases body with
      | intro opens writeFits clausesFit named =>
          refine ⟨rfl, named, fun ofClass same => ?_⟩
          cases same

/-- A class in a package, with a static member between two methods. -/
def packagedBody : List Node :=
  [.storeRegister 1 (.memberNamed (.temporaryRegister 2
      (Idiom.globalWrite {} ["a"] "C" (.storeRegister 2 (.function .empty)))) "prototype"),
    .assignMember (.register 1) "run" (.function .empty),
    .assignMember (.register 2) "count" (.integer 0),
    .assignMember (.register 1) "stop" (.function .empty)]

def packagedClass : ClassDecl :=
  classOf ["a", "C"] (.memberNamed (.variableNamed "a") "C") "C" .empty none []
    [(⟨.string "run", .function (FunctionLiteral.empty.namedAs (.string "run"))⟩, false),
      (⟨.string "count", .integer 0⟩, true),
      (⟨.string "stop", .function (FunctionLiteral.empty.namedAs (.string "stop"))⟩, false)] []

theorem ofBody_shaped_packagedBody :
    Declaration.ofBody {} ["a", "C"] packagedBody = .ok (.classDecl packagedClass) ∧
      packagedClass.path = ["a", "C"] ∧ Node.ofPath? ["a", "C"] = some packagedClass.name ∧
      packagedClass.Shaped ["a", "C"] := by
  have accepted : Declaration.ofBody {} ["a", "C"] packagedBody =
      .ok (.classDecl packagedClass) := rfl
  have shaped := ofBody_shaped accepted
  exact ⟨accepted, shaped.1, shaped.2.1, shaped.2.2 packagedClass rfl⟩

end ClassRecovery
