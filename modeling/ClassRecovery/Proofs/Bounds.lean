import ClassRecovery.Checked
import ClassRecovery.Proofs.InterfaceGrammar
import ClassRecovery.Proofs.PathCauses
import ClassRecovery.Proofs.SuffixRefinement

namespace ClassRecovery

/-!
# A pass never looks outside of a list

A checked pass has an answer to everything, and it is the answer of the pass itself.  So
no position is ever outside of its list, and nothing that the checks rule out comes about.

Most of it follows from where a position comes from: a statement was found there, or a
number of arguments was counted.  Two things do not.  That a path is left without the
root holds because a chain of guards adds a name to the root before it ends.  That a
class with a constructor has a name holds because every statement that tells of a
constructor tells of the name as well.
-/

/-- What stands at a position comes first in what is left of the list there. -/
theorem drop_of_getElem? {α : Type} {list : List α} {position : Nat} {element : α}
    (found : list[position]? = some element) :
    list.drop position = element :: list.drop (position + 1) := by
  rcases List.getElem?_eq_some_iff.mp found with ⟨inside, rfl⟩
  exact List.drop_eq_getElem_cons inside

namespace Checked

/-- An answer on which an answer follows is an answer. -/
theorem answer_bind {α β : Type} {reading : Except Rejection α} {next : α → Checked β}
    {plain : α → Except Rejection β}
    (answers : ∀ value, reading = .ok value → next value = answer (plain value)) :
    (answer reading >>= next) = answer (reading >>= plain) := by
  cases reading with
  | error cause => rfl
  | ok value => exact answers value rfl

theorem elementsFrom?_eq_some {α : Type} {list : List α} {position : Nat}
    (inside : position ≤ list.length) :
    elementsFrom? list position = some (list.drop position) :=
  if_pos inside

end Checked

open Checked

/-! ## Names and constructors -/

namespace Draft

/-- A class whose constructor is known has a name. -/
def ConstructNamed (draft : Draft) : Prop :=
  draft.construct.isSome = true → draft.name.isSome = true

/-- Both ways in which a register is bound tell the name. -/
theorem constructNamed_applyBinding (draft : Draft) (roles : Roles) (binding : Binding) :
    (draft.applyBinding roles binding).ConstructNamed := by
  cases binding <;> exact fun _ => rfl

theorem constructNamed_bindBoth {options : Options} {path : Path} {draft after : Draft}
    {register : UInt32} {value : Node}
    (bound : draft.bindBoth options path register value = .ok after) : after.ConstructNamed := by
  rcases (bind_eq_ok_iff _ _ _).mp bound with ⟨⟨classRegister, write⟩, _, bound⟩
  rcases (bind_eq_ok_iff _ _ _).mp bound with ⟨⟨name, construct⟩, _, bound⟩
  rcases (bind_eq_ok_iff _ _ _).mp bound with ⟨first, _, bound⟩
  rcases (bind_eq_ok_iff _ _ _).mp bound with ⟨second, _, bound⟩
  cases bound
  exact fun _ => rfl

theorem constructNamed_addMember {options : Options} {path : Path} {draft after : Draft}
    {register : UInt32} {known : Option Node} {name value : Node}
    (added : draft.addMember options path register known name value = .ok after)
    (named : draft.ConstructNamed) : after.ConstructNamed := by
  rcases (addMember_eq_ok_iff _ _ _ _ _ _ _ _).mp added with
    ⟨role, _, rfl⟩ | ⟨_, binding, _, rfl⟩
  · exact named
  · exact constructNamed_applyBinding draft _ binding

end Draft

theorem constructNamed_takeBinding {options : Options} {path : Path} {draft after : Draft}
    {parts rest : List Node} (bound : takeBinding options path draft parts = .ok (after, rest))
    (named : draft.ConstructNamed) : after.ConstructNamed := by
  unfold takeBinding at bound
  split at bound
  · rcases (bind_eq_ok_iff _ _ _).mp bound with ⟨next, learnt, same⟩
    cases same
    exact Draft.constructNamed_bindBoth learnt
  · cases bound
    exact named

theorem constructNamed_takeMembers {options : Options} {path : Path} {draft after : Draft}
    {parts rest : List Node}
    (taken : takeMembers options path draft parts = .ok (.calls after rest))
    (named : draft.ConstructNamed) : after.ConstructNamed := by
  induction draft, parts using takeMembers.induct with
  | case1 draft object name value others register known through hypothesis =>
      rw [takeMembers, through] at taken
      rcases (bind_eq_ok_iff _ _ _).mp taken with ⟨next, added, taken⟩
      exact hypothesis next taken (Draft.constructNamed_addMember added named)
  | case2 draft object name value others through =>
      rw [takeMembers, through] at taken
      rcases (bind_eq_ok_iff _ _ _).mp taken with ⟨declaration, _, other⟩
      cases other
  | case3 draft name value others =>
      rw [takeMembers] at taken
      rcases (bind_eq_ok_iff _ _ _).mp taken with ⟨declaration, _, other⟩
      cases other
  | case4 draft subclass interfaces others hypothesis =>
      rw [takeMembers] at taken
      exact hypothesis taken named
  | case5 draft parts noMember noVariable noClause =>
      rw [takeMembers] at taken
      · cases taken
        exact named
      · exact noMember
      · exact noVariable
      · exact noClause

theorem constructNamed_takeCalls {options : Options} {path : Path} {draft after : Draft}
    {statements : List Node} (taken : takeCalls options path draft statements = .ok after)
    (named : draft.ConstructNamed) : after.ConstructNamed := by
  rcases (takeCalls_eq_ok_iff _ _ _ _ _).mp taken with ⟨properties, _, rfl⟩
  exact named

/-! ## Bodies -/

theorem takeSuperclass_drop (options : Options) (parts : List Node) (position : Nat) :
    takeSuperclass options (parts.drop position) =
      ((superclassAt options parts position).1,
        parts.drop (superclassAt options parts position).2) := by
  unfold superclassAt
  split
  · next subclass superclass found =>
      rw [drop_of_getElem? found]
      rfl
  · next other =>
      rw [takeSuperclass]
      intro subclass superclass rest whole
      refine other subclass superclass ?_
      rw [← List.head?_drop, whole]
      rfl

theorem takeBinding_drop (options : Options) (path : Path) (parts : List Node) (draft : Draft)
    (position : Nat) :
    takeBinding options path draft (parts.drop position) =
      (bindingAt options path parts draft position).map fun bound =>
        (bound.1, parts.drop bound.2) := by
  unfold bindingAt
  split
  · next register value found =>
      rw [drop_of_getElem? found, takeBinding]
      cases draft.bindBoth options path register value <;> rfl
  · next other =>
      rw [takeBinding]
      · rfl
      · intro register value rest whole
        refine other register value ?_
        rw [← List.head?_drop, whole]
        rfl

theorem interfaceAt_eq (options : Options) (path : Path) {parts : List Node}
    (ancestors : List Node) (write : Node) {position : Nat} {statement : Node}
    (found : parts[position]? = some statement) :
    interfaceAt options path parts ancestors write position =
      answer (readInterface options path ancestors write (parts.drop (position + 1))) := by
  rcases List.getElem?_eq_some_iff.mp found with ⟨inside, _⟩
  rw [interfaceAt, elementsFrom?_eq_some (Nat.succ_le_of_lt inside)]

/-- Members that are given by a position, in terms of what is left there. -/
def MembersAt.read (parts : List Node) : MembersAt → Members
  | .interface declaration => .interface declaration
  | .calls draft position => .calls draft (parts.drop position)

/-- An interface that is read ends the members. -/
theorem interfaceAt_bind (options : Options) (path : Path) {parts : List Node}
    (ancestors : List Node) (write : Node) {position : Nat} {statement : Node}
    (found : parts[position]? = some statement) :
    ∃ reading : Except Rejection MembersAt,
      (do
        let declaration ← interfaceAt options path parts ancestors write position
        return MembersAt.interface declaration) = answer reading ∧
      (do
        let declaration ←
          readInterface options path ancestors write (parts.drop (position + 1))
        return Members.interface declaration) = reading.map (·.read parts) := by
  rw [interfaceAt_eq options path ancestors write found]
  cases readInterface options path ancestors write (parts.drop (position + 1)) with
  | error cause => exact ⟨.error cause, rfl, rfl⟩
  | ok declaration => exact ⟨.ok (.interface declaration), rfl, rfl⟩

theorem membersAt_eq (options : Options) (path : Path) (parts : List Node) (draft : Draft)
    (position : Nat) :
    ∃ reading, membersAt options path parts draft position = answer reading ∧
      takeMembers options path draft (parts.drop position) = reading.map (·.read parts) := by
  fun_induction membersAt options path parts draft position with
  | case1 draft position object name value found register known through hypothesis =>
      rw [drop_of_getElem? found, takeMembers, through]
      dsimp only
      cases draft.addMember options path register known name value with
      | error cause => exact ⟨.error cause, rfl, rfl⟩
      | ok next => exact hypothesis next
  | case2 draft position object name value found through =>
      rw [drop_of_getElem? found, takeMembers, through]
      exact interfaceAt_bind options path draft.interfaces _ found
  | case3 draft position name value found =>
      rw [drop_of_getElem? found, takeMembers]
      exact interfaceAt_bind options path draft.interfaces _ found
  | case4 draft position subclass interfaces found hypothesis =>
      rw [drop_of_getElem? found, takeMembers]
      exact hypothesis
  | case5 draft position noMember noVariable noClause =>
      refine ⟨.ok (.calls draft position), rfl, ?_⟩
      have first : (parts.drop position).head? = parts[position]? := List.head?_drop
      rw [takeMembers]
      · rfl
      · intro object name value rest whole
        exact noMember object name value (first.symm.trans (congrArg List.head? whole))
      · intro name value rest whole
        exact noVariable name value (first.symm.trans (congrArg List.head? whole))
      · intro subclass interfaces rest whole
        exact noClause subclass interfaces (first.symm.trans (congrArg List.head? whole))

theorem argumentsAt_eq (arguments : List Node) : argumentsAt arguments = pure arguments := by
  unfold argumentsAt
  split
  · next three =>
      match arguments, three with
      | [first, second, third], _ => rfl
  · rfl

theorem Draft.addCallChecked_eq (options : Options) (path : Path) (draft : Draft)
    (statement : Node) :
    draft.addCallChecked options path statement =
      answer (draft.addCall options path statement) := by
  unfold addCallChecked addCall
  cases statement.withoutPush with
  | callMethod object method arguments =>
      refine answer_bind fun name _ => ?_
      rw [argumentsAt_eq]
      split <;> rfl
  | callFunction function arguments =>
      refine answer_bind fun name _ => ?_
      rw [argumentsAt_eq]
      split
      · exact answer_bind fun _ _ => rfl
      · rfl
  | _ => rfl

theorem callsAt_eq (options : Options) (path : Path) (parts : List Node) (draft : Draft)
    (position : Nat) :
    callsAt options path parts draft position =
      answer (takeCalls options path draft (parts.drop position)) := by
  fun_induction callsAt options path parts draft position with
  | case1 draft position statement found hypothesis =>
      rw [drop_of_getElem? found, takeCalls, Draft.addCallChecked_eq]
      exact answer_bind fun next _ => hypothesis next
  | case2 draft position nothing =>
      rw [List.drop_eq_nil_of_le (List.getElem?_eq_none_iff.mp nothing)]
      rfl

theorem Draft.finishChecked_eq {path : Path} (nonempty : path ≠ []) {draft : Draft}
    (named : draft.ConstructNamed) : draft.finishChecked path = answer (draft.finish path) := by
  refine if_neg fun lacking => ?_
  rcases Bool.and_eq_true_iff.mp lacking with ⟨constructs, lacking⟩
  rcases Bool.or_eq_true_iff.mp lacking with noPath | noName
  · exact nonempty (List.isEmpty_iff.mp noPath)
  · have hasName := named constructs
    rw [Option.isNone_iff_eq_none.mp noName] at hasName
    cases hasName

/-- The last two parts of a class, once its members have been read. -/
theorem callsAt_finishChecked_eq (options : Options) {path : Path} (nonempty : path ≠ [])
    (parts : List Node) {draft : Draft} (named : draft.ConstructNamed) (position : Nat) :
    (do
      let draft ← callsAt options path parts draft position
      let declaration ← draft.finishChecked path
      return Declaration.classDecl declaration) =
    answer (do
      let draft ← takeCalls options path draft (parts.drop position)
      let declaration ← draft.finish path
      return .classDecl declaration) := by
  rw [callsAt_eq]
  refine answer_bind fun after taken => ?_
  rw [after.finishChecked_eq nonempty (constructNamed_takeCalls taken named)]
  exact answer_bind fun _ _ => rfl

/-- Everything behind the binding of the registers. -/
theorem membersAt_bind (options : Options) {path : Path} (nonempty : path ≠ [])
    (parts : List Node) {draft : Draft} (named : draft.ConstructNamed) (position : Nat) :
    (do
      match ← membersAt options path parts draft position with
      | .interface declaration => return Declaration.interfaceDecl declaration
      | .calls draft position =>
          let draft ← callsAt options path parts draft position
          let declaration ← draft.finishChecked path
          return .classDecl declaration) =
    answer (do
      match ← takeMembers options path draft (parts.drop position) with
      | .interface declaration => return Declaration.interfaceDecl declaration
      | .calls draft parts =>
          let draft ← takeCalls options path draft parts
          let declaration ← draft.finish path
          return .classDecl declaration) := by
  rcases membersAt_eq options path parts draft position with ⟨reading, checked, taken⟩
  rw [checked, taken]
  cases reading with
  | error cause => rfl
  | ok members =>
      cases members with
      | interface declaration => rfl
      | calls after next =>
          exact callsAt_finishChecked_eq options nonempty parts
            (constructNamed_takeMembers taken named) next

theorem Declaration.ofBodyChecked_eq (options : Options) {path : Path} (nonempty : path ≠ [])
    (parts : List Node) :
    ofBodyChecked options path parts = answer (ofBody options path parts) := by
  have noEmpty : path.isEmpty = false := List.isEmpty_eq_false_iff.mpr nonempty
  have clause := takeSuperclass_drop options parts 0
  rw [List.drop_zero] at clause
  unfold ofBodyChecked ofBody
  rw [noEmpty, clause]
  cases parts.isEmpty with
  | true => rfl
  | false =>
      rcases superclassAt options parts 0 with ⟨superclass, position⟩
      have binding := takeBinding_drop options path parts { superclass := superclass } position
      simp only [Bool.false_eq_true, if_false]
      rw [binding]
      cases bound : bindingAt options path parts { superclass := superclass } position with
      | error cause => rfl
      | ok found =>
          rw [bound] at binding
          have named : found.1.ConstructNamed :=
            constructNamed_takeBinding binding fun constructs => by cases constructs
          exact membersAt_bind options nonempty parts named found.2

/-! ## Scripts -/

namespace Site

theorem followChecked_eq (statements : List Node) (start : Nat) (reached : Path)
    (offset : Nat) :
    followChecked statements start reached offset =
      some (followAt statements start reached offset) := by
  fun_induction followAt statements start reached offset with
  | case1 reached offset inside tested body alternative guard noName =>
      rw [followChecked, if_pos inside, List.getElem?_eq_getElem inside, guard]
      simp only [noName]
  | case2 reached offset inside tested body alternative guard name hasName creates popped
      hypothesis =>
      rw [followChecked, if_pos inside, List.getElem?_eq_getElem inside, guard]
      simp only [hasName, creates, popped, if_true]
      exact hypothesis
  | case3 reached offset inside tested body alternative guard name hasName creates noPop
      hypothesis =>
      rw [followChecked, if_pos inside, List.getElem?_eq_getElem inside, guard]
      simp only [hasName, creates, noPop, if_true, Bool.false_eq_true, if_false]
      exact hypothesis
  | case4 reached offset inside tested body alternative guard name hasName creates =>
      rw [followChecked, if_pos inside, List.getElem?_eq_getElem inside, guard]
      have rooted : 1 ≤ (reached ++ [name]).length := by
        rw [List.length_append, List.length_singleton]
        exact Nat.le_add_left _ _
      simp only [hasName, creates, Bool.false_eq_true, if_false, elementsFrom?_eq_some rooted,
        List.drop_one, Option.map_some]
  | case5 reached offset inside noGuard =>
      rw [followChecked, if_pos inside, List.getElem?_eq_getElem inside]
      split
      · next outside => cases outside
      · next guard => exact absurd (Option.some.inj guard) (noGuard _ _ _)
      · rfl
  | case6 reached offset outside => rw [followChecked, if_neg outside]

end Site

namespace Attempt

theorem ofSiteChecked_eq (options : Options) {site : Site} (nonempty : site.path ≠ []) :
    ofSiteChecked options site = some (ofSite options site) := by
  unfold ofSiteChecked ofSite
  rw [Declaration.ofBodyChecked_eq options nonempty]
  split
  · rfl
  · cases Declaration.ofBody options site.path site.body <;> rfl

theorem atIndexChecked_eq (options : Options) (statements : List Node) (index : Nat) :
    atIndexChecked options statements index = some (atIndex options statements index) := by
  unfold atIndexChecked atIndex
  rw [Site.followChecked_eq]
  cases found : Site.findAt? options statements index with
  | none => rw [← Site.findAt?, found]
  | some site =>
      rw [← Site.findAt?, found]
      exact ofSiteChecked_eq options (Site.path_ne_nil found)

end Attempt

theorem spliceChecked_eq {statements : List Node} {start stop : Nat} (declaration : Node)
    (alternative : List Node) (ordered : start ≤ stop) (inside : stop < statements.length) :
    spliceChecked statements start stop declaration alternative =
      spliceDeclaration statements start stop declaration alternative := by
  unfold spliceChecked spliceDeclaration
  have reaches : start + 1 ≤
      (statements.take start ++ [declaration] ++ statements.drop (stop + 1)).length := by
    simp only [List.length_append, List.length_singleton, List.length_take]
    omega
  simp only [if_pos (And.intro ordered inside), elementsFrom?_eq_some reaches,
    replaceRange_eq [declaration] ordered inside, Option.map_some]

namespace Pass

/-- The guard that a recognised declaration ends at is one of the statements. -/
theorem stop_lt_length {options : Options} {pass : Pass} {offset : Nat}
    {declaration : Declaration} {alternative : List Node}
    (success : pass.attempt options = .recognised offset declaration alternative) :
    pass.position + offset < pass.statements.length := by
  have bound := Attempt.offset_lt_length ((attempt_eq options pass).symm.trans success)
  rw [List.length_drop] at bound
  omega

theorem replaceChecked_eq {options : Options} {pass : Pass} {offset : Nat}
    {declaration : Declaration} {alternative : List Node}
    (success : pass.attempt options = .recognised offset declaration alternative) :
    pass.replaceChecked offset declaration alternative =
      some (pass.replace offset declaration alternative) := by
  have ordered : pass.position ≤ pass.position + offset := Nat.le_add_right _ _
  have inside := stop_lt_length success
  simp only [replaceChecked, replace, spliceChecked_eq _ _ ordered inside,
    spliceDeclaration_eq _ _ ordered inside, Option.map_some, Option.getD_some]

/-- A checked pass takes the steps of the pass. -/
theorem stepChecked?_eq (options : Options) (pass : Pass) :
    pass.stepChecked? options = some (pass.step? options) := by
  have answered : Attempt.atIndexChecked options pass.statements pass.position =
      some (pass.attempt options) := Attempt.atIndexChecked_eq _ _ _
  unfold stepChecked? step?
  by_cases inside : pass.position < pass.statements.length
  · rw [if_pos inside, if_pos inside, answered]
    cases attempted : pass.attempt options with
    | noMatch => rfl
    | rejected cause => rfl
    | recognised offset declaration alternative =>
        change (pass.replaceChecked offset declaration alternative).map _ = _
        rw [replaceChecked_eq attempted]
        rfl
  · rw [if_neg inside, if_neg inside]

/-- So wherever a pass leads, a checked pass leads as well. -/
theorem leadsChecked_of_leads {options : Options} {earlier later : Pass}
    (leads : Leads options earlier later) : LeadsChecked options earlier later :=
  Relation.ReflTransGen.mono (fun pass _ step =>
    (stepChecked?_eq options pass).trans (congrArg some step)) _ _ leads

end Pass

/-- A checked pass through a script has an answer at every step, and it ends where the
pass ends.  At no position that the pass comes to is there a class without a path, a
body that is read differently when it is read with checks, or a rejection for want of a
path.  Where a declaration is recognised there, all statements up to its guard are in
the list, and what the checked splice makes of the list is what the pass goes on with. -/
theorem recover_inBounds (options : Options) (statements : List Node) :
    Pass.LeadsChecked options { statements := statements } (recover options statements) ∧
    (recover options statements).stepChecked? options = some none ∧
    ∀ pass, Pass.Leads options { statements := statements } pass →
      pass.stepChecked? options = some (pass.step? options) ∧
      (∀ site, Site.findAt? options pass.statements pass.position = some site →
        site.path ≠ [] ∧
          Declaration.ofBodyChecked options site.path site.body =
            answer (Declaration.ofBody options site.path site.body)) ∧
      pass.attempt options ≠ .rejected (.mismatch .emptyPath) ∧
      ∀ offset declaration alternative,
        pass.attempt options = .recognised offset declaration alternative →
          pass.position + offset < pass.statements.length ∧
          spliceChecked pass.statements pass.position (pass.position + offset)
              declaration.toNode alternative =
            some (pass.replace offset declaration alternative).statements := by
  refine ⟨Pass.leadsChecked_of_leads (Pass.leads_run options _), ?_, ?_⟩
  · rw [Pass.stepChecked?_eq]
    exact congrArg some (Pass.step?_run options _)
  · intro pass _
    refine ⟨pass.stepChecked?_eq options, ?_, ?_, ?_⟩
    · intro site found
      have nonempty := Site.path_ne_nil found
      exact ⟨nonempty, Declaration.ofBodyChecked_eq options nonempty site.body⟩
    · exact Attempt.atIndex_ne_rejected_emptyPath options pass.statements pass.position
    · intro offset declaration alternative success
      have ordered : pass.position ≤ pass.position + offset := Nat.le_add_right _ _
      have inside := Pass.stop_lt_length success
      refine ⟨inside, ?_⟩
      simp only [spliceChecked_eq _ _ ordered inside, Pass.replace,
        spliceDeclaration_eq _ _ ordered inside, Option.getD_some]

end ClassRecovery
