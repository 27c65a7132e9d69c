import ClassRecovery.Proofs.Concatenation

namespace ClassRecovery

/-!
# What a pass says of itself is true

Three things come out of a pass: the statements that it leaves, the counts of its report
and its notices.  They are written at the same moments but never compared, and a notice
speaks of places in a list that goes on changing.

One step keeps them in agreement.  It adds at most one notice and counts it, and what it
recognises it puts at its own position, which no later step touches.  So the place in a
notice is the place where the declaration stands in the end.  What the statements contain
besides is what they contained before: a script without declarations ends with as many
as the report counts.
-/

/-- Where a declaration was recognised, as a notice tells it. -/
structure Recognition where
  name : String
  start : Nat
  stop : Nat

def Notice.recognition? : Notice → Option Recognition
  | .rejected _ => none
  | .recognised name start stop => some ⟨name, start, stop⟩

/-- A statement declares a class or an interface, and a name is its path, joined by
dots. -/
inductive Node.DeclaresAs : Node → String → Prop where
  | ofClass (declaration : ClassDecl) :
      DeclaresAs (.classDecl declaration) (".".intercalate declaration.path)
  | ofInterface (declaration : InterfaceDecl) :
      DeclaresAs (.interfaceDecl declaration) (".".intercalate declaration.path)

theorem Declaration.declaresAs_toNode (declaration : Declaration) :
    declaration.toNode.DeclaresAs declaration.qualifiedName := by
  rw [declaration.qualifiedName_eq]
  cases declaration with
  | classDecl declaration => exact .ofClass declaration
  | interfaceDecl declaration => exact .ofInterface declaration

namespace Pass

/-- The recognitions of a pass, in the order in which they were made. -/
def recognitions (pass : Pass) : List Recognition :=
  pass.notices.filterMap (·.recognition?)

/-! ## What a step does -/

/-- A step acts on the outcome of its attempt, and then moves on. -/
inductive Takes (options : Options) (pass : Pass) : Pass → Prop where
  | noMatch (nothing : pass.attempt options = .noMatch) : Takes options pass pass.moveOn
  | rejected {cause : Rejection} (failure : pass.attempt options = .rejected cause) :
      Takes options pass (pass.reject cause).moveOn
  | recognised {offset : Nat} {declaration : Declaration} {alternative : List Node}
      (success : pass.attempt options = .recognised offset declaration alternative) :
      Takes options pass (pass.replace offset declaration alternative).moveOn

theorem step?_eq_some_iff (options : Options) (pass next : Pass) :
    pass.step? options = some next ↔
      pass.position < pass.statements.length ∧ Takes options pass next := by
  unfold step?
  constructor
  · intro step
    split at step
    · next inside =>
        refine ⟨inside, ?_⟩
        cases step
        split
        · next nothing => exact .noMatch nothing
        · next failure => exact .rejected failure
        · next success => exact .recognised success
    · cases step
  · rintro ⟨inside, takes⟩
    rw [if_pos inside]
    cases takes with
    | noMatch nothing => rw [nothing]
    | rejected failure => rw [failure]
    | recognised success => rw [success]

/-- What stands in front of the position is the same after a step. -/
theorem getElem?_of_step? {options : Options} {pass next : Pass}
    (step : pass.step? options = some next) {index : Nat} (settled : index < pass.position) :
    next.statements[index]? = pass.statements[index]? := by
  have same := congrArg (·[index]?) (take_of_step? step)
  simpa only [Pass.settled, List.getElem?_take_of_lt settled] using same

/-! ## What a step keeps in agreement -/

/-- What a recognition speaks of stands in its place under the name that it gives, and the
pass has left that place behind. -/
structure Places (pass : Pass) (recognition : Recognition) : Prop where
  ordered : recognition.start ≤ recognition.stop
  passed : recognition.start < pass.position
  declared : ∃ node, pass.statements[recognition.start]? = some node ∧
    node.DeclaresAs recognition.name

/-- The counts are those of the notices, and the recognitions come in the order of the
places where their declarations stand. -/
structure Accounted (pass : Pass) : Prop where
  rejections : ∀ script,
    (pass.notices.filterMap (·.diagnostic? script)).length = pass.report.rejected
  recognitions : pass.recognitions.length = pass.report.declarations
  increasing : pass.recognitions.Pairwise (·.start < ·.start)
  placed : ∀ recognition ∈ pass.recognitions, pass.Places recognition

/-- A declaration that has its place keeps it. -/
theorem places_of_step? {options : Options} {pass next : Pass}
    (step : pass.step? options = some next) {recognition : Recognition}
    (placed : pass.Places recognition) : next.Places recognition := by
  rcases settles_of_step? step with ⟨_, _, settles⟩
  rcases placed.declared with ⟨node, stands, declares⟩
  refine ⟨placed.ordered, ?_, node, ?_, declares⟩
  · rw [settles.position]
    exact Nat.lt_succ_of_lt placed.passed
  · rw [getElem?_of_step? step placed.passed]
    exact stands

/-- A recognition is of the position, and the declaration is put right there. -/
theorem places_replace {options : Options} {pass : Pass} {offset : Nat}
    {declaration : Declaration} {alternative : List Node}
    (inside : pass.position < pass.statements.length)
    (success : pass.attempt options = .recognised offset declaration alternative) :
    (pass.replace offset declaration alternative).moveOn.Places
      ⟨declaration.qualifiedName, pass.position, pass.position + offset⟩ := by
  refine ⟨Nat.le_add_right _ _, Nat.lt_succ_self _, declaration.toNode, ?_,
    declaration.declaresAs_toNode⟩
  have front : (pass.statements.take pass.position).length = pass.position :=
    List.length_take_of_le (Nat.le_of_lt inside)
  change (pass.replace offset declaration alternative).statements[pass.position]? = _
  rw [replace_statements success, List.getElem?_append_right (Nat.le_of_eq front), front,
    Nat.sub_self]
  rfl

/-! What the two kinds of notices add to what the notices tell. -/

theorem diagnostics_reject (pass : Pass) (cause : Rejection) (script : String) :
    (pass.reject cause).notices.filterMap (·.diagnostic? script) =
      pass.notices.filterMap (·.diagnostic? script) ++ [cause.diagnostic script] :=
  List.filterMap_append

theorem recognitions_reject (pass : Pass) (cause : Rejection) :
    (pass.reject cause).recognitions = pass.recognitions :=
  List.filterMap_append.trans (List.append_nil _)

theorem diagnostics_replace (pass : Pass) (offset : Nat) (declaration : Declaration)
    (alternative : List Node) (script : String) :
    (pass.replace offset declaration alternative).notices.filterMap (·.diagnostic? script) =
      pass.notices.filterMap (·.diagnostic? script) :=
  List.filterMap_append.trans (List.append_nil _)

theorem recognitions_replace (pass : Pass) (offset : Nat) (declaration : Declaration)
    (alternative : List Node) :
    (pass.replace offset declaration alternative).recognitions =
      pass.recognitions ++ [⟨declaration.qualifiedName, pass.position, pass.position + offset⟩] :=
  List.filterMap_append

theorem declarations_countDeclaration (report : Report) (declaration : Declaration) :
    (report.countDeclaration declaration).declarations = report.declarations + 1 := by
  cases declaration <;> simp only [Report.countDeclaration, Report.declarations] <;> omega

theorem rejected_countDeclaration (report : Report) (declaration : Declaration) :
    (report.countDeclaration declaration).rejected = report.rejected := by
  cases declaration <;> rfl

theorem accounted_of_step? {options : Options} {pass next : Pass}
    (step : pass.step? options = some next) (accounted : pass.Accounted) : next.Accounted := by
  have kept : ∀ recognition ∈ pass.recognitions, next.Places recognition :=
    fun recognition member => places_of_step? step (accounted.placed recognition member)
  rcases (step?_eq_some_iff _ _ _).mp step with ⟨inside, takes⟩
  cases takes with
  | noMatch nothing =>
      exact ⟨accounted.rejections, accounted.recognitions, accounted.increasing, kept⟩
  | @rejected cause failure =>
      have same := recognitions_reject pass cause
      refine ⟨fun script => ?_, ?_, ?_, ?_⟩
      · change ((pass.reject cause).notices.filterMap (·.diagnostic? script)).length = _
        rw [diagnostics_reject, List.length_append, accounted.rejections script]
        rfl
      · exact (congrArg List.length same).trans accounted.recognitions
      · exact same.symm ▸ accounted.increasing
      · exact fun recognition member => kept recognition (same ▸ member)
  | @recognised offset declaration alternative success =>
      have longer := recognitions_replace pass offset declaration alternative
      refine ⟨fun script => ?_, ?_, ?_, ?_⟩
      · change ((pass.replace offset declaration alternative).notices.filterMap
          (·.diagnostic? script)).length = (pass.report.countDeclaration declaration).rejected
        rw [diagnostics_replace, accounted.rejections script, rejected_countDeclaration]
      · change (pass.replace offset declaration alternative).recognitions.length =
          (pass.report.countDeclaration declaration).declarations
        rw [longer, List.length_append, accounted.recognitions, declarations_countDeclaration]
        rfl
      · change (pass.replace offset declaration alternative).recognitions.Pairwise _
        rw [longer, List.pairwise_append]
        refine ⟨accounted.increasing, List.pairwise_singleton _ _, ?_⟩
        intro earlier member later last
        rw [List.mem_singleton.mp last]
        exact (accounted.placed earlier member).passed
      · intro recognition member
        change recognition ∈ (pass.replace offset declaration alternative).recognitions at member
        rw [longer] at member
        rcases List.mem_append.mp member with earlier | last
        · exact kept recognition earlier
        · rw [List.mem_singleton.mp last]
          exact places_replace inside success

/-! ## What a whole pass keeps in agreement -/

theorem accounted_of_leads {options : Options} {earlier later : Pass}
    (leads : Leads options earlier later) (accounted : earlier.Accounted) : later.Accounted := by
  induction leads with
  | refl => exact accounted
  | tail _ step hypothesis => exact accounted_of_step? step hypothesis

theorem accounted_start (statements : List Node) : ({ statements := statements } : Pass).Accounted :=
  ⟨fun _ => rfl, rfl, List.Pairwise.nil, fun _ member => absurd member List.not_mem_nil⟩

theorem accounted_recover (options : Options) (statements : List Node) :
    (recover options statements).Accounted :=
  accounted_of_leads (leads_run options _) (accounted_start statements)

end Pass

/-! ## Declarations among the statements -/

mutual

/-- Neither a statement nor any statement in its alternative is a declaration. -/
def Node.declaresNothing : Node → Bool
  | .branch _ _ onFalse => declareNothing onFalse
  | .classDecl _ => false
  | .interfaceDecl _ => false
  | _ => true

def declareNothing : List Node → Bool
  | [] => true
  | node :: rest => node.declaresNothing && declareNothing rest

end

theorem declareNothing_eq_true_iff (statements : List Node) :
    declareNothing statements = true ↔ ∀ node ∈ statements, node.declaresNothing = true := by
  induction statements with
  | nil => exact iff_of_true (by rw [declareNothing]) (fun _ member => absurd member List.not_mem_nil)
  | cons node rest hypothesis =>
      rw [declareNothing, Bool.and_eq_true, hypothesis, List.forall_mem_cons]

/-- How many statements are of a kind. -/
def countKind (kind : NodeKind) (statements : List Node) : Nat :=
  statements.countP (·.kind = kind)

theorem countKind_cons_of_eq {kind : NodeKind} {node : Node} (same : node.kind = kind)
    (rest : List Node) : countKind kind (node :: rest) = countKind kind rest + 1 :=
  List.countP_cons_of_pos (decide_eq_true same)

theorem countKind_cons_of_ne {kind : NodeKind} {node : Node} (other : node.kind ≠ kind)
    (rest : List Node) : countKind kind (node :: rest) = countKind kind rest :=
  List.countP_cons_of_neg fun same => other (of_decide_eq_true same)

theorem kind_of_declaresNothing {node : Node} (nothing : node.declaresNothing = true) :
    node.kind ≠ .classDecl ∧ node.kind ≠ .interfaceDecl := by
  cases node with
  | classDecl declaration | interfaceDecl declaration =>
      rw [Node.declaresNothing] at nothing
      cases nothing
  | _ => exact ⟨NodeKind.noConfusion, NodeKind.noConfusion⟩

namespace Attempt

/-- What is left to be searched has no declarations in it either, for all of it was there
before, at the top or in an alternative. -/
theorem declareNothing_behind {options : Options} {statements : List Node} {offset : Nat}
    {declaration : Declaration} {alternative : List Node}
    (success : ofStatements options statements = .recognised offset declaration alternative)
    (nothing : declareNothing statements = true) :
    declareNothing (behind statements offset alternative) = true := by
  rw [declareNothing_eq_true_iff] at nothing ⊢
  rcases ofStatements_split success with ⟨before, tested, body, after, split, place⟩
  intro node member
  rw [behind_eq] at member
  rcases List.mem_append.mp member with inAlternative | later
  · have guard := nothing (.branch (.not tested) body alternative)
      (split ▸ List.mem_append_right before List.mem_cons_self)
    rw [Node.declaresNothing, declareNothing_eq_true_iff] at guard
    exact guard node inAlternative
  · have kept : node ∈ statements.drop (offset + 1) := by
      rcases dropPop_cases (statements.drop (offset + 1)) with popped | ⟨same, _⟩
      · exact popped ▸ List.mem_cons_of_mem _ later
      · exact same ▸ later
    exact nothing node (List.mem_of_mem_drop kept)

end Attempt

namespace Sweep

theorem report_find (finding : Finding) (sweep : Sweep) :
    (sweep.find finding).report = (({} : Report).count finding).add sweep.report := by
  change (finding :: sweep.findings).foldl Report.count {} = _
  rw [List.foldl_cons, Report.foldl_count]
  rfl

/-- Among statements without declarations a sweep leaves as many as it recovers. -/
theorem countKind_statements (options : Options) (statements : List Node)
    (nothing : declareNothing statements = true) :
    countKind .classDecl (ofStatements options statements).statements =
        (ofStatements options statements).report.classes ∧
      countKind .interfaceDecl (ofStatements options statements).statements =
        (ofStatements options statements).report.interfaces := by
  induction statements using Sweep.ofStatements.induct options with
  | case1 => rw [ofStatements_nil]; exact ⟨rfl, rfl⟩
  | case2 node rest noMatch hypothesis =>
      rw [declareNothing, Bool.and_eq_true] at nothing
      have others := kind_of_declaresNothing nothing.1
      rw [ofStatements_of_noMatch noMatch]
      exact ⟨(countKind_cons_of_ne others.1 _).trans (hypothesis nothing.2).1,
        (countKind_cons_of_ne others.2 _).trans (hypothesis nothing.2).2⟩
  | case3 node rest cause rejected hypothesis =>
      rw [declareNothing, Bool.and_eq_true] at nothing
      have others := kind_of_declaresNothing nothing.1
      rw [ofStatements_of_rejected rejected, report_find]
      simp only [Report.count, Report.countRejection, Report.add, Nat.zero_add]
      exact ⟨(countKind_cons_of_ne others.1 _).trans (hypothesis nothing.2).1,
        (countKind_cons_of_ne others.2 _).trans (hypothesis nothing.2).2⟩
  | case4 node rest offset declaration alternative recognised hypothesis =>
      have counted := hypothesis (Attempt.declareNothing_behind recognised nothing)
      rw [ofStatements_of_recognised recognised, report_find]
      simp only [find, leave]
      cases declaration with
      | classDecl declaration =>
          have same : (Declaration.classDecl declaration).toNode.kind = .classDecl := rfl
          have other : (Declaration.classDecl declaration).toNode.kind ≠ .interfaceDecl :=
            NodeKind.noConfusion
          rw [countKind_cons_of_eq same, countKind_cons_of_ne other, counted.1, counted.2]
          exact ⟨Nat.add_comm _ _, (Nat.zero_add _).symm⟩
      | interfaceDecl declaration =>
          have same : (Declaration.interfaceDecl declaration).toNode.kind = .interfaceDecl := rfl
          have other : (Declaration.interfaceDecl declaration).toNode.kind ≠ .classDecl :=
            NodeKind.noConfusion
          rw [countKind_cons_of_ne other, countKind_cons_of_eq same, counted.1, counted.2]
          exact ⟨(Nat.zero_add _).symm, Nat.add_comm _ _⟩

end Sweep

/-- The diagnostics of a pass are as many as its report has rejections, and its
recognitions as many as the report has declarations.  The recognitions are made from the
front to the back, and where each of them starts there stands in the end a class or an
interface whose path, joined by dots, is the name of the recognition.  In a script that had
no declarations before, there are in the end as many classes and as many interfaces as the
report counts. -/
theorem recover_accounts (options : Options) (script : String) (statements : List Node) :
    ((recover options statements).notices.filterMap (·.diagnostic? script)).length =
        (recover options statements).report.rejected ∧
      (recover options statements).recognitions.length =
        (recover options statements).report.declarations ∧
      (recover options statements).recognitions.Pairwise (·.start < ·.start) ∧
      (∀ recognition ∈ (recover options statements).recognitions,
        recognition.start ≤ recognition.stop ∧
          ∃ node, (recover options statements).statements[recognition.start]? = some node ∧
            node.DeclaresAs recognition.name) ∧
      (declareNothing statements = true →
        countKind .classDecl (recover options statements).statements =
            (recover options statements).report.classes ∧
          countKind .interfaceDecl (recover options statements).statements =
            (recover options statements).report.interfaces) := by
  have accounted := Pass.accounted_recover options statements
  refine ⟨accounted.rejections script, accounted.recognitions, accounted.increasing, ?_, ?_⟩
  · intro recognition member
    have placed := accounted.placed recognition member
    exact ⟨placed.ordered, placed.declared⟩
  · intro nothing
    rw [recover_statements, recover_report]
    exact Sweep.countKind_statements options statements nothing

end ClassRecovery
