import ClassRecovery.Proofs.Alternatives
import ClassRecovery.Proofs.DisjointAttempts

namespace ClassRecovery

/-!
# What is lost when alternatives are refused

Whether the alternative of a class's guard may be kept is a question of one option.  A pass
that refuses alternatives leaves their guards where they stand, and one that keeps them goes
on in a list of different statements: the chain is gone, perhaps a discarded value with it,
and the statements of the alternative stand in front of the rest.

Still the second pass recognises everything that the first one does, in the same order.
What stands in front may begin a chain that runs on into the rest, but such a chain takes
away only statements at which the first pass finds nothing.  Where no statement has an
alternative the option plays no part.
-/

open Chain

/-- The same names, with alternatives kept or refused. -/
def Options.preserving (options : Options) (keep : Bool) : Options :=
  { options with preserveAlternative := keep }

/-! ## What a pass recognises -/

def Attempt.declaration? : Attempt → Option Declaration
  | .noMatch => none
  | .rejected _ => none
  | .recognised _ declaration _ => some declaration

namespace Sweep

section Equations

variable {options : Options} {node : Node} {rest : List Node}

theorem declarations_of_declaration?_eq_none
    (nothing : (Attempt.ofStatements options (node :: rest)).declaration? = none) :
    (ofStatements options (node :: rest)).declarations =
      (ofStatements options rest).declarations := by
  cases attempt : Attempt.ofStatements options (node :: rest) with
  | noMatch => rw [ofStatements_of_noMatch attempt]; rfl
  | rejected cause => rw [ofStatements_of_rejected attempt]; rfl
  | recognised offset declaration alternative =>
      rw [attempt] at nothing
      cases nothing

theorem declarations_of_recognised {offset : Nat} {declaration : Declaration}
    {alternative : List Node}
    (attempt : Attempt.ofStatements options (node :: rest) =
      .recognised offset declaration alternative) :
    (ofStatements options (node :: rest)).declarations = declaration ::
      (ofStatements options (Attempt.behind (node :: rest) offset alternative)).declarations := by
  rw [ofStatements_of_recognised attempt]
  rfl

theorem declarations_of_silent {silent : List Node}
    (all : ∀ node ∈ silent, node.IsSilent options) (rest : List Node) :
    (ofStatements options (silent ++ rest)).declarations =
      (ofStatements options rest).declarations := by
  induction silent with
  | nil => rfl
  | cons node silent hypothesis =>
      rcases List.forall_mem_cons.mp all with ⟨first, others⟩
      have nothing : (Attempt.ofStatements options (node :: (silent ++ rest))).declaration? =
          none := by
        rw [first]
        rfl
      exact (declarations_of_declaration?_eq_none nothing).trans (hypothesis others)

end Equations

end Sweep

namespace Pass

/-- The declarations that are recognised from here to the end, one attempt after another. -/
def declared (options : Options) (pass : Pass) : List Declaration :=
  match _ : pass.step? options with
  | none => []
  | some next => (pass.attempt options).declaration?.toList ++ next.declared options
termination_by pass.remaining
decreasing_by exact step?_remaining_lt (by assumption)

theorem declared_of_step?_eq_none {options : Options} {pass : Pass}
    (done : pass.step? options = none) : pass.declared options = [] := by
  rw [declared]
  split
  · rfl
  · next step => cases done.symm.trans step

theorem declared_of_step?_eq_some {options : Options} {pass next : Pass}
    (step : pass.step? options = some next) :
    pass.declared options =
      (pass.attempt options).declaration?.toList ++ next.declared options := by
  rw [declared]
  split
  · next done => cases step.symm.trans done
  · next same =>
      cases step.symm.trans same
      rfl

/-- A step that recognises nothing passes one statement, and any other goes on behind the chain
that it replaces. -/
theorem ahead_of_step? {options : Options} {pass next : Pass}
    (step : pass.step? options = some next) :
    ∃ node rest, pass.ahead = node :: rest ∧
      (((Attempt.ofStatements options (node :: rest)).declaration? = none ∧ next.ahead = rest) ∨
        ∃ offset declaration alternative,
          Attempt.ofStatements options (node :: rest) =
              .recognised offset declaration alternative ∧
            next.ahead = Attempt.behind (node :: rest) offset alternative) := by
  rcases (step?_eq_some_iff _ _ _).mp step with ⟨inside, takes⟩
  rcases ahead_of_lt inside with ⟨node, rest, ahead⟩
  refine ⟨node, rest, ahead, ?_⟩
  rw [← attempt_of_ahead options ahead]
  cases takes with
  | noMatch nothing =>
      rw [nothing]
      exact Or.inl ⟨rfl, (moveOn_split ahead).2⟩
  | @rejected cause failure =>
      have same : (pass.reject cause).ahead = node :: rest := ahead
      rw [failure]
      exact Or.inl ⟨rfl, (moveOn_split same).2⟩
  | @recognised offset declaration alternative success =>
      refine Or.inr ⟨offset, declaration, alternative, success, ?_⟩
      rw [(replace_split success).2, ahead]

/-- A pass recognises what a sweep of the statements ahead declares. -/
theorem declared_eq_sweep (options : Options) (pass : Pass) :
    pass.declared options = (Sweep.ofStatements options pass.ahead).declarations := by
  induction pass using Pass.run.induct options with
  | case1 pass done =>
      have ahead : pass.ahead = [] :=
        List.drop_eq_nil_of_le ((step?_eq_none_iff options pass).mp done)
      rw [declared_of_step?_eq_none done, ahead, Sweep.ofStatements_nil]
      rfl
  | case2 pass next step hypothesis =>
      rcases ahead_of_step? step with ⟨node, rest, ahead,
        ⟨nothing, passed⟩ | ⟨offset, declaration, alternative, success, behind⟩⟩
      · rw [declared_of_step?_eq_some step, attempt_of_ahead options ahead, hypothesis, ahead,
          passed, nothing, Sweep.declarations_of_declaration?_eq_none nothing]
        rfl
      · rw [declared_of_step?_eq_some step, attempt_of_ahead options ahead, hypothesis, ahead,
          behind, success, Sweep.declarations_of_recognised success]
        rfl

end Pass

/-! ## The two outcomes of one attempt -/

section Preserving

variable (options : Options) (keep : Bool) (path : Path)

theorem takeMembers_preserving (draft : Draft) (parts : List Node) :
    takeMembers (options.preserving keep) path draft parts =
      takeMembers options path draft parts := by
  induction draft, parts using takeMembers.induct with
  | case1 draft object name value rest register known through hypothesis =>
      rw [takeMembers, takeMembers, through]
      exact congrArg (draft.addMember options path register known name value >>= ·)
        (funext hypothesis)
  | case2 draft object name value rest through =>
      rw [takeMembers, takeMembers, through]
      rfl
  | case3 draft name value rest => rfl
  | case4 draft subclass interfaces rest hypothesis =>
      rw [takeMembers, takeMembers]
      exact hypothesis
  | case5 draft parts noMember noVariable noClause =>
      rw [takeMembers, takeMembers] <;> assumption

theorem takeCalls_preserving (draft : Draft) (statements : List Node) :
    takeCalls (options.preserving keep) path draft statements =
      takeCalls options path draft statements := by
  induction statements generalizing draft with
  | nil => rfl
  | cons statement rest hypothesis =>
      exact congrArg (draft.addCall options path statement >>= ·) (funext hypothesis)

/-- Reading a body asks for names and not for what becomes of alternatives. -/
theorem ofBody_preserving (parts : List Node) :
    Declaration.ofBody (options.preserving keep) path parts =
      Declaration.ofBody options path parts := by
  simp only [Declaration.ofBody, takeMembers_preserving, takeCalls_preserving]
  rfl

end Preserving

namespace Attempt

/-- How an attempt comes out when alternatives are refused, beside the outcome when they
are kept.  A rejection may have another cause, as the alternative is looked at first. -/
inductive Refused : Attempt → Attempt → Prop where
  | noMatch : Refused .noMatch .noMatch
  | rejected (cause other : Rejection) : Refused (.rejected cause) (.rejected other)
  | recognised (offset : Nat) (declaration : Declaration) :
      Refused (.recognised offset declaration []) (.recognised offset declaration [])
  | alternative (offset : Nat) (declaration : Declaration) {alternative : List Node}
      (something : alternative ≠ []) :
      Refused (.recognised offset declaration alternative)
        (.rejected (.mismatch .alternativeNotEmpty))

/-- Where there is no alternative the option is not asked for. -/
theorem ofSite_preserving (options : Options) {site : Site} (none : site.alternative = [])
    (keep : Bool) : ofSite (options.preserving keep) site = ofSite options site := by
  rw [ofSite_of_admits (Or.inl none), ofSite_of_admits (Or.inl none), ofBody_preserving]

theorem refused_ofSite (options : Options) (site : Site) :
    Refused (ofSite (options.preserving true) site) (ofSite (options.preserving false) site) := by
  by_cases none : site.alternative = []
  · rw [ofSite_preserving options none, ofSite_preserving options none,
      ofSite_of_admits (Or.inl none), none]
    cases Declaration.ofBody options site.path site.body with
    | error cause => exact .rejected cause cause
    | ok declaration => exact .recognised site.offset declaration
  · have admits : Admits (options.preserving true) site.alternative := Or.inr rfl
    have refuses : ¬ Admits (options.preserving false) site.alternative := by
      rintro (empty | kept)
      · exact none empty
      · cases kept
    rw [ofSite_of_admits admits, ofSite_of_not_admits refuses]
    cases Declaration.ofBody (options.preserving true) site.path site.body with
    | error cause => exact .rejected cause _
    | ok declaration => exact .alternative site.offset declaration none

/-- Chains are followed without regard to the option, so both attempts come to the same
class. -/
theorem refused_ofStatements (options : Options) (statements : List Node) :
    Refused (ofStatements (options.preserving true) statements)
      (ofStatements (options.preserving false) statements) := by
  have same : ∀ keep, Site.find? (options.preserving keep) statements =
      Site.find? options statements := fun _ => rfl
  rw [ofStatements, ofStatements, same, same]
  cases Site.find? options statements with
  | none => exact .noMatch
  | some site => exact refused_ofSite options site

theorem Refused.declaration?_eq_none {kept refused : Attempt} (both : Refused kept refused)
    (nothing : kept.declaration? = none) : refused.declaration? = none := by
  cases both with
  | recognised offset declaration => cases nothing
  | _ => rfl

theorem Refused.eq_noMatch {refused : Attempt} (both : Refused .noMatch refused) :
    refused = .noMatch := by
  cases both
  rfl

end Attempt

theorem Node.IsSilent.refusing {options : Options} {node : Node}
    (silent : node.IsSilent (options.preserving true)) :
    node.IsSilent (options.preserving false) := by
  intro rest
  have both := Attempt.refused_ofStatements options (node :: rest)
  rw [silent rest] at both
  exact both.eq_noMatch

/-! ## What a recognition takes away -/

theorem isSilent_pop (options : Options) : Node.IsSilent options .pop := by
  intro rest
  apply Attempt.ofStatements_of_not_guard
  intro tested body alternative first
  cases first

theorem dropPop_split (statements : List Node) :
    ∃ discarded, statements = discarded ++ dropPop statements ∧
      ∀ node ∈ discarded, node = .pop := by
  rcases dropPop_cases statements with popped | ⟨same, _⟩
  · exact ⟨[.pop], popped, fun node member => List.mem_singleton.mp member⟩
  · exact ⟨[], same, fun node member => absurd member List.not_mem_nil⟩

/-- Besides the statement that it starts at, a recognition takes away only statements at
which nothing could have been found, and puts the alternative in front of what is left. -/
theorem Attempt.behind_of_recognised {options : Options} {node : Node} {rest : List Node}
    {offset : Nat} {declaration : Declaration} {alternative : List Node}
    (success : ofStatements options (node :: rest) =
      .recognised offset declaration alternative) :
    ∃ taken left, rest = taken ++ left ∧ (∀ other ∈ taken, other.IsSilent options) ∧
      behind (node :: rest) offset alternative = alternative ++ left := by
  rcases opens_of_recognised success with ⟨path, body, opens, _, _⟩
  have split := opens
  cases split with
  | @intro package name guards after guard whole place named packages tests noCreation =>
      have cut : rest = (guards ++ [guard]).tail ++ after := by
        have tail := congrArg List.tail whole
        rw [List.append_cons, List.tail_append_of_ne_nil (List.concat_ne_nil _ _)] at tail
        exact tail
      have length : (guards ++ [guard]).tail.length = offset := by
        rw [List.length_tail, List.length_append, List.length_singleton, place]
        rfl
      have inChain : ∀ other ∈ (guards ++ [guard]).tail, other.IsSilent options := by
        intro other member
        rcases List.append_of_mem member with ⟨front, back, parts⟩
        have bound := congrArg List.length parts
        rw [length, List.length_append, List.length_cons] at bound
        have here : node :: rest = (node :: front) ++ other :: (back ++ after) := by
          rw [cut, parts, List.append_assoc, List.cons_append, List.cons_append]
        exact opens.isSilent here (List.cons_ne_nil _ _) (by rw [List.length_cons]; omega)
      have behindGuard : (node :: rest).drop (offset + 1) = after := by
        rw [List.drop_succ_cons, cut, ← length, List.drop_left]
      rcases dropPop_split after with ⟨discarded, parts, pops⟩
      refine ⟨(guards ++ [guard]).tail ++ discarded, dropPop after, ?_, ?_, ?_⟩
      · rw [List.append_assoc, ← parts]
        exact cut
      · intro other member
        rcases List.mem_append.mp member with inside | inDiscarded
        · exact inChain other inside
        · rw [pops other inDiscarded]
          exact isSilent_pop options
      · rw [behind_eq, behindGuard]

/-! ## The whole sweep -/

namespace Sweep

/-- What keeping alternatives recovers from some statements includes all that refusing them
recovers from any end of these statements. -/
def Includes (options : Options) (all : List Node) : Prop :=
  ∀ statements, statements <:+ all →
    (ofStatements (options.preserving false) statements).declarations.Sublist
      (ofStatements (options.preserving true) all).declarations

theorem includes_of_declaration?_eq_none {options : Options} {node : Node} {rest : List Node}
    (nothing : (Attempt.ofStatements (options.preserving true) (node :: rest)).declaration? =
      none) (behind : Includes options rest) : Includes options (node :: rest) := by
  intro statements ending
  rw [declarations_of_declaration?_eq_none nothing]
  rcases List.suffix_cons_iff.mp ending with rfl | shorter
  · have refused := (Attempt.refused_ofStatements options (node :: rest)).declaration?_eq_none
      nothing
    rw [declarations_of_declaration?_eq_none refused]
    exact behind rest List.suffix_rfl
  · exact behind statements shorter

theorem includes_of_recognised {options : Options} {node : Node} {rest : List Node}
    {offset : Nat} {declaration : Declaration} {alternative : List Node}
    (success : Attempt.ofStatements (options.preserving true) (node :: rest) =
      .recognised offset declaration alternative)
    (behind : Includes options (Attempt.behind (node :: rest) offset alternative)) :
    Includes options (node :: rest) := by
  intro statements ending
  rcases Attempt.behind_of_recognised success with ⟨taken, left, split, silent, remains⟩
  have skip : ∀ {skipped : List Node}, (∀ other ∈ skipped, other ∈ taken) →
      (ofStatements (options.preserving false) (skipped ++ left)).declarations =
        (ofStatements (options.preserving false) left).declarations :=
    fun within => declarations_of_silent (fun other member =>
      (silent other (within other member)).refusing) left
  have leftEnds : left <:+ Attempt.behind (node :: rest) offset alternative :=
    remains ▸ List.suffix_append alternative left
  rw [declarations_of_recognised success]
  rcases List.suffix_cons_iff.mp ending with rfl | shorter
  · have both := Attempt.refused_ofStatements options (node :: rest)
    rw [success] at both
    cases outcome : Attempt.ofStatements (options.preserving false) (node :: rest) with
    | noMatch =>
        rw [outcome] at both
        cases both
    | rejected cause =>
        have refused : (Attempt.ofStatements (options.preserving false)
            (node :: rest)).declaration? = none := by
          rw [outcome]
          rfl
        have passed : (ofStatements (options.preserving false) (node :: rest)).declarations =
            (ofStatements (options.preserving false) left).declarations := by
          rw [declarations_of_declaration?_eq_none refused, split]
          exact skip fun other member => member
        rw [passed]
        exact (behind left leftEnds).cons declaration
    | recognised place same kept =>
        rw [outcome] at both
        cases both
        rw [declarations_of_recognised outcome]
        exact (behind _ List.suffix_rfl).cons_cons declaration
  · -- The other sweep has already passed the statement.  What it has in front of it begins
    -- somewhere in what is taken away here, or behind that.
    rcases shorter with ⟨passed, whole⟩
    rcases List.append_eq_append_iff.mp (whole.trans split) with
      ⟨more, inTaken, ends⟩ | ⟨more, _, ends⟩
    · rw [ends, skip fun other member => inTaken ▸ List.mem_append_right passed member]
      exact (behind left leftEnds).cons declaration
    · exact (behind statements (.trans ⟨more, ends.symm⟩ leftEnds)).cons declaration

/-- Keeping alternatives recovers all that refusing them does, whatever statements stand in
front that the other sweep does not have. -/
theorem includes (options : Options) (all : List Node) : Includes options all := by
  -- The induction follows the sweep that keeps alternatives, since what it has in front of
  -- it ends with what the other one has, up to statements at which that one finds nothing.
  induction all using ofStatements.induct (options.preserving true) with
  | case1 =>
      intro statements ending
      have nothing : (ofStatements (options.preserving false) []).declarations = [] := by
        rw [ofStatements_nil]
        rfl
      rw [List.suffix_nil.mp ending, nothing]
      exact List.nil_sublist _
  | case2 node rest noMatch hypothesis =>
      exact includes_of_declaration?_eq_none (by rw [noMatch]; rfl) hypothesis
  | case3 node rest cause rejected hypothesis =>
      exact includes_of_declaration?_eq_none (by rw [rejected]; rfl) hypothesis
  | case4 node rest offset declaration alternative recognised hypothesis =>
      exact includes_of_recognised recognised hypothesis

end Sweep

/-! ## Statements without alternatives -/

namespace Pass

/-- Nothing that is left to be searched has an alternative. -/
def Plain (pass : Pass) : Prop :=
  ∀ statement ∈ pass.ahead, statement.alternative = []

theorem Plain.attempt_preserving {pass : Pass} (plain : pass.Plain) (options : Options)
    (keep : Bool) : pass.attempt (options.preserving keep) = pass.attempt options := by
  have same : Site.find? (options.preserving keep) pass.ahead = Site.find? options pass.ahead :=
    rfl
  rw [attempt_eq, attempt_eq]
  change Attempt.ofStatements (options.preserving keep) pass.ahead =
    Attempt.ofStatements options pass.ahead
  rw [Attempt.ofStatements, Attempt.ofStatements, same]
  cases found : Site.find? options pass.ahead with
  | none => rfl
  | some site =>
      rcases Site.find?_split found with ⟨before, tested, after, split, _⟩
      have own := plain (.branch (.not tested) site.body site.alternative)
        (split ▸ List.mem_append_right before List.mem_cons_self)
      exact Attempt.ofSite_preserving options own keep

theorem Plain.step?_preserving {pass : Pass} (plain : pass.Plain) (options : Options)
    (keep : Bool) : pass.step? (options.preserving keep) = pass.step? options := by
  rw [step?, step?, plain.attempt_preserving]

/-- A step brings no alternative with it where there was none. -/
theorem Plain.of_step? {options : Options} {pass next : Pass} (plain : pass.Plain)
    (step : pass.step? options = some next) : next.Plain := by
  rcases ahead_of_step? step with ⟨node, rest, ahead,
    ⟨_, passed⟩ | ⟨offset, declaration, alternative, success, behind⟩⟩
  · intro statement member
    rw [passed] at member
    exact plain statement (ahead ▸ List.mem_cons_of_mem node member)
  · rcases Attempt.ofStatements_split success with ⟨before, tested, body, after, split, _⟩
    have own : alternative = [] := plain (.branch (.not tested) body alternative)
      (ahead ▸ split ▸ List.mem_append_right before List.mem_cons_self)
    rcases Attempt.behind_of_recognised success with ⟨taken, left, cut, _, remains⟩
    intro statement member
    rw [behind, remains, own, List.nil_append] at member
    have later : statement ∈ rest := cut ▸ List.mem_append_right taken member
    exact plain statement (ahead ▸ List.mem_cons_of_mem node later)

theorem Plain.run_preserving {pass : Pass} (plain : pass.Plain) (options : Options)
    (keep : Bool) : pass.run (options.preserving keep) = pass.run options := by
  induction pass using Pass.run.induct options with
  | case1 pass done =>
      have same := (plain.step?_preserving options keep).trans done
      rw [run_of_step?_eq_none done, run_of_step?_eq_none same]
  | case2 pass next step hypothesis =>
      have same := (plain.step?_preserving options keep).trans step
      rw [run_of_step?_eq_some step, run_of_step?_eq_some same]
      exact hypothesis (plain.of_step? step)

end Pass

/-- Of any script, a pass that keeps alternatives recognises all the declarations that a pass
recognises which refuses them, in the same order.  If no statement of the script has an
alternative, both passes are the same: they leave the same statements, the same report and
the same notices. -/
theorem recover_preserving (options : Options) (statements : List Node) :
    (({ statements := statements } : Pass).declared (options.preserving false)).Sublist
        (({ statements := statements } : Pass).declared (options.preserving true)) ∧
      ((∀ statement ∈ statements, statement.alternative = []) →
        recover (options.preserving false) statements =
          recover (options.preserving true) statements) := by
  constructor
  · rw [Pass.declared_eq_sweep, Pass.declared_eq_sweep]
    exact Sweep.includes options statements statements List.suffix_rfl
  · intro none
    have plain : ({ statements := statements } : Pass).Plain := none
    exact (plain.run_preserving options false).trans (plain.run_preserving options true).symm

end ClassRecovery
