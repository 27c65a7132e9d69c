import ClassRecovery.Idiom
import ClassRecovery.Proofs.Idempotence

namespace ClassRecovery

/-!
# Scripts one behind another

Recovery of two scripts that were put together could differ from recovery of each at
the seam alone: a chain of guards that begins in the first script may still be
unfinished where the second begins, and the value of a guard at the end of the first may
be discarded by the second.

Neither can happen when the second script starts afresh.  A chain that reaches the seam
has left the root namespace, so it goes on only at a guard for a path of three names or
more.  A guard for two names begins a chain of its own, and everything else ends the
one that came to it, with nothing to show for it.
-/

/-- The first statement has nothing to do with what may stand in front of it: it does not
discard a value, and it is no guard for a path of three names or more. -/
structure StartsAfresh (statements : List Node) : Prop where
  noPop : statements.head? ≠ some .pop
  shallow : ∀ tested body alternative path,
    statements.head? = some (.branch (.not tested) body alternative) →
      tested.path? = some path → path.length < 3

/-- What stands before a seam plays a part in what comes first only if there is
nothing there. -/
theorem head?_append_ne_pop {front back : List Node} (noPop : back.head? ≠ some .pop)
    (unpopped : front.head? ≠ some .pop) : (front ++ back).head? ≠ some .pop := by
  cases front with
  | nil => exact noPop
  | cons node rest => exact unpopped

theorem dropPop_append {back : List Node} (noPop : back.head? ≠ some .pop) (front : List Node) :
    dropPop (front ++ back) = dropPop front ++ back := by
  cases front with
  | nil => exact dropPop_of_head?_ne_pop noPop
  | cons node rest => cases node <;> rfl

/-! ## One attempt -/

namespace Site

/-- A chain that comes to the seam after its first guard is unfinished for good. -/
theorem follow_of_startsAfresh {back : List Node} (fresh : StartsAfresh back) {reached : Path}
    (deep : 2 ≤ reached.length) (offset : Nat) : follow reached offset back = none := by
  cases back with
  | nil => rfl
  | cons node rest =>
      apply Sweep.follow_of_not_continues
      rintro ⟨tested, body, alternative, name, rfl, hasName⟩
      have path := (Node.memberOf?_eq_some_iff reached tested name).mp hasName
      have short := fresh.shallow tested body alternative _ rfl path
      rw [List.length_append, List.length_singleton] at short
      omega

/-- A chain leads to the same class, or to none, whatever stands behind the seam.  It
must have left the root namespace, or have its first guard in front of the seam. -/
theorem follow_append_of_startsAfresh {back : List Node} (fresh : StartsAfresh back)
    (reached : Path) (offset : Nat) (front : List Node) (rooted : reached ≠ [])
    (begun : front ≠ [] ∨ 2 ≤ reached.length) :
    follow reached offset (front ++ back) = follow reached offset front := by
  have deeper : ∀ (reached : Path) (name : String), reached ≠ [] →
      2 ≤ (reached ++ [name]).length := by
    intro reached name rooted
    have someName := List.length_pos_iff.mpr rooted
    rw [List.length_append, List.length_singleton]
    omega
  induction reached, offset, front using follow.induct with
  | case1 reached offset tested body alternative rest noName =>
      rw [List.cons_append, follow_of_memberOf?_eq_none noName,
        follow_of_memberOf?_eq_none noName]
  | case2 reached offset tested body alternative name hasName creates rest hypothesis =>
      rw [List.cons_append, List.cons_append, follow_of_creates_pop hasName creates,
        follow_of_creates_pop hasName creates]
      exact hypothesis (List.concat_ne_nil name reached) (Or.inr (deeper reached name rooted))
  | case3 reached offset tested body alternative name hasName creates rest noPop hypothesis =>
      have unpopped : rest.head? ≠ some .pop := head?_ne_some_of_ne_cons noPop
      rw [List.cons_append, follow_of_creates hasName creates unpopped,
        follow_of_creates hasName creates (head?_append_ne_pop fresh.noPop unpopped)]
      exact hypothesis (List.concat_ne_nil name reached) (Or.inr (deeper reached name rooted))
  | case4 reached offset tested body alternative rest name hasName noCreation =>
      have decided := Bool.eq_false_iff.mpr noCreation
      rw [List.cons_append, follow_of_not_creates hasName decided,
        follow_of_not_creates hasName decided]
  | case5 statements reached offset noGuard =>
      cases statements with
      | nil =>
          rcases begun with impossible | deep
          · exact absurd rfl impossible
          · exact follow_of_startsAfresh fresh deep offset
      | cons node rest =>
          have stops : ∀ others, follow reached offset (node :: others) = none := by
            intro others
            apply follow_of_not_guard
            intro tested body alternative guard
            exact noGuard tested body alternative rest
              (congrArg (· :: rest) (Option.some.inj guard))
          rw [List.cons_append, stops, stops]

end Site

/-- An attempt in front of the seam does not see what stands behind it. -/
theorem Attempt.ofStatements_append {back : List Node} (fresh : StartsAfresh back)
    (options : Options) (node : Node) (rest : List Node) :
    ofStatements options (node :: (rest ++ back)) = ofStatements options (node :: rest) := by
  have same : Site.find? options (node :: (rest ++ back)) = Site.find? options (node :: rest) :=
    Site.follow_append_of_startsAfresh fresh _ 0 (node :: rest) (List.cons_ne_nil _ _)
      (Or.inl (List.cons_ne_nil _ _))
  rw [ofStatements, ofStatements, same]

/-- What is left to be searched after a success in front of the seam ends with all that
stands behind the seam. -/
theorem Attempt.behind_append {back : List Node} (noPop : back.head? ≠ some .pop)
    {front : List Node} {offset : Nat} (inside : offset < front.length)
    (alternative : List Node) :
    behind (front ++ back) offset alternative = behind front offset alternative ++ back := by
  rw [behind_eq, behind_eq, List.drop_append_of_le_length inside, dropPop_append noPop,
    List.append_assoc]

/-! ## The whole sweep -/

namespace Sweep

/-- One sweep behind another. -/
def append (first second : Sweep) : Sweep :=
  ⟨first.statements ++ second.statements, first.findings ++ second.findings⟩

theorem ofStatements_append (options : Options) (front : List Node) {back : List Node}
    (fresh : StartsAfresh back) :
    ofStatements options (front ++ back) =
      (ofStatements options front).append (ofStatements options back) := by
  induction front using Sweep.ofStatements.induct options with
  | case1 =>
      rw [ofStatements_nil]
      rfl
  | case2 node rest noMatch hypothesis =>
      have again := (Attempt.ofStatements_append fresh options node rest).trans noMatch
      rw [ofStatements_of_noMatch noMatch, List.cons_append, ofStatements_of_noMatch again,
        hypothesis]
      rfl
  | case3 node rest cause rejected hypothesis =>
      have again := (Attempt.ofStatements_append fresh options node rest).trans rejected
      rw [ofStatements_of_rejected rejected, List.cons_append, ofStatements_of_rejected again,
        hypothesis]
      rfl
  | case4 node rest offset declaration alternative recognised hypothesis =>
      have again := (Attempt.ofStatements_append fresh options node rest).trans recognised
      have behind := Attempt.behind_append fresh.noPop (Attempt.offset_lt_length recognised)
        alternative
      rw [ofStatements_of_recognised recognised, List.cons_append,
        ofStatements_of_recognised again, ← List.cons_append, behind, hypothesis]
      rfl

end Sweep

/-! ## Reports and scripts -/

namespace Report

/-- The counts of two reports together. -/
def add (report other : Report) : Report where
  classes := report.classes + other.classes
  interfaces := report.interfaces + other.interfaces
  rejected := report.rejected + other.rejected

/-- Counting goes on from a report as it would from nothing. -/
theorem foldl_count (report : Report) (findings : List Finding) :
    findings.foldl Report.count report = report.add (findings.foldl Report.count {}) := by
  have assoc : ∀ report other more : Report,
      (report.add other).add more = report.add (other.add more) := by
    intro report other more
    simp only [add, Nat.add_assoc]
  have single : ∀ (report : Report) (finding : Finding),
      report.count finding = report.add (({} : Report).count finding) := by
    intro report finding
    cases finding with
    | rejected cause => rfl
    | declared declaration => cases declaration <;> rfl
  induction findings generalizing report with
  | nil => rfl
  | cons finding rest hypothesis =>
      rw [List.foldl_cons, List.foldl_cons, hypothesis, single, assoc,
        ← hypothesis (({} : Report).count finding)]

end Report

/-- Behind a script that starts afresh nothing is different in either part.  Recovery
leaves what it leaves of each script alone, one behind the other, the counts are the
sums, and the diagnostics of the first script come before those of the second. -/
theorem recover_append (options : Options) (front back : List Node)
    (fresh : StartsAfresh back) :
    (recover options (front ++ back)).statements =
        (recover options front).statements ++ (recover options back).statements ∧
      (recover options (front ++ back)).report =
        (recover options front).report.add (recover options back).report ∧
      ∀ script, (recover options (front ++ back)).notices.filterMap (·.diagnostic? script) =
        (recover options front).notices.filterMap (·.diagnostic? script) ++
          (recover options back).notices.filterMap (·.diagnostic? script) := by
  have swept := Sweep.ofStatements_append options front fresh
  refine ⟨?_, ?_, ?_⟩
  · rw [recover_statements, recover_statements, recover_statements, swept]
    rfl
  · rw [recover_report, recover_report, recover_report, swept]
    exact List.foldl_append.trans (Report.foldl_count _ _)
  · intro script
    rw [recover_diagnostics, recover_diagnostics, recover_diagnostics, swept]
    exact List.filterMap_append

/-- A chain that breaks off behind the guard of a package. -/
def unfinishedChain : List Node :=
  Idiom.packageGuards {} [] [("a", false)]

/-- An interface in that package, with a chain of its own. -/
def laterInterface : List Node :=
  Idiom.guarded {} ⟨[("a", true)], "I", true⟩
    [Idiom.globalWrite {} ["a"] "I" (Idiom.emptyFunction none)]

theorem recover_append_unfinishedChain :
    StartsAfresh laterInterface ∧
      (recover {} (unfinishedChain ++ laterInterface)).statements =
          (recover {} unfinishedChain).statements ++ (recover {} laterInterface).statements ∧
        (recover {} (unfinishedChain ++ laterInterface)).report =
          (recover {} unfinishedChain).report.add (recover {} laterInterface).report ∧
        ∀ script, (recover {} (unfinishedChain ++ laterInterface)).notices.filterMap
            (·.diagnostic? script) =
          (recover {} unfinishedChain).notices.filterMap (·.diagnostic? script) ++
            (recover {} laterInterface).notices.filterMap (·.diagnostic? script) := by
  have fresh : StartsAfresh laterInterface := by
    refine ⟨?_, ?_⟩
    · intro pop
      cases pop
    · intro tested body alternative path first reads
      have two : (Idiom.globalRead {} ["a"]).path? = some ["_global", "a"] := rfl
      cases first
      cases two.symm.trans reads
      decide
  exact ⟨fresh, recover_append {} unfinishedChain laterInterface fresh⟩

end ClassRecovery
