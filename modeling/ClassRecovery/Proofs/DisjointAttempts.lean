import ClassRecovery.Proofs.Accounts
import ClassRecovery.Proofs.GuardChains

namespace ClassRecovery

/-!
# Attempts do not overlap

An attempt is made at every statement, so one is also made at each guard in the middle of a
chain that was followed before.  Nothing comes of it.  A chain starts at a guard for a path
of two names, and every guard behind its first tests a longer path, as it has passed the
guards of all packages above.  What stands between guards is no guard at all.

So the statements of a chain belong to a single attempt.  A pass that rejects a class goes
on behind the guard of that class with nothing more to say about it, however long the chain
in front of the guard was.
-/

open Chain

/-- No attempt that starts at the statement says anything, whatever stands behind it. -/
def Node.IsSilent (options : Options) (node : Node) : Prop :=
  ∀ rest, Attempt.ofStatements options (node :: rest) = .noMatch

/-- Behind its first statement a chain has only statements at which no attempt starts, up to
the guard of the class itself. -/
theorem Chain.Opens.isSilent {options : Options} {statements : List Node} {path : Path}
    {offset : Nat} {body alternative : List Node}
    (opens : Opens [options.rootNamespace] statements path offset body alternative)
    {front back : List Node} {node : Node} (split : statements = front ++ node :: back)
    (begun : front ≠ []) (inside : front.length ≤ offset) : node.IsSilent options := by
  intro rest
  by_cases guard : ∃ tested inner otherwise, node = .branch (.not tested) inner otherwise
  · rcases guard with ⟨tested, inner, otherwise, rfl⟩
    rcases opens.packageGuards_of_append split inside with ⟨above, name, packages, reads⟩
    have somePackage : above ≠ [] := by
      rintro rfl
      cases packages
      exact begun rfl
    have deep : 2 ≤ (options.rootNamespace :: above).length := by
      have positive := List.length_pos_iff.mpr somePackage
      rw [List.length_cons]
      omega
    have hasName := (Node.memberOf?_eq_some_iff (options.rootNamespace :: above) tested name).mpr
      reads
    exact Attempt.ofStatements_of_deep_guard options hasName deep inner otherwise rest
  · apply Attempt.ofStatements_of_not_guard
    intro tested inner otherwise first
    exact guard ⟨tested, inner, otherwise, Option.some.inj first⟩

/-! ## The range of an attempt -/

namespace Attempt

/-- The attempt at one index leads to the class whose guard stands at another. -/
def Ends (options : Options) (statements : List Node) (start stop : Nat) : Prop :=
  ∃ path offset body alternative,
    Opens [options.rootNamespace] (statements.drop start) path offset body alternative ∧
      stop = start + offset

section Ranges

variable {options : Options} {statements : List Node} {start stop other last : Nat}

theorem Ends.le (ends : Ends options statements start stop) : start ≤ stop := by
  rcases ends with ⟨_, offset, _, _, _, rfl⟩
  exact Nat.le_add_right start offset

theorem Ends.lt_length (ends : Ends options statements start stop) :
    stop < statements.length := by
  rcases ends with ⟨path, offset, body, alternative, opens, rfl⟩
  cases opens with
  | intro split place named packages tests noCreation =>
      have length := congrArg List.length split
      rw [List.length_drop, List.length_append, List.length_cons, ← place] at length
      omega

theorem Ends.unique (first : Ends options statements start stop)
    (second : Ends options statements start last) : last = stop := by
  rcases first with ⟨_, _, _, _, opens, rfl⟩
  rcases second with ⟨_, _, _, _, again, rfl⟩
  rw [(opens.unique again).2.1]

theorem atIndex_ne_noMatch_iff_ends :
    atIndex options statements start ≠ .noMatch ↔ ∃ stop, Ends options statements start stop := by
  rw [atIndex_eq, ofStatements_ne_noMatch_iff]
  constructor
  · rintro ⟨path, offset, body, alternative, opens⟩
    exact ⟨start + offset, path, offset, body, alternative, opens, rfl⟩
  · rintro ⟨_, path, offset, body, alternative, opens, _⟩
    exact ⟨path, offset, body, alternative, opens⟩

/-- Within the range of an attempt no other attempt says anything. -/
theorem Ends.noMatch (ends : Ends options statements start stop) (after : start < other)
    (inside : other ≤ stop) : atIndex options statements other = .noMatch := by
  have bound := ends.lt_length
  rcases ends with ⟨path, offset, body, alternative, opens, rfl⟩
  have present : other < statements.length := by omega
  have behind : (statements.drop start).drop (other - start) = statements.drop other := by
    rw [List.drop_drop, Nat.add_sub_cancel' (Nat.le_of_lt after)]
  have length : ((statements.drop start).take (other - start)).length = other - start := by
    rw [List.length_take, List.length_drop]
    omega
  have split : statements.drop start = (statements.drop start).take (other - start) ++
      statements[other] :: statements.drop (other + 1) := by
    rw [← List.drop_eq_getElem_cons present, ← behind, List.take_append_drop]
  have begun : (statements.drop start).take (other - start) ≠ [] := by
    apply List.ne_nil_of_length_pos
    omega
  rw [atIndex_eq, List.drop_eq_getElem_cons present]
  exact opens.isSilent split begun (by omega) _

theorem Ends.lt_of_lt (first : Ends options statements start stop)
    (second : Ends options statements other last) (before : start < other) : stop < other := by
  apply Nat.lt_of_not_le
  intro inside
  exact atIndex_ne_noMatch_iff_ends.mpr ⟨last, second⟩ (first.noMatch before inside)

theorem ends_of_recognised {offset : Nat} {declaration : Declaration} {alternative : List Node}
    (success : atIndex options statements start = .recognised offset declaration alternative) :
    Ends options statements start (start + offset) := by
  rw [atIndex_eq] at success
  rcases opens_of_recognised success with ⟨path, body, opens, _, _⟩
  exact ⟨path, offset, body, alternative, opens, rfl⟩

end Ranges

end Attempt

/-! ## What a pass makes of one range -/

namespace Pass

/-- A pass walks over statements at which no attempt says anything, and leaves no trace. -/
theorem leads_of_noMatch {options : Options} {pass : Pass} (count : Nat)
    (inside : pass.position + count ≤ pass.statements.length)
    (nothing : ∀ index, pass.position ≤ index → index < pass.position + count →
      Attempt.atIndex options pass.statements index = .noMatch) :
    Leads options pass { pass with position := pass.position + count } := by
  induction count with
  | zero => exact .refl
  | succ count hypothesis =>
      have before := hypothesis (by omega) fun index after within =>
        nothing index after (by omega)
      have here : ({ pass with position := pass.position + count } : Pass).attempt options =
          .noMatch := nothing (pass.position + count) (by omega) (by omega)
      have next : pass.position + count < pass.statements.length := by omega
      exact before.tail ((step?_eq_some_iff _ _ _).mpr ⟨next, .noMatch here⟩)

/-- Where a class is rejected the pass leaves one notice, and comes out right behind the
guard of the class. -/
theorem leads_of_rejected {options : Options} {pass : Pass} {cause : Rejection} {stop : Nat}
    (failure : pass.attempt options = .rejected cause)
    (ends : Attempt.Ends options pass.statements pass.position stop) :
    Leads options pass { pass.reject cause with position := stop + 1 } := by
  have before := ends.le
  have bound := ends.lt_length
  have step : pass.step? options = some (pass.reject cause).moveOn :=
    (step?_eq_some_iff _ _ _).mpr ⟨by omega, .rejected failure⟩
  have place : pass.position + 1 + (stop - pass.position) = stop + 1 := by omega
  have nothing : ∀ index, pass.position + 1 ≤ index →
      index < pass.position + 1 + (stop - pass.position) →
        Attempt.atIndex options pass.statements index = .noMatch :=
    fun index after within => ends.noMatch after (by omega)
  have inside : pass.position + 1 + (stop - pass.position) ≤ pass.statements.length := by omega
  have walked : Leads options (pass.reject cause).moveOn
      { pass.reject cause with position := pass.position + 1 + (stop - pass.position) } :=
    leads_of_noMatch (stop - pass.position) inside nothing
  rw [place] at walked
  exact .head step walked

end Pass

/-- Attempts that say something have disjoint ranges, each from its own statement to the
guard of its class, so no guard ends two of them.  A pass leaves one notice for each class
that it rejects and is done with it: it comes out right behind the guard of the class, and
the guards of packages in front of it give rise to nothing else. -/
theorem Attempt.atIndex_disjoint (options : Options) (statements : List Node) :
    (∀ start, atIndex options statements start ≠ .noMatch ↔
      ∃ stop, ∀ other, Ends options statements start other ↔ other = stop) ∧
    (∀ start offset declaration alternative,
      atIndex options statements start = .recognised offset declaration alternative →
        Ends options statements start (start + offset)) ∧
    (∀ start stop other last, Ends options statements start stop →
      Ends options statements other last → start < other →
        start ≤ stop ∧ stop < other ∧ other ≤ last) ∧
    (∀ start other stop, Ends options statements start stop →
      Ends options statements other stop → start = other) ∧
    (∀ pass cause stop, pass.attempt options = .rejected cause →
      Ends options pass.statements pass.position stop →
        Pass.Leads options pass { pass.reject cause with position := stop + 1 }) := by
  refine ⟨?_, ?_, ?_, ?_, ?_⟩
  · intro start
    rw [atIndex_ne_noMatch_iff_ends]
    constructor
    · rintro ⟨stop, ends⟩
      refine ⟨stop, fun other => ⟨fun again => ends.unique again, ?_⟩⟩
      rintro rfl
      exact ends
    · rintro ⟨stop, only⟩
      exact ⟨stop, (only stop).mpr rfl⟩
  · exact fun start offset declaration alternative success => ends_of_recognised success
  · exact fun start stop other last first second before =>
      ⟨first.le, first.lt_of_lt second before, second.le⟩
  · intro start other stop first second
    -- Were one of them in front of the other, its guard would be, too.
    rcases Nat.lt_trichotomy start other with before | same | after
    · exact absurd second.le (Nat.not_le_of_lt (first.lt_of_lt second before))
    · exact same
    · exact absurd first.le (Nat.not_le_of_lt (second.lt_of_lt first after))
  · exact fun pass cause stop failure ends => Pass.leads_of_rejected failure ends

end ClassRecovery
