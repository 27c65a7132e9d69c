import ClassRecovery.Body.Reading
import ClassRecovery.Node.Extent
import ClassRecovery.Site

namespace ClassRecovery

/-!
# Attempts at recovery

At each statement one attempt is made, and it looks only at that statement and
at those behind it, as `atIndex_eq` says.  Where no chain of guards leads to a
class there is nothing to say about the statement.  Where one does, the attempt
succeeds or is rejected for a cause that is worth reporting.
-/

/-- What came of an attempt.  `offset` says how far behind the first statement
the guard of the class stands. -/
inductive Attempt where
  | noMatch
  | rejected (cause : Rejection)
  | recognised (offset : Nat) (declaration : Declaration) (alternative : List Node)

namespace Attempt

/-- Read the class at a site.  Without leave to keep it, a guard's alternative
rules the class out before its body is looked at. -/
def ofSite (options : Options) (site : Site) : Attempt :=
  if !site.alternative.isEmpty && !options.preserveAlternative then
    .rejected (.mismatch .alternativeNotEmpty)
  else
    match Declaration.ofBody options site.path site.body with
    | .ok declaration => .recognised site.offset declaration site.alternative
    | .error cause => .rejected cause

/-- Attempt to recover a declaration that starts at the first statement. -/
def ofStatements (options : Options) (statements : List Node) : Attempt :=
  match Site.find? options statements with
  | none => .noMatch
  | some site => ofSite options site

/-- Attempt to recover a declaration that starts at an index of a list. -/
def atIndex (options : Options) (statements : List Node) (index : Nat) : Attempt :=
  match Site.findAt? options statements index with
  | none => .noMatch
  | some site => ofSite options site

theorem atIndex_eq (options : Options) (statements : List Node) (index : Nat) :
    atIndex options statements index = ofStatements options (statements.drop index) := by
  rw [atIndex, ofStatements, Site.findAt?_eq_find?]

/-- An attempt starts at a guard or comes to nothing. -/
theorem ofStatements_of_not_guard (options : Options) {statements : List Node}
    (noGuard : ∀ tested body alternative,
      statements.head? ≠ some (.branch (.not tested) body alternative)) :
    ofStatements options statements = .noMatch := by
  rw [ofStatements, Site.find?, Site.follow_of_not_guard noGuard]

theorem ofSite_recognised {options : Options} {site : Site} {offset : Nat}
    {declaration : Declaration} {alternative : List Node}
    (success : ofSite options site = .recognised offset declaration alternative) :
    site.offset = offset ∧ site.alternative = alternative := by
  unfold ofSite at success
  split at success
  · cases success
  · split at success
    · cases success
      exact ⟨rfl, rfl⟩
    · cases success

/-- A recognised declaration ends at a guard among the statements, and what is to
follow the declaration is the alternative of that guard. -/
theorem ofStatements_split {options : Options} {statements : List Node} {offset : Nat}
    {declaration : Declaration} {alternative : List Node}
    (success : ofStatements options statements = .recognised offset declaration alternative) :
    ∃ before tested body after,
      statements = before ++ .branch (.not tested) body alternative :: after ∧
        offset = before.length := by
  unfold ofStatements at success
  split at success
  · cases success
  · next site found =>
      have parts := ofSite_recognised success
      rcases Site.find?_split found with ⟨before, tested, after, split, place⟩
      refine ⟨before, tested, site.body, after, ?_, ?_⟩
      · rw [← parts.2]
        exact split
      · rw [← parts.1]
        exact place

theorem offset_lt_length {options : Options} {statements : List Node} {offset : Nat}
    {declaration : Declaration} {alternative : List Node}
    (success : ofStatements options statements = .recognised offset declaration alternative) :
    offset < statements.length := by
  rcases ofStatements_split success with ⟨before, tested, body, after, split, place⟩
  have length := congrArg List.length split
  rw [List.length_append, List.length_cons, ← place] at length
  omega

/-- The statements that are left to be searched once a declaration has taken the
place of its own: the alternative of its guard, and what stood behind the guard.  A
value that was discarded right there is gone as well. -/
def behind (statements : List Node) (offset : Nat) (alternative : List Node) : List Node :=
  alternative ++
    match statements.drop (offset + 1) with
    | .pop :: rest => rest
    | rest => rest

/-- A splice leaves the same. -/
theorem behind_eq (statements : List Node) (offset : Nat) (alternative : List Node) :
    behind statements offset alternative =
      alternative ++ dropPop (statements.drop (offset + 1)) :=
  rfl

/-- The guard itself is gone, so less is left to be searched than there was. -/
theorem extent_behind_lt {options : Options} {statements : List Node} {offset : Nat}
    {declaration : Declaration} {alternative : List Node}
    (success : ofStatements options statements = .recognised offset declaration alternative) :
    extent (behind statements offset alternative) < extent statements := by
  rcases ofStatements_split success with ⟨before, tested, body, after, split, place⟩
  have rest : statements.drop (offset + 1) = after := by
    rw [split, place]
    simp
  have popped := extent_dropPop_le after
  rw [behind_eq, rest, split, extent_append, extent_append, extent, Node.extent]
  omega

end Attempt

end ClassRecovery
