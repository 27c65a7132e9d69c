import ClassRecovery.Splice

namespace ClassRecovery

/-!
# How many statements a pass may still meet

When a class is recovered, the alternative of its guard moves into the list of
statements and is searched in turn.  The list may grow by this, but only by
statements that stood in an alternative before.  The extent counts a statement
together with everything in its alternative, and in the alternatives there, so
no recovery can raise it.
-/

mutual

/-- A statement and all statements in its alternative. -/
def Node.extent : Node → Nat
  | .branch _ _ onFalse => extent onFalse + 1
  | _ => 1

/-- The extent of a list of statements. -/
def extent : List Node → Nat
  | [] => 0
  | node :: rest => node.extent + extent rest

end

theorem Node.extent_pos (node : Node) : 0 < node.extent := by
  cases node <;> simp [Node.extent]

theorem extent_append (front back : List Node) :
    extent (front ++ back) = extent front + extent back := by
  induction front with
  | nil => simp [extent]
  | cons node rest hypothesis =>
      simp only [List.cons_append, extent, hypothesis]
      omega

theorem extent_dropPop_le (statements : List Node) :
    extent (dropPop statements) ≤ extent statements := by
  rcases dropPop_cases statements with popped | ⟨same, _⟩
  · have longer := congrArg extent popped
    rw [extent] at longer
    omega
  · exact Nat.le_of_eq (congrArg extent same.symm)

/-- There are at most as many statements as their extent. -/
theorem length_le_extent (statements : List Node) : statements.length ≤ extent statements := by
  induction statements with
  | nil => exact Nat.le_refl _
  | cons node rest hypothesis =>
      have positive := node.extent_pos
      simp only [List.length_cons, extent]
      omega

end ClassRecovery
