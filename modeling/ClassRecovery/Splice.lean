import ClassRecovery.Node.Basic

namespace ClassRecovery

/-!
# Replacing statements by a declaration

Places are given by the index of the first and of the last statement that goes.
A last index beyond the list means its last statement, and a last index before
the first means that nothing goes and the new statements are inserted.

A first index beyond the end of the list names no place, and neither does the
beginning of an empty list, whose last statement does not exist.  Both are
answered by nothing.  `spliceDeclaration_eq` says what happens at the places
where a recovered declaration is put.
-/

/-- Drop one discarded value at the start of a list of statements. -/
def dropPop : List Node → List Node
  | .pop :: rest => rest
  | statements => statements

theorem dropPop_cases (statements : List Node) :
    statements = .pop :: dropPop statements ∨
      (statements = dropPop statements ∧ statements.head? ≠ some .pop) := by
  unfold dropPop
  split
  · exact Or.inl rfl
  · next others =>
      refine Or.inr ⟨rfl, fun first => ?_⟩
      rcases List.head?_eq_some_iff.mp first with ⟨rest, whole⟩
      exact others rest whole

theorem dropPop_of_head?_ne_pop {statements : List Node}
    (noPop : statements.head? ≠ some .pop) : dropPop statements = statements := by
  rcases dropPop_cases statements with popped | ⟨same, _⟩
  · exact absurd (congrArg List.head? popped) noPop
  · exact same.symm

/-- Replace the statements from `start` to `stop`, both included. -/
def replaceRange (statements : List Node) (start stop : Nat) (nodes : List Node) :
    Option (List Node) :=
  let last := min stop (statements.length - 1)
  if last < start then
    if start ≤ statements.length then
      some (statements.take start ++ nodes ++ statements.drop start)
    else none
  else if last < statements.length then
    some (statements.take start ++ nodes ++ statements.drop (last + 1))
  else none

/-- Put a declaration in the place of the statements it was recovered from.  A
discarded value right behind them goes as well, since it was theirs.  The
alternative of the guard follows the declaration. -/
def spliceDeclaration (statements : List Node) (start stop : Nat) (declaration : Node)
    (alternative : List Node) : Option (List Node) :=
  (replaceRange statements start stop [declaration]).map fun replaced =>
    replaced.take (start + 1) ++ alternative ++ dropPop (replaced.drop (start + 1))

theorem replaceRange_eq {statements : List Node} {start stop : Nat} (nodes : List Node)
    (ordered : start ≤ stop) (inside : stop < statements.length) :
    replaceRange statements start stop nodes =
      some (statements.take start ++ nodes ++ statements.drop (stop + 1)) := by
  have last : min stop (statements.length - 1) = stop := Nat.min_eq_left (by omega)
  have notBefore : ¬ stop < start := Nat.not_lt.mpr ordered
  simp only [replaceRange, last, notBefore, inside, if_true, if_false]

theorem spliceDeclaration_eq {statements : List Node} {start stop : Nat} (declaration : Node)
    (alternative : List Node) (ordered : start ≤ stop) (inside : stop < statements.length) :
    spliceDeclaration statements start stop declaration alternative =
      some (statements.take start ++
        declaration :: (alternative ++ dropPop (statements.drop (stop + 1)))) := by
  have length : (statements.take start).length = start := by
    rw [List.length_take]
    omega
  have front : (statements.take start ++ [declaration] ++ statements.drop (stop + 1)).take
      (start + 1) = statements.take start ++ [declaration] := by
    rw [List.take_append_of_le_length (by simp [length])]
    exact List.take_of_length_le (by simp [length])
  have back : (statements.take start ++ [declaration] ++ statements.drop (stop + 1)).drop
      (start + 1) = statements.drop (stop + 1) := by
    have whole : (statements.take start ++ [declaration]).length = start + 1 := by simp [length]
    rw [← whole]
    exact List.drop_left
  rw [spliceDeclaration, replaceRange_eq [declaration] ordered inside, Option.map_some, front, back]
  simp only [List.append_assoc, List.cons_append, List.nil_append]

end ClassRecovery
