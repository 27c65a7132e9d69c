import ClassRecovery.Node.Path
import ClassRecovery.Options
import ClassRecovery.Splice

namespace ClassRecovery

/-!
# Chains of guards

Before a class is created, the compiler makes sure that the objects of its
package exist.  For the class `a.b.C` it first guards the creation of the
namespace `a`, then that of `a.b`, and last the body of the class itself, each
guard a conditional that runs only while the tested object is still missing.

A chain leads from the root namespace one name at a time.  A guard whose body
does nothing but create the tested object belongs to the package, and the first
other guard belongs to the class and ends the chain.  Nothing may stand between
the guards but one discarded value behind each.
-/

/-- The place of a class in a list of statements: its path without the root, how
far behind the start of the chain its own guard stands, the body of that guard,
and what runs instead when the class exists already. -/
structure Site where
  path : Path
  offset : Nat
  body : List Node
  alternative : List Node

/-- Whether a value is a newly constructed object. -/
def Node.isNewObject : Node → Bool
  | .newObject .. => true
  | _ => false

/-- Whether the body of a guard does nothing but create the object that was
tested.  The path is compared with its root. -/
def createsNamespace (tested : Path) : List Node → Bool
  | [write] =>
      (write.writtenValue?.map Node.isNewObject).getD false && write.writePath? == some tested
  | _ => false

namespace Site

/-- Follow a chain of guards that has reached a path. -/
def follow (reached : Path) (offset : Nat) : List Node → Option Site
  | .branch (.not tested) body alternative :: rest =>
      match tested.memberOf? reached with
      | none => none
      | some name =>
          if createsNamespace (reached ++ [name]) body then
            match rest with
            | .pop :: rest => follow (reached ++ [name]) (offset + 2) rest
            | rest => follow (reached ++ [name]) (offset + 1) rest
          else some ⟨(reached ++ [name]).tail, offset, body, alternative⟩
  | _ => none

/-- The class whose chain of guards starts at the first statement. -/
def find? (options : Options) (statements : List Node) : Option Site :=
  follow [options.rootNamespace] 0 statements

/-- Whether the statement at an index discards a value. -/
def popAt (statements : List Node) (index : Nat) : Bool :=
  match statements[index]? with
  | some .pop => true
  | _ => false

/-- Follow a chain of guards that has reached a path, by the indices of a list in
which the chain starts at `start`. -/
def followAt (statements : List Node) (start : Nat) (reached : Path) (offset : Nat) :
    Option Site :=
  if inside : start + offset < statements.length then
    match statements[start + offset] with
    | .branch (.not tested) body alternative =>
        match tested.memberOf? reached with
        | none => none
        | some name =>
            if createsNamespace (reached ++ [name]) body then
              if popAt statements (start + offset + 1) then
                followAt statements start (reached ++ [name]) (offset + 2)
              else followAt statements start (reached ++ [name]) (offset + 1)
            else some ⟨(reached ++ [name]).tail, offset, body, alternative⟩
    | _ => none
  else none
termination_by statements.length - (start + offset)

/-- The class whose chain of guards starts at an index. -/
def findAt? (options : Options) (statements : List Node) (index : Nat) : Option Site :=
  followAt statements index [options.rootNamespace] 0

/-! ## One guard of a chain -/

section Guard

variable {reached : Path} {offset : Nat} {tested : Node} {body alternative rest : List Node}
  {name : String}

theorem follow_of_memberOf?_eq_none (noName : tested.memberOf? reached = none) :
    follow reached offset (.branch (.not tested) body alternative :: rest) = none := by
  rw [follow.eq_def]
  simp only [noName]

theorem follow_of_not_creates (hasName : tested.memberOf? reached = some name)
    (noCreation : createsNamespace (reached ++ [name]) body = false) :
    follow reached offset (.branch (.not tested) body alternative :: rest) =
      some ⟨(reached ++ [name]).tail, offset, body, alternative⟩ := by
  rw [follow.eq_def]
  simp only [hasName, noCreation, Bool.false_eq_true, if_false]

theorem follow_of_creates_pop (hasName : tested.memberOf? reached = some name)
    (creates : createsNamespace (reached ++ [name]) body = true) :
    follow reached offset (.branch (.not tested) body alternative :: .pop :: rest) =
      follow (reached ++ [name]) (offset + 2) rest := by
  rw [follow.eq_def]
  simp only [hasName, creates, if_true]

theorem follow_of_creates (hasName : tested.memberOf? reached = some name)
    (creates : createsNamespace (reached ++ [name]) body = true)
    (noPop : rest.head? ≠ some .pop) :
    follow reached offset (.branch (.not tested) body alternative :: rest) =
      follow (reached ++ [name]) (offset + 1) rest := by
  rw [follow.eq_def]
  simp only [hasName, creates, if_true]
  split
  · exact absurd rfl noPop
  · rfl

end Guard

/-- What a list never splits off does not stand at its head. -/
theorem head?_ne_some_of_ne_cons {α : Type} {element : α} {list : List α}
    (others : ∀ rest, list ≠ element :: rest) : list.head? ≠ some element := by
  intro first
  rcases List.head?_eq_some_iff.mp first with ⟨rest, whole⟩
  exact others rest whole

/-- A chain goes on only at a conditional on the absence of something. -/
theorem follow_of_not_guard {reached : Path} {offset : Nat} {statements : List Node}
    (noGuard : ∀ tested body alternative,
      statements.head? ≠ some (.branch (.not tested) body alternative)) :
    follow reached offset statements = none := by
  rw [follow.eq_def]
  split
  · exact absurd rfl (noGuard _ _ _)
  · rfl

/-- The guard of a class is one of the statements that were searched, and the
site describes exactly that guard. -/
theorem follow_split {reached : Path} {offset : Nat} {statements : List Node} {site : Site}
    (found : follow reached offset statements = some site) :
    ∃ before tested after,
      statements = before ++ .branch (.not tested) site.body site.alternative :: after ∧
        site.offset = offset + before.length := by
  induction reached, offset, statements using follow.induct with
  | case1 reached offset tested body alternative rest noName =>
      simp only [follow, noName] at found
      cases found
  | case2 reached offset tested body alternative name hasName creates rest hypothesis =>
      simp only [follow, hasName, creates, if_true] at found
      rcases hypothesis found with ⟨before, inner, after, split, place⟩
      refine ⟨.branch (.not tested) body alternative :: .pop :: before, inner, after, ?_, ?_⟩
      · simp only [split, List.cons_append]
      · simp only [place, List.length_cons]
        omega
  | case3 reached offset tested body alternative name hasName creates rest noPop hypothesis =>
      rw [follow.eq_def] at found
      simp only [hasName, creates, if_true] at found
      rcases hypothesis found with ⟨before, inner, after, split, place⟩
      refine ⟨.branch (.not tested) body alternative :: before, inner, after, ?_, ?_⟩
      · simp only [split, List.cons_append]
      · simp only [place, List.length_cons]
        omega
  | case4 reached offset tested body alternative rest name hasName creates =>
      simp only [follow, hasName, creates] at found
      cases found
      exact ⟨[], tested, rest, rfl, rfl⟩
  | case5 statements reached offset noGuard =>
      rw [follow.eq_def] at found
      split at found
      · exact absurd rfl (noGuard _ _ _ _)
      · cases found

theorem popAt_eq_true_iff (statements : List Node) (index : Nat) :
    popAt statements index = true ↔ statements[index]? = some .pop := by
  unfold popAt
  split
  · next found => exact iff_of_true rfl found
  · next other => exact iff_of_false Bool.false_ne_true other

/-- Looking a chain up by indices and reading it off what is left of the list at
its start come to the same. -/
theorem followAt_eq_follow (statements : List Node) (start : Nat) (reached : Path)
    (offset : Nat) :
    followAt statements start reached offset =
      follow reached offset (statements.drop (start + offset)) := by
  induction reached, offset using followAt.induct statements start with
  | case1 reached offset inside tested body alternative guard noName =>
      rw [List.drop_eq_getElem_cons inside, guard, follow_of_memberOf?_eq_none noName, followAt,
        dif_pos inside, guard]
      simp only [noName]
  | case2 reached offset inside tested body alternative guard name hasName creates popped
      hypothesis =>
      rcases List.getElem?_eq_some_iff.mp ((popAt_eq_true_iff _ _).mp popped) with ⟨next, pop⟩
      rw [List.drop_eq_getElem_cons inside, guard, List.drop_eq_getElem_cons next, pop,
        follow_of_creates_pop hasName creates, followAt, dif_pos inside, guard]
      simp only [hasName, creates, popped, if_true]
      exact hypothesis
  | case3 reached offset inside tested body alternative guard name hasName creates noPop
      hypothesis =>
      have unpopped : (statements.drop (start + offset + 1)).head? ≠ some .pop := by
        rw [List.head?_drop]
        exact fun found => noPop ((popAt_eq_true_iff _ _).mpr found)
      rw [List.drop_eq_getElem_cons inside, guard, follow_of_creates hasName creates unpopped,
        followAt, dif_pos inside, guard]
      simp only [hasName, creates, noPop, if_true, Bool.false_eq_true, if_false]
      exact hypothesis
  | case4 reached offset inside tested body alternative guard name hasName creates =>
      rw [List.drop_eq_getElem_cons inside, guard,
        follow_of_not_creates hasName (Bool.eq_false_iff.mpr creates), followAt, dif_pos inside,
        guard]
      simp only [hasName, creates, Bool.false_eq_true, if_false]
  | case5 reached offset inside noGuard =>
      rw [follow_of_not_guard, followAt, dif_pos inside]
      · split
        · next guard => exact absurd guard (noGuard _ _ _)
        · rfl
      · intro tested body alternative guard
        rw [List.drop_eq_getElem_cons inside] at guard
        exact noGuard tested body alternative (Option.some.inj guard)
  | case6 reached offset outside =>
      rw [followAt, dif_neg outside, List.drop_eq_nil_of_le (Nat.le_of_not_lt outside)]
      rfl

/-- Whatever stands before the start of a chain plays no part. -/
theorem findAt?_eq_find? (options : Options) (statements : List Node) (index : Nat) :
    findAt? options statements index = find? options (statements.drop index) :=
  followAt_eq_follow statements index [options.rootNamespace] 0

theorem find?_split {options : Options} {statements : List Node} {site : Site}
    (found : find? options statements = some site) :
    ∃ before tested after,
      statements = before ++ .branch (.not tested) site.body site.alternative :: after ∧
        site.offset = before.length := by
  rcases follow_split found with ⟨before, tested, after, split, place⟩
  exact ⟨before, tested, after, split, by omega⟩

end Site

end ClassRecovery
