import ClassRecovery.Node.Path

namespace ClassRecovery

/-!
# Chains and the paths they read

A path determines the chain that reads it, and a chain of literal names has one
path.  Removing the root from a chain and from its path agree as long as
something is left of the path; the bare root is the one chain on which they do
not.

These laws let a name be compared by its path and stored as a chain: whatever
write a class was created by, its name is the chain that reads its path.
-/

namespace Path

theorem withoutRoot_cons_self (root : String) (path : Path) :
    Path.withoutRoot root (root :: path) = path :=
  if_pos rfl

theorem withoutRoot_of_head?_ne {root : String} {path : Path} (other : path.head? ≠ some root) :
    path.withoutRoot root = path := by
  cases path with
  | nil => rfl
  | cons first rest => exact if_neg fun same => other (congrArg some same)

end Path

namespace Node

theorem text?_eq_some_iff (node : Node) (text : String) :
    node.text? = some text ↔ node = .string text := by
  constructor
  · intro found
    unfold text? at found
    split at found
    · cases found
      rfl
    · cases found
  · intro literal
    rw [literal]
    rfl

/-! ## A chain and its path -/

/-- Further members lengthen the path of what they are read from. -/
theorem path?_foldl_memberNamed (object : Node) (names : Path) :
    (names.foldl memberNamed object).path? = object.path?.map (· ++ names) := by
  induction names generalizing object with
  | nil =>
      simp only [List.foldl_nil, List.append_nil]
      exact Option.map_id'.symm
  | cons name rest hypothesis =>
      have member : (memberNamed object name).path? = object.path?.map (· ++ [name]) := by
        cases hasPath : object.path? with
        | none => simp only [memberNamed, path?, hasPath]; rfl
        | some path => simp only [memberNamed, path?, hasPath]; rfl
      rw [List.foldl_cons, hypothesis, member, Option.map_map]
      congr 1
      funext path
      exact List.append_assoc path [name] rest

theorem path?_of_ofPath? {path : Path} {node : Node} (reads : ofPath? path = some node) :
    node.path? = some path := by
  cases path with
  | nil => cases reads
  | cons first rest =>
      cases reads
      exact path?_foldl_memberNamed (variableNamed first) rest

theorem ofPath?_concat {path : Path} {object : Node} (reads : ofPath? path = some object)
    (name : String) : ofPath? (path ++ [name]) = some (memberNamed object name) := by
  cases path with
  | nil => cases reads
  | cons first rest =>
      cases reads
      rw [List.cons_append, ofPath?, List.foldl_append]
      rfl

theorem ofPath?_of_path? {node : Node} {path : Path} (hasPath : node.path? = some path) :
    ofPath? path = some node := by
  induction node using path?.induct generalizing path with
  | case1 object member name inner hasInner hasName hypothesis =>
      simp only [path?, hasName, hasInner, Option.some.injEq] at hasPath
      have literal := (text?_eq_some_iff member name).mp hasName
      rw [← hasPath, ofPath?_concat (hypothesis hasInner), literal]
      rfl
  | case2 object member noPath hypothesis =>
      rw [path?] at hasPath
      split at hasPath
      · next name inner hasName hasInner => exact absurd hasInner (noPath name inner hasName)
      · cases hasPath
  | case3 name =>
      rcases Option.map_eq_some_iff.mp hasPath with ⟨text, hasText, rfl⟩
      rw [(text?_eq_some_iff name text).mp hasText]
      rfl
  | case4 node noMember noVariable =>
      cases node with
      | getMember object member => exact absurd rfl (noMember object member)
      | getVariable name => exact absurd rfl (noVariable name)
      | _ => cases hasPath

/-- Paths and the chains that read them determine one another. -/
theorem path?_eq_some_iff_ofPath? (node : Node) (path : Path) :
    node.path? = some path ↔ ofPath? path = some node :=
  ⟨ofPath?_of_path?, path?_of_ofPath?⟩

/-! ## Without the root -/

/-- The root stands at the start of a chain, and members further on do not reach
it. -/
theorem withoutRoot_foldl_memberNamed (root : String) (object : Node) (name : String)
    (names : Path) :
    (names.foldl memberNamed (memberNamed object name)).withoutRoot root =
      names.foldl memberNamed ((memberNamed object name).withoutRoot root) := by
  induction names generalizing object name with
  | nil => rfl
  | cons next rest hypothesis => exact hypothesis (memberNamed object name) next

/-- The chain that reads what is left of a path without the root. -/
theorem ofPath?_withoutRoot {root : String} {node : Node} {path : Path}
    (hasPath : node.path? = some path) (left : path.withoutRoot root ≠ []) :
    ofPath? (path.withoutRoot root) = some (node.withoutRoot root) := by
  have reads := ofPath?_of_path? hasPath
  cases path with
  | nil => exact absurd rfl left
  | cons first rest =>
      cases reads
      by_cases same : first = root
      · rw [Path.withoutRoot, if_pos same] at left ⊢
        cases rest with
        | nil => exact absurd rfl left
        | cons second rest =>
            rw [List.foldl_cons, withoutRoot_foldl_memberNamed]
            have start : (memberNamed (variableNamed first) second).withoutRoot root =
                variableNamed second := if_pos (congrArg some same)
            rw [start]
            rfl
      · rw [Path.withoutRoot, if_neg same]
        cases rest with
        | nil => rfl
        | cons second rest =>
            rw [List.foldl_cons, withoutRoot_foldl_memberNamed]
            have start : (memberNamed (variableNamed first) second).withoutRoot root =
                memberNamed (variableNamed first) second :=
              if_neg fun found => same (Option.some.inj found)
            rw [start]
            rfl

/-! ## What a write assigns to -/

theorem writePath?_eq_bind_target? (write : Node) :
    write.writePath? = write.target?.bind path? := by
  cases write <;> rfl

end Node

end ClassRecovery
