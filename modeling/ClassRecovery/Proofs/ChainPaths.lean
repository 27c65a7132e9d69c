import ClassRecovery.Node.Equality
import ClassRecovery.Node.NameChain
import ClassRecovery.Proofs.Naming

namespace ClassRecovery

/-!
# A path stands for one chain

Scripts name the same place in many expressions, and recovery compares the places by their
paths.  This is safe because a path forgets nothing: there is one chain of names with the
path, whether the chain is built from the path, or a path is read off an expression that
turns out to be a chain.  Expressions with any computed name in them, or over anything but a
variable, have no path and are never compared at all.

A chain holds reads and texts only, and no number among them.  So what has the same value as
a chain is the same tree, and nothing depends on which of the two comparisons is meant.
-/

namespace Node

/-! ## Chains have paths, and nothing else has -/

theorem NameChain.hasPath {node : Node} {path : Path} (chain : NameChain node path) :
    node.path? = some path := by
  induction chain with
  | start name => rfl
  | member name chain hypothesis =>
      rw [memberNamed, path?, hypothesis]
      rfl

theorem nameChain_of_ofPath? {path : Path} {node : Node} (reads : ofPath? path = some node) :
    NameChain node path := by
  cases path with
  | nil => cases reads
  | cons first rest =>
      cases reads
      exact (NameChain.start first).extend rest

theorem path?_eq_some_iff_nameChain (node : Node) (path : Path) :
    node.path? = some path ↔ NameChain node path :=
  ⟨fun hasPath => nameChain_of_ofPath? (ofPath?_of_path? hasPath), NameChain.hasPath⟩

/-- A walk inwards gives up where there is no path, and otherwise meets the names from the
last to the first. -/
theorem namesInward?_eq (node : Node) (met : List String) :
    node.namesInward? met = node.path?.map fun path => met ++ path.reverse := by
  induction met, node using namesInward?.induct with
  | case1 met object member name hasName hypothesis =>
      rw [namesInward?, path?, hasName]
      dsimp only
      -- The name is met before those further in, and stands behind them in the path.
      rw [hypothesis]
      cases object.path? with
      | none => rfl
      | some path =>
          rw [Option.map_some, Option.map_some, List.reverse_concat, ← List.append_cons]
  | case2 met object member noName =>
      rw [namesInward?, path?, noName]
      rfl
  | case3 met name =>
      rw [namesInward?, path?]
      cases name.text? <;> rfl
  | case4 node met noMember noVariable =>
      cases node with
      | getMember object member => exact absurd rfl (noMember object member)
      | getVariable name => exact absurd rfl (noVariable name)
      | _ => rfl

theorem path?_eq_reverse_namesInward? (node : Node) :
    node.path? = (node.namesInward? []).map List.reverse := by
  rw [namesInward?_eq, Option.map_map]
  cases node.path? with
  | none => rfl
  | some path => exact congrArg some (List.reverse_reverse path).symm

/-! ## Comparing chains -/

theorem eq_of_path? {node other : Node} {path : Path} (hasPath : node.path? = some path)
    (otherHasPath : other.path? = some path) : node = other :=
  Option.some.inj ((ofPath?_of_path? hasPath).symm.trans (ofPath?_of_path? otherHasPath))

theorem sameValue_string_iff (text : String) (node : Node) :
    (Node.string text).sameValue node = true ↔ .string text = node := by
  constructor
  · intro same
    cases node with
    | literal value =>
        cases value with
        | string other => exact congrArg Node.string (beq_iff_eq.mp same)
        | _ => cases same
    | _ => cases same
  · rintro rfl
    exact beq_self_eq_true text

/-- What has the same value as a chain is that chain. -/
theorem NameChain.sameValue_iff {node : Node} {path : Path} (chain : NameChain node path)
    (other : Node) : node.sameValue other = true ↔ node = other := by
  -- A tree of another kind differs from the chain by either comparison.
  induction chain generalizing other with
  | start name =>
      cases other with
      | getVariable name' =>
          rw [variableNamed, getVariable.injEq]
          exact sameValue_string_iff name name'
      | _ => constructor <;> intro same <;> cases same
  | member name chain hypothesis =>
      cases other with
      | getMember object' member' =>
          rw [memberNamed, getMember.injEq, ← hypothesis object',
            ← sameValue_string_iff name member']
          exact Bool.and_eq_true_iff
      | _ => constructor <;> intro same <;> cases same

theorem sameOptional_ofPath?_iff (path : Path) (node : Node) :
    sameOptional (ofPath? path) (some node) = true ↔ ofPath? path = some node := by
  cases reads : ofPath? path with
  | none => constructor <;> intro same <;> cases same
  | some chain =>
      rw [Option.some.injEq]
      exact (nameChain_of_ofPath? reads).sameValue_iff node

/-- An expression has a path exactly when it is a chain of names, and then it is the chain
that reads the path, as a tree and by its value.  A walk inwards finds the path, with its
names from the last to the first.  So two expressions with one path are the same, and an
expression reads one member of a path exactly when it is the chain for the path with that
name behind it. -/
theorem path?_ofPath?_inverse (node : Node) :
    (∀ path, node.path? = some path ↔ path ≠ [] ∧ ofPath? path = some node) ∧
    (∀ path, node.path? = some path ↔ sameOptional (ofPath? path) (some node) = true) ∧
    (∀ path, node.path? = some path ↔ NameChain node path) ∧
    node.path? = (node.namesInward? []).map List.reverse ∧
    (∀ other path, node.path? = some path → other.path? = some path →
      node = other ∧ node.sameValue other = true) ∧
    ∀ parent name, node.memberOf? parent = some name ↔
      ofPath? (parent ++ [name]) = some node := by
  refine ⟨fun path => ?_, fun path => ?_, path?_eq_some_iff_nameChain node,
    path?_eq_reverse_namesInward? node, fun other path hasPath otherHasPath => ?_,
    fun parent name => ?_⟩
  · constructor
    · intro hasPath
      exact ⟨((path?_eq_some_iff_nameChain node path).mp hasPath).path_ne_nil,
        ofPath?_of_path? hasPath⟩
    · rintro ⟨_, reads⟩
      exact path?_of_ofPath? reads
  · rw [sameOptional_ofPath?_iff]
    exact path?_eq_some_iff_ofPath? node path
  · have chain := (path?_eq_some_iff_nameChain node path).mp hasPath
    have same := eq_of_path? hasPath otherHasPath
    exact ⟨same, (chain.sameValue_iff other).mpr same⟩
  · rw [memberOf?_eq_some_iff]
    exact path?_eq_some_iff_ofPath? node (parent ++ [name])

/-- The read of a packaged class as a script writes it, and the chain built from its path. -/
theorem path?_ofPath?_inverse_packagedRead :
    let read : Node := .getMember (.getMember (.getVariable (.string "_global")) (.string "a"))
      (.string "C")
    let chain : Node := ["a", "C"].foldl memberNamed (variableNamed "_global")
    read.path? = some ["_global", "a", "C"] ∧ chain.path? = some ["_global", "a", "C"] ∧
      read = chain ∧ read.sameValue chain = true := by
  intro read chain
  have readHasPath : read.path? = some ["_global", "a", "C"] := rfl
  have chainHasPath : chain.path? = some ["_global", "a", "C"] := rfl
  exact ⟨readHasPath, chainHasPath,
    (path?_ofPath?_inverse read).2.2.2.2.1 chain _ readHasPath chainHasPath⟩

end Node

end ClassRecovery
