import ClassRecovery.Proofs.ChainPaths

namespace ClassRecovery

/-!
# Removing the root from names

The root namespace is removed in two ways.  A path loses its first name, and an expression
is rebuilt around another innermost variable while all members further out stay.  The two
agree on every chain but the root itself, whose path would become empty and for which no
expression is left.  There the expression is kept.

Writes take part through the expressions that read what they assign to.  So the class that a
write creates can be compared by path and named by expression, and the name is the chain for
the path, even for a package that has the name of the root and lies right below it.
-/

namespace Path

/-- What is left of a path had the root in front of it, or is the whole of a path that does
not start there. -/
theorem withoutRoot_eq_iff (root : String) (path left : Path) :
    path.withoutRoot root = left ↔
      path = root :: left ∨ (path.head? ≠ some root ∧ path = left) := by
  constructor
  · rintro rfl
    by_cases rooted : path.head? = some root
    · rcases List.head?_eq_some_iff.mp rooted with ⟨rest, rfl⟩
      rw [withoutRoot_cons_self]
      exact Or.inl rfl
    · exact Or.inr ⟨rooted, (withoutRoot_of_head?_ne rooted).symm⟩
  · rintro (rfl | ⟨other, rfl⟩)
    · exact withoutRoot_cons_self root left
    · exact withoutRoot_of_head?_ne other

theorem withoutRoot_eq_nil_iff (root : String) {path : Path} (nonempty : path ≠ []) :
    path.withoutRoot root = [] ↔ path = [root] := by
  rw [withoutRoot_eq_iff]
  exact or_iff_left fun empty => nonempty empty.2

/-- The root is still in front only where it stood twice. -/
theorem withoutRoot_eq_root_cons_iff (root : String) (path rest : Path) :
    path.withoutRoot root = root :: rest ↔ path = root :: root :: rest := by
  rw [withoutRoot_eq_iff]
  apply or_iff_left
  rintro ⟨other, rfl⟩
  exact other rfl

end Path

namespace Node

/-! ## Expressions -/

theorem isSome_path?_getMember (object member : Node) :
    (Node.getMember object member).path?.isSome =
      (member.text?.isSome && object.path?.isSome) := by
  rw [path?]
  cases member.text? <;> cases object.path? <;> rfl

/-- An expression neither gains nor loses a path with the root. -/
theorem isSome_path?_withoutRoot (root : String) (node : Node) :
    (node.withoutRoot root).path?.isSome = node.path?.isSome := by
  induction node using withoutRoot.induct root with
  | case1 name member isRoot =>
      rw [withoutRoot, if_pos isRoot, isSome_path?_getMember, path?, path?, isRoot,
        Option.isSome_map, Option.isSome_map, Option.isSome_some, Bool.and_true]
  | case2 name member notRoot => rw [withoutRoot, if_neg notRoot]
  | case3 object inner member hypothesis =>
      rw [withoutRoot, isSome_path?_getMember, hypothesis, ← isSome_path?_getMember]
  | case4 node noVariable noMember =>
      -- Anything but a member of a variable or of a member is left as it is.
      rw [withoutRoot]
      · exact noVariable
      · exact noMember

theorem path?_withoutRoot_of_ne {root : String} {node : Node} {path : Path}
    (hasPath : node.path? = some path) (other : path ≠ [root]) :
    (node.withoutRoot root).path? = some (path.withoutRoot root) := by
  have nonempty := ((path?_eq_some_iff_nameChain node path).mp hasPath).path_ne_nil
  have left : path.withoutRoot root ≠ [] := fun empty =>
    other ((Path.withoutRoot_eq_nil_iff root nonempty).mp empty)
  exact path?_of_ofPath? (ofPath?_withoutRoot hasPath left)

theorem withoutRoot_of_bareRoot {root : String} {node : Node}
    (hasPath : node.path? = some [root]) : node.withoutRoot root = node := by
  cases ofPath?_of_path? hasPath
  rfl

/-! ## Writes -/

/-- A write is one to a chain exactly when what it assigns to is read by the chain. -/
theorem nameWrite_iff (write : Node) (path : Path) :
    NameWrite write path ↔ ∃ target, write.target? = some target ∧ NameChain target path := by
  constructor
  · intro writes
    cases writes with
    | toVariable name value => exact ⟨_, rfl, .start name⟩
    | toMember name value chain => exact ⟨_, rfl, .member name chain⟩
  · rintro ⟨target, hasTarget, chain⟩
    cases write with
    | setMember object member value =>
        cases hasTarget
        cases chain with
        | member name chain => exact .toMember name value chain
    | setVariable name value =>
        cases hasTarget
        cases chain with
        | start name => exact .toVariable name value
    | _ => cases hasTarget

theorem writePath?_eq_some_iff_nameWrite (write : Node) (path : Path) :
    write.writePath? = some path ↔ NameWrite write path := by
  rw [writePath?_eq_bind_target?, nameWrite_iff, Option.bind_eq_some_iff]
  simp only [path?_eq_some_iff_nameChain]

/-- The name of a class by expression is the chain for its path. -/
theorem ofPath?_of_writePath? {root : String} {write : Node} {written : Path}
    (writes : write.writePath? = some written) (left : written.withoutRoot root ≠ []) :
    ∃ target, write.target? = some target ∧
      ofPath? (written.withoutRoot root) = some (target.withoutRoot root) := by
  rw [writePath?_eq_bind_target?] at writes
  rcases Option.bind_eq_some_iff.mp writes with ⟨target, hasTarget, hasPath⟩
  exact ⟨target, hasTarget, ofPath?_withoutRoot hasPath left⟩

/-- A write has the path of the expression that reads what it assigns to, and neither has one
unless the write is to a chain of names.  Where something other than the bare root is read,
taking the root from the expression takes it from the path.  The bare root stays as it is, and
an expression without a path does not come to have one.  So where a write is to a class, the
expression it assigns to, without the root, is the chain for the path of the class; and if
that path starts with the root, then the root stood twice and was taken away once. -/
theorem withoutRoot_path?_commute (root : String) (node write : Node) :
    write.writePath? = write.target?.bind path? ∧
    ((∀ path, ¬ NameWrite write path) ↔
      write.writePath? = none ∧ write.target?.bind path? = none) ∧
    (∀ path, node.path? = some path → path ≠ [root] →
      (node.withoutRoot root).path? = some (path.withoutRoot root)) ∧
    (node.path? = some [root] → node.withoutRoot root = node) ∧
    (node.path? = none → (node.withoutRoot root).path? = none) ∧
    ∀ written classPath, write.writePath? = some written → written.withoutRoot root = classPath →
      classPath ≠ [] →
        (∃ target, write.target? = some target ∧
          ofPath? classPath = some (target.withoutRoot root)) ∧
        ∀ rest, classPath = root :: rest → written = root :: root :: rest := by
  refine ⟨writePath?_eq_bind_target? write, ?_, fun path => path?_withoutRoot_of_ne,
    withoutRoot_of_bareRoot, fun noPath => ?_, ?_⟩
  · rw [← writePath?_eq_bind_target?, and_self, Option.eq_none_iff_forall_ne_some]
    simp only [ne_eq, writePath?_eq_some_iff_nameWrite]
  · rw [← Option.not_isSome_iff_eq_none, isSome_path?_withoutRoot, noPath]
    exact Bool.false_ne_true
  · rintro written classPath writes rfl left
    refine ⟨ofPath?_of_writePath? writes left, fun rest starts => ?_⟩
    exact (Path.withoutRoot_eq_root_cons_iff root written rest).mp starts

/-- A class in a package that has the name of the root, next to the root itself and to a
member of something that is not known by any name. -/
theorem withoutRoot_path?_commute_namesake :
    let package : Node := .memberNamed (.variableNamed "_global") "_global"
    let read : Node := .memberNamed package "C"
    let write : Node := .assignMember package "C" (.function .empty)
    let written : Path := ["_global", "_global", "C"]
    let root : Node := .variableNamed "_global"
    let nameless : Node := .memberNamed (.register 1) "C"
    (read.path? = some written ∧ written ≠ ["_global"] ∧
      (read.withoutRoot "_global").path? = some ["_global", "C"]) ∧
    (root.path? = some ["_global"] ∧ root.withoutRoot "_global" = root) ∧
    (nameless.path? = none ∧ (nameless.withoutRoot "_global").path? = none) ∧
    (write.writePath? = some written ∧ written.withoutRoot "_global" = ["_global", "C"] ∧
      ∃ target, write.target? = some target ∧
        ofPath? ["_global", "C"] = some (target.withoutRoot "_global")) := by
  intro package read write written root nameless
  rcases withoutRoot_path?_commute "_global" read write with ⟨_, _, stripped, _, _, named⟩
  rcases withoutRoot_path?_commute "_global" root write with ⟨_, _, _, kept, _, _⟩
  rcases withoutRoot_path?_commute "_global" nameless write with ⟨_, _, _, _, lacking, _⟩
  have hasPath : read.path? = some written := rfl
  have other : written ≠ ["_global"] := by decide
  have bare : root.path? = some ["_global"] := rfl
  have noPath : nameless.path? = none := rfl
  have writes : write.writePath? = some written := rfl
  have left : written.withoutRoot "_global" = ["_global", "C"] := rfl
  exact ⟨⟨hasPath, other, stripped written hasPath other⟩, ⟨bare, kept bare⟩,
    ⟨noPath, lacking noPath⟩, writes, left,
    (named written _ writes left (List.cons_ne_nil _ _)).1⟩

end Node

end ClassRecovery
