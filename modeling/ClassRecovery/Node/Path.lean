import ClassRecovery.Node.Basic

namespace ClassRecovery

/-!
# Names reached through chains of members

The expression `_global.a.C` reads a variable and then a member twice.  Its
path is the list of the three names.  Only a chain of literal names over a
literal variable has a path: once a name is computed or the chain starts at
anything but a variable, there is no saying what it reaches.

Compiled code reaches packaged classes through a root namespace, and source
code does not.  The root is removed from paths and from expressions by two
separate functions, which differ at the root itself: its path becomes empty,
while its expression stays.
-/

/-- The names along a chain, outermost object first. -/
abbrev Path := List String

namespace Path

/-- Remove the root namespace where it leads the path.  Only one occurrence
goes, for a package may have the name of the root. -/
def withoutRoot (root : String) : Path → Path
  | [] => []
  | first :: rest => if first = root then rest else first :: rest

/-- The path in the notation of source code. -/
def dotted (path : Path) : String :=
  ".".intercalate path

theorem dotted_eq (path : Path) : path.dotted = ".".intercalate path :=
  rfl

end Path

namespace Node

/-- The path of a chain of member reads over a variable read. -/
def path? : Node → Option Path
  | .getMember object member =>
      match member.text?, object.path? with
      | some name, some path => some (path ++ [name])
      | _, _ => none
  | .getVariable name => name.text?.map ([·])
  | _ => none

/-- The chain that reads a path.  The empty path names nothing. -/
def ofPath? : Path → Option Node
  | [] => none
  | first :: rest => some (rest.foldl memberNamed (variableNamed first))

/-- The path that a write assigns to, ending in the assigned name. -/
def writePath? : Node → Option Path
  | .setMember object member _ =>
      match member.text?, object.path? with
      | some name, some path => some (path ++ [name])
      | _, _ => none
  | .setVariable name _ => name.text?.map ([·])
  | _ => none

/-- The expression that reads what a write assigns to. -/
def target? : Node → Option Node
  | .setMember object member _ => some (.getMember object member)
  | .setVariable name _ => some (.getVariable name)
  | _ => none

/-- Remove the root namespace from the start of a chain.  Whatever does not
start there is left as it is, and so is the bare root. -/
def withoutRoot (root : String) : Node → Node
  | .getMember (.getVariable name) member =>
      if name.text? = some root then .getVariable member
      else .getMember (.getVariable name) member
  | .getMember (.getMember object inner) member =>
      .getMember ((Node.getMember object inner).withoutRoot root) member
  | node => node

/-- The one further name by which an expression extends a path, and nothing
when it lies deeper, elsewhere or has no path. -/
def memberOf? (parent : Path) (node : Node) : Option String :=
  node.path?.bind fun path =>
    if path.dropLast = parent then path.getLast? else none

theorem memberOf?_eq_some_iff (parent : Path) (node : Node) (name : String) :
    node.memberOf? parent = some name ↔ node.path? = some (parent ++ [name]) := by
  constructor
  · intro found
    rcases Option.bind_eq_some_iff.mp found with ⟨path, hasPath, extended⟩
    split at extended
    · next shorter =>
        rcases List.getLast?_eq_some_iff.mp extended with ⟨front, whole⟩
        rw [whole, List.dropLast_concat] at shorter
        rw [hasPath, whole, shorter]
    · cases extended
  · intro hasPath
    rw [memberOf?, hasPath, Option.bind_some, List.dropLast_concat, if_pos rfl,
      List.getLast?_concat]

end Node

end ClassRecovery
