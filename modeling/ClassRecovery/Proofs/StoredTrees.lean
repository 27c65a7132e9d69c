import Mathlib.Logic.Relation
import ClassRecovery.Proofs.StoredGrammar

namespace ClassRecovery

/-!
# Trees that are stored and read again

The values that are read as a tree are exactly those that store one, however deeply they
are nested.
-/

namespace TreeFormat

/-! ## Whole trees

The rules look only at values inside of the one that they are about. -/

/-- Where one relation holds of a value that is nested less deeply than a bound, the other
does too. -/
def ImpliesBelow {α : Type} (bound : Nat) (part other : Json → α → Prop) : Prop :=
  ∀ json value, json.depth < bound → part json value → other json value

/-- What stands in a field is nested less deeply than a bound. -/
def Inside (bound : Nat) (field : Option Json) : Prop :=
  ∀ json, field = some json → json.depth < bound

theorem ImpliesBelow.mono {α : Type} {bound smaller : Nat} {part other : Json → α → Prop}
    (below : ImpliesBelow bound part other) (less : smaller ≤ bound) :
    ImpliesBelow smaller part other :=
  fun json value inside => below json value (Nat.lt_of_lt_of_le inside less)

theorem inside_some {bound : Nat} {json : Json} (less : json.depth < bound) :
    Inside bound (some json) := by
  rintro _ ⟨⟩
  exact less

theorem depth_lt_of_mem {element : Json} {elements : List Json} (member : element ∈ elements) :
    element.depth < (Json.array elements).depth :=
  Nat.lt_succ_of_le (Json.depth_le_of_mem member)

theorem inside_lookup (fields : List (String × Json)) (name : String) :
    Inside (Json.object fields).depth (fields.lookup name) := by
  intro json found
  rcases List.lookup_eq_some_iff.mp found with ⟨before, behind, rfl, -⟩
  exact Nat.lt_succ_of_le (Json.depth_le_of_mem_fields (List.mem_append_right _ List.mem_cons_self))

theorem depth_lt_tagged (tag : String) (json : Json) : json.depth < (tagged tag json).depth :=
  Nat.lt_succ_of_le (Nat.le_max_left _ _)

theorem inside_tagged_lookup (tag : String) (fields : List (String × Json)) (name : String) :
    Inside (tagged tag (.object fields)).depth (fields.lookup name) :=
  fun json found => Nat.lt_trans (inside_lookup fields name json found) (depth_lt_tagged tag _)

section Implication

variable {α : Type} {bound : Nat} {field : Option Json}

theorem One.imp {part other : Json → α → Prop} {value : α}
    (below : ImpliesBelow bound part other) (inside : Inside bound field) :
    One part field value → One other field value := by
  rintro ⟨stored⟩
  exact .intro (below _ _ (inside _ rfl) stored)

theorem Many.imp {part other : Json → α → Prop} {values : List α}
    (below : ImpliesBelow bound part other) (inside : Inside bound field) :
    Many part field values → Many other field values := by
  rintro ⟨stored⟩
  have both := (List.forall₂_and_left _ _).mpr
    ⟨fun element member => Nat.lt_trans (depth_lt_of_mem member) (inside _ rfl), stored⟩
  exact .intro (both.imp fun json value part => below json value part.1 part.2)

theorem Perhaps.imp {part other : Json → α → Prop} {value : Option α}
    (below : ImpliesBelow bound part other) (inside : Inside bound field) :
    Perhaps part field value → Perhaps other field value := by
  rintro (_ | _ | ⟨given, stored⟩)
  · exact .missing
  · exact .null
  · exact .present given (below _ _ (inside _ rfl) stored)

theorem Record.imp {format : TreeFormat} {names : List String} {json : Json} {value : α}
    {parts others : List (Option Json) → α → Prop}
    (step : ∀ fields, (∀ field ∈ fields, Inside json.depth field) → parts fields value →
      others fields value) :
    format.Record names parts json value → format.Record names others json value := by
  rintro (stored | ⟨allowed, whole, stored⟩)
  · refine .named (step _ (fun field member => ?_) stored)
    rcases List.mem_map.mp member with ⟨name, -, rfl⟩
    exact inside_lookup _ name
  · refine .positional allowed whole (step _ (fun field member => ?_) stored)
    rcases List.mem_map.mp member with ⟨element, inArray, rfl⟩
    exact inside_some (depth_lt_of_mem inArray)

variable {part other : Json → Node → Prop}

section Records

variable (below : ImpliesBelow bound part other)

include below

theorem FunctionParts.imp {fields : List (Option Json)} {function : FunctionLiteral}
    (inside : ∀ field ∈ fields, Inside bound field) :
    FunctionParts part fields function → FunctionParts other fields function := by
  rintro ⟨name, params, bodyStored, inferredStored⟩
  exact .intro name params (bodyStored.imp below (inside _ (by simp)))
    (inferredStored.imp below (inside _ (by simp)))

theorem MemberParts.imp {fields : List (Option Json)} {member : Member}
    (inside : ∀ field ∈ fields, Inside bound field) :
    MemberParts part fields member → MemberParts other fields member := by
  rintro ⟨nameStored, valueStored⟩
  exact .intro (nameStored.imp below (inside _ (by simp)))
    (valueStored.imp below (inside _ (by simp)))

theorem ClassParts.imp {format : TreeFormat} {fields : List (Option Json)}
    {declaration : ClassDecl} (inside : ∀ field ∈ fields, Inside bound field) :
    ClassParts format part fields declaration → ClassParts format other fields declaration := by
  rintro ⟨path, staticFlags, nameStored, superclassStored, interfacesStored, membersStored,
    propertiesStored⟩
  have members : ImpliesBelow bound (format.Record memberFields (MemberParts part))
      (format.Record memberFields (MemberParts other)) := fun json member less =>
    Record.imp fun fields => MemberParts.imp (below.mono (Nat.le_of_lt less))
  exact .intro path staticFlags (nameStored.imp below (inside _ (by simp)))
    (superclassStored.imp below (inside _ (by simp)))
    (interfacesStored.imp below (inside _ (by simp)))
    (membersStored.imp members (inside _ (by simp))) propertiesStored

theorem InterfaceParts.imp {fields : List (Option Json)} {declaration : InterfaceDecl}
    (inside : ∀ field ∈ fields, Inside bound field) :
    InterfaceParts part fields declaration → InterfaceParts other fields declaration := by
  rintro ⟨path, nameStored, superinterfacesStored⟩
  exact .intro path (nameStored.imp below (inside _ (by simp)))
    (superinterfacesStored.imp below (inside _ (by simp)))

end Records

theorem One.imp_tagged {tag name : String} {fields : List (String × Json)} {node : Node}
    (below : ImpliesBelow (tagged tag (.object fields)).depth part other)
    (stored : One part (fields.lookup name) node) : One other (fields.lookup name) node :=
  stored.imp below (inside_tagged_lookup tag fields name)

theorem Many.imp_tagged {tag name : String} {fields : List (String × Json)} {nodes : List Node}
    (below : ImpliesBelow (tagged tag (.object fields)).depth part other)
    (stored : Many part (fields.lookup name) nodes) : Many other (fields.lookup name) nodes :=
  stored.imp below (inside_tagged_lookup tag fields name)

theorem StoresLiteral.imp {format : TreeFormat} {json : Json} {value : Literal}
    (below : ImpliesBelow json.depth part other) :
    format.StoresLiteral part json value → format.StoresLiteral other json value := by
  intro stored
  cases stored with
  | string text => exact .string text
  | integer value => exact .integer value
  | double read => exact .double read
  | boolean value => exact .boolean value
  | null bare => exact .null bare
  | undefined bare => exact .undefined bare
  | register numberStored knownStored =>
      exact .register numberStored (knownStored.imp below (inside_tagged_lookup _ _ _))

theorem StoresNode.imp {format : TreeFormat} {json : Json} {node : Node}
    (below : ImpliesBelow json.depth part other) :
    format.StoresNode part json node → format.StoresNode other json node := by
  intro stored
  cases stored with
  | branch conditionStored onTrueStored onFalseStored =>
      exact .branch (conditionStored.imp_tagged below) (onTrueStored.imp_tagged below)
        (onFalseStored.imp_tagged below)
  | not stored => exact .not (below _ _ (depth_lt_tagged _ _) stored)
  | getMember objectStored memberStored =>
      exact .getMember (objectStored.imp_tagged below) (memberStored.imp_tagged below)
  | setMember objectStored memberStored valueStored =>
      exact .setMember (objectStored.imp_tagged below) (memberStored.imp_tagged below)
        (valueStored.imp_tagged below)
  | getVariable nameStored =>
      exact .getVariable (nameStored.imp_tagged below)
  | setVariable nameStored valueStored =>
      exact .setVariable (nameStored.imp_tagged below) (valueStored.imp_tagged below)
  | literal stored =>
      exact .literal (stored.imp (below.mono (Nat.le_of_lt (depth_lt_tagged _ _))))
  | newObject nameStored argumentsStored =>
      exact .newObject (nameStored.imp_tagged below) (argumentsStored.imp_tagged below)
  | newMethod objectStored methodStored argumentsStored =>
      exact .newMethod (objectStored.imp_tagged below) (methodStored.imp_tagged below)
        (argumentsStored.imp_tagged below)
  | function stored =>
      exact .function (stored.imp fun fields =>
        FunctionParts.imp (below.mono (Nat.le_of_lt (depth_lt_tagged _ _))))
  | storeRegister numberStored valueStored =>
      exact .storeRegister numberStored (valueStored.imp_tagged below)
  | temporaryRegister numberStored valueStored =>
      exact .temporaryRegister numberStored (valueStored.imp_tagged below)
  | callMethod objectStored methodStored argumentsStored =>
      exact .callMethod (objectStored.imp_tagged below) (methodStored.imp_tagged below)
        (argumentsStored.imp_tagged below)
  | callFunction nameStored argumentsStored =>
      exact .callFunction (nameStored.imp_tagged below) (argumentsStored.imp_tagged below)
  | pop bare => exact .pop bare
  | push stored => exact .push (below _ _ (depth_lt_tagged _ _) stored)
  | extendsClause subclassStored superclassStored =>
      exact .extendsClause (subclassStored.imp_tagged below) (superclassStored.imp_tagged below)
  | implementsClause subclassStored interfacesStored =>
      exact .implementsClause (subclassStored.imp_tagged below) (interfacesStored.imp_tagged below)
  | classDecl stored =>
      exact .classDecl (stored.imp fun fields =>
        ClassParts.imp (below.mono (Nat.le_of_lt (depth_lt_tagged _ _))))
  | interfaceDecl stored =>
      exact .interfaceDecl (stored.imp fun fields =>
        InterfaceParts.imp (below.mono (Nat.le_of_lt (depth_lt_tagged _ _))))
  | unresolved text => exact .unresolved text

end Implication

/-- A value that is read stores what it is read as, whatever bound was set. -/
theorem stores_of_nodeWithin? {format : TreeFormat} {bound : Nat} {json : Json} {node : Node}
    (read : format.nodeWithin? bound json = some node) : format.Stores json node := by
  induction bound generalizing json node with
  | zero => cases read
  | succ bound hypothesis =>
      have level := nodeWith?_eq_some_iff.mp read
      exact .intro (level.imp fun inner node _ stored => hypothesis stored)

theorem nodeWithin?_of_stores {format : TreeFormat} {bound : Nat} {json : Json} {node : Node}
    (stored : format.Stores json node) (enough : json.depth ≤ bound) :
    format.nodeWithin? bound json = some node := by
  induction bound generalizing json node with
  | zero => cases json <;> cases enough
  | succ bound hypothesis =>
      cases stored with
      | intro level =>
          exact nodeWith?_eq_some_iff.mpr (level.imp fun inner node less stored =>
            hypothesis stored (Nat.le_of_lt_succ (Nat.lt_of_lt_of_le less enough)))

/-- The values that are read are those that store a tree. -/
theorem node?_eq_some_iff {format : TreeFormat} {json : Json} {node : Node} :
    format.node? json = some node ↔ format.Stores json node :=
  ⟨stores_of_nodeWithin?, fun stored => nodeWithin?_of_stores stored (Nat.le_refl _)⟩

/-! ## What is written -/

/-- All doubles of a list are read as they are written. -/
def Readable (format : TreeFormat) (values : List Binary64) : Prop :=
  ∀ value ∈ values, format.readDouble? (format.writeDouble value) = some value

theorem Readable.front {format : TreeFormat} {front back : List Binary64}
    (readable : format.Readable (front ++ back)) : format.Readable front :=
  fun value member => readable value (List.mem_append_left _ member)

theorem Readable.back {format : TreeFormat} {front back : List Binary64}
    (readable : format.Readable (front ++ back)) : format.Readable back :=
  fun value member => readable value (List.mem_append_right _ member)

theorem property_ofProperty (format : TreeFormat) (property : Property) :
    format.Record propertyFields PropertyParts (ofProperty property) property :=
  .named (.intro _ _ _ _)

theorem properties_ofProperty (format : TreeFormat) (properties : List Property) :
    List.Forall₂ (format.Record propertyFields PropertyParts) (properties.map ofProperty)
      properties := by
  rw [List.forall₂_map_left_iff, List.forall₂_same]
  exact fun property _ => property_ofProperty format property

theorem ofNode_ne_null {format : TreeFormat} (node : Node) : format.ofNode node ≠ .null := by
  intro null
  cases node <;> cases null

/-! What is written stores the tree that it was written for.  The induction is on the tree,
with one case for every kind of node. -/

mutual

theorem stores_ofNode {format : TreeFormat} : (node : Node) → format.Readable node.doubles →
    format.Stores (format.ofNode node) node
  | .branch condition onTrue onFalse, readable =>
      .intro (.branch (.intro (stores_ofNode condition readable.front.front))
        (.intro (stores_ofNodes onTrue readable.front.back))
        (.intro (stores_ofNodes onFalse readable.back)))
  | .not operand, readable => .intro (.not (stores_ofNode operand readable))
  | .getMember object member, readable =>
      .intro (.getMember (.intro (stores_ofNode object readable.front))
        (.intro (stores_ofNode member readable.back)))
  | .setMember object member value, readable =>
      .intro (.setMember (.intro (stores_ofNode object readable.front.front))
        (.intro (stores_ofNode member readable.front.back))
        (.intro (stores_ofNode value readable.back)))
  | .getVariable name, readable => .intro (.getVariable (.intro (stores_ofNode name readable)))
  | .setVariable name value, readable =>
      .intro (.setVariable (.intro (stores_ofNode name readable.front))
        (.intro (stores_ofNode value readable.back)))
  | .literal value, readable => .intro (.literal (storesLiteral_ofLiteral value readable))
  | .newObject name arguments, readable =>
      .intro (.newObject (.intro (stores_ofNode name readable.front))
        (.intro (stores_ofNodes arguments readable.back)))
  | .newMethod object method arguments, readable =>
      .intro (.newMethod (.intro (stores_ofNode object readable.front.front))
        (.intro (stores_ofNode method readable.front.back))
        (.intro (stores_ofNodes arguments readable.back)))
  | .function value, readable => .intro (.function (function_ofFunction value readable))
  | .storeRegister _ value, readable =>
      .intro (.storeRegister rfl (.intro (stores_ofNode value readable)))
  | .temporaryRegister _ value, readable =>
      .intro (.temporaryRegister rfl (.intro (stores_ofNode value readable)))
  | .callMethod object method arguments, readable =>
      .intro (.callMethod (.intro (stores_ofNode object readable.front.front))
        (.intro (stores_ofNode method readable.front.back))
        (.intro (stores_ofNodes arguments readable.back)))
  | .callFunction name arguments, readable =>
      .intro (.callFunction (.intro (stores_ofNode name readable.front))
        (.intro (stores_ofNodes arguments readable.back)))
  | .pop, _ => .intro (.pop .name)
  | .push value, readable => .intro (.push (stores_ofNode value readable))
  | .extendsClause subclass superclass, readable =>
      .intro (.extendsClause (.intro (stores_ofNode subclass readable.front))
        (.intro (stores_ofNode superclass readable.back)))
  | .implementsClause subclass interfaces, readable =>
      .intro (.implementsClause (.intro (stores_ofNode subclass readable.front))
        (.intro (stores_ofNodes interfaces readable.back)))
  | .classDecl declaration, readable => .intro (.classDecl (class_ofClass declaration readable))
  | .interfaceDecl declaration, readable =>
      .intro (.interfaceDecl (interface_ofInterface declaration readable))
  | .unresolved text, _ => .intro (.unresolved text)

theorem storesLiteral_ofLiteral {format : TreeFormat} : (value : Literal) →
    format.Readable value.doubles →
    format.StoresLiteral format.Stores (format.ofLiteral value) value
  | .string text, _ => .string text
  | .integer value, _ => .integer value
  | .double value, readable => .double (readable value List.mem_cons_self)
  | .boolean value, _ => .boolean value
  | .null, _ => .null .name
  | .undefined, _ => .undefined .name
  | .register _ known, readable => .register rfl (perhaps_ofOptional known readable)

theorem function_ofFunction {format : TreeFormat} : (function : FunctionLiteral) →
    format.Readable function.doubles →
    format.Record functionFields (FunctionParts format.Stores) (format.ofFunction function) function
  | ⟨name, params, body, inferredName⟩, readable =>
      .named (.intro name params (.intro (stores_ofNodes body readable.front))
        (perhaps_ofOptional inferredName readable.back))

theorem member_ofMember {format : TreeFormat} : (member : Member) →
    format.Readable member.doubles →
    format.Record memberFields (MemberParts format.Stores) (format.ofMember member) member
  | ⟨name, value⟩, readable =>
      .named (.intro (.intro (stores_ofNode name readable.front))
        (.intro (stores_ofNode value readable.back)))

theorem class_ofClass {format : TreeFormat} : (declaration : ClassDecl) →
    format.Readable declaration.doubles →
    format.Record classFields (ClassParts format format.Stores) (format.ofClass declaration)
      declaration
  | ⟨name, path, superclass, interfaces, members, staticFlags, properties⟩, readable =>
      .named (.intro path staticFlags (.intro (stores_ofNode name readable.front.front.front))
        (perhaps_ofOptional superclass readable.front.front.back)
        (.intro (stores_ofNodes interfaces readable.front.back))
        (.intro (members_ofMembers members readable.back))
        (.intro (properties_ofProperty format properties)))

theorem interface_ofInterface {format : TreeFormat} : (declaration : InterfaceDecl) →
    format.Readable declaration.doubles →
    format.Record interfaceFields (InterfaceParts format.Stores) (format.ofInterface declaration)
      declaration
  | ⟨name, path, superinterfaces⟩, readable =>
      .named (.intro path (.intro (stores_ofNode name readable.front))
        (.intro (stores_ofNodes superinterfaces readable.back)))

theorem stores_ofNodes {format : TreeFormat} : (nodes : List Node) →
    format.Readable (doublesOfNodes nodes) →
    List.Forall₂ format.Stores (format.ofNodes nodes) nodes
  | [], _ => .nil
  | node :: rest, readable =>
      .cons (stores_ofNode node readable.front) (stores_ofNodes rest readable.back)

theorem perhaps_ofOptional {format : TreeFormat} : (node : Option Node) →
    format.Readable (doublesOfOptional node) →
    Perhaps format.Stores (some (format.ofOptional node)) node
  | none, _ => .null
  | some node, readable => .present (ofNode_ne_null node) (stores_ofNode node readable)

theorem members_ofMembers {format : TreeFormat} : (members : List Member) →
    format.Readable (doublesOfMembers members) →
    List.Forall₂ (format.Record memberFields (MemberParts format.Stores)) (format.ofMembers members)
      members
  | [], _ => .nil
  | member :: rest, readable =>
      .cons (member_ofMember member readable.front) (members_ofMembers rest readable.back)

end

/-- What is written is read as the tree that it was written for. -/
theorem node?_ofNode {format : TreeFormat} {node : Node} (readable : format.Readable node.doubles) :
    format.node? (format.ofNode node) = some node :=
  node?_eq_some_iff.mpr (stores_ofNode node readable)

/-! ## Numbers out of range -/

/-- An integer that a signed word of sixty-four bits cannot hold, or a register whose number
a word of thirty-two bits cannot hold. -/
inductive BeyondRange : Json → Prop where
  | integer {value : Int} (beyond : value < Int64.minValue.toInt ∨ Int64.maxValue.toInt < value) :
      BeyondRange (tagged "Direct" (tagged "Integer" (.integer value)))
  | register {fields : List (String × Json)} {number : Int}
      (given : fields.lookup "number" = some (.integer number))
      (beyond : number < 0 ∨ UInt32.size ≤ number) :
      BeyondRange (tagged "Direct" (tagged "Register" (.object fields)))
  | storeRegister {fields : List (String × Json)} {number : Int}
      (given : fields.lookup "register" = some (.integer number))
      (beyond : number < 0 ∨ UInt32.size ≤ number) :
      BeyondRange (tagged "StoreRegister" (.object fields))
  | temporaryRegister {fields : List (String × Json)} {number : Int}
      (given : fields.lookup "register" = some (.integer number))
      (beyond : number < 0 ∨ UInt32.size ≤ number) :
      BeyondRange (tagged "TemporaryRegister" (.object fields))

/-- A value rests on another when it is read only if the other is, whatever reads the values
inside of it.  No value is needed for the reading of a value but those that it rests on. -/
def RestsOn (format : TreeFormat) (json inner : Json) : Prop :=
  ∀ part node, format.nodeWith? part json = some node → ∃ innerNode, part inner = some innerNode

theorem signed?_of_beyond {value : Int}
    (beyond : value < Int64.minValue.toInt ∨ Int64.maxValue.toInt < value) :
    signed? (.integer value) = none := by
  refine Option.eq_none_iff_forall_ne_some.mpr fun word read => ?_
  cases signed?_eq_some_iff.mp read
  have above := word.minValue_le_toInt
  have below := word.toInt_le
  omega

theorem number?_of_beyond {number : Int} (beyond : number < 0 ∨ UInt32.size ≤ number) :
    number? (.integer number) = none := by
  refine Option.eq_none_iff_forall_ne_some.mpr fun word read => ?_
  have same : number = word.toNat := by
    cases number?_eq_some_iff.mp read
    rfl
  have below : word.toNat < UInt32.size := word.toNat_lt
  omega

theorem nodeWith?_of_beyondRange {format : TreeFormat} {part : Json → Option Node} {json : Json}
    (beyond : BeyondRange json) : format.nodeWith? part json = none := by
  cases beyond with
  | integer beyond =>
      refine (nodeWith?_tagged .literal (by decide)).trans ?_
      simp only [nodeOfKind?, literal?, variant?, tagged, Option.bind_eq_bind, Option.bind_some,
        signed?_of_beyond beyond, Option.map_none]
  | register given beyond =>
      refine (nodeWith?_tagged .literal (by decide)).trans ?_
      simp only [nodeOfKind?, literal?, variant?, tagged, parts?, List.map, Option.bind_eq_bind,
        Option.bind_some, given, number?_of_beyond beyond, Option.bind_none, Option.map_none]
  | storeRegister given beyond =>
      refine (nodeWith?_tagged .storeRegister (by decide)).trans ?_
      simp only [nodeOfKind?, parts?, List.map, Option.bind_eq_bind, Option.bind_some, given,
        number?_of_beyond beyond, Option.bind_none]
  | temporaryRegister given beyond =>
      refine (nodeWith?_tagged .temporaryRegister (by decide)).trans ?_
      simp only [nodeOfKind?, parts?, List.map, Option.bind_eq_bind, Option.bind_some, given,
        number?_of_beyond beyond, Option.bind_none]

theorem nodeWithin?_of_beyondRange {format : TreeFormat} {json : Json}
    (beyond : BeyondRange json) (bound : Nat) : format.nodeWithin? bound json = none := by
  cases bound with
  | zero => rfl
  | succ bound => exact nodeWith?_of_beyondRange beyond

/-- What a value rests on is read itself, at any depth. -/
theorem exists_nodeWithin?_of_restsOn {format : TreeFormat} {json inner : Json}
    (rests : Relation.ReflTransGen format.RestsOn json inner) {node : Node}
    (read : format.node? json = some node) :
    ∃ bound innerNode, format.nodeWithin? bound inner = some innerNode := by
  induction rests with
  | refl => exact ⟨json.depth, node, read⟩
  | tail _ last hypothesis =>
      obtain ⟨bound, outer, outerRead⟩ := hypothesis
      cases bound with
      | zero => cases outerRead
      | succ bound => exact ⟨bound, last _ outer outerRead⟩

theorem restsOn_push (format : TreeFormat) (inner : Json) :
    format.RestsOn (tagged "Push" inner) inner := by
  intro part node read
  have pushed := (nodeWith?_tagged .push (by decide)).symm.trans read
  obtain ⟨value, innerRead, -⟩ := Option.map_eq_some_iff.mp pushed
  exact ⟨value, innerRead⟩

/-- Every tree without doubles, however deeply it is nested, is read back from the JSON that
it is written as.  The values that are read at all are those of the grammar, in which an
optional field may be missing or null, a field that no record knows may stand anywhere, a
kind without parts may be an object that holds null, and a record of its own may be given by
position.  Where such a value is read as a tree without doubles, that tree is written and
read again without change, and written as the same JSON again.  An integer or a register
that is out of range is refused, and so is every value that rests on one, at any depth. -/
theorem plain_roundTrip (json : Json) (node : Node) :
    (node.doubles = [] → plain.node? (plain.ofNode node) = some node) ∧
    (plain.node? json = some node ↔ plain.Stores json node) ∧
    (plain.node? json = some node → node.doubles = [] →
      ∃ again, ((plain.node? json).map plain.ofNode).bind plain.node? = some again ∧
        again = node ∧ plain.ofNode again = plain.ofNode node) ∧
    (∀ inner, BeyondRange inner → Relation.ReflTransGen plain.RestsOn json inner →
      plain.node? json = none) := by
  have readBack (doubleFree : node.doubles = []) : plain.node? (plain.ofNode node) = some node :=
    node?_ofNode fun value member => by rw [doubleFree] at member; cases member
  refine ⟨readBack, node?_eq_some_iff, fun read doubleFree => ⟨node, ?_, rfl, rfl⟩,
    fun inner beyond rests => Option.eq_none_iff_forall_ne_some.mpr fun outer read => ?_⟩
  · rw [read, Option.map_some, Option.bind_some, readBack doubleFree]
  · obtain ⟨bound, innerNode, innerRead⟩ := exists_nodeWithin?_of_restsOn rests read
    rw [nodeWithin?_of_beyondRange beyond] at innerRead
    cases innerRead

/-- A store to a register, with its fields out of order, one that no record knows among them
and null spelt as an object, and a value that pushes an integer that is out of range. -/
theorem plain_roundTrip_loose :
    let loose : Json := .object [("StoreRegister", .object
      [("value", .object [("Direct", .object [("Null", .null)])]), ("comment", .integer 1),
        ("register", .integer 2)])]
    let node : Node := .storeRegister 2 .null
    let beyond : Json := tagged "Direct" (tagged "Integer" (.integer 9223372036854775808))
    plain.node? loose = some node ∧
    (∃ again, ((plain.node? loose).map plain.ofNode).bind plain.node? = some again ∧
      again = node ∧ plain.ofNode again = plain.ofNode node) ∧
    plain.node? (tagged "Push" beyond) = none := by
  intro loose node beyond
  have read : plain.node? loose = some node := rfl
  exact ⟨read, (plain_roundTrip loose node).2.2.1 read rfl,
    (plain_roundTrip (tagged "Push" beyond) node).2.2.2 beyond (.integer (by decide))
      (.single (restsOn_push plain beyond))⟩

end TreeFormat

end ClassRecovery
