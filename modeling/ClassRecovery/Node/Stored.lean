import ClassRecovery.Node.Basic
import ClassRecovery.Binary64.Rounding
import ClassRecovery.Json.Basic

namespace ClassRecovery

/-!
# Trees stored as JSON

A node is stored as an object whose only field is named for the kind of node
and holds its parts; a kind without parts is stored as its bare name.  Fields
that a record does not know are ignored, and a missing optional field is read
as an absent value, though an absent value is always written.

What the format leaves open is collected in `TreeFormat`.  Doubles may be JSON
numbers or may be written by their bits, and a reader may or may not accept the
two looser spellings that decoders of this kind commonly allow: a record given
by position, and a bare name spelt as an object that holds null.

Functions, declarations, members and properties are records of their own, and
only these may be given by position.  The parts that belong to a kind of node or
literal itself are always named.

Decoding is one level deep and takes the decoder of the parts as an argument.
The knot is tied by the depth of the value, which is always enough because the
parts of a node are stored strictly inside it.
-/

/-- The decisions that a stored tree may be written or read by. -/
structure TreeFormat where
  writeDouble : Binary64 → Json
  readDouble? : Json → Option Binary64
  /-- Whether a record of its own may be an array of all its fields in order. -/
  positional : Bool
  /-- Whether a kind without parts may be an object that holds null. -/
  nullParts : Bool

/-- The field name under which a kind of node is stored. -/
def NodeKind.tag : NodeKind → String
  | .literal => "Direct"
  | kind => kind.name

/-- All kinds, in the order of their declaration. -/
def NodeKind.all : List NodeKind :=
  [.branch, .not, .getMember, .setMember, .getVariable, .setVariable, .literal, .newObject,
    .newMethod, .function, .storeRegister, .temporaryRegister, .callMethod, .callFunction, .pop,
    .push, .extendsClause, .implementsClause, .classDecl, .interfaceDecl, .unresolved]

def NodeKind.ofTag? (tag : String) : Option NodeKind :=
  NodeKind.all.find? (·.tag == tag)

theorem NodeKind.ofTag?_tag (kind : NodeKind) : NodeKind.ofTag? kind.tag = some kind := by
  cases kind <;> decide

namespace TreeFormat

/-! ## Writing -/

def tagged (tag : String) (parts : Json) : Json :=
  .object [(tag, parts)]

def ofNumber (number : UInt32) : Json :=
  .integer number.toNat

def ofTexts (texts : List String) : Json :=
  .array (texts.map .string)

def ofProperty (property : Property) : Json :=
  .object [("name", .string property.name), ("has_getter", .boolean property.hasGetter),
    ("has_setter", .boolean property.hasSetter), ("is_static", .boolean property.isStatic)]

mutual

/-- Store a node. -/
def ofNode (format : TreeFormat) : Node → Json
  | .branch condition onTrue onFalse => tagged "If" (.object [
      ("condition", ofNode format condition), ("on_true", .array (ofNodes format onTrue)),
      ("on_false", .array (ofNodes format onFalse))])
  | .not operand => tagged "Not" (ofNode format operand)
  | .getMember object member => tagged "GetMember" (.object [
      ("object", ofNode format object), ("member", ofNode format member)])
  | .setMember object member value => tagged "SetMember" (.object [
      ("object", ofNode format object), ("member", ofNode format member),
      ("value", ofNode format value)])
  | .getVariable name => tagged "GetVariable" (.object [("name", ofNode format name)])
  | .setVariable name value => tagged "SetVariable" (.object [
      ("name", ofNode format name), ("value", ofNode format value)])
  | .literal value => tagged "Direct" (ofLiteral format value)
  | .newObject name arguments => tagged "NewObject" (.object [
      ("name", ofNode format name), ("args", .array (ofNodes format arguments))])
  | .newMethod object method arguments => tagged "NewMethod" (.object [
      ("object", ofNode format object), ("method", ofNode format method),
      ("args", .array (ofNodes format arguments))])
  | .function value => tagged "Function" (ofFunction format value)
  | .storeRegister number value => tagged "StoreRegister" (.object [
      ("register", ofNumber number), ("value", ofNode format value)])
  | .temporaryRegister number value => tagged "TemporaryRegister" (.object [
      ("register", ofNumber number), ("value", ofNode format value)])
  | .callMethod object method arguments => tagged "CallMethod" (.object [
      ("object", ofNode format object), ("method", ofNode format method),
      ("args", .array (ofNodes format arguments))])
  | .callFunction name arguments => tagged "CallFunction" (.object [
      ("name", ofNode format name), ("args", .array (ofNodes format arguments))])
  | .pop => .string "Pop"
  | .push value => tagged "Push" (ofNode format value)
  | .extendsClause subclass superclass => tagged "Extends" (.object [
      ("subclass", ofNode format subclass), ("superclass", ofNode format superclass)])
  | .implementsClause subclass interfaces => tagged "ImplementsOp" (.object [
      ("subclass", ofNode format subclass), ("superclasses", .array (ofNodes format interfaces))])
  | .classDecl declaration => tagged "Class" (ofClass format declaration)
  | .interfaceDecl declaration => tagged "Interface" (ofInterface format declaration)
  | .unresolved text => tagged "Unresolved" (.string text)

def ofLiteral (format : TreeFormat) : Literal → Json
  | .string text => tagged "String" (.string text)
  | .integer value => tagged "Integer" (.integer value.toInt)
  | .double value => tagged "Double" (format.writeDouble value)
  | .boolean value => tagged "Boolean" (.boolean value)
  | .null => .string "Null"
  | .undefined => .string "Undefined"
  | .register number known => tagged "Register" (.object [
      ("number", ofNumber number), ("computed", ofOptional format known)])

def ofFunction (format : TreeFormat) : FunctionLiteral → Json
  | ⟨name, params, body, inferredName⟩ => .object [
      ("name", .string name), ("params", ofTexts params), ("body", .array (ofNodes format body)),
      ("calculated_name", ofOptional format inferredName)]

def ofMember (format : TreeFormat) : Member → Json
  | ⟨name, value⟩ => .object [("name", ofNode format name), ("value", ofNode format value)]

def ofClass (format : TreeFormat) : ClassDecl → Json
  | ⟨name, path, superclass, interfaces, members, staticFlags, properties⟩ => .object [
      ("name", ofNode format name), ("path", ofTexts path),
      ("extends", ofOptional format superclass), ("implements", .array (ofNodes format interfaces)),
      ("traits", .array (ofMembers format members)),
      ("traits_static", .array (staticFlags.map .boolean)),
      ("properties", .array (properties.map ofProperty))]

def ofInterface (format : TreeFormat) : InterfaceDecl → Json
  | ⟨name, path, superinterfaces⟩ => .object [
      ("name", ofNode format name), ("path", ofTexts path),
      ("superclasses", .array (ofNodes format superinterfaces))]

def ofNodes (format : TreeFormat) : List Node → List Json
  | [] => []
  | node :: rest => ofNode format node :: ofNodes format rest

def ofOptional (format : TreeFormat) : Option Node → Json
  | none => .null
  | some node => ofNode format node

def ofMembers (format : TreeFormat) : List Member → List Json
  | [] => []
  | member :: rest => ofMember format member :: ofMembers format rest

end

/-! ## Reading one level -/

/-- The tag of a stored variant, and its parts unless it is a bare name. -/
def variant? : Json → Option (String × Option Json)
  | .string tag => some (tag, none)
  | .object [(tag, parts)] => some (tag, some parts)
  | _ => none

/-- Whether a variant is spelt as one that has no parts. -/
def partless (format : TreeFormat) : Option Json → Bool
  | none => true
  | some .null => format.nullParts
  | some _ => false

/-- The named parts of a node or literal in the order of `names`, each one where
present. -/
def parts? (names : List String) : Json → Option (List (Option Json))
  | .object fields => some (names.map fun name => fields.lookup name)
  | _ => none

/-- The fields of a record in the order of `names`.  By position none may be left
out. -/
def fields? (format : TreeFormat) (names : List String) : Json → Option (List (Option Json))
  | .array elements =>
      if format.positional && elements.length == names.length then some (elements.map some)
      else none
  | json => parts? names json

def number? (json : Json) : Option UInt32 :=
  (json.natural? UInt32.size).map UInt32.ofNat

/-- A whole number of sixty-four bits with a sign. -/
def signed? (json : Json) : Option Int64 :=
  json.integer?.bind fun value =>
    if Int64.minValue.toInt ≤ value ∧ value ≤ Int64.maxValue.toInt then some (Int64.ofInt value) else none

/-- A list, each element read by the same reader. -/
def list? {α : Type} (read : Json → Option α) (json : Json) : Option (List α) :=
  json.elements?.bind fun elements => elements.mapM read

/-- An optional field.  A missing field and a null one are both absent. -/
def optional? {α : Type} (read : Json → Option α) : Option Json → Option (Option α)
  | none => some none
  | some .null => some none
  | some json => (read json).map some

def property? (format : TreeFormat) (json : Json) : Option Property := do
  match ← format.fields? ["name", "has_getter", "has_setter", "is_static"] json with
  | [name, hasGetter, hasSetter, isStatic] =>
      some ⟨← (← name).text?, ← (← hasGetter).boolean?, ← (← hasSetter).boolean?,
        ← (← isStatic).boolean?⟩
  | _ => none

def function? (format : TreeFormat) (part : Json → Option Node) (json : Json) :
    Option FunctionLiteral := do
  match ← format.fields? ["name", "params", "body", "calculated_name"] json with
  | [name, params, body, inferredName] =>
      some ⟨← (← name).text?, ← (← params).texts?, ← list? part (← body),
        ← optional? part inferredName⟩
  | _ => none

def member? (format : TreeFormat) (part : Json → Option Node) (json : Json) : Option Member := do
  match ← format.fields? ["name", "value"] json with
  | [name, value] => some ⟨← part (← name), ← part (← value)⟩
  | _ => none

def class? (format : TreeFormat) (part : Json → Option Node) (json : Json) : Option ClassDecl := do
  match ← format.fields? ["name", "path", "extends", "implements", "traits", "traits_static",
      "properties"] json with
  | [name, path, superclass, interfaces, members, staticFlags, properties] =>
      some ⟨← part (← name), ← (← path).texts?, ← optional? part superclass,
        ← list? part (← interfaces), ← list? (format.member? part) (← members),
        ← list? Json.boolean? (← staticFlags), ← list? format.property? (← properties)⟩
  | _ => none

def interface? (format : TreeFormat) (part : Json → Option Node) (json : Json) :
    Option InterfaceDecl := do
  match ← format.fields? ["name", "path", "superclasses"] json with
  | [name, path, superinterfaces] =>
      some ⟨← part (← name), ← (← path).texts?, ← list? part (← superinterfaces)⟩
  | _ => none

def literal? (format : TreeFormat) (part : Json → Option Node) (json : Json) :
    Option Literal := do
  match ← variant? json with
  | ("String", some text) => text.text?.map .string
  | ("Integer", some value) => (signed? value).map .integer
  | ("Double", some value) => (format.readDouble? value).map .double
  | ("Boolean", some value) => value.boolean?.map .boolean
  | ("Null", parts) => if format.partless parts then some .null else none
  | ("Undefined", parts) => if format.partless parts then some .undefined else none
  | ("Register", some parts) =>
      match ← parts? ["number", "computed"] parts with
      | [number, known] => some (.register (← number? (← number)) (← optional? part known))
      | _ => none
  | _ => none

/-- Read the parts of a node whose kind is known. -/
def nodeOfKind? (format : TreeFormat) (part : Json → Option Node) (json : Json) :
    NodeKind → Option Node
  | .branch => do
      match ← parts? ["condition", "on_true", "on_false"] json with
      | [condition, onTrue, onFalse] =>
          some (.branch (← part (← condition)) (← list? part (← onTrue)) (← list? part (← onFalse)))
      | _ => none
  | .not => (part json).map .not
  | .getMember => do
      match ← parts? ["object", "member"] json with
      | [object, member] => some (.getMember (← part (← object)) (← part (← member)))
      | _ => none
  | .setMember => do
      match ← parts? ["object", "member", "value"] json with
      | [object, member, value] =>
          some (.setMember (← part (← object)) (← part (← member)) (← part (← value)))
      | _ => none
  | .getVariable => do
      match ← parts? ["name"] json with
      | [name] => some (.getVariable (← part (← name)))
      | _ => none
  | .setVariable => do
      match ← parts? ["name", "value"] json with
      | [name, value] => some (.setVariable (← part (← name)) (← part (← value)))
      | _ => none
  | .literal => (format.literal? part json).map .literal
  | .newObject => do
      match ← parts? ["name", "args"] json with
      | [name, arguments] => some (.newObject (← part (← name)) (← list? part (← arguments)))
      | _ => none
  | .newMethod => do
      match ← parts? ["object", "method", "args"] json with
      | [object, method, arguments] =>
          some (.newMethod (← part (← object)) (← part (← method)) (← list? part (← arguments)))
      | _ => none
  | .function => (format.function? part json).map .function
  | .storeRegister => do
      match ← parts? ["register", "value"] json with
      | [number, value] => some (.storeRegister (← number? (← number)) (← part (← value)))
      | _ => none
  | .temporaryRegister => do
      match ← parts? ["register", "value"] json with
      | [number, value] => some (.temporaryRegister (← number? (← number)) (← part (← value)))
      | _ => none
  | .callMethod => do
      match ← parts? ["object", "method", "args"] json with
      | [object, method, arguments] =>
          some (.callMethod (← part (← object)) (← part (← method)) (← list? part (← arguments)))
      | _ => none
  | .callFunction => do
      match ← parts? ["name", "args"] json with
      | [name, arguments] => some (.callFunction (← part (← name)) (← list? part (← arguments)))
      | _ => none
  | .pop => none
  | .push => (part json).map .push
  | .extendsClause => do
      match ← parts? ["subclass", "superclass"] json with
      | [subclass, superclass] =>
          some (.extendsClause (← part (← subclass)) (← part (← superclass)))
      | _ => none
  | .implementsClause => do
      match ← parts? ["subclass", "superclasses"] json with
      | [subclass, interfaces] =>
          some (.implementsClause (← part (← subclass)) (← list? part (← interfaces)))
      | _ => none
  | .classDecl => (format.class? part json).map .classDecl
  | .interfaceDecl => (format.interface? part json).map .interfaceDecl
  | .unresolved => json.text?.map .unresolved

/-- Read a node, given a reader for the nodes stored inside it. -/
def nodeWith? (format : TreeFormat) (part : Json → Option Node) (json : Json) : Option Node := do
  let (tag, parts) ← variant? json
  let kind ← NodeKind.ofTag? tag
  if kind = .pop then
    if format.partless parts then some .pop else none
  else
    match parts with
    | some parts => format.nodeOfKind? part parts kind
    | none => none

/-- Read a node that is nested no deeper than a bound. -/
def nodeWithin? (format : TreeFormat) : Nat → Json → Option Node
  | 0, _ => none
  | bound + 1, json => format.nodeWith? (format.nodeWithin? bound) json

/-- Read a stored node. -/
def node? (format : TreeFormat) (json : Json) : Option Node :=
  format.nodeWithin? json.depth json

/-! ## The two formats -/

/-- A finite double as a number.  JSON has no other doubles, and null stands for
them. -/
def decimalOfDouble (value : Binary64) : Json :=
  match value.shortest? with
  | some decimal => .decimal decimal
  | none => .null

/-- The finite double nearest to a number. -/
def doubleOfNumber? (json : Json) : Option Binary64 :=
  let decimal? : Option Decimal := match json with
    | .integer value => some (Decimal.ofInt value)
    | .decimal value => some value
    | _ => none
  decimal?.bind fun decimal =>
    let number := Binary64.nearest decimal
    if number.isFinite then some number else none

/-- The sixteen hexadecimal digits of the bits, the most significant first. -/
def hexOfDouble (value : Binary64) : Json :=
  let digits := Nat.toDigits 16 value.bits.toNat
  .string (String.ofList (List.replicate (16 - digits.length) '0' ++ digits))

def hexDigitValue? (digit : Char) : Option Nat :=
  let code := digit.toNat
  if 48 ≤ code ∧ code ≤ 57 then some (code - 48)
  else if 97 ≤ code ∧ code ≤ 102 then some (code - 87)
  else none

/-- Exactly sixteen digits, the letters in lower case. -/
def doubleOfHex? (json : Json) : Option Binary64 := do
  let digits := (← json.text?).toList
  if digits.length = 16 then
    let value ← digits.foldlM (fun value digit => (hexDigitValue? digit).map (value * 16 + ·)) 0
    some ⟨UInt64.ofNat value⟩
  else none

/-- Doubles are numbers, and both looser spellings are read. -/
def plain : TreeFormat :=
  ⟨decimalOfDouble, doubleOfNumber?, true, true⟩

/-- Doubles are written by their bits, so that none is altered or lost, and only
the spellings that are written are read. -/
def exact : TreeFormat :=
  ⟨hexOfDouble, doubleOfHex?, false, false⟩

end TreeFormat

end ClassRecovery
