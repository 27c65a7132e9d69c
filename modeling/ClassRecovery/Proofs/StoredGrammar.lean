import ClassRecovery.Node.Spelling

namespace ClassRecovery

/-!
# One level of a stored tree

One level of a value is read as a node exactly when it stores the node, the nodes right
inside it being what the reader of the parts makes of them.
-/

namespace Json

theorem text?_eq_some_iff {json : Json} {text : String} :
    json.text? = some text ↔ json = .string text := by
  cases json <;> simp [text?]

theorem boolean?_eq_some_iff {json : Json} {value : Bool} :
    json.boolean? = some value ↔ json = .boolean value := by
  cases json <;> simp [boolean?]

theorem integer?_eq_some_iff {json : Json} {value : Int} :
    json.integer? = some value ↔ json = .integer value := by
  cases json <;> simp [integer?]

theorem elements?_eq_some_iff {json : Json} {elements : List Json} :
    json.elements? = some elements ↔ json = .array elements := by
  cases json <;> simp [elements?]

end Json

namespace TreeFormat

/-! ## Numbers and lists -/

theorem number?_eq_some_iff {json : Json} {number : UInt32} :
    number? json = some number ↔ json = ofNumber number := by
  unfold number? Json.natural? ofNumber
  simp only [Option.map_eq_some_iff, Option.bind_eq_some_iff, Json.integer?_eq_some_iff,
    Option.ite_none_right_eq_some, Option.some.injEq]
  constructor
  · rintro ⟨natural, ⟨value, rfl, ⟨positive, below⟩, rfl⟩, rfl⟩
    rw [UInt32.toNat_ofNat_of_lt' (by omega), Int.toNat_of_nonneg positive]
  · rintro rfl
    have below := number.toNat_lt
    exact ⟨number.toNat, ⟨_, rfl, ⟨Int.natCast_nonneg _, Int.ofNat_lt.mpr below⟩, rfl⟩,
      UInt32.ofNat_toNat⟩

theorem signed?_eq_some_iff {json : Json} {value : Int64} :
    signed? json = some value ↔ json = .integer value.toInt := by
  unfold signed?
  simp only [Option.bind_eq_some_iff, Json.integer?_eq_some_iff, Option.ite_none_right_eq_some,
    Option.some.injEq]
  constructor
  · rintro ⟨whole, rfl, ⟨above, below⟩, rfl⟩
    rw [Int64.toInt_ofInt_of_le above (Int.lt_add_one_of_le below)]
  · rintro rfl
    exact ⟨_, rfl, ⟨value.minValue_le_toInt, value.toInt_le⟩, Int64.ofInt_toInt value⟩

theorem mapM_eq_some_iff {α : Type} {read : Json → Option α} {elements : List Json}
    {values : List α} :
    elements.mapM read = some values ↔
      List.Forall₂ (fun json value => read json = some value) elements values := by
  induction elements generalizing values with
  | nil =>
      rw [List.mapM_nil, List.forall₂_nil_left_iff]
      exact Option.some_inj.trans eq_comm
  | cons element rest hypothesis =>
      rw [List.mapM_cons, List.forall₂_cons_left_iff]
      simp only [Option.bind_eq_bind, Option.bind_eq_some_iff, hypothesis, Option.pure_def,
        Option.some.injEq, exists_and_left, @eq_comm _ values]

theorem forall₂_eq_iff_map {α : Type} {store : α → Json} {elements : List Json}
    {values : List α} :
    List.Forall₂ (fun json value => json = store value) elements values ↔
      elements = values.map store := by
  rw [← List.forall₂_map_right_iff, List.forall₂_eq_eq_eq]

theorem list?_eq_some_iff {α : Type} {read : Json → Option α} {json : Json} {values : List α} :
    list? read json = some values ↔
      ∃ elements, json = .array elements ∧
        List.Forall₂ (fun json value => read json = some value) elements values := by
  unfold list?
  simp only [Option.bind_eq_some_iff, Json.elements?_eq_some_iff, mapM_eq_some_iff]

theorem texts?_eq_some_iff {json : Json} {texts : List String} :
    json.texts? = some texts ↔ json = ofTexts texts := by
  change list? Json.text? json = some texts ↔ _
  simp only [list?_eq_some_iff, Json.text?_eq_some_iff, forall₂_eq_iff_map, exists_eq_right]
  rfl

theorem booleans?_eq_some_iff {json : Json} {values : List Bool} :
    list? Json.boolean? json = some values ↔ json = .array (values.map .boolean) := by
  simp only [list?_eq_some_iff, Json.boolean?_eq_some_iff, forall₂_eq_iff_map, exists_eq_right]

/-! ## Parts

A reader of parts reads one part after the other and goes on with what it has read.  The
lemmas below say of one part at a time what may have been read. -/

section Parts

variable {α β : Type} {read : Json → Option α} {field : Option Json} {ending : β}

theorem bind_part_iff {stored : Json → α → Prop}
    (level : ∀ json value, read json = some value ↔ stored json value) {next : α → Option β} :
    (field.bind fun json => (read json).bind next) = some ending ↔
      ∃ value, One stored field value ∧ next value = some ending := by
  simp only [Option.bind_eq_some_iff, level]
  constructor
  · rintro ⟨json, rfl, value, here, rest⟩
    exact ⟨value, .intro here, rest⟩
  · rintro ⟨value, ⟨here⟩, rest⟩
    exact ⟨_, rfl, value, here, rest⟩

theorem one_eq_iff {store : α → Json} {value : α} :
    One (fun json value => json = store value) field value ↔ field = some (store value) := by
  constructor
  · rintro ⟨rfl⟩
    rfl
  · rintro rfl
    exact .intro rfl

theorem bind_text_iff {next : String → Option β} :
    (field.bind fun json => json.text?.bind next) = some ending ↔
      ∃ text, field = some (.string text) ∧ next text = some ending := by
  simp only [bind_part_iff fun _ _ => Json.text?_eq_some_iff, one_eq_iff]

theorem bind_boolean_iff {next : Bool → Option β} :
    (field.bind fun json => json.boolean?.bind next) = some ending ↔
      ∃ value, field = some (.boolean value) ∧ next value = some ending := by
  simp only [bind_part_iff fun _ _ => Json.boolean?_eq_some_iff, one_eq_iff]

theorem bind_number_iff {next : UInt32 → Option β} :
    (field.bind fun json => (number? json).bind next) = some ending ↔
      ∃ number, field = some (ofNumber number) ∧ next number = some ending := by
  simp only [bind_part_iff fun _ _ => number?_eq_some_iff, one_eq_iff]

theorem bind_texts_iff {next : List String → Option β} :
    (field.bind fun json => json.texts?.bind next) = some ending ↔
      ∃ texts, field = some (ofTexts texts) ∧ next texts = some ending := by
  simp only [bind_part_iff fun _ _ => texts?_eq_some_iff, one_eq_iff]

theorem bind_booleans_iff {next : List Bool → Option β} :
    (field.bind fun json => (list? Json.boolean? json).bind next) = some ending ↔
      ∃ values, field = some (.array (values.map .boolean)) ∧ next values = some ending := by
  simp only [bind_part_iff fun _ _ => booleans?_eq_some_iff, one_eq_iff]

theorem bind_many_iff {next : List α → Option β} {stored : Json → α → Prop}
    (level : ∀ json value, read json = some value ↔ stored json value) :
    (field.bind fun json => (list? read json).bind next) = some ending ↔
      ∃ values, Many stored field values ∧ next values = some ending := by
  simp only [Option.bind_eq_some_iff, list?_eq_some_iff, level]
  constructor
  · rintro ⟨_, rfl, values, ⟨elements, rfl, each⟩, rest⟩
    exact ⟨values, .intro each, rest⟩
  · rintro ⟨values, ⟨each⟩, rest⟩
    exact ⟨_, rfl, values, ⟨_, rfl, each⟩, rest⟩

theorem bind_node_iff {part : Json → Option Node} {next : Node → Option β} :
    (field.bind fun json => (part json).bind next) = some ending ↔
      ∃ node, One (fun json node => part json = some node) field node ∧ next node = some ending :=
  bind_part_iff fun _ _ => Iff.rfl

theorem bind_nodes_iff {part : Json → Option Node} {next : List Node → Option β} :
    (field.bind fun json => (list? part json).bind next) = some ending ↔
      ∃ nodes, Many (fun json node => part json = some node) field nodes ∧
        next nodes = some ending :=
  bind_many_iff fun _ _ => Iff.rfl

theorem optional?_eq_some_iff {value : Option α} :
    optional? read field = some value ↔
      Perhaps (fun json value => read json = some value) field value := by
  constructor
  · intro stored
    unfold optional? at stored
    split at stored
    · cases stored
      exact .missing
    · cases stored
      exact .null
    · next json other =>
        rcases Option.map_eq_some_iff.mp stored with ⟨value, found, rfl⟩
        exact .present other found
  · intro stored
    cases stored with
    | missing => rfl
    | null => rfl
    | present given stored =>
        unfold optional?
        split
        · next none => cases none
        · next null => exact absurd (Option.some.inj null) given
        · next same => rw [← Option.some.inj same, stored]; rfl

theorem bind_perhaps_iff {next : Option α → Option β} :
    (optional? read field).bind next = some ending ↔
      ∃ value, Perhaps (fun json value => read json = some value) field value ∧
        next value = some ending := by
  simp only [Option.bind_eq_some_iff, optional?_eq_some_iff]

end Parts

theorem record_iff {α : Type} {format : TreeFormat} {names : List String}
    {read : List (Option Json) → Option α} {parts : List (Option Json) → α → Prop}
    (level : ∀ values value, read values = some value ↔ parts values value) {json : Json}
    {value : α} :
    (format.fields? names json).bind read = some value ↔
      format.Record names parts json value := by
  simp only [Option.bind_eq_some_iff, level]
  constructor
  · rintro ⟨values, found, stored⟩
    unfold fields? at found
    split at found
    · rw [Option.ite_none_right_eq_some, Bool.and_eq_true, beq_iff_eq] at found
      rcases found with ⟨⟨allowed, whole⟩, same⟩
      cases same
      exact .positional allowed whole stored
    · unfold parts? at found
      split at found
      · cases found
        exact .named stored
      · cases found
  · rintro (stored | ⟨allowed, whole, stored⟩)
    · exact ⟨_, rfl, stored⟩
    · refine ⟨_, if_pos ?_, stored⟩
      rw [allowed, Bool.true_and, beq_iff_eq, whole]

section Records

variable {format : TreeFormat} {json : Json}

theorem property?_eq_some_iff {property : Property} :
    format.property? json = some property ↔
      format.Record propertyFields PropertyParts json property := by
  refine record_iff fun values property => ?_
  constructor
  · intro read
    split at read
    · simp only [Option.bind_eq_bind, bind_text_iff, bind_boolean_iff] at read
      obtain ⟨name, rfl, hasGetter, rfl, hasSetter, rfl, isStatic, rfl, ⟨⟩⟩ := read
      exact .intro name hasGetter hasSetter isStatic
    · cases read
  · rintro ⟨⟩
    rfl

variable {part : Json → Option Node}

theorem function?_eq_some_iff {function : FunctionLiteral} :
    format.function? part json = some function ↔
      format.Record functionFields (FunctionParts fun json node => part json = some node) json
        function := by
  refine record_iff fun values function => ?_
  constructor
  · intro read
    split at read
    · simp only [Option.bind_eq_bind, bind_text_iff, bind_texts_iff, bind_nodes_iff,
        bind_perhaps_iff] at read
      obtain ⟨name, rfl, params, rfl, body, bodyStored, inferredName, inferredStored, ⟨⟩⟩ := read
      exact .intro name params bodyStored inferredStored
    · cases read
  · rintro ⟨name, params, bodyStored, inferredStored⟩
    simp only [Option.bind_eq_bind, bind_text_iff, bind_texts_iff, bind_nodes_iff,
      bind_perhaps_iff]
    exact ⟨name, rfl, params, rfl, _, bodyStored, _, inferredStored, rfl⟩

theorem member?_eq_some_iff {member : Member} :
    format.member? part json = some member ↔
      format.Record memberFields (MemberParts fun json node => part json = some node) json
        member := by
  refine record_iff fun values member => ?_
  constructor
  · intro read
    split at read
    · simp only [Option.bind_eq_bind, bind_node_iff] at read
      obtain ⟨name, nameStored, value, valueStored, ⟨⟩⟩ := read
      exact .intro nameStored valueStored
    · cases read
  · rintro ⟨nameStored, valueStored⟩
    simp only [Option.bind_eq_bind, bind_node_iff]
    exact ⟨_, nameStored, _, valueStored, rfl⟩

theorem class?_eq_some_iff {declaration : ClassDecl} :
    format.class? part json = some declaration ↔
      format.Record classFields (ClassParts format fun json node => part json = some node) json
        declaration := by
  have membersLevel : ∀ json member, format.member? part json = some member ↔
      format.Record memberFields (MemberParts fun json node => part json = some node) json
        member := fun _ _ => member?_eq_some_iff
  have propertiesLevel : ∀ json property, format.property? json = some property ↔
      format.Record propertyFields PropertyParts json property := fun _ _ => property?_eq_some_iff
  refine record_iff fun values declaration => ?_
  constructor
  · intro read
    split at read
    · simp only [Option.bind_eq_bind, bind_texts_iff, bind_booleans_iff, bind_node_iff,
        bind_nodes_iff, bind_perhaps_iff, bind_many_iff membersLevel,
        bind_many_iff propertiesLevel] at read
      obtain ⟨name, nameStored, path, rfl, superclass, superclassStored, interfaces,
        interfacesStored, members, membersStored, staticFlags, rfl, properties,
        propertiesStored, ⟨⟩⟩ := read
      exact .intro path staticFlags nameStored superclassStored interfacesStored membersStored
        propertiesStored
    · cases read
  · rintro ⟨path, staticFlags, nameStored, superclassStored, interfacesStored, membersStored,
      propertiesStored⟩
    simp only [Option.bind_eq_bind, bind_texts_iff, bind_booleans_iff, bind_node_iff,
      bind_nodes_iff, bind_perhaps_iff, bind_many_iff membersLevel, bind_many_iff propertiesLevel]
    exact ⟨_, nameStored, path, rfl, _, superclassStored, _, interfacesStored, _, membersStored,
      staticFlags, rfl, _, propertiesStored, rfl⟩

theorem interface?_eq_some_iff {declaration : InterfaceDecl} :
    format.interface? part json = some declaration ↔
      format.Record interfaceFields (InterfaceParts fun json node => part json = some node) json
        declaration := by
  refine record_iff fun values declaration => ?_
  constructor
  · intro read
    split at read
    · simp only [Option.bind_eq_bind, bind_texts_iff, bind_node_iff, bind_nodes_iff] at read
      obtain ⟨name, nameStored, path, rfl, superinterfaces, superinterfacesStored, ⟨⟩⟩ := read
      exact .intro path nameStored superinterfacesStored
    · cases read
  · rintro ⟨path, nameStored, superinterfacesStored⟩
    simp only [Option.bind_eq_bind, bind_texts_iff, bind_node_iff, bind_nodes_iff]
    exact ⟨_, nameStored, path, rfl, _, superinterfacesStored, rfl⟩

end Records

/-! ## Literals and nodes -/

section Nodes

variable {format : TreeFormat} {json : Json} {part : Json → Option Node}

theorem tagged_of_variant? {tag : String} {inner : Json}
    (found : variant? json = some (tag, some inner)) : json = tagged tag inner := by
  unfold variant? at found
  split at found
  · cases found
  · cases found
    rfl
  · cases found

theorem bare_of_variant? {tag : String} {parts : Option Json}
    (found : variant? json = some (tag, parts)) (partless : format.partless parts = true) :
    format.Bare tag json := by
  cases parts with
  | none =>
      unfold variant? at found
      split at found
      · cases found
        exact .name
      · cases found
      · cases found
  | some inner =>
      cases tagged_of_variant? found
      cases inner with
      | null => exact .null partless
      | _ => cases partless

theorem Bare.variant? {tag : String} (bare : format.Bare tag json) :
    ∃ parts, TreeFormat.variant? json = some (tag, parts) ∧ format.partless parts = true := by
  cases bare with
  | name => exact ⟨none, rfl, rfl⟩
  | null allowed => exact ⟨some .null, rfl, allowed⟩

/-- Named parts are those of an object. -/
theorem object_of_parts? {α : Type} {names : List String} {next : List (Option Json) → Option α}
    {value : α} (read : (parts? names json).bind next = some value) :
    ∃ fields, json = .object fields ∧
      next (names.map fun name => fields.lookup name) = some value := by
  cases json with
  | object fields => exact ⟨fields, rfl, read⟩
  | _ => cases read

theorem literal?_eq_some_iff {value : Literal} :
    format.literal? part json = some value ↔
      format.StoresLiteral (fun json node => part json = some node) json value := by
  constructor
  · intro whole
    obtain ⟨variant, found, read⟩ := Option.bind_eq_some_iff.mp whole
    split at read
    · simp only [Option.map_eq_some_iff, Json.text?_eq_some_iff] at read
      obtain ⟨text, rfl, rfl⟩ := read
      cases tagged_of_variant? found
      exact .string text
    · simp only [Option.map_eq_some_iff, signed?_eq_some_iff] at read
      obtain ⟨value, rfl, rfl⟩ := read
      cases tagged_of_variant? found
      exact .integer value
    · obtain ⟨value, inner, rfl⟩ := Option.map_eq_some_iff.mp read
      cases tagged_of_variant? found
      exact .double inner
    · simp only [Option.map_eq_some_iff, Json.boolean?_eq_some_iff] at read
      obtain ⟨value, rfl, rfl⟩ := read
      cases tagged_of_variant? found
      exact .boolean value
    · obtain ⟨partless, same⟩ := Option.ite_none_right_eq_some.mp read
      cases same
      exact .null (bare_of_variant? found partless)
    · obtain ⟨partless, same⟩ := Option.ite_none_right_eq_some.mp read
      cases same
      exact .undefined (bare_of_variant? found partless)
    · obtain ⟨fields, rfl, inner⟩ := object_of_parts? read
      simp only [List.map, Option.bind_eq_bind, bind_number_iff, bind_perhaps_iff] at inner
      obtain ⟨number, numberStored, known, knownStored, ⟨⟩⟩ := inner
      cases tagged_of_variant? found
      exact .register numberStored knownStored
    · cases read
  · intro stored
    cases stored with
    | null bare =>
        obtain ⟨parts, found, partless⟩ := bare.variant?
        simp only [literal?, found, Option.bind_eq_bind, Option.bind_some, partless, if_true]
    | undefined bare =>
        obtain ⟨parts, found, partless⟩ := bare.variant?
        simp only [literal?, found, Option.bind_eq_bind, Option.bind_some, partless, if_true]
    | register numberStored knownStored =>
        simp only [literal?, variant?, tagged, parts?, List.map, Option.bind_eq_bind,
          Option.bind_some, bind_number_iff, bind_perhaps_iff]
        exact ⟨_, numberStored, _, knownStored, rfl⟩
    | double read =>
        simp only [literal?, variant?, tagged, Option.bind_eq_bind, Option.bind_some, read,
          Option.map_some]
    | string text =>
        simp only [literal?, variant?, tagged, Option.bind_eq_bind, Option.bind_some,
          Option.map_eq_some_iff, Json.text?_eq_some_iff]
        exact ⟨text, rfl, rfl⟩
    | integer value =>
        simp only [literal?, variant?, tagged, Option.bind_eq_bind, Option.bind_some,
          Option.map_eq_some_iff, signed?_eq_some_iff]
        exact ⟨value, rfl, rfl⟩
    | boolean value =>
        simp only [literal?, variant?, tagged, Option.bind_eq_bind, Option.bind_some,
          Option.map_eq_some_iff, Json.boolean?_eq_some_iff]
        exact ⟨value, rfl, rfl⟩

theorem storesNode_of_nodeOfKind? {kind : NodeKind} {node : Node}
    (whole : format.nodeOfKind? part json kind = some node) :
    format.StoresNode (fun json node => part json = some node) (tagged kind.tag json) node := by
  cases kind with
  | branch =>
      obtain ⟨fields, rfl, read⟩ := object_of_parts? whole
      simp only [List.map, Option.bind_eq_bind, bind_node_iff, bind_nodes_iff] at read
      obtain ⟨condition, conditionStored, onTrue, onTrueStored, onFalse, onFalseStored, ⟨⟩⟩ := read
      exact .branch conditionStored onTrueStored onFalseStored
  | not =>
      obtain ⟨operand, stored, rfl⟩ := Option.map_eq_some_iff.mp whole
      exact .not stored
  | getMember =>
      obtain ⟨fields, rfl, read⟩ := object_of_parts? whole
      simp only [List.map, Option.bind_eq_bind, bind_node_iff] at read
      obtain ⟨object, objectStored, member, memberStored, ⟨⟩⟩ := read
      exact .getMember objectStored memberStored
  | setMember =>
      obtain ⟨fields, rfl, read⟩ := object_of_parts? whole
      simp only [List.map, Option.bind_eq_bind, bind_node_iff] at read
      obtain ⟨object, objectStored, member, memberStored, value, valueStored, ⟨⟩⟩ := read
      exact .setMember objectStored memberStored valueStored
  | getVariable =>
      obtain ⟨fields, rfl, read⟩ := object_of_parts? whole
      simp only [List.map, Option.bind_eq_bind, bind_node_iff] at read
      obtain ⟨name, nameStored, ⟨⟩⟩ := read
      exact .getVariable nameStored
  | setVariable =>
      obtain ⟨fields, rfl, read⟩ := object_of_parts? whole
      simp only [List.map, Option.bind_eq_bind, bind_node_iff] at read
      obtain ⟨name, nameStored, value, valueStored, ⟨⟩⟩ := read
      exact .setVariable nameStored valueStored
  | literal =>
      obtain ⟨value, read, rfl⟩ := Option.map_eq_some_iff.mp whole
      exact .literal (literal?_eq_some_iff.mp read)
  | newObject =>
      obtain ⟨fields, rfl, read⟩ := object_of_parts? whole
      simp only [List.map, Option.bind_eq_bind, bind_node_iff, bind_nodes_iff] at read
      obtain ⟨name, nameStored, arguments, argumentsStored, ⟨⟩⟩ := read
      exact .newObject nameStored argumentsStored
  | newMethod =>
      obtain ⟨fields, rfl, read⟩ := object_of_parts? whole
      simp only [List.map, Option.bind_eq_bind, bind_node_iff, bind_nodes_iff] at read
      obtain ⟨object, objectStored, method, methodStored, arguments, argumentsStored, ⟨⟩⟩ := read
      exact .newMethod objectStored methodStored argumentsStored
  | function =>
      obtain ⟨value, read, rfl⟩ := Option.map_eq_some_iff.mp whole
      exact .function (function?_eq_some_iff.mp read)
  | storeRegister =>
      obtain ⟨fields, rfl, read⟩ := object_of_parts? whole
      simp only [List.map, Option.bind_eq_bind, bind_number_iff, bind_node_iff] at read
      obtain ⟨number, numberStored, value, valueStored, ⟨⟩⟩ := read
      exact .storeRegister numberStored valueStored
  | temporaryRegister =>
      obtain ⟨fields, rfl, read⟩ := object_of_parts? whole
      simp only [List.map, Option.bind_eq_bind, bind_number_iff, bind_node_iff] at read
      obtain ⟨number, numberStored, value, valueStored, ⟨⟩⟩ := read
      exact .temporaryRegister numberStored valueStored
  | callMethod =>
      obtain ⟨fields, rfl, read⟩ := object_of_parts? whole
      simp only [List.map, Option.bind_eq_bind, bind_node_iff, bind_nodes_iff] at read
      obtain ⟨object, objectStored, method, methodStored, arguments, argumentsStored, ⟨⟩⟩ := read
      exact .callMethod objectStored methodStored argumentsStored
  | callFunction =>
      obtain ⟨fields, rfl, read⟩ := object_of_parts? whole
      simp only [List.map, Option.bind_eq_bind, bind_node_iff, bind_nodes_iff] at read
      obtain ⟨name, nameStored, arguments, argumentsStored, ⟨⟩⟩ := read
      exact .callFunction nameStored argumentsStored
  | pop => cases whole
  | push =>
      obtain ⟨value, stored, rfl⟩ := Option.map_eq_some_iff.mp whole
      exact .push stored
  | extendsClause =>
      obtain ⟨fields, rfl, read⟩ := object_of_parts? whole
      simp only [List.map, Option.bind_eq_bind, bind_node_iff] at read
      obtain ⟨subclass, subclassStored, superclass, superclassStored, ⟨⟩⟩ := read
      exact .extendsClause subclassStored superclassStored
  | implementsClause =>
      obtain ⟨fields, rfl, read⟩ := object_of_parts? whole
      simp only [List.map, Option.bind_eq_bind, bind_node_iff, bind_nodes_iff] at read
      obtain ⟨subclass, subclassStored, interfaces, interfacesStored, ⟨⟩⟩ := read
      exact .implementsClause subclassStored interfacesStored
  | classDecl =>
      obtain ⟨declaration, read, rfl⟩ := Option.map_eq_some_iff.mp whole
      exact .classDecl (class?_eq_some_iff.mp read)
  | interfaceDecl =>
      obtain ⟨declaration, read, rfl⟩ := Option.map_eq_some_iff.mp whole
      exact .interfaceDecl (interface?_eq_some_iff.mp read)
  | unresolved =>
      obtain ⟨text, read, rfl⟩ := Option.map_eq_some_iff.mp whole
      cases Json.text?_eq_some_iff.mp read
      exact .unresolved text

theorem ofTag?_eq_some_iff {tag : String} {kind : NodeKind} :
    NodeKind.ofTag? tag = some kind ↔ tag = kind.tag := by
  constructor
  · intro found
    unfold NodeKind.ofTag? at found
    have same := List.find?_some found
    exact (beq_iff_eq.mp same).symm
  · rintro rfl
    exact kind.ofTag?_tag

theorem nodeWith?_tagged (kind : NodeKind) (notPop : kind ≠ .pop) :
    format.nodeWith? part (tagged kind.tag json) = format.nodeOfKind? part json kind := by
  simp only [nodeWith?, variant?, tagged, Option.bind_eq_bind, Option.bind_some,
    NodeKind.ofTag?_tag, if_neg notPop]

theorem nodeWith?_pop (bare : format.Bare NodeKind.pop.tag json) :
    format.nodeWith? part json = some .pop := by
  obtain ⟨parts, found, partless⟩ := bare.variant?
  simp only [nodeWith?, found, Option.bind_eq_bind, Option.bind_some, NodeKind.ofTag?_tag,
    partless, if_true]

theorem storesNode_of_nodeWith? {node : Node} (whole : format.nodeWith? part json = some node) :
    format.StoresNode (fun json node => part json = some node) json node := by
  obtain ⟨⟨tag, parts⟩, found, rest⟩ := Option.bind_eq_some_iff.mp whole
  obtain ⟨kind, known, read⟩ := Option.bind_eq_some_iff.mp rest
  split at read
  · next isPop =>
      obtain ⟨partless, same⟩ := Option.ite_none_right_eq_some.mp read
      cases same
      cases isPop
      cases ofTag?_eq_some_iff.mp known
      exact .pop (bare_of_variant? found partless)
  · split at read
    · next inner =>
        cases ofTag?_eq_some_iff.mp known
        cases tagged_of_variant? found
        exact storesNode_of_nodeOfKind? read
    · cases read

theorem nodeWith?_of_storesNode {node : Node}
    (stored : format.StoresNode (fun json node => part json = some node) json node) :
    format.nodeWith? part json = some node := by
  cases stored with
  | branch conditionStored onTrueStored onFalseStored =>
      refine (nodeWith?_tagged .branch (by decide)).trans ?_
      simp only [nodeOfKind?, parts?, List.map, Option.bind_eq_bind, Option.bind_some,
        bind_node_iff, bind_nodes_iff]
      exact ⟨_, conditionStored, _, onTrueStored, _, onFalseStored, rfl⟩
  | not stored =>
      refine (nodeWith?_tagged .not (by decide)).trans ?_
      exact Option.map_eq_some_iff.mpr ⟨_, stored, rfl⟩
  | getMember objectStored memberStored =>
      refine (nodeWith?_tagged .getMember (by decide)).trans ?_
      simp only [nodeOfKind?, parts?, List.map, Option.bind_eq_bind, Option.bind_some,
        bind_node_iff]
      exact ⟨_, objectStored, _, memberStored, rfl⟩
  | setMember objectStored memberStored valueStored =>
      refine (nodeWith?_tagged .setMember (by decide)).trans ?_
      simp only [nodeOfKind?, parts?, List.map, Option.bind_eq_bind, Option.bind_some,
        bind_node_iff]
      exact ⟨_, objectStored, _, memberStored, _, valueStored, rfl⟩
  | getVariable nameStored =>
      refine (nodeWith?_tagged .getVariable (by decide)).trans ?_
      simp only [nodeOfKind?, parts?, List.map, Option.bind_eq_bind, Option.bind_some,
        bind_node_iff]
      exact ⟨_, nameStored, rfl⟩
  | setVariable nameStored valueStored =>
      refine (nodeWith?_tagged .setVariable (by decide)).trans ?_
      simp only [nodeOfKind?, parts?, List.map, Option.bind_eq_bind, Option.bind_some,
        bind_node_iff]
      exact ⟨_, nameStored, _, valueStored, rfl⟩
  | literal stored =>
      refine (nodeWith?_tagged .literal (by decide)).trans ?_
      exact Option.map_eq_some_iff.mpr ⟨_, literal?_eq_some_iff.mpr stored, rfl⟩
  | newObject nameStored argumentsStored =>
      refine (nodeWith?_tagged .newObject (by decide)).trans ?_
      simp only [nodeOfKind?, parts?, List.map, Option.bind_eq_bind, Option.bind_some,
        bind_node_iff, bind_nodes_iff]
      exact ⟨_, nameStored, _, argumentsStored, rfl⟩
  | newMethod objectStored methodStored argumentsStored =>
      refine (nodeWith?_tagged .newMethod (by decide)).trans ?_
      simp only [nodeOfKind?, parts?, List.map, Option.bind_eq_bind, Option.bind_some,
        bind_node_iff, bind_nodes_iff]
      exact ⟨_, objectStored, _, methodStored, _, argumentsStored, rfl⟩
  | function stored =>
      refine (nodeWith?_tagged .function (by decide)).trans ?_
      exact Option.map_eq_some_iff.mpr ⟨_, function?_eq_some_iff.mpr stored, rfl⟩
  | storeRegister numberStored valueStored =>
      refine (nodeWith?_tagged .storeRegister (by decide)).trans ?_
      simp only [nodeOfKind?, parts?, List.map, Option.bind_eq_bind, Option.bind_some,
        bind_number_iff, bind_node_iff]
      exact ⟨_, numberStored, _, valueStored, rfl⟩
  | temporaryRegister numberStored valueStored =>
      refine (nodeWith?_tagged .temporaryRegister (by decide)).trans ?_
      simp only [nodeOfKind?, parts?, List.map, Option.bind_eq_bind, Option.bind_some,
        bind_number_iff, bind_node_iff]
      exact ⟨_, numberStored, _, valueStored, rfl⟩
  | callMethod objectStored methodStored argumentsStored =>
      refine (nodeWith?_tagged .callMethod (by decide)).trans ?_
      simp only [nodeOfKind?, parts?, List.map, Option.bind_eq_bind, Option.bind_some,
        bind_node_iff, bind_nodes_iff]
      exact ⟨_, objectStored, _, methodStored, _, argumentsStored, rfl⟩
  | callFunction nameStored argumentsStored =>
      refine (nodeWith?_tagged .callFunction (by decide)).trans ?_
      simp only [nodeOfKind?, parts?, List.map, Option.bind_eq_bind, Option.bind_some,
        bind_node_iff, bind_nodes_iff]
      exact ⟨_, nameStored, _, argumentsStored, rfl⟩
  | pop bare => exact nodeWith?_pop bare
  | push stored =>
      refine (nodeWith?_tagged .push (by decide)).trans ?_
      exact Option.map_eq_some_iff.mpr ⟨_, stored, rfl⟩
  | extendsClause subclassStored superclassStored =>
      refine (nodeWith?_tagged .extendsClause (by decide)).trans ?_
      simp only [nodeOfKind?, parts?, List.map, Option.bind_eq_bind, Option.bind_some,
        bind_node_iff]
      exact ⟨_, subclassStored, _, superclassStored, rfl⟩
  | implementsClause subclassStored interfacesStored =>
      refine (nodeWith?_tagged .implementsClause (by decide)).trans ?_
      simp only [nodeOfKind?, parts?, List.map, Option.bind_eq_bind, Option.bind_some,
        bind_node_iff, bind_nodes_iff]
      exact ⟨_, subclassStored, _, interfacesStored, rfl⟩
  | classDecl stored =>
      refine (nodeWith?_tagged .classDecl (by decide)).trans ?_
      exact Option.map_eq_some_iff.mpr ⟨_, class?_eq_some_iff.mpr stored, rfl⟩
  | interfaceDecl stored =>
      refine (nodeWith?_tagged .interfaceDecl (by decide)).trans ?_
      exact Option.map_eq_some_iff.mpr ⟨_, interface?_eq_some_iff.mpr stored, rfl⟩
  | unresolved text =>
      refine (nodeWith?_tagged .unresolved (by decide)).trans ?_
      exact Option.map_eq_some_iff.mpr ⟨text, rfl, rfl⟩

/-- One level of a value is read as what it stores. -/
theorem nodeWith?_eq_some_iff {node : Node} :
    format.nodeWith? part json = some node ↔
      format.StoresNode (fun json node => part json = some node) json node :=
  ⟨storesNode_of_nodeWith?, nodeWith?_of_storesNode⟩

end Nodes

end TreeFormat

end ClassRecovery
