import Componentry.Proofs.DescriptionFields

/-!
# Written descriptions are read back

Each record of a description is read back from the mapping that is written for it, its default
values with their types. So a description is read back from its document, as far as the document is
loaded as the tree that was written.
-/

namespace Componentry.Description

open Componentry.Yaml (Tree Value)

/-- Whether a setting has a default that can be written. -/
def Setting.Valid (s : Setting) : Prop :=
  ∀ items, s.default ≠ .list items

/-- Whether the statements are given for distinct hooks. -/
structure Component.Valid (c : Component) : Prop where
  settings : ∀ s ∈ c.properties ++ c.attributes, s.Valid
  distinct : (c.hooks.map (·.1)).Nodup
  known : ∀ hook ∈ c.hooks.map (·.1), hook ∈ hookNames

/-- Whether a description has all that is required of one. -/
def Project.Valid (p : Project) : Prop :=
  ∀ c ∈ p.components, c.Valid

/-- Whether the default of a setting is no infinity and not the lack of a number. -/
def Setting.Finite (s : Setting) : Prop :=
  ∀ x, s.default = .float x → x.isNaN = false ∧ x.isInf = false

/-- Whether no default is an infinity or the lack of a number. -/
def Project.Finite (p : Project) : Prop :=
  ∀ c ∈ p.components, ∀ s ∈ c.properties ++ c.attributes, s.Finite

/-- The keys of each of the records. -/
def recordKeys : List (List String) :=
  [["type", "marshal-as", "includes", "needs-copy"], ["registry", "typelist", "opaques"],
    ["name", "type", "default", "doc"], ["name", "type", "doc", "pointer", "clear-on-start"],
    ["name", "type", "doc", "pointer", "keep-last-written-value"], ["name", "type", "doc"],
    ["name", "doc", "method-name", "returns", "arguments", "caller-thread", "hidden", "body"],
    componentKeys, ["name", "typekit", "using-typekits", "using-task-libraries", "tasks"]]

/-- The keys of each record can be told apart, also in their second spelling. -/
theorem legible_recordKeys : ∀ keys ∈ recordKeys, Legible keys := by decide +kernel

/-- The parts of a marshalling rule. -/
def Marshalling.parts (m : Marshalling) : List Part :=
  [textPart "type" m.type, textPart "marshal-as" m.marshalAs,
    listPart "includes" Tree.text m.headers, boolPart "needs-copy" true m.needsCopy]

/-- The fields of a marshalling are those of its parts. -/
theorem Marshalling.fields_eq (m : Marshalling) : m.fields = fieldsOf m.parts := by
  simp only [fields, textsField, textField_eq, listField_eq, boolField_eq, fieldsOf_append]
  rfl

/-- A marshalling is read back from its fields. -/
theorem readMarshalling_fields (m : Marshalling) :
    readMarshalling (Tree.dict m.fields).value = .valid m := by
  rw [m.fields_eq]
  refine readRecord_of_has (legible_recordKeys _ (by simp [recordKeys])) rfl fun e h => ?_
  simp only [Marshalling.parts, List.forall_mem_cons] at h
  obtain ⟨type, marshalAs, includes, needsCopy, -⟩ := h
  rw [required_text type, required_text marshalAs, field_texts includes, field_bool needsCopy]
  rfl

/-- The parts of a typekit. -/
def Typekit.parts (t : Typekit) : List Part :=
  [optionalPart "registry" t.registry, optionalPart "typelist" t.typelist,
    listPart "opaques" (fun m => .dict m.fields) t.opaques]

/-- The fields of a typekit are those of its parts. -/
theorem Typekit.fields_eq (t : Typekit) : t.fields = fieldsOf t.parts := by
  simp only [fields, optionalField_eq, listField_eq, fieldsOf_append]
  rfl

/-- A typekit is read back from its fields. -/
theorem readTypekit_fields (t : Typekit) : readTypekit (Tree.dict t.fields).value = .valid t := by
  rw [t.fields_eq]
  refine readRecord_of_has (legible_recordKeys _ (by simp [recordKeys])) rfl fun e h => ?_
  simp only [Typekit.parts, List.forall_mem_cons] at h
  obtain ⟨registry, typelist, opaques, -⟩ := h
  rw [field_optional registry, field_optional typelist, field_list opaques
    fun m _ => readMarshalling_fields m]
  rfl

/-- What is written for a default value. -/
def defaultTree? : Scalar → Option Tree
  | .null | .list _ => none
  | .bool b => some (.bool b)
  | .int n => some (.int n)
  | .float x => some (.float x)
  | .text s => some (.text s)

/-- The parts of a property or attribute. -/
def Setting.parts (s : Setting) : List Part :=
  [textPart "name" s.name, textPart "type" s.type, ("default", defaultTree? s.default),
    optionalPart "doc" s.doc]

/-- A default is written where there is one. -/
theorem defaultField_eq (default : Scalar) :
    Setting.defaultField default = fieldsOf [("default", defaultTree? default)] := by
  cases default <;> rfl

/-- The fields of a setting are those of its parts. -/
theorem Setting.fields_eq (s : Setting) : s.fields = fieldsOf s.parts := by
  simp only [fields, textField_eq, defaultField_eq, optionalField_eq, fieldsOf_append]
  rfl

/-- A setting whose default can be read is read back from its fields. -/
theorem readSetting_fields {s : Setting} (valid : s.Valid) :
    readSetting (Tree.dict s.fields).value = .valid s := by
  rw [s.fields_eq]
  refine readRecord_of_has (legible_recordKeys _ (by simp [recordKeys])) rfl fun e h => ?_
  simp only [Setting.parts, List.forall_mem_cons] at h
  obtain ⟨name, type, default, doc, -⟩ := h
  have default : field e "default" .null readScalar = .valid s.default := by
    refine field_of_has default (fun tree written => ?_) fun absent => ?_
    · cases hdefault : s.default <;> rw [hdefault] at written <;> cases written <;> rfl
    · cases hdefault : s.default with
      | null => rfl
      | list items => exact absurd hdefault (valid items)
      | _ => rw [hdefault] at absent; cases absent
  rw [required_text name, required_text type, default, field_optional doc]
  rfl

/-- The part of a pointer. -/
def pointerPart (pointer : Option Pointer) : Part :=
  optionalPart "pointer" (pointer.map Pointer.word)

/-- A pointer is written where there is one. -/
theorem pointerField_eq (pointer : Option Pointer) :
    pointerField pointer = fieldsOf [pointerPart pointer] :=
  optionalField_eq ..

/-- A pointer is read back from its part. -/
theorem field_pointer {e : Entries} {pointer : Option Pointer} (h : e.Has (pointerPart pointer)) :
    field e "pointer" none (readOptional readPointer) = .valid pointer := by
  refine field_of_has h (fun tree written => ?_) fun absent => ?_
  · rcases pointer with _ | _ | _ <;> cases written <;> rfl
  · cases pointer <;> cases absent
    rfl

/-- The parts of an input port. -/
def InputPort.parts (p : InputPort) : List Part :=
  [textPart "name" p.name, textPart "type" p.type, optionalPart "doc" p.doc, pointerPart p.pointer,
    boolPart "clear-on-start" true p.clearOnStart]

/-- The fields of an input port are those of its parts. -/
theorem InputPort.fields_eq (p : InputPort) : p.fields = fieldsOf p.parts := by
  simp only [fields, textField_eq, optionalField_eq, pointerField_eq, boolField_eq, fieldsOf_append]
  rfl

/-- An input port is read back from its fields. -/
theorem readInputPort_fields (p : InputPort) :
    readInputPort (Tree.dict p.fields).value = .valid p := by
  rw [p.fields_eq]
  refine readRecord_of_has (legible_recordKeys _ (by simp [recordKeys])) rfl fun e h => ?_
  simp only [InputPort.parts, List.forall_mem_cons] at h
  obtain ⟨name, type, doc, pointer, clearOnStart, -⟩ := h
  rw [required_text name, required_text type, field_optional doc, field_pointer pointer,
    field_bool clearOnStart]
  rfl

/-- The part of a retention policy. -/
def retentionPart (retention : Retention) : Part :=
  ("keep-last-written-value",
    if retention = .onlyIfUnread then none else some (.text retention.word))

/-- The retention of a port is read back from its part. -/
theorem field_retention {e : Entries} {retention : Retention}
    (h : e.Has (retentionPart retention)) :
    field e "keep-last-written-value" .onlyIfUnread readRetention = .valid retention := by
  refine field_of_has h (fun tree written => ?_) fun absent => ?_
  · cases retention <;> cases written <;> rfl
  · cases retention <;> cases absent
    rfl

/-- The parts of an output port. -/
def OutputPort.parts (p : OutputPort) : List Part :=
  [textPart "name" p.name, textPart "type" p.type, optionalPart "doc" p.doc, pointerPart p.pointer,
    retentionPart p.retention]

/-- The fields of an output port are those of its parts. -/
theorem OutputPort.fields_eq (p : OutputPort) : p.fields = fieldsOf p.parts := by
  have retention : (if p.retention = .onlyIfUnread then []
      else fieldsOf [textPart "keep-last-written-value" p.retention.word]) =
        fieldsOf [retentionPart p.retention] := by
    cases p.retention <;> rfl
  simp only [fields, textField_eq, optionalField_eq, pointerField_eq, retention, fieldsOf_append]
  rfl

/-- An output port is read back from its fields. -/
theorem readOutputPort_fields (p : OutputPort) :
    readOutputPort (Tree.dict p.fields).value = .valid p := by
  rw [p.fields_eq]
  refine readRecord_of_has (legible_recordKeys _ (by simp [recordKeys])) rfl fun e h => ?_
  simp only [OutputPort.parts, List.forall_mem_cons] at h
  obtain ⟨name, type, doc, pointer, retention, -⟩ := h
  rw [required_text name, required_text type, field_optional doc, field_pointer pointer,
    field_retention retention]
  rfl

/-- The parts of a template for ports. -/
def DynamicPort.parts (p : DynamicPort) : List Part :=
  [textPart "name" p.name, optionalPart "type" p.type, optionalPart "doc" p.doc]

/-- The fields of a dynamic port are those of its parts. -/
theorem DynamicPort.fields_eq (p : DynamicPort) : p.fields = fieldsOf p.parts := by
  simp only [fields, textField_eq, optionalField_eq, fieldsOf_append]
  rfl

/-- A dynamic port is read back from its fields. -/
theorem readDynamicPort_fields (p : DynamicPort) :
    readDynamicPort (Tree.dict p.fields).value = .valid p := by
  rw [p.fields_eq]
  refine readRecord_of_has (legible_recordKeys _ (by simp [recordKeys])) rfl fun e h => ?_
  simp only [DynamicPort.parts, List.forall_mem_cons] at h
  obtain ⟨name, type, doc, -⟩ := h
  rw [required_text name, field_optional type, field_optional doc]
  rfl

/-- The parts of an argument. -/
def Argument.parts (a : Argument) : List Part :=
  [textPart "name" a.name, textPart "type" a.type, optionalPart "doc" a.doc]

/-- The fields of an argument are those of its parts. -/
theorem Argument.fields_eq (a : Argument) : a.fields = fieldsOf a.parts := by
  simp only [fields, textField_eq, optionalField_eq, fieldsOf_append]
  rfl

/-- An argument is read back from its fields. -/
theorem readArgument_fields (a : Argument) :
    readArgument (Tree.dict a.fields).value = .valid a := by
  rw [a.fields_eq]
  refine readRecord_of_has (legible_recordKeys _ (by simp [recordKeys])) rfl fun e h => ?_
  simp only [Argument.parts, List.forall_mem_cons] at h
  obtain ⟨name, type, doc, -⟩ := h
  rw [required_text name, required_text type, field_optional doc]
  rfl

/-- The parts of an operation. -/
def Operation.parts (o : Operation) : List Part :=
  [textPart "name" o.name, optionalPart "doc" o.doc, optionalPart "method-name" o.methodName,
    optionalPart "returns" o.returns, listPart "arguments" (fun a => .dict a.fields) o.arguments,
    boolPart "caller-thread" false o.callerThread, boolPart "hidden" false o.hidden,
      optionalPart "body" o.body]

/-- The fields of an operation are those of its parts. -/
theorem Operation.fields_eq (o : Operation) : o.fields = fieldsOf o.parts := by
  simp only [fields, textField_eq, optionalField_eq, listField_eq, boolField_eq, fieldsOf_append]
  rfl

/-- An operation is read back from its fields. -/
theorem readOperation_fields (o : Operation) :
    readOperation (Tree.dict o.fields).value = .valid o := by
  rw [o.fields_eq]
  refine readRecord_of_has (legible_recordKeys _ (by simp [recordKeys])) rfl fun e h => ?_
  simp only [Operation.parts, List.forall_mem_cons] at h
  obtain ⟨name, doc, methodName, returns, args, callerThread, hidden, body, -⟩ := h
  rw [required_text name, field_optional doc, field_optional methodName, field_optional returns,
    field_list args fun a _ => readArgument_fields a, field_bool callerThread, field_bool hidden,
    field_optional body]
  rfl

/-- The part of the trigger ports. -/
def triggersPart : Triggers → Part
  | .all driven => boolPart "port-driven" false driven
  | .named ports => ("port-driven", some (.list (ports.map Tree.text)))

/-- The triggers of a component are written unless they are the default. -/
theorem triggersField_eq (triggers : Triggers) :
    triggers.fields = fieldsOf [triggersPart triggers] := by
  cases triggers with
  | all driven => exact boolField_eq ..
  | named ports => rfl

/-- The triggers of a component are read back from their part. -/
theorem field_triggers {e : Entries} {triggers : Triggers} (h : e.Has (triggersPart triggers)) :
    field e "port-driven" (.all false) readTriggers = .valid triggers := by
  cases triggers with
  | all driven =>
    refine field_of_has h (fun tree written => ?_) fun absent => ?_
    · cases driven <;> cases written
      rfl
    · cases driven <;> cases absent
      rfl
  | named ports =>
    refine field_of_has h (fun tree written => ?_) nofun
    cases written
    rw [Tree.value, values_eq_map, List.map_map]
    change readTriggers (.list (ports.map fun port => .text port)) = _
    have names : readList readText (.list (ports.map fun port => .text port)) = .valid ports :=
      readList_map fun _ _ => rfl
    rw [readTriggers, names]
    rfl

/-- The part of the statements for hooks. -/
def hooksPart (hooks : List (String × List String)) : Part :=
  ("hooks", if hooks.isEmpty then none
    else
      some (.dict (hooks.map fun (hook, statements) => (hook, .list (statements.map Tree.text)))))

/-- Hooks are written where there are any. -/
theorem hooksField_eq (hooks : List (String × List String)) :
    hooksField hooks = fieldsOf [hooksPart hooks] := by
  cases hooks <;> rfl

/-- Statements for a hook that has none yet are put last. -/
theorem putStatements_of_new {hooks : List (String × List String)} {hook : String}
    (new : hook ∉ hooks.map (·.1)) (statements : List String) :
    putStatements hooks hook statements = hooks ++ [(hook, statements)] := by
  induction hooks with
  | nil => rfl
  | cons first rest ih =>
    rw [List.map_cons, List.mem_cons, not_or] at new
    rw [putStatements, if_neg (Ne.symm new.1), ih new.2]
    rfl

/-- Statements for distinct hooks are all kept, in their order. -/
theorem foldl_putStatements {hooks more : List (String × List String)}
    (distinct : ((hooks ++ more).map (·.1)).Nodup) :
    more.foldl (fun hooks (hook, statements) => putStatements hooks hook statements) hooks =
      hooks ++ more := by
  induction more generalizing hooks with
  | nil => rw [List.append_nil]; rfl
  | cons first rest ih =>
    obtain ⟨hook, statements⟩ := first
    have new : hook ∉ hooks.map (·.1) := by
      rw [List.map_append, List.nodup_append] at distinct
      exact fun mem => distinct.2.2 _ mem _ List.mem_cons_self rfl
    rw [List.foldl_cons]
    change rest.foldl _ (putStatements hooks hook statements) = _
    rw [putStatements_of_new new, ih (by simpa using distinct), List.append_assoc]
    rfl

/-- The entries for the hooks are read one by one. -/
theorem readEntries_map (hooks : List (String × List String)) :
    (hooks.map fun (hook, statements) =>
      (Value.text hook, (Tree.list (statements.map Tree.text)).value)).map
      (fun (key, value) => Prod.mk <$> ((readText key).under "[key]").under (placeOf key) <*>
        (readList readText value).under (placeOf key)) = hooks.map .valid := by
  rw [List.map_map]
  refine List.map_congr_left ?_
  rintro ⟨hook, statements⟩ -
  have read :
      readList readText (Tree.list (statements.map Tree.text)).value = .valid statements := by
    rw [Tree.value, values_eq_map, List.map_map]
    exact readList_map fun _ _ => rfl
  simp only [Function.comp_apply, read]
  rfl

/-- The statements of distinct hooks are read back from their entries. -/
theorem readStatements_entries {hooks : List (String × List String)}
    (distinct : (hooks.map (·.1)).Nodup) :
    readStatements (Tree.dict
      (hooks.map fun (hook, statements) => (hook, .list (statements.map Tree.text)))).value =
      .valid hooks := by
  have outcomes := readEntries_map hooks
  rw [Tree.value, valueEntries_eq_map, List.map_map, readStatements]
  simp only [Function.comp_def] at outcomes ⊢
  rw [outcomes, Checked.all_valid, Checked.map_valid]
  exact congrArg Checked.valid (@foldl_putStatements [] hooks distinct)

/-- Distinct hooks of known names are read back from their part. -/
theorem field_hooks {e : Entries} {hooks : List (String × List String)}
    (h : e.Has (hooksPart hooks)) (distinct : (hooks.map (·.1)).Nodup)
    (known : ∀ hook ∈ hooks.map (·.1), hook ∈ hookNames) :
    field e "hooks" [] readHooks = .valid hooks := by
  have unknown : (hooks.map (·.1)).filter (· ∉ hookNames) = [] := by simpa using known
  refine field_of_has h (fun tree written => ?_) fun absent => ?_
  · split at written <;> cases written
    rw [readHooks, readStatements_entries distinct, Checked.andThen]
    simp only [unknown]
    rfl
  · split at absent
    · rename_i empty
      exact (List.isEmpty_iff.1 empty).symm
    · cases absent

/-- The parts of a component. -/
def Component.parts (c : Component) : List Part :=
  [textPart "name" c.name, optionalPart "subclasses" c.subclasses, optionalPart "doc" c.doc,
    boolPart "fixed-initial-state" false c.fixedInitialState,
      boolPart "needs-configuration" false c.needsConfiguration,
    triggersPart c.portDriven,
    listPart "properties" (fun s => .dict s.fields) c.properties,
    listPart "attributes" (fun s => .dict s.fields) c.attributes,
    listPart "input-ports" (fun p => .dict p.fields) c.inputPorts,
    listPart "output-ports" (fun p => .dict p.fields) c.outputPorts,
    listPart "dynamic-input-ports" (fun p => .dict p.fields) c.dynamicInputPorts,
    listPart "dynamic-output-ports" (fun p => .dict p.fields) c.dynamicOutputPorts,
    listPart "operations" (fun o => .dict o.fields) c.operations,
    hooksPart c.hooks, listPart "methods" Tree.text c.methods,
      listPart "commands" Tree.text c.commands]

/-- The fields of a component are those of its parts. -/
theorem Component.fields_eq (c : Component) : c.fields = fieldsOf c.parts := by
  simp only [fields, textsField, textField_eq, optionalField_eq, boolField_eq, triggersField_eq,
    listField_eq, hooksField_eq, fieldsOf_append]
  rfl

/-- The parts of a component stand under the keys that are read. -/
theorem Component.map_parts (c : Component) : c.parts.map (·.1) = componentKeys := by
  cases h : c.portDriven <;> simp only [parts, h] <;> rfl

/-- A valid component is read back from its fields. -/
theorem readComponent_fields {c : Component} (valid : c.Valid) :
    readComponent (Tree.dict c.fields).value = .valid c := by
  rw [c.fields_eq]
  refine readRecord_of_has (legible_recordKeys _ (by simp [recordKeys])) c.map_parts fun e h => ?_
  simp only [Component.parts, List.forall_mem_cons] at h
  obtain ⟨name, subclasses, doc, fixedInitialState, needsConfiguration, portDriven, properties,
    attributes, inputPorts, outputPorts, dynamicInputPorts, dynamicOutputPorts, operations, hooks,
    methods, commands, -⟩ := h
  have setting (s : Setting) (mem : s ∈ c.properties ++ c.attributes) :=
    readSetting_fields (valid.settings s mem)
  rw [required_text name, field_optional subclasses, field_optional doc,
    field_bool fixedInitialState, field_bool needsConfiguration, field_triggers portDriven,
    field_list properties fun s mem => setting s (List.mem_append_left _ mem),
    field_list attributes fun s mem => setting s (List.mem_append_right _ mem),
    field_list inputPorts fun p _ => readInputPort_fields p,
    field_list outputPorts fun p _ => readOutputPort_fields p,
    field_list dynamicInputPorts fun p _ => readDynamicPort_fields p,
    field_list dynamicOutputPorts fun p _ => readDynamicPort_fields p,
    field_list operations fun o _ => readOperation_fields o,
    field_hooks hooks valid.distinct valid.known, field_texts methods, field_texts commands]
  rfl

/-- The part of the typekit that a project builds. -/
def typekitPart (typekit : Option Typekit) : Part :=
  ("typekit", typekit.map fun t => .dict t.fields)

/-- A typekit is written where there is one. -/
theorem typekitField_eq (typekit : Option Typekit) :
    typekitField typekit = fieldsOf [typekitPart typekit] := by
  cases typekit <;> rfl

/-- The typekit of a project is read back from its part. -/
theorem field_typekit {e : Entries} {typekit : Option Typekit} (h : e.Has (typekitPart typekit)) :
    field e "typekit" none (readOptional readTypekit) = .valid typekit := by
  refine field_of_has h (fun tree written => ?_) fun absent => ?_
  · cases typekit with
    | none => cases written
    | some t =>
      cases written
      change some <$> readTypekit (Tree.dict t.fields).value = _
      rw [readTypekit_fields, Checked.map_valid]
  · cases typekit <;> cases absent
    rfl

/-- The parts of a project. -/
def Project.parts (p : Project) : List Part :=
  [textPart "name" p.name, typekitPart p.typekit,
    listPart "using-typekits" Tree.text p.usedTypekits,
    listPart "using-task-libraries" Tree.text p.usedLibraries,
    listPart "tasks" (fun c => .dict c.fields) p.components]

/-- The fields of a project are those of its parts. -/
theorem Project.fields_eq (p : Project) : p.fields = fieldsOf p.parts := by
  simp only [fields, textsField, textField_eq, typekitField_eq, listField_eq, fieldsOf_append]
  rfl

/-- A valid project is read back from its fields. -/
theorem readProject_fields {p : Project} (valid : p.Valid) :
    readProject (Tree.dict p.fields).value = .valid p := by
  rw [p.fields_eq]
  refine readRecord_of_has (legible_recordKeys _ (by simp [recordKeys])) rfl fun e h => ?_
  simp only [Project.parts, List.forall_mem_cons] at h
  obtain ⟨name, typekit, usedTypekits, usedLibraries, components, -⟩ := h
  rw [required_text name, field_typekit typekit, field_texts usedTypekits,
    field_texts usedLibraries,
    field_list components fun c mem => readComponent_fields (valid c mem)]
  rfl

section Plain

/-- A marshalling is written as a plain tree. -/
theorem Marshalling.plain (m : Marshalling) : (Tree.dict m.fields).Plain := by
  rw [m.fields_eq]
  refine plain_fieldsOf (by simp [parts, textPart, listPart, boolPart]) ?_
  simp only [parts, List.forall_mem_cons]
  exact ⟨plain_textPart, plain_textPart, plain_textsPart _, plain_boolPart, List.forall_mem_nil _⟩

/-- A typekit is written as a plain tree. -/
theorem Typekit.plain (t : Typekit) : (Tree.dict t.fields).Plain := by
  rw [t.fields_eq]
  refine plain_fieldsOf (by simp [parts, optionalPart, listPart]) ?_
  simp only [parts, List.forall_mem_cons]
  exact ⟨plain_optionalPart, plain_optionalPart, plain_listPart
    fun m _ => m.plain, List.forall_mem_nil _⟩

/-- A setting with a finite default is written as a plain tree. -/
theorem Setting.plain {s : Setting} (finite : s.Finite) : (Tree.dict s.fields).Plain := by
  have default : Part.Plain ("default", defaultTree? s.default) := by
    intro tree written
    cases hdefault : s.default <;> rw [hdefault] at written <;> cases written
    · exact .bool _
    · exact .int _
    · exact .float _ (finite _ hdefault).1 (finite _ hdefault).2
    · exact .text _
  rw [s.fields_eq]
  refine plain_fieldsOf (by simp [parts, textPart, optionalPart]) ?_
  simp only [parts, List.forall_mem_cons]
  exact ⟨plain_textPart, plain_textPart, default, plain_optionalPart, List.forall_mem_nil _⟩

/-- An input port is written as a plain tree. -/
theorem InputPort.plain (p : InputPort) : (Tree.dict p.fields).Plain := by
  rw [p.fields_eq]
  refine plain_fieldsOf (by simp [parts, textPart, optionalPart, pointerPart, boolPart]) ?_
  simp only [parts, List.forall_mem_cons]
  exact ⟨plain_textPart, plain_textPart, plain_optionalPart, plain_optionalPart, plain_boolPart,
    List.forall_mem_nil _⟩

/-- An output port is written as a plain tree. -/
theorem OutputPort.plain (p : OutputPort) : (Tree.dict p.fields).Plain := by
  have retention : (retentionPart p.retention).Plain := by
    intro tree written
    cases hretention : p.retention <;> rw [hretention] at written <;> cases written
    all_goals exact .text _
  rw [p.fields_eq]
  refine plain_fieldsOf (by simp [parts, textPart, optionalPart, pointerPart, retentionPart]) ?_
  simp only [parts, List.forall_mem_cons]
  exact ⟨plain_textPart, plain_textPart, plain_optionalPart, plain_optionalPart, retention,
    List.forall_mem_nil _⟩

/-- A dynamic port is written as a plain tree. -/
theorem DynamicPort.plain (p : DynamicPort) : (Tree.dict p.fields).Plain := by
  rw [p.fields_eq]
  refine plain_fieldsOf (by simp [parts, textPart, optionalPart]) ?_
  simp only [parts, List.forall_mem_cons]
  exact ⟨plain_textPart, plain_optionalPart, plain_optionalPart, List.forall_mem_nil _⟩

/-- An argument is written as a plain tree. -/
theorem Argument.plain (a : Argument) : (Tree.dict a.fields).Plain := by
  rw [a.fields_eq]
  refine plain_fieldsOf (by simp [parts, textPart, optionalPart]) ?_
  simp only [parts, List.forall_mem_cons]
  exact ⟨plain_textPart, plain_textPart, plain_optionalPart, List.forall_mem_nil _⟩

/-- An operation is written as a plain tree. -/
theorem Operation.plain (o : Operation) : (Tree.dict o.fields).Plain := by
  rw [o.fields_eq]
  refine plain_fieldsOf (by simp [parts, textPart, optionalPart, listPart, boolPart]) ?_
  simp only [parts, List.forall_mem_cons]
  exact ⟨plain_textPart, plain_optionalPart, plain_optionalPart, plain_optionalPart,
    plain_listPart fun a _ => a.plain, plain_boolPart, plain_boolPart, plain_optionalPart,
      List.forall_mem_nil _⟩

/-- Triggers are written as a plain tree. -/
theorem plain_triggersPart (triggers : Triggers) : (triggersPart triggers).Plain := by
  cases triggers with
  | all driven => exact plain_boolPart
  | named ports =>
    rintro _ ⟨⟩
    exact Tree.plain_texts ports

/-- Distinct hooks are written as a plain tree. -/
theorem plain_hooksPart {hooks : List (String × List String)} (distinct : (hooks.map (·.1)).Nodup) :
    (hooksPart hooks).Plain := by
  intro tree written
  unfold hooksPart at written
  split at written <;> cases written
  refine .dict _ (by simpa [List.map_map, Function.comp_def] using distinct) fun entry mem => ?_
  obtain ⟨⟨hook, statements⟩, -, rfl⟩ := List.mem_map.1 mem
  exact Tree.plain_texts statements

/-- A component with distinct hooks and finite defaults is written as a plain tree. -/
theorem Component.plain {c : Component} (distinct : (c.hooks.map (·.1)).Nodup)
    (finite : ∀ s ∈ c.properties ++ c.attributes, s.Finite) : (Tree.dict c.fields).Plain := by
  rw [c.fields_eq]
  refine plain_fieldsOf (c.map_parts ▸ (legible_recordKeys _ (by simp [recordKeys])).distinct) ?_
  simp only [parts, List.forall_mem_cons]
  exact ⟨plain_textPart, plain_optionalPart, plain_optionalPart, plain_boolPart, plain_boolPart,
    plain_triggersPart _,
    plain_listPart fun s mem => Setting.plain (finite s (List.mem_append_left _ mem)),
    plain_listPart fun s mem => Setting.plain (finite s (List.mem_append_right _ mem)),
    plain_listPart fun p _ => p.plain, plain_listPart fun p _ => p.plain,
    plain_listPart fun p _ => p.plain, plain_listPart fun p _ => p.plain,
    plain_listPart fun o _ => o.plain, plain_hooksPart distinct, plain_textsPart _,
    plain_textsPart _, List.forall_mem_nil _⟩

/-- What is written for a description is plain. -/
theorem Project.plain {p : Project} (valid : p.Valid) (finite : p.Finite) :
    (Tree.dict p.fields).Plain := by
  have typekit : (typekitPart p.typekit).Plain := by
    intro tree written
    obtain ⟨t, -, rfl⟩ := Option.map_eq_some_iff.1 written
    exact t.plain
  rw [p.fields_eq]
  refine plain_fieldsOf (by simp [parts, textPart, typekitPart, listPart]) ?_
  simp only [parts, List.forall_mem_cons]
  exact ⟨plain_textPart, typekit, plain_textsPart _, plain_textsPart _,
    plain_listPart fun c mem => Component.plain (valid c mem).distinct (finite c mem),
      List.forall_mem_nil _⟩

end Plain

section Valid

/-- A field that is read is its default or was read from a value. -/
theorem Checked.of_field {α : Type} {e : Entries} {key : String} {default a : α}
    {read : Value → Checked α} (h : field e key default read = .valid a) :
    a = default ∨ ∃ value, read value = .valid a := by
  unfold field at h
  split at h
  · exact .inr ⟨_, under_eq_valid h⟩
  · exact .inl (Checked.valid.inj h).symm

/-- The fields of a record that is read are read from a mapping. -/
theorem of_readRecord {α : Type} {keys : List String} {fields : Entries → Checked α} {value : Value}
    {a : α} (h : readRecord keys fields value = .valid a) : ∃ e, fields e = .valid a := by
  unfold readRecord at h
  split at h
  · rename_i entries
    dsimp only at h
    split at h
    · rename_i b read
      split at h <;> cases h
      exact ⟨entries, read⟩
    · cases h
  · cases h

/-- A default that is read is not a list. -/
theorem valid_of_readScalar {value : Value} {default : Scalar}
    (h : readScalar value = .valid default) :
    ∀ items, default ≠ .list items := by
  rintro items rfl
  unfold readScalar at h
  split at h <;> first | cases h | skip
  split at h <;> first | cases h | skip
  split at h <;> cases h

/-- A setting that is read is valid. -/
theorem valid_of_readSetting {value : Value} {s : Setting} (h : readSetting value = .valid s) :
    s.Valid := by
  obtain ⟨e, fields⟩ := of_readRecord h
  simp only [Checked.seq_eq_valid, Checked.map_eq_valid] at fields
  obtain ⟨_, _, fields, -, rfl⟩ := fields
  obtain ⟨_, default, fields, read, rfl⟩ := fields
  obtain ⟨_, _, fields, -, rfl⟩ := fields
  obtain ⟨_, -, rfl⟩ := fields
  rcases Checked.of_field read with rfl | ⟨v, read⟩
  · exact nofun
  · exact valid_of_readScalar read

/-- Statements that are put to distinct hooks leave them distinct. -/
theorem nodup_putStatements {hooks : List (String × List String)}
    (distinct : (hooks.map (·.1)).Nodup) (hook : String) (statements : List String) :
    ((putStatements hooks hook statements).map (·.1)).Nodup := by
  by_cases new : hook ∈ hooks.map (·.1)
  · have same : (putStatements hooks hook statements).map (·.1) = hooks.map (·.1) := by
      clear distinct
      induction hooks with
      | nil => cases new
      | cons first rest ih =>
        rw [putStatements]
        split
        · rfl
        · rename_i other
          rw [List.map_cons, ih ((List.mem_cons.1 new).resolve_left (Ne.symm other)), List.map_cons]
    rwa [same]
  · rw [putStatements_of_new new, List.map_append, List.nodup_append]
    refine ⟨distinct, by simp, ?_⟩
    rintro a old b mem rfl
    obtain rfl : a = hook := List.mem_singleton.1 mem
    exact new old

/-- Hooks whose statements are read are distinct. -/
theorem nodup_of_readStatements {value : Value} {hooks : List (String × List String)}
    (h : readStatements value = .valid hooks) : (hooks.map (·.1)).Nodup := by
  have put (more : List (String × List String)) {hooks : List (String × List String)}
      (distinct : (hooks.map (·.1)).Nodup) :
      ((more.foldl (fun hooks (hook, statements) => putStatements hooks hook statements) hooks).map
        (·.1)).Nodup := by
    induction more generalizing hooks with
    | nil => exact distinct
    | cons first rest ih => exact ih (nodup_putStatements distinct _ _)
  unfold readStatements at h
  split at h
  · obtain ⟨pairs, -, rfl⟩ := Checked.map_eq_valid.1 h
    exact put pairs .nil
  · cases h

/-- Hooks that are read are distinct and known. -/
theorem valid_of_readHooks {value : Value} {hooks : List (String × List String)}
    (h : readHooks value = .valid hooks) :
    (hooks.map (·.1)).Nodup ∧ ∀ hook ∈ hooks.map (·.1), hook ∈ hookNames := by
  unfold readHooks at h
  cases read : readStatements value with
  | refused => rw [read] at h; cases h
  | valid given =>
    rw [read, Checked.andThen] at h
    dsimp only at h
    split at h
    · rename_i none
      cases h
      refine ⟨nodup_of_readStatements read, fun hook mem => ?_⟩
      refine Decidable.byContradiction fun unknown => ?_
      have listed : hook ∈ NameSet.ofList ((hooks.map (·.1)).filter (· ∉ hookNames)) :=
        NameSet.mem_ofList.2 (List.mem_filter.2 ⟨mem, by simpa using unknown⟩)
      rw [← NameSet.mem_toList, List.isEmpty_iff.1 none] at listed
      cases listed
    · nomatch h

/-- A component that is read is valid. -/
theorem valid_of_readComponent {value : Value} {c : Component}
    (h : readComponent value = .valid c) : c.Valid := by
  have settings {e : Entries} {key : String} {items : List Setting}
      (h : field e key [] (readList readSetting) = .valid items) :
      ∀ s ∈ items, s.Valid := by
    rcases Checked.of_field h with rfl | ⟨v, read⟩
    · exact nofun
    · intro s mem
      obtain ⟨v, hv⟩ := exists_of_readList read s mem
      exact valid_of_readSetting hv
  obtain ⟨e, fields⟩ := of_readRecord h
  simp only [Checked.seq_eq_valid, Checked.map_eq_valid] at fields
  obtain ⟨_, commands, fields, -, rfl⟩ := fields
  obtain ⟨_, methods, fields, -, rfl⟩ := fields
  obtain ⟨_, hooks, fields, readHooks, rfl⟩ := fields
  obtain ⟨_, operations, fields, -, rfl⟩ := fields
  obtain ⟨_, dynamicOutputPorts, fields, -, rfl⟩ := fields
  obtain ⟨_, dynamicInputPorts, fields, -, rfl⟩ := fields
  obtain ⟨_, outputPorts, fields, -, rfl⟩ := fields
  obtain ⟨_, inputPorts, fields, -, rfl⟩ := fields
  obtain ⟨_, attributes, fields, readAttributes, rfl⟩ := fields
  obtain ⟨_, properties, fields, readProperties, rfl⟩ := fields
  obtain ⟨_, portDriven, fields, -, rfl⟩ := fields
  obtain ⟨_, needsConfiguration, fields, -, rfl⟩ := fields
  obtain ⟨_, fixedInitialState, fields, -, rfl⟩ := fields
  obtain ⟨_, doc, fields, -, rfl⟩ := fields
  obtain ⟨_, subclasses, fields, -, rfl⟩ := fields
  obtain ⟨_, -, rfl⟩ := fields
  have statements : (hooks.map (·.1)).Nodup ∧ ∀ hook ∈ hooks.map (·.1), hook ∈ hookNames := by
    rcases Checked.of_field readHooks with rfl | ⟨v, read⟩
    · exact ⟨.nil, nofun⟩
    · exact valid_of_readHooks read
  refine ⟨fun s mem => ?_, statements.1, statements.2⟩
  exact (List.mem_append.1 mem).elim (settings readProperties s) (settings readAttributes s)

/-- The valid descriptions are those that can be read. -/
theorem Project.valid_iff {p : Project} : p.Valid ↔ ∃ value, readProject value = .valid p := by
  refine ⟨fun valid => ⟨_, readProject_fields valid⟩, fun ⟨value, h⟩ => ?_⟩
  obtain ⟨e, fields⟩ := of_readRecord h
  simp only [Checked.seq_eq_valid, Checked.map_eq_valid] at fields
  obtain ⟨_, components, fields, read, rfl⟩ := fields
  obtain ⟨_, usedLibraries, fields, -, rfl⟩ := fields
  obtain ⟨_, usedTypekits, fields, -, rfl⟩ := fields
  obtain ⟨_, typekit, fields, -, rfl⟩ := fields
  obtain ⟨_, -, rfl⟩ := fields
  rcases Checked.of_field read with rfl | ⟨v, read⟩
  · exact nofun
  · intro c mem
    obtain ⟨v, hv⟩ := exists_of_readList read c mem
    exact valid_of_readComponent hv

end Valid

/-- A description that can be read, and whose defaults are no infinities and lack no number, is
given back by the reader of its document, given that the document of a plain tree is loaded as that
tree. Defaults keep their types, as values of different types differ. -/
theorem Project.parse_write {p : Project} (label : String) (valid : p.Valid) (finite : p.Finite)
    (inverts : (Tree.dict p.fields).Plain → Value.parse p.write = .ok (Tree.dict p.fields).value) :
    Project.parse label p.write = .ok p := by
  have read := readProject_fields valid
  rw [Tree.value] at read inverts
  rw [Project.parse, inverts (p.plain valid finite)]
  simp only [Project.ofValue, read]

end Componentry.Description

namespace Componentry.Yaml

deriving instance DecidableEq for ScalarProblem, Problem, Token

/-- The tokens of the rest of a text, if a number of steps is enough to read them. -/
def Scan.runFor (fuel : Nat) (s : Scan) : Option (Array Token) :=
  match fuel with
  | 0 => none
  | fuel + 1 =>
    let t := s.toToken
    match t.dropStale with
    | .error problem => some (t.tokens.push (.broken problem))
    | .ok t =>
      let t := t.unwind t.cursor.column
      if t.cursor.rest.isEmpty then
        match t.finish with
        | .ok t => some t.tokens
        | .error problem => some (t.tokens.push (.broken problem))
      else
        match t.token with
        | .error problem => some (t.tokens.push (.broken problem))
        | .ok next =>
          if next.cursor.rest.length < s.cursor.rest.length then next.runFor fuel
          else some (next.tokens.push (.broken .form))

/-- A scan that ends within some number of steps gives what it gives then. -/
theorem Scan.run_of_runFor {fuel : Nat} {s : Scan} {tokens : Array Token}
    (h : s.runFor fuel = some tokens) :
    s.run = tokens := by
  induction fuel generalizing s with
  | zero => cases h
  | succ fuel ih =>
    rw [runFor] at h
    rw [run]
    grind

/-- A text is parsed by its tokens and its node. -/
theorem Value.parse_of_tokens {fuel : Nat} {text : String} {read : List Token} {node : Node}
    {value : Value} (legible : text.toList.all isYamlChar = true)
    (scanned : Scan.runFor fuel { cursor := .start text.toList } = some read.toArray)
    (composed : Node.ofTokens read = .ok (some node))
    (built : (ofNode (unroll 6 [] node)).toExcept = .ok value) : parse text = .ok value := by
  rw [parse, tokens, Scan.run_of_runFor scanned, if_pos legible, composed]
  exact built

end Componentry.Yaml

namespace Componentry.Description

open Componentry.Yaml

/-- A description of a component that no port triggers, with a number for the default of a
property. -/
def gainDescription : Project :=
  { name := "app"
    components := [{
      name := "Task"
      portDriven := .named []
      properties := [{ name := "gain", type := "double", default := .float 1.5 }] }] }

/-- The document of the description. -/
def gainText : String :=
  "name: app\ntasks:\n- name: Task\n  port-driven: []\n  properties:\n" ++
    "  - name: gain\n    type: double\n    default: 1.5\n"

/-- The tokens of the document. -/
def gainTokens : List Token :=
  [.blockMappingStart, .key, .scalar "name".toList true, .value, .scalar "app".toList true,
    .key, .scalar "tasks".toList true, .value, .blockEntry,
    .blockMappingStart, .key, .scalar "name".toList true, .value, .scalar "Task".toList true,
    .key, .scalar "port-driven".toList true, .value, .flowSequenceStart, .flowSequenceEnd,
    .key, .scalar "properties".toList true, .value, .blockEntry,
    .blockMappingStart, .key, .scalar "name".toList true, .value, .scalar "gain".toList true,
    .key, .scalar "type".toList true, .value, .scalar "double".toList true,
    .key, .scalar "default".toList true, .value, .scalar "1.5".toList true,
    .blockEnd, .blockEnd, .blockEnd]

/-- The node of the document. -/
def gainNode : Node :=
  .mapping .mapping none [
    (.scalar .text "name".toList, .scalar .text "app".toList),
    (.scalar .text "tasks".toList, .sequence .sequence none [
      .mapping .mapping none [
        (.scalar .text "name".toList, .scalar .text "Task".toList),
        (.scalar .text "port-driven".toList, .sequence .sequence none []),
        (.scalar .text "properties".toList, .sequence .sequence none [
          .mapping .mapping none [
            (.scalar .text "name".toList, .scalar .text "gain".toList),
            (.scalar .text "type".toList, .scalar .text "double".toList),
            (.scalar .text "default".toList, .scalar .float "1.5".toList)]])]])]

/-- The description of one component with a property is written as its text. -/
theorem write_gainDescription : gainDescription.write = gainText := by
  have fields : gainDescription.fields =
      [("name", .text "app"),
        ("tasks", .list [.dict [("name", .text "Task"), ("port-driven", .list []),
        ("properties", .list [.dict
          [("name", .text "gain"), ("type", .text "double"), ("default", .float 1.5)]])]])] :=
    rfl
  rw [Project.write, fields]
  simp only [Tree.document, Tree.writeFirstEntry, Tree.writeEntries, Tree.writeEntry, Tree.write,
    Tree.writeItems, Tree.writeFirstItem]
  decide +kernel

/-- The document of the description is loaded as the tree that was written. -/
theorem parse_gainText : Value.parse gainText = .ok (Tree.dict gainDescription.fields).value := by
  have scanned : Scan.runFor 40 { cursor := .start gainText.toList } = some gainTokens.toArray := by
    decide +kernel
  have composed : Node.ofTokens gainTokens = .ok (some gainNode) := by with_unfolding_all rfl
  refine Value.parse_of_tokens (by decide +kernel) scanned composed ?_
  simp only [gainNode, Value.unroll, Value.unrollEntries, Value.unrollItems, Value.ofNode,
    Value.ofItems, Value.ofMapping, Value.mergesWell, Value.ofEntries, Value.ofMerged, Value.ofOwn,
    Value.isCollection]
  rfl

/-- The default of the property is read back as the floating point number that it is. -/
theorem parse_write_gainDescription :
    gainDescription.Valid ∧ gainDescription.Finite ∧
      Project.parse "taskgen.yaml" gainDescription.write = .ok gainDescription := by
  have valid : gainDescription.Valid := by
    intro c mem
    obtain rfl := List.mem_singleton.1 mem
    refine ⟨fun s mem => ?_, .nil, nofun⟩
    obtain rfl := List.mem_singleton.1 mem
    exact nofun
  have finite : gainDescription.Finite := by
    intro c mem s mem' x default
    obtain rfl := List.mem_singleton.1 mem
    obtain rfl := List.mem_singleton.1 mem'
    cases default
    decide +kernel
  refine ⟨valid, finite, Project.parse_write "taskgen.yaml" valid finite fun _ => ?_⟩
  rw [write_gainDescription, parse_gainText]

end Componentry.Description
