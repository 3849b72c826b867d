import ToolSchema.Proofs.Acceptance
import ToolSchema.Proofs.Conformance
import ToolSchema.Tool.Set

/-!
# Calls conform to declarations

A tool is declared by the JSON Schema of the field that its parameters lead to, and a call hands
over what the validator of that field gives. So whatever compiler built the tool, an executor only
gets arguments that are valid against the declaration of the tool.
-/

namespace ToolSchema

/-! ## Names in flat maps -/

namespace FlatParameter

/-- Of the properties of a parameter, no two have one name, and so on below. -/
inductive NamesDistinct : FlatParameter → Prop
  | intro {parameter : FlatParameter} (here : (keys (parameter.properties.getD [])).Nodup)
      (properties : ∀ pair ∈ parameter.properties.getD [], NamesDistinct pair.2)
      (items : ∀ item ∈ parameter.items, NamesDistinct item) : NamesDistinct parameter

theorem NamesDistinct.of_isNone {parameter : FlatParameter}
    (hproperties : parameter.properties = none) (hitems : parameter.items = none) :
    parameter.NamesDistinct := by
  refine .intro ?_ ?_ ?_
  · simp [hproperties]
  · simp [hproperties]
  · simp [hitems]

theorem toFields_eq_map (properties : List (String × FlatParameter)) :
    toFields properties = properties.map fun pair ↦ toField pair.1 pair.2 := by
  induction properties with
  | nil => rw [toFields, List.map_nil]
  | cons pair rest ih => rw [toFields, ih, List.map_cons]

theorem name_toField (name : String) (parameter : FlatParameter) :
    (parameter.toField name).name = name := by
  obtain ⟨type, description, required, members, properties, items, rules⟩ := parameter
  rw [toField.eq_def]

theorem map_name_toFields (properties : List (String × FlatParameter)) :
    (toFields properties).map Field.name = keys properties := by
  rw [toFields_eq_map, List.map_map]
  exact List.map_congr_left fun pair _ ↦ name_toField pair.1 pair.2

/-- A parameter is lowered to a field with one child per property, with one for the items, or
without children. -/
theorem children_toField (name : String) (parameter : FlatParameter) :
    ((parameter.toField name).children.getD [] = toFields (parameter.properties.getD [])) ∨
      ((parameter.toField name).children.getD [] =
        (parameter.items.map (toField itemName)).toList) ∨
      (parameter.toField name).children.getD [] = [] := by
  obtain ⟨type, description, required, members, properties, items, rules⟩ := parameter
  rw [toField.eq_def]
  cases hkind : baseKind type with
  | object =>
    refine Or.inl ?_
    cases properties <;> simp [hkind, toFields]
  | array =>
    refine Or.inr (Or.inl ?_)
    cases items <;> simp [hkind]
  | _ => simp [hkind]

/-- What holds of every lowered parameter whose properties have distinct names holds everywhere in
one. -/
theorem NamesDistinct.everywhere_toField {holds : Field → Prop} {parameter : FlatParameter}
    (h : parameter.NamesDistinct)
    (hholds : ∀ (parameter : FlatParameter) name, (keys (parameter.properties.getD [])).Nodup →
      holds (parameter.toField name)) :
    ∀ name, (parameter.toField name).Everywhere holds := by
  induction h with
  | @intro parameter here _ _ hproperties hitems =>
    intro name
    refine ⟨hholds parameter name here, fun part hpart ↦ ?_⟩
    have hmem := Field.mem_children_of_mem_parts hpart
    rcases children_toField name parameter with hchildren | hchildren | hchildren
    · rw [hchildren, toFields_eq_map] at hmem
      obtain ⟨pair, hpair, rfl⟩ := List.mem_map.mp hmem
      exact hproperties pair hpair pair.1
    · rw [hchildren, Option.mem_toList] at hmem
      obtain ⟨item, hitem, rfl⟩ := Option.map_eq_some_iff.mp hmem
      exact hitems item hitem itemName
    · rw [hchildren] at hmem
      cases hmem

/-- Distinct names stay distinct when a parameter is lowered. -/
theorem namesDistinct_toField (parameter : FlatParameter) (name : String)
    (h : (keys (parameter.properties.getD [])).Nodup) :
    (parameter.toField name).NamesDistinct := by
  intro _
  rcases children_toField name parameter with hchildren | hchildren | hchildren
  · rwa [hchildren, map_name_toFields]
  · rw [hchildren]
    cases parameter.items <;> simp
  · simp [hchildren]

end FlatParameter

/-- The names of a flat map are distinct, and so are those below. -/
def FlatParameters.NamesDistinct (parameters : FlatParameters) : Prop :=
  (keys parameters.properties).Nodup ∧ ∀ pair ∈ parameters.properties, pair.2.NamesDistinct

/-- What holds of a lowered flat map, and of the lowered parameters in it, holds everywhere in the
lowered map. -/
theorem FlatParameters.NamesDistinct.everywhere_toField {holds : Field → Prop}
    {parameters : FlatParameters} (h : parameters.NamesDistinct) (hroot : holds parameters.toField)
    (hholds : ∀ (parameter : FlatParameter) name, (keys (parameter.properties.getD [])).Nodup →
      holds (FlatParameter.toField name parameter)) : parameters.toField.Everywhere holds := by
  refine ⟨hroot, fun part hpart ↦ ?_⟩
  have hmem : part ∈ FlatParameter.toFields parameters.properties :=
    Field.mem_children_of_mem_parts hpart
  rw [FlatParameter.toFields_eq_map] at hmem
  obtain ⟨pair, hpair, rfl⟩ := List.mem_map.mp hmem
  exact (h.2 pair hpair).everywhere_toField hholds pair.1

/-- Lowering keeps the names of parameters, and with them that they are distinct. -/
theorem FlatParameters.NamesDistinct.toField {parameters : FlatParameters}
    (h : parameters.NamesDistinct) : parameters.toField.Everywhere Field.NamesDistinct := by
  refine h.everywhere_toField (fun _ ↦ ?_) FlatParameter.namesDistinct_toField
  show ((FlatParameter.toFields parameters.properties).map Field.name).Nodup
  rw [FlatParameter.map_name_toFields]
  exact h.1

/-- No object that parameters describe has two members of one name. -/
def ToolParams.NamesDistinct : ToolParams → Prop
  | .flat parameters => parameters.NamesDistinct
  | .field f => f.Everywhere Field.NamesDistinct

theorem ToolParams.NamesDistinct.schemaField {parameters : ToolParams}
    (h : parameters.NamesDistinct) : parameters.schemaField.Everywhere Field.NamesDistinct := by
  cases parameters with
  | flat parameters => exact FlatParameters.NamesDistinct.toField h
  | field field => exact h

/-! ## Calls -/

/-- A call hands a value to the executor: what comes of the call is what the executor makes of the
value, whatever the executor is. -/
def ToolSet.HandsOver (set : ToolSet) (name : String) (arguments value : Json) : Prop :=
  ∀ execute : Json → Except String Json,
    (set.dispatch name arguments execute).2 = (execute value).mapError (.execution name)

/-- A call hands over what the validator of its tool gives. -/
theorem ToolSet.HandsOver.validate {set : ToolSet} {name : String} {arguments value : Json}
    {tool : CallableTool} (hget : set.get? name = some tool)
    (h : set.HandsOver name arguments value) : tool.validator.validate arguments = .ok value := by
  have hdispatch := h .ok
  unfold dispatch validateCall CallableTool.validate at hdispatch
  rw [hget] at hdispatch
  cases hvalid : tool.validator.validate arguments with
  | ok out =>
    simp only [hvalid] at hdispatch
    exact congrArg Except.ok (Except.ok.inj hdispatch)
  | error rejection =>
    simp only [hvalid] at hdispatch
    cases hdispatch

/-- A tool has the field that its parameters lead to, and the validator that the field stands
for. -/
theorem Compiler.of_toCallableTool {compiler : Compiler} {name description : String}
    {parameters : ToolParams} {tool : CallableTool}
    (h : (compiler.toCallableTool name description parameters).outcome = .ok tool) :
    tool.schema = parameters.schemaField ∧
      tool.validator = parameters.schemaField.validator
        (compiler.setting (compiler.options.coercion.resolve parameters.shape)) := by
  obtain ⟨v, hv, htool⟩ := Compiled.yields_bind.mp h
  obtain rfl := Compiled.yields_pure.mp htool
  exact ⟨rfl, eq_of_yields_compileShaped hv⟩

/-- What a tool is called with is valid against its declaration. A bound that is no number may be
taken to say nothing; if there is none, it does not matter how it is taken. -/
theorem ToolSet.HandsOver.valid {compiler : Compiler} {toolName description : String}
    {parameters : ToolParams} {tool : CallableTool}
    (hbuilt : (compiler.toCallableTool toolName description parameters).outcome = .ok tool)
    (hnames : parameters.NamesDistinct) {set : ToolSet} {name : String}
    (hget : set.get? name = some tool) {arguments value : Json}
    (h : set.HandsOver name arguments value) :
    ∃ schema, tool.definition.get? "parameters" = some schema ∧ schema.valid .ignored value ∧
      (parameters.schemaField.Everywhere Field.BoundsFinite →
        ∀ strange, schema.valid strange value) := by
  obtain ⟨hschema, hvalidator⟩ := Compiler.of_toCallableTool hbuilt
  have hvalid := h.validate hget
  rw [Validator.validate_eq_ok_iff, hvalidator, Field.value?_judge_validator] at hvalid
  refine ⟨parameters.schemaField.jsonSchema, by rw [← hschema]; rfl, ?_, ?_⟩
  · exact Field.valid_of_read _ hnames.schemaField (Or.inl rfl) hvalid
  · intro hbounds strange
    exact Field.valid_of_read _ hnames.schemaField (Or.inr hbounds) hvalid

/-- The parameters of a search: a query that is not empty, and a limit with a default. -/
def searchParameters : ToolParams :=
  .field
    { kind := .object
      children := some [
        { name := "query", kind := .string, rules := some { minLength := some 1 } },
        { name := "limit", kind := .number
          rules := some { min := some (.finite (.ofInt 1)), default := some (.ofInt 10) } }] }

/-- A search without a limit is handed over with the default limit, and valid. -/
theorem search_arguments_valid :
    ∃ tool, (Compiler.toCallableTool {} "search" "" searchParameters).outcome = .ok tool ∧
      ∃ schema, tool.definition.get? "parameters" = some schema ∧
        schema.valid .ignored (.object [("query", .string "lean"), ("limit", .ofInt 10)]) := by
  let tool : CallableTool := ⟨"search", "", searchParameters.schemaField,
    searchParameters.schemaField.validator (Compiler.setting {} true)⟩
  have hbuilt : (Compiler.toCallableTool {} "search" "" searchParameters).outcome = .ok tool := by
    rfl
  have hnames : searchParameters.NamesDistinct := by
    constructor
    · intro _
      decide
    · intro part hpart
      constructor
      · intro h
        simp [Field.parts] at hpart
        rcases hpart with rfl | rfl <;> cases h
      · simp [Field.parts] at hpart
        rcases hpart with rfl | rfl <;> simp [Field.parts]
  have hcall : ToolSet.HandsOver ⟨[("search", tool)]⟩ "search" (.object [("query", .string "lean")])
      (.object [("query", .string "lean"), ("limit", .ofInt 10)]) := by
    intro execute
    cbv
  obtain ⟨schema, hschema, hvalid, -⟩ := ToolSet.HandsOver.valid hbuilt hnames rfl hcall
  exact ⟨tool, hbuilt, schema, hschema, hvalid⟩

end ToolSchema
