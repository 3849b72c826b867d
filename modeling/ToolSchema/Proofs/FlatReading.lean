import ToolSchema.Proofs.Calls
import ToolSchema.Proofs.LenientCompilers
import ToolSchema.Proofs.Loosening

/-!
# Reading documents along flat parameters

A flat map says directly which documents it accepts: its types, members, bounds and patterns are
looked at as they are written, without lowering them into fields. What a lenient compiler makes of a
flat map accepts exactly these documents.
-/

namespace ToolSchema

/-- Whether a text matches the pattern that a source stands for. Nothing matches a pattern that is
none. -/
def Pattern.sourceMatches (source text : String) : Bool :=
  (ofSource? source).any fun p ↦ p.matchesText text

/-- Whether the keys of an object are allowed beside those that are declared. -/
def UnknownKeys.allows (policy : UnknownKeys) (declared : List String)
    (given : List (String × Json)) : Bool :=
  policy ≠ .reject || (keys given).all fun key ↦ key ∈ declared

theorem UnknownKeys.allows_iff {policy : UnknownKeys} {declared : List String}
    {given : List (String × Json)} :
    policy.allows declared given ↔ (policy = .reject → undeclared declared given = []) := by
  have hnone : undeclared declared given = [] ↔ ∀ key ∈ keys given, key ∈ declared := by
    rw [undeclared, List.filter_eq_nil_iff, keys, List.forall_mem_map]
    simp
  rw [hnone]
  cases policy <;> simp [allows]

namespace FlatRules

def admitsNumber (rules : FlatRules) (x : Binary64) : Bool :=
  (rules.min.all fun bound ↦ !(Double.finite x).lt bound) &&
    rules.max.all fun bound ↦ !bound.lt (.finite x)

def admitsLength (rules : FlatRules) (length : Nat) : Bool :=
  (rules.minLength.all fun least ↦ least.toNat ≤ length) &&
    rules.maxLength.all fun most ↦ length ≤ most.toNat

/-- Whether a text matches the pattern that is written, or else the one of the type. An empty
pattern counts as none. -/
def admitsPattern (rules : FlatRules) (type text : String) : Bool :=
  match rules.pattern.filter fun source ↦ source ≠ "" with
  | some source => Pattern.sourceMatches source text
  | none =>
    match type with
    | "email" => Pattern.sourceMatches FlatParameter.emailPattern text
    | "url" => Pattern.sourceMatches FlatParameter.urlPattern text
    | _ => true

/-- Whether a text is one of the literals, or has an allowed length and matches if there are
none. -/
def admitsText (rules : FlatRules) (type : String) (literals : Option (List String))
    (text : String) : Bool :=
  match literals with
  | some (first :: rest) => text ∈ first :: rest
  | _ => rules.admitsLength text.length && rules.admitsPattern type text

end FlatRules

namespace FlatParameter

mutual
/-- Whether a parameter accepts a value. -/
def admits (coerce : Bool) (policy : UnknownKeys) : FlatParameter → Json → Bool
  | ⟨type, _, _, members, properties, items, rules⟩, value =>
    match type with
    | "number" =>
      match value.coerceNumber? coerce with
      | some (.number n) => (rules.getD {}).admitsNumber n.toBinary64
      | _ => false
    | "boolean" => value.type = .boolean
    | "date" => (value.moment? coerce).isSome
    | "array" =>
      match items, value with
      | some item, .array values => values.all (admits coerce policy item)
      | none, .array _ => true
      | _, _ => false
    | "object" =>
      match properties, value with
      | some properties, .object given =>
        admitsMembers coerce policy properties given && policy.allows (keys properties) given
      | none, .object _ => true
      | _, _ => false
    | type =>
      match value with
      | .string text => (rules.getD {}).admitsText type members text
      | _ => false

/-- Whether an object has all required members, and only members that their parameters accept. -/
def admitsMembers (coerce : Bool) (policy : UnknownKeys) :
    List (String × FlatParameter) → List (String × Json) → Bool
  | [], _ => true
  | (name, parameter) :: rest, given =>
    (match lookup name given with
      | some value => admits coerce policy parameter value
      | none => !parameter.required) && admitsMembers coerce policy rest given
end

theorem admitsMembers_eq_all (coerce : Bool) (policy : UnknownKeys)
    (properties : List (String × FlatParameter)) (given : List (String × Json)) :
    admitsMembers coerce policy properties given = properties.all fun pair ↦
      match lookup pair.1 given with
      | some value => pair.2.admits coerce policy value
      | none => !pair.2.required := by
  induction properties with
  | nil => rw [admitsMembers, List.all_nil]
  | cons pair rest ih => rw [admitsMembers, ih, List.all_cons]

end FlatParameter

/-- Whether a flat map accepts a value: an object with all required members, with only members that
their parameters accept, and with no others if those are refused. -/
def FlatParameters.admits (coerce : Bool) (policy : UnknownKeys) (parameters : FlatParameters) :
    Json → Bool
  | .object given =>
    FlatParameter.admitsMembers coerce policy parameters.properties given &&
      policy.allows (keys parameters.properties) given
  | _ => false

/-! ## Rules of lowered parameters -/

/-- Rules that only say whether a value is required admit every value. -/
theorem Rules.filter_admits_required (predicates : Predicates) (kind : FieldKind)
    (required : Option Bool) (read? : Option Json) :
    read?.filter (({ required } : Rules).admits predicates kind) = read? := by
  have hadmits : ∀ value, ({ required } : Rules).admits predicates kind value = true := by
    intro value
    cases kind <;> cases value <;> rfl
  cases read? with
  | none => rfl
  | some value => rw [Option.filter_some, if_pos (hadmits value)]

namespace FlatParameter

variable {s : Setting} {parameter : FlatParameter} {name : String} {value : Json}

theorem rules_toField (name : String) (parameter : FlatParameter) :
    (parameter.toField name).rules = some parameter.fieldRules := by
  obtain ⟨type, description, required, members, properties, items, rules⟩ := parameter
  rw [toField.eq_def]

theorem kind_toField (name : String) (parameter : FlatParameter) :
    (parameter.toField name).kind = parameter.kind := by
  obtain ⟨type, description, required, members, properties, items, rules⟩ := parameter
  rw [toField.eq_def]

theorem members_toField (name : String) (parameter : FlatParameter) :
    (parameter.toField name).members =
      if parameter.kind = .enumeration then parameter.members? else none := by
  obtain ⟨type, description, required, members, properties, items, rules⟩ := parameter
  rw [toField.eq_def]

theorem custom_fieldRules (parameter : FlatParameter) : parameter.fieldRules.custom = none := by
  unfold fieldRules
  cases parameter.kind <;> rfl

theorem default_fieldRules (parameter : FlatParameter) : parameter.fieldRules.default = none := by
  unfold fieldRules
  cases parameter.kind <;> rfl

theorem isRequired_fieldRules (parameter : FlatParameter) :
    parameter.fieldRules.isRequired = parameter.required := by
  unfold fieldRules
  cases parameter.kind <;> cases parameter.required <;> rfl

/-- Lowered parameters have no custom checks. -/
theorem customRegistered_toField (predicates : Predicates) (parameter : FlatParameter)
    (name : String) : (parameter.toField name).CustomRegistered predicates := by
  intro check hcheck
  rw [rules_toField, Option.getD_some, Rules.custom?, custom_fieldRules] at hcheck
  cases hcheck

/-! ## Reading lowered parameters, type by type -/

theorem isSome_read_number (htype : parameter.type = "number") :
    ((parameter.toField name).read s value).isSome =
      parameter.admits s.coerce s.unknownKeys value := by
  obtain ⟨type, description, required, members, properties, items, rules⟩ := parameter
  obtain rfl : type = "number" := htype
  rw [toField.eq_def, admits.eq_def]
  simp only [Field.read, Field.readKind, kind, baseKind, fieldRules, Option.getD_some,
    Option.isSome_filter]
  cases hnumber : value.coerceNumber? s.coerce with
  | none => rfl
  | some number =>
    obtain ⟨n, rfl⟩ := Field.exists_of_coerceNumber? hnumber
    exact Bool.and_true _

theorem isSome_read_boolean (htype : parameter.type = "boolean") :
    ((parameter.toField name).read s value).isSome =
      parameter.admits s.coerce s.unknownKeys value := by
  obtain ⟨type, description, required, members, properties, items, rules⟩ := parameter
  obtain rfl : type = "boolean" := htype
  rw [toField.eq_def, admits.eq_def]
  simp only [Field.read, Field.readKind, kind, baseKind, fieldRules, Option.getD_some,
    Rules.filter_admits_required]
  cases value <;> rfl

theorem isSome_read_date (htype : parameter.type = "date") :
    ((parameter.toField name).read s value).isSome =
      parameter.admits s.coerce s.unknownKeys value := by
  obtain ⟨type, description, required, members, properties, items, rules⟩ := parameter
  obtain rfl : type = "date" := htype
  rw [toField.eq_def, admits.eq_def]
  simp only [Field.read, Field.readKind, kind, baseKind, fieldRules, Option.getD_some,
    Rules.filter_admits_required, Option.isSome_map]

theorem isSome_read_array (htype : parameter.type = "array")
    (hitems : ∀ item ∈ parameter.items, ∀ value, ((item.toField itemName).read s value).isSome =
      item.admits s.coerce s.unknownKeys value) :
    ((parameter.toField name).read s value).isSome =
      parameter.admits s.coerce s.unknownKeys value := by
  obtain ⟨type, description, required, members, properties, items, rules⟩ := parameter
  obtain rfl : type = "array" := htype
  rw [toField.eq_def, admits.eq_def]
  simp only [Field.read, kind, baseKind, fieldRules, Option.getD_some,
    Rules.filter_admits_required]
  cases items with
  | none => cases value <;> rfl
  | some item =>
    cases value with
    | array values =>
      simp only [Field.readKind, Option.isSome_map]
      rw [Bool.eq_iff_iff, isSome_mapM_iff, List.all_eq_true]
      simp only [hitems item rfl]
    | _ => rfl

/-- A property may be missing exactly if it is not required, as flat parameters have no defaults. -/
theorem isSome_readMember_fieldRules {value? : Option Json}
    (hread : ∀ value, ((parameter.toField name).read s value).isSome =
      parameter.admits s.coerce s.unknownKeys value) :
    (parameter.fieldRules.readMember ((parameter.toField name).read s) value?).isSome =
      match value? with
      | some value => parameter.admits s.coerce s.unknownKeys value
      | none => !parameter.required := by
  cases value? with
  | some value => rw [Bool.eq_iff_iff, Rules.isSome_readMember_some, hread]
  | none =>
    rw [Bool.eq_iff_iff, Rules.isSome_readMember_none, default_fieldRules, isRequired_fieldRules]
    simp

/-- An object is read along lowered properties if the properties admit its members. -/
theorem isSome_readMembers_toFields {properties : List (String × FlatParameter)}
    (hnames : (keys properties).Nodup)
    (hread : ∀ pair ∈ properties, ∀ name value, ((pair.2.toField name).read s value).isSome =
      pair.2.admits s.coerce s.unknownKeys value) (given : List (String × Json)) :
    (readMembers s.unknownKeys
        (lastUnderEach (Field.memberReadings s (toFields properties))) given).isSome =
      (admitsMembers s.coerce s.unknownKeys properties given &&
        s.unknownKeys.allows (keys properties) given) := by
  have hreadings : lastUnderEach (Field.memberReadings s (toFields properties)) =
      properties.map fun pair ↦
        (pair.1, pair.2.fieldRules.readMember ((pair.2.toField pair.1).read s)) := by
    rw [Field.lastUnderEach_memberReadings (by rwa [map_name_toFields]), toFields_eq_map,
      Field.named, List.map_map]
    apply List.map_congr_left
    intro pair _
    simp only [Function.comp_apply, name_toField, rules_toField, Option.getD_some]
  have hkeys : keys (properties.map fun pair ↦
      (pair.1, pair.2.fieldRules.readMember ((pair.2.toField pair.1).read s))) =
        keys properties := by
    rw [keys, List.map_map]
    rfl
  have hmembers : (∀ pair ∈ properties, (pair.2.fieldRules.readMember
      ((pair.2.toField pair.1).read s) (lookup pair.1 given)).isSome) ↔
        admitsMembers s.coerce s.unknownKeys properties given := by
    rw [admitsMembers_eq_all, List.all_eq_true]
    apply forall₂_congr
    intro pair hpair
    rw [isSome_readMember_fieldRules (hread pair hpair pair.1)]
  rw [Bool.eq_iff_iff, hreadings, isSome_readMembers_iff, isSome_readDeclared_iff, hkeys,
    List.forall_mem_map, hmembers, Bool.and_eq_true, UnknownKeys.allows_iff]

theorem isSome_read_object (htype : parameter.type = "object")
    (hnames : (keys (parameter.properties.getD [])).Nodup)
    (hread : ∀ pair ∈ parameter.properties.getD [], ∀ name value,
      ((pair.2.toField name).read s value).isSome = pair.2.admits s.coerce s.unknownKeys value) :
    ((parameter.toField name).read s value).isSome =
      parameter.admits s.coerce s.unknownKeys value := by
  obtain ⟨type, description, required, members, properties, items, rules⟩ := parameter
  obtain rfl : type = "object" := htype
  rw [toField.eq_def, admits.eq_def]
  simp only [Field.read, kind, baseKind, fieldRules, Option.getD_some,
    Rules.filter_admits_required]
  cases properties with
  | none => cases value <;> rfl
  | some properties =>
    cases value with
    | object given => exact isSome_readMembers_toFields hnames hread given
    | _ => rfl

/-- Every type that is none of these is a string, also one that nobody knows. -/
theorem baseKind_of_notMem {type : String}
    (htype : type ∉ ["number", "boolean", "date", "array", "object"]) :
    baseKind type = .string := by
  unfold baseKind
  split
  all_goals simp_all

/-- The pattern of a lowered parameter is the one that its texts must match. -/
theorem all_pattern?_eq (parameter : FlatParameter) (text : String) :
    ((parameter.pattern?.filter fun source ↦ source ≠ "").all fun source ↦
        Pattern.sourceMatches source text) =
      (parameter.rules.getD {}).admitsPattern parameter.type text := by
  have hwritten : parameter.rules.bind FlatRules.pattern = (parameter.rules.getD {}).pattern := by
    cases parameter.rules <;> rfl
  unfold FlatRules.admitsPattern
  rw [pattern?, hwritten]
  cases hpattern : (parameter.rules.getD {}).pattern.filter fun source ↦ source ≠ "" with
  | some source =>
    have hne := (Option.filter_eq_some_iff.mp hpattern).2
    rw [Option.some_or, Option.filter_some, if_pos hne, Option.all_some]
  | none =>
    rw [Option.none_or]
    dsimp only
    generalize parameter.type = type
    unfold typePattern?
    split
    · simp [emailPattern]
    · simp [urlPattern]
    · simp

/-- A parameter of texts is lowered to a string whose rules admit the same texts. -/
theorem admits_fieldRules (predicates : Predicates) (parameter : FlatParameter)
    (hkind : parameter.kind = .string) (text : String) :
    parameter.fieldRules.admits predicates .string (.string text) =
      ((parameter.rules.getD {}).admitsLength text.length &&
        (parameter.rules.getD {}).admitsPattern parameter.type text) := by
  have hcustom : parameter.fieldRules.admitsCustom predicates (.string text) = true := by
    rw [Rules.admitsCustom, Rules.custom?, custom_fieldRules]
    rfl
  rw [← all_pattern?_eq, Rules.admits, hcustom, Bool.and_true, fieldRules, hkind]
  rfl

theorem admits_text (htype : parameter.type ∉ ["number", "boolean", "date", "array", "object"])
    (coerce : Bool) (policy : UnknownKeys) :
    parameter.admits coerce policy value =
      match value with
      | .string text => (parameter.rules.getD {}).admitsText parameter.type parameter.members text
      | _ => false := by
  obtain ⟨type, description, required, members, properties, items, rules⟩ := parameter
  rw [admits.eq_def]
  split
  all_goals simp_all

/-- Every other type than these five is that of a text: of one of the literals, if there are any. -/
theorem isSome_read_text
    (htype : parameter.type ∉ ["number", "boolean", "date", "array", "object"]) :
    ((parameter.toField name).read s value).isSome =
      parameter.admits s.coerce s.unknownKeys value := by
  have hbase := baseKind_of_notMem htype
  rw [admits_text htype, Field.read_eq, rules_toField, members_toField, kind_toField,
    Option.getD_some]
  -- With literals the parameter is lowered to an enumeration without other rules.
  rcases hmembers : parameter.members with _ | (_ | ⟨first, rest⟩)
  case some.cons =>
    have hliterals : parameter.members? = some (first :: rest) := by
      rw [members?, hmembers]
      rfl
    have hkind : parameter.kind = .enumeration := by
      rw [kind, hbase, hliterals]
    rw [fieldRules, hkind, Rules.filter_admits_required, if_pos rfl, hliterals,
      Field.readKind.eq_def]
    cases value with
    | string text =>
      show (if text ∈ first :: rest then some (Json.string text) else none).isSome =
        decide (text ∈ first :: rest)
      rw [Bool.eq_iff_iff, Option.isSome_ite, decide_eq_true_iff]
    | _ => rfl
  case none | some.nil =>
    have hliterals : parameter.members? = none := by
      rw [members?, hmembers]
      rfl
    have hkind : parameter.kind = .string := by
      rw [kind, hbase, hliterals]
    rw [hkind, Field.readKind]
    cases value with
    | string text =>
      rw [Json.text?, Option.map_some, Option.isSome_filter, Option.any_some,
        admits_fieldRules _ parameter hkind]
      rfl
    | _ => rfl

/-- A lowered parameter reads what the parameter accepts. -/
theorem isSome_read_toField (h : parameter.NamesDistinct) :
    ∀ name value, ((parameter.toField name).read s value).isSome =
      parameter.admits s.coerce s.unknownKeys value := by
  induction h with
  | @intro parameter here _ _ hproperties hitems =>
    intro name value
    -- Lists and objects are read by the hypotheses of the induction, the other types by themselves.
    by_cases htype : parameter.type ∈ ["number", "boolean", "date", "array", "object"]
    · simp only [List.mem_cons, List.not_mem_nil, or_false] at htype
      rcases htype with htype | htype | htype | htype | htype
      · exact isSome_read_number htype
      · exact isSome_read_boolean htype
      · exact isSome_read_date htype
      · exact isSome_read_array htype fun item hitem ↦ hitems item hitem itemName
      · exact isSome_read_object htype here hproperties
    · exact isSome_read_text htype

end FlatParameter

/-- The field that a flat map is lowered to reads exactly what the map admits. -/
theorem FlatParameters.isSome_read_toField {s : Setting} {parameters : FlatParameters}
    (h : parameters.NamesDistinct) (value : Json) :
    (parameters.toField.read s value).isSome =
      parameters.admits s.coerce s.unknownKeys value := by
  rw [toField, Field.read, Option.getD_none, Rules.filter_admits_required s.predicates .object none]
  cases value with
  | object given =>
    exact FlatParameter.isSome_readMembers_toFields h.1
      (fun pair hpair ↦ FlatParameter.isSome_read_toField (h.2 pair hpair)) given
  | _ => rfl

namespace Compiler

/-- Lowering keeps what a flat map means: a lenient compiler makes of every flat map a validator
that accepts what the map accepts as it is written. -/
theorem compileFlat_accepts_iff_admits {compiler : Compiler}
    (hlenient : compiler.options.strict = false) {parameters : FlatParameters}
    (hnames : parameters.NamesDistinct) :
    ∃ v, (compiler.compileFlat parameters).outcome = .ok v ∧ ∀ value,
      v.accepts value ↔ parameters.admits (compiler.options.coercion.resolve .flat)
        compiler.options.unknownKeys value := by
  have hregistered : parameters.toField.Everywhere (Field.CustomRegistered compiler.predicates) :=
    hnames.everywhere_toField (fun _ hcheck ↦ by cases hcheck)
      fun parameter name _ ↦ parameter.customRegistered_toField compiler.predicates name
  have hok := compileShaped_eq_ok hlenient .flat hregistered
  refine ⟨_, hok, fun value ↦ ?_⟩
  calc (parameters.toField.validator _).accepts value
      ↔ (parameters.toField.read
          (compiler.setting (compiler.options.coercion.resolve .flat)) value).isSome :=
        accepts_iff_isSome_read hok value
    _ ↔ parameters.admits (compiler.options.coercion.resolve .flat)
          compiler.options.unknownKeys value := by
        rw [FlatParameters.isSome_read_toField hnames]
        rfl

/-- The parameters of an invitation: to whom, in which role, for how many, and where. -/
def invitation : FlatParameters where
  properties := [
    ("to", { type := "email", required := true }),
    ("role", { type := "string", members := some ["guest", "host"] }),
    ("seats", { type := "array", items := some {
      type := "number", rules := some { min := some (.finite (.ofInt 1)) } } }),
    ("place", { type := "object", properties := some [
      ("street", { type := "text", required := true })] })]

/-- An invitation needs an address, a place a street, and nothing else may be given. -/
theorem compileFlat_invitation :
    ∃ v, (Compiler.compileFlat { options := { unknownKeys := .reject } } invitation).outcome =
        .ok v ∧
      v.accepts (.object [("seats", .array [.ofInt 5]), ("to", .string "ada@lean.org")]) ∧
      ¬ v.accepts (.object [("to", .string "ada")]) ∧
      ¬ v.accepts (.object [("to", .string "ada@lean.org"), ("place", .object [])]) ∧
      ¬ v.accepts (.object [("to", .string "ada@lean.org"), ("copy", .string "")]) := by
  have hlenient : (Compiler.mk { unknownKeys := .reject } .builtin).options.strict = false := rfl
  have hnames : invitation.NamesDistinct := by
    refine ⟨by decide, ?_⟩
    simp only [invitation, List.forall_mem_cons]
    refine ⟨.of_isNone rfl rfl, .of_isNone rfl rfl, ?_, ?_, List.forall_mem_nil _⟩
    · refine .intro List.nodup_nil (List.forall_mem_nil _) ?_
      rintro _ ⟨⟩
      exact .of_isNone rfl rfl
    · refine .intro (by decide) ?_ (by simp)
      simp only [Option.getD_some, List.forall_mem_singleton]
      exact .of_isNone rfl rfl
  obtain ⟨v, hok, haccepts⟩ := compileFlat_accepts_iff_admits hlenient hnames
  refine ⟨v, hok, ?_⟩
  simp only [haccepts]
  decide +kernel

end Compiler

end ToolSchema
