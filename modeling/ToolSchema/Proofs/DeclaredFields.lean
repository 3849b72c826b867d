import ToolSchema.Proofs.FieldTree
import ToolSchema.Proofs.Reading
import ToolSchema.Proofs.SchemaValidity

/-!
# What declarations of fields say

A field is declared by a JSON Schema. Which documents are valid against it is said here kind by
kind, in terms of the constraints of the field and of what is valid against the declarations of its
children. Only bounds that are no numbers are declared as something else than they are.
-/

namespace ToolSchema

/-- Whether a number lies within the bounds as they are declared. -/
def Rules.admitsDeclared (strange : StrangeBound) (rules : Rules) (x : Binary64) : Bool :=
  rules.min.all (Json.boundHolds strange fun bound ↦ !(Double.finite x).lt bound) &&
    rules.max.all (Json.boundHolds strange fun bound ↦ !bound.lt (.finite x))

namespace Field

open Json

/-- The keywords with which a field is declared, annotations aside. -/
def keywords (field : Field) : List (String × Json) :=
  match field.kind with
  | .string => typeMember "string" :: stringConstraints field.rules
  | .number => typeMember "number" :: numberConstraints field.rules
  | .boolean => [typeMember "boolean"]
  | .date => [typeMember "string", ("format", .string "date-time")]
  | .enumeration => typeMember "string" :: Json.optional "enum" Json.ofStrings field.members?
  | .array =>
    typeMember "array" ::
      (match field.children with
        | some (item :: _) => [("items", item.jsonSchema)]
        | _ => [])
  | .object =>
    typeMember "object" ::
      ("properties", .object (collect (named jsonSchema (field.children.getD [])))) ::
        requiredNames (field.children.getD [])
  | .union =>
    (match field.children with
      | some (first :: second :: _) => [("anyOf", .array [first.jsonSchema, second.jsonSchema])]
      | _ => [])
  | .file | .calculated | .unsupported => []

/-- Description and default stand behind the keywords that say what is valid. -/
theorem jsonSchema_eq (field : Field) :
    field.jsonSchema =
      .object (field.keywords ++ Json.optional "description" Json.string field.description ++
        Json.optional "default" id field.default?) := by
  obtain ⟨name, kind, description, rules, members, children, calculation⟩ := field
  rw [jsonSchema.eq_def]
  cases kind with
  | object =>
    cases children with
    | none => rfl
    | some children =>
      simp only [jsonSchemas_eq_named]
      rfl
  | _ => rfl

variable {strange : StrangeBound} {field : Field} {value : Json}

/-- Annotations say nothing: a document is valid if it satisfies the other keywords. -/
theorem valid_jsonSchema_iff :
    valid strange field.jsonSchema value ↔
      ∀ keyword ∈ field.keywords, validKeyword strange keyword value := by
  rw [jsonSchema_eq, valid, validKeywords_eq_all, List.all_eq_true]
  constructor
  · intro h keyword hkeyword
    exact h keyword (by simp [hkeyword])
  · intro h keyword hkeyword
    simp only [List.mem_append, Json.optional, List.mem_map, Option.mem_toList] at hkeyword
    obtain (hkeyword | ⟨text, -, rfl⟩) | ⟨default, -, rfl⟩ := hkeyword
    · exact h keyword hkeyword
    · exact validKeyword_annotation (by decide) _
    · exact validKeyword_annotation (by decide) _

theorem forall_mem_optional {α : Type} {key : String} {encode : α → Json} {o : Option α}
    {p : String × Json → Prop} :
    (∀ member ∈ Json.optional key encode o, p member) ↔ ∀ a ∈ o, p (key, encode a) := by
  cases o <;> simp [Json.optional]

/-- What is declared about texts is what rules ask of them. -/
theorem forall_stringConstraints_iff {rules? : Option Rules} :
    (∀ keyword ∈ stringConstraints rules?, validKeyword strange keyword value) ↔
      ∀ text ∈ value.text?, (rules?.getD {}).admitsText text := by
  cases rules? with
  | none => simp [stringConstraints, Rules.admitsText, Rules.pattern?]
  | some rules =>
    simp only [stringConstraints, List.forall_mem_append, forall_mem_optional,
      validKeyword_minLength, validKeyword_maxLength, validKeyword_pattern, Option.all_eq_true,
      Rules.admitsText, Bool.and_eq_true, Option.getD_some, Option.mem_def, decide_eq_true_eq]
    grind

/-- What is declared about numbers is what rules ask of them, but for bounds that are no numbers. -/
theorem forall_numberConstraints_iff {rules? : Option Rules} :
    (∀ keyword ∈ numberConstraints rules?, validKeyword strange keyword value) ↔
      ∀ x ∈ value.number?, (rules?.getD {}).admitsDeclared strange x := by
  cases rules? with
  | none => simp [numberConstraints, Rules.admitsDeclared]
  | some rules =>
    simp only [numberConstraints, List.forall_mem_append, forall_mem_optional,
      validKeyword_minimum, validKeyword_maximum, Option.all_eq_true,
      Rules.admitsDeclared, Bool.and_eq_true, Option.getD_some, Option.mem_def]
    grind

theorem valid_string_iff (h : field.kind = .string) :
    valid strange field.jsonSchema value ↔
      ∃ text, value = .string text ∧ (field.rules.getD {}).admitsText text := by
  rw [valid_jsonSchema_iff, keywords, h]
  simp only [List.forall_mem_cons, forall_stringConstraints_iff, validKeyword_typeMember]
  cases value <;> simp [type, JsonType.name, text?]

theorem valid_number_iff (h : field.kind = .number) :
    valid strange field.jsonSchema value ↔
      ∃ n, value = .number n ∧ (field.rules.getD {}).admitsDeclared strange n.toBinary64 := by
  rw [valid_jsonSchema_iff, keywords, h]
  simp only [List.forall_mem_cons, forall_numberConstraints_iff, validKeyword_typeMember]
  cases value <;> simp [type, JsonType.name, number?]

theorem valid_boolean_iff (h : field.kind = .boolean) :
    valid strange field.jsonSchema value ↔ ∃ truth, value = .bool truth := by
  rw [valid_jsonSchema_iff, keywords, h]
  cases value <;> simp [type, JsonType.name]

/-- A format is an annotation, so that any text is valid. -/
theorem valid_date_iff (h : field.kind = .date) :
    valid strange field.jsonSchema value ↔ ∃ text, value = .string text := by
  rw [valid_jsonSchema_iff, keywords, h]
  have hformat : validKeyword strange ("format", .string "date-time") value :=
    validKeyword_annotation (by decide) _
  simp only [List.forall_mem_cons, hformat]
  cases value <;> simp [type, JsonType.name]

theorem valid_enumeration_iff (h : field.kind = .enumeration) :
    valid strange field.jsonSchema value ↔
      ∃ text, value = .string text ∧ ∀ options ∈ field.members?, text ∈ options := by
  rw [valid_jsonSchema_iff, keywords, h]
  simp only [List.forall_mem_cons, forall_mem_optional, validKeyword_typeMember, validKeyword_enum]
  cases value <;> simp [type, JsonType.name, beq]

theorem valid_array_iff (h : field.kind = .array) :
    valid strange field.jsonSchema value ↔
      ∃ items, value = .array items ∧
        ∀ child ∈ (field.children.getD []).head?, ∀ item ∈ items,
          valid strange child.jsonSchema item := by
  rw [valid_jsonSchema_iff, keywords, h]
  match field.children with
  | none | some [] => cases value <;> simp [type, JsonType.name]
  | some (child :: rest) => cases value <;> simp [type, JsonType.name, items]

/-- The keyword is left out where no member must be given, and then nothing is asked. -/
theorem forall_requiredNames_iff {children : List Field} {members : List (String × Json)} :
    (∀ keyword ∈ requiredNames children, validKeyword strange keyword (.object members)) ↔
      ∀ child ∈ children, child.mustBeGiven → child.name ∈ keys members := by
  unfold requiredNames
  cases hnames : (children.filter mustBeGiven).map Field.name with
  | nil =>
    have hnone := List.filter_eq_nil_iff.mp (List.map_eq_nil_iff.mp hnames)
    constructor
    · intro _ child hchild hgiven
      exact absurd hgiven (hnone child hchild)
    · intro _ keyword hkeyword
      cases hkeyword
  | cons name rest =>
    rw [List.forall_mem_singleton, ← hnames, validKeyword_required, List.all_eq_true]
    simp only [List.forall_mem_map, List.mem_filter, decide_eq_true_eq, and_imp]

/-- An object is valid if the members under declared keys are, and those that must be given are
there. -/
theorem valid_object_iff (h : field.kind = .object)
    (hnames : ((field.children.getD []).map Field.name).Nodup) :
    valid strange field.jsonSchema value ↔
      ∃ members, value = .object members ∧
        ∀ child ∈ field.children.getD [],
          (∀ member ∈ lookup child.name members, valid strange child.jsonSchema member) ∧
            (child.mustBeGiven → child.name ∈ keys members) := by
  have hcollect : collect (named jsonSchema (field.children.getD [])) =
      named jsonSchema (field.children.getD []) :=
    collect_of_nodup (by rwa [keys_named])
  rw [valid_jsonSchema_iff, keywords, h]
  simp only [List.forall_mem_cons, validKeyword_typeMember, validKeyword_properties, hcollect]
  cases value with
  | object members =>
    simp only [forall_requiredNames_iff, named, List.all_map, List.all_eq_true, Function.comp_apply,
      get?, Option.all_eq_true, object.injEq, exists_eq_left', type, JsonType.name, decide_true,
      true_and, forall_and, Option.mem_def]
  | _ => simp [type, JsonType.name]

theorem valid_union_iff (h : field.kind = .union) {first second : Field} {rest : List Field}
    (hchildren : field.children = some (first :: second :: rest)) :
    valid strange field.jsonSchema value ↔
      valid strange first.jsonSchema value ∨ valid strange second.jsonSchema value := by
  rw [valid_jsonSchema_iff, keywords, h, hchildren]
  simp

end Field

end ToolSchema
