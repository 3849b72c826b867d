import ToolSchema.Declaration
import ToolSchema.Pattern
import ToolSchema.Proofs.Table

/-!
# Validity against JSON Schemas

A JSON Schema is an object of keywords, and a document is valid against it if it satisfies each of
them. Assertions speak about the document itself; applicators say that parts of it, or it itself,
are valid against other schemas. Every other keyword is an annotation, which says nothing.

An infinite bound has no number to be declared with. What stands there instead is no bound that the
standard knows, so it is left open how it is taken.
-/

namespace ToolSchema

/-- How a bound that is no number is taken: it says nothing, or no number satisfies it. -/
inductive StrangeBound where
  | ignored | unsatisfiable
deriving DecidableEq

namespace Json

/-- The items of a list; anything else has none. -/
def items : Json → List Json
  | .array items => items
  | _ => []

/-- The natural number that a document is. -/
def natural? : Json → Option Nat
  | .number (.integer n _) => if 0 ≤ n then some n.toNat else none
  | _ => none

/-- Whether a number satisfies a bound that a keyword gives. Anything else does. -/
def withinBound (strange : StrangeBound) (beyond : Binary64 → Double → Bool)
    (argument value : Json) : Bool :=
  value.number?.all fun x ↦
    match argument.number? with
    | some bound => !beyond x (.finite bound)
    | none => strange = .ignored

/-- Whether a document satisfies an assertion. Numbers compare as they do in bounds, texts match as
they do in patterns, and nothing matches a pattern that is none. -/
def satisfies (strange : StrangeBound) (keyword : String) (argument value : Json) : Bool :=
  match keyword with
  | "type" => argument.text? = some value.type.name
  | "enum" => argument.items.any fun option ↦ option.beq value
  | "minLength" =>
    value.text?.all fun text ↦ argument.natural?.all fun length ↦ length ≤ text.length
  | "maxLength" =>
    value.text?.all fun text ↦ argument.natural?.all fun length ↦ text.length ≤ length
  | "pattern" =>
    value.text?.all fun text ↦
      (argument.text?.bind Pattern.ofSource?).any fun p ↦ p.matchesText text
  | "minimum" => withinBound strange (fun x bound ↦ (Double.finite x).lt bound) argument value
  | "maximum" => withinBound strange (fun x bound ↦ bound.lt (.finite x)) argument value
  | "required" =>
    match value with
    | .object members => argument.items.all fun name ↦ name.text?.any fun key ↦ key ∈ keys members
    | _ => true
  | _ => true

/-- Lengths are declared exactly. -/
theorem natural?_ofLength (length : UInt64) : (ofLength length).natural? = some length.toNat := by
  have hexact : IsExactInteger length.toNat := by
    have hlt : length.toNat < 2 ^ 64 := length.toNat_lt
    unfold IsExactInteger
    omega
  rw [ofLength, ofInt, Number.ofInt, dif_pos hexact, natural?, if_pos (by omega), Int.toNat_natCast]

mutual
/-- Whether a document is valid against a JSON Schema. -/
def valid (strange : StrangeBound) : Json → Json → Bool
  | .object keywords, value => validKeywords strange keywords value
  | .bool truth, _ => truth
  | _, _ => false
termination_by structural schema => schema

/-- Whether a document satisfies all keywords of a schema. -/
def validKeywords (strange : StrangeBound) : List (String × Json) → Json → Bool
  | [], _ => true
  | (keyword, argument) :: rest, value =>
    (match keyword, argument with
      | "items", schema => value.items.all fun item ↦ valid strange schema item
      | "properties", .object properties => validMembers strange properties value
      | "anyOf", .array schemas => validSome strange schemas value
      | _, _ => satisfies strange keyword argument value) && validKeywords strange rest value
termination_by structural keywords => keywords

/-- Whether the members of an object are valid against the schemas under their keys. -/
def validMembers (strange : StrangeBound) : List (String × Json) → Json → Bool
  | [], _ => true
  | (key, schema) :: rest, value =>
    ((value.get? key).all fun member ↦ valid strange schema member) &&
      validMembers strange rest value
termination_by structural properties => properties

/-- Whether a document is valid against one of several schemas. -/
def validSome (strange : StrangeBound) : List Json → Json → Bool
  | [], _ => false
  | schema :: rest, value => valid strange schema value || validSome strange rest value
termination_by structural schemas => schemas
end

def validKeyword (strange : StrangeBound) (keyword : String × Json) (value : Json) : Bool :=
  validKeywords strange [keyword] value

variable {strange : StrangeBound} {value : Json}

/-- Keywords are looked at independently of each other. -/
theorem validKeywords_eq_all (keywords : List (String × Json)) :
    validKeywords strange keywords value =
      keywords.all fun keyword ↦ validKeyword strange keyword value := by
  induction keywords with
  | nil => rw [validKeywords, List.all_nil]
  | cons keyword rest ih =>
    obtain ⟨name, argument⟩ := keyword
    rw [List.all_cons, ← ih, validKeyword, validKeywords.eq_def strange [_],
      validKeywords.eq_def strange (_ :: _)]
    simp [validKeywords]

theorem validMembers_eq_all (properties : List (String × Json)) :
    validMembers strange properties value =
      properties.all fun (key, schema) ↦ (value.get? key).all (valid strange schema) := by
  induction properties with
  | nil => rw [validMembers, List.all_nil]
  | cons property rest ih => rw [validMembers, ih, List.all_cons]

theorem validSome_eq_any (schemas : List Json) :
    validSome strange schemas value = schemas.any fun schema ↦ valid strange schema value := by
  induction schemas with
  | nil => rw [validSome, List.any_nil]
  | cons schema rest ih => rw [validSome, ih, List.any_cons]

/-! ## The keywords of declarations -/

/-- Whether a bound holds as it is declared: by what it says as a number, if it is one. -/
def boundHolds (strange : StrangeBound) (holds : Double → Bool) : Double → Bool
  | .finite bound => holds (.finite bound)
  | _ => strange = .ignored

/-- All keywords but the three applicators are assertions. -/
theorem validKeyword_eq_satisfies {keyword : String}
    (h : keyword ∉ ["items", "properties", "anyOf"]) (argument : Json) :
    validKeyword strange (keyword, argument) value = satisfies strange keyword argument value := by
  simp only [List.mem_cons, List.not_mem_nil, or_false, not_or] at h
  rw [validKeyword, validKeywords.eq_def]
  dsimp only
  rw [validKeywords, Bool.and_true]
  split
  · exact absurd rfl h.1
  · exact absurd rfl h.2.1
  · exact absurd rfl h.2.2
  · rfl

@[simp]
theorem validKeyword_items (schema : Json) :
    validKeyword strange ("items", schema) value =
      value.items.all fun item ↦ valid strange schema item :=
  Bool.and_true _

@[simp]
theorem validKeyword_properties (properties : List (String × Json)) :
    validKeyword strange ("properties", .object properties) value =
      properties.all fun (key, schema) ↦ (value.get? key).all (valid strange schema) :=
  (Bool.and_true _).trans (validMembers_eq_all properties)

@[simp]
theorem validKeyword_anyOf (schemas : List Json) :
    validKeyword strange ("anyOf", .array schemas) value =
      schemas.any fun schema ↦ valid strange schema value :=
  (Bool.and_true _).trans (validSome_eq_any schemas)

@[simp]
theorem validKeyword_typeMember (name : String) :
    validKeyword strange (Field.typeMember name) value = decide (name = value.type.name) := by
  rw [Field.typeMember, validKeyword_eq_satisfies (by decide)]
  show decide (some name = some value.type.name) = decide (name = value.type.name)
  exact decide_eq_decide.mpr Option.some_inj

@[simp]
theorem validKeyword_enum (options : List String) :
    validKeyword strange ("enum", .ofStrings options) value =
      options.any fun option ↦ (Json.string option).beq value := by
  rw [validKeyword_eq_satisfies (by decide)]
  exact List.any_map

@[simp]
theorem validKeyword_minLength (length : UInt64) :
    validKeyword strange ("minLength", .ofLength length) value =
      value.text?.all fun text ↦ decide (length.toNat ≤ text.length) := by
  rw [validKeyword_eq_satisfies (by decide)]
  show (value.text?.all fun text ↦
    (ofLength length).natural?.all fun length ↦ decide (length ≤ text.length)) = _
  simp only [natural?_ofLength, Option.all_some]

@[simp]
theorem validKeyword_maxLength (length : UInt64) :
    validKeyword strange ("maxLength", .ofLength length) value =
      value.text?.all fun text ↦ decide (text.length ≤ length.toNat) := by
  rw [validKeyword_eq_satisfies (by decide)]
  show (value.text?.all fun text ↦
    (ofLength length).natural?.all fun length ↦ decide (text.length ≤ length)) = _
  simp only [natural?_ofLength, Option.all_some]

@[simp]
theorem validKeyword_pattern (source : String) :
    validKeyword strange ("pattern", .string source) value =
      value.text?.all fun text ↦ (Pattern.ofSource? source).any fun p ↦ p.matchesText text :=
  validKeyword_eq_satisfies (by decide) _

/-- A bound that is not finite is declared as null, and taken as strange bounds are. -/
theorem withinBound_ofDouble (beyond : Binary64 → Double → Bool) (bound : Double) :
    withinBound strange beyond (.ofDouble bound) value =
      value.number?.all fun x ↦ boundHolds strange (fun bound ↦ !beyond x bound) bound := by
  cases bound <;> rfl

@[simp]
theorem validKeyword_minimum (bound : Double) :
    validKeyword strange ("minimum", .ofDouble bound) value =
      value.number?.all fun x ↦
        boundHolds strange (fun bound ↦ !(Double.finite x).lt bound) bound := by
  rw [validKeyword_eq_satisfies (by decide)]
  exact withinBound_ofDouble (fun x bound ↦ (Double.finite x).lt bound) bound

@[simp]
theorem validKeyword_maximum (bound : Double) :
    validKeyword strange ("maximum", .ofDouble bound) value =
      value.number?.all fun x ↦ boundHolds strange (fun bound ↦ !bound.lt (.finite x)) bound := by
  rw [validKeyword_eq_satisfies (by decide)]
  exact withinBound_ofDouble (fun x bound ↦ bound.lt (.finite x)) bound

@[simp]
theorem validKeyword_required (names : List String) (members : List (String × Json)) :
    validKeyword strange ("required", .ofStrings names) (.object members) =
      names.all fun name ↦ decide (name ∈ keys members) := by
  rw [validKeyword_eq_satisfies (by decide)]
  exact List.all_map

/-- Annotations say nothing. -/
theorem validKeyword_annotation {keyword : String}
    (h : keyword ∈ ["format", "description", "default"])
    (argument : Json) : validKeyword strange (keyword, argument) value = true := by
  simp only [List.mem_cons, List.not_mem_nil, or_false] at h
  rcases h with rfl | rfl | rfl <;> exact validKeyword_eq_satisfies (by decide) argument

end Json

end ToolSchema
