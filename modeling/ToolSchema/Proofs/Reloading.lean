import ToolSchema.Tool
import ToolSchema.Proofs.FlatEncoding
import Mathlib

/-!
# Parameters that are saved and loaded again

Loading parameters reads text defaults as values of their kinds. Saved parameters have the same
members, so that loading them again gives the same field or flat map, except for two sorts of
defaults. One that was read from the text of null is null, and is absent when it is loaded again;
and one that was read from the text of a text, where whole documents are read, is read once more.
-/

namespace ToolSchema

open Json

/-! ## Defaults -/

namespace FieldKind

/-- Whether text defaults are read as whole documents. -/
def readsDocuments : FieldKind → Bool
  | array | object | union => true
  | _ => false

/-- What a default is after it was saved and loaded again. -/
def reloadDefault (kind : FieldKind) (value : Json) : Option Json :=
  if value.type = .null then none
  else if kind.readsDocuments then some (kind.resolveDefault value)
  else some value

theorem resolveDefault_string (kind : FieldKind) (text : String) :
    kind.resolveDefault (.string text) = (kind.resolveText? text).getD (.string text) := rfl

/-- A text is read as a number, as a truth value, or as a whole document. -/
theorem of_resolveText? {kind : FieldKind} {text : String} {document : Json}
    (h : kind.resolveText? text = some document) :
    (∃ n, document = .number n) ∨ (∃ truth, document = .bool truth) ∨
      kind.readsDocuments ∧ Json.parse (.ofString (Text.trim text)) = .ok document := by
  cases kind with
  | number =>
    rw [resolveText?] at h
    obtain ⟨x, -, rfl⟩ := Option.map_eq_some_iff.mp h
    exact .inl ⟨_, rfl⟩
  | boolean =>
    simp only [resolveText?] at h
    split at h
    · exact .inr (.inl ⟨true, (Option.some.inj h).symm⟩)
    · exact .inr (.inl ⟨false, (Option.some.inj h).symm⟩)
    · cases h
  | array | object | union =>
    simp only [resolveText?] at h
    cases hparse : Json.parse (.ofString (Text.trim text)) with
    | error _ => simp [hparse, Except.toOption] at h
    | ok value =>
      simp only [hparse, Except.toOption, Option.some.injEq] at h
      exact .inr (.inr ⟨rfl, congrArg Except.ok h⟩)
  | _ => simp [resolveText?] at h

/-- A default that is read as a document has each key once in every object. -/
theorem keysDistinct_resolveDefault (kind : FieldKind) {value : Json} (h : value.KeysDistinct) :
    (kind.resolveDefault value).KeysDistinct := by
  cases value with
  | string text =>
    rw [resolveDefault_string]
    cases hresolved : kind.resolveText? text with
    | none => exact h
    | some document =>
      obtain ⟨n, rfl⟩ | ⟨truth, rfl⟩ | ⟨-, hparse⟩ := of_resolveText? hresolved
      · exact .number n
      · exact .bool truth
      · exact Json.keysDistinct_of_parse hparse
  | _ => exact h

/-- Where no whole documents are read, a default that was read is not read again. -/
theorem resolveDefault_resolveDefault {kind : FieldKind} (hkind : kind.readsDocuments = false)
    (value : Json) :
    kind.resolveDefault (kind.resolveDefault value) = kind.resolveDefault value := by
  cases value with
  | string text =>
    rw [resolveDefault_string]
    cases hresolved : kind.resolveText? text with
    | none => rw [Option.getD_none, resolveDefault_string, hresolved, Option.getD_none]
    | some document =>
      obtain ⟨n, rfl⟩ | ⟨truth, rfl⟩ | ⟨hreads, -⟩ := of_resolveText? hresolved
      · rfl
      · rfl
      · simp [hkind] at hreads
  | _ => rfl

/-- A default survives if it is neither null nor a text that is read as something else. -/
theorem reloadDefault_eq_some (kind : FieldKind) {value : Json} (hnull : value.type ≠ .null)
    (htext : kind.readsDocuments → ∀ text, value = .string text → kind.resolveText? text = none) :
    kind.reloadDefault value = some value := by
  rw [reloadDefault, if_neg hnull]
  split
  · next hreads =>
    cases value with
    | string text => rw [resolveDefault_string, htext hreads text rfl, Option.getD_none]
    | _ => rfl
  · rfl

end FieldKind

namespace Rules

/-- Rules with the default that they have after they were saved and loaded again. -/
def reloaded (kind : FieldKind) (rules : Rules) : Rules :=
  { rules with default := rules.default.bind kind.reloadDefault }

theorem writable_resolveDefault (kind : FieldKind) {rules : Rules} (h : rules.Writable) :
    (rules.resolveDefault kind).Writable := by
  refine ⟨h.min, h.max, fun value hvalue ↦ ?_⟩
  obtain ⟨original, horiginal, rfl⟩ := Option.map_eq_some_iff.mp hvalue
  exact kind.keysDistinct_resolveDefault (h.default original horiginal)

/-- Of rules that were loaded, forgetting null and reading the default again is reloading. -/
theorem resolveDefault_forgetNull (kind : FieldKind) (rules : Rules) :
    (rules.resolveDefault kind).forgetNull.resolveDefault kind =
      (rules.resolveDefault kind).reloaded kind := by
  have hdefault : ∀ value : Json,
      ((some (kind.resolveDefault value)).filter fun v ↦ v.type ≠ .null).map kind.resolveDefault =
        kind.reloadDefault (kind.resolveDefault value) := by
    intro value
    by_cases hnull : (kind.resolveDefault value).type = .null
    · simp [FieldKind.reloadDefault, hnull]
    · cases hkind : kind.readsDocuments with
      | true => simp [FieldKind.reloadDefault, hnull, hkind]
      | false =>
        have hagain := FieldKind.resolveDefault_resolveDefault hkind value
        simp [FieldKind.reloadDefault, hnull, hkind, hagain]
  cases hd : rules.default with
  | none => simp [resolveDefault, forgetNull, reloaded, hd]
  | some value =>
    have hvalue := hdefault value
    simp only [resolveDefault, forgetNull, reloaded, hd, Option.map_some, Option.bind_some]
    rw [hvalue]

end Rules

/-! ## Fields -/

namespace Field

/-- The field with the defaults that it has after it was saved and loaded again. -/
def reloaded (field : Field) : Field := field.mapRules Rules.reloaded

/-- No default of the field is null, nor a text that is a document where documents are read. -/
def Settled (field : Field) : Prop :=
  ∀ rules ∈ field.rules, ∀ value ∈ rules.default, value.type ≠ .null ∧
    (field.kind.readsDocuments → ∀ text, value = .string text →
      field.kind.resolveText? text = none)

theorem resolveDefaults_eq_mapRules (field : Field) :
    field.resolveDefaults = field.mapRules Rules.resolveDefault := by
  have hlist : ∀ fields : List Field,
      (∀ f ∈ fields, f.resolveDefaults = f.mapRules Rules.resolveDefault) →
        resolveAllDefaults fields = fields.map (mapRules Rules.resolveDefault) := by
    intro fields h
    induction fields with
    | nil => rfl
    | cons f rest ih =>
      rw [List.forall_mem_cons] at h
      rw [resolveAllDefaults, List.map_cons, h.1, ih h.2]
  induction field using childrenInduction with
  | step field ih =>
    obtain ⟨name, kind, description, rules, members, children, calculation⟩ := field
    rw [mapRules_eq]
    cases children with
    | none => rfl
    | some children =>
      rw [resolveDefaults, hlist children ih]
      rfl

theorem reloaded_of_settled {field : Field} (h : field.Throughout Settled) :
    field.reloaded = field := by
  refine mapRules_eq_self (h.imp fun f hf rules hrules ↦ ?_)
  have hdefault : rules.default.bind f.kind.reloadDefault = rules.default := by
    cases hd : rules.default with
    | none => rfl
    | some value =>
      obtain ⟨hnull, htext⟩ := hf rules hrules value hd
      exact f.kind.reloadDefault_eq_some hnull htext
  rw [Rules.reloaded, hdefault]

/-- A field is never taken for a flat map, as it is written without properties. -/
theorem get?_properties_toJson (field : Field) : field.toJson.get? "properties" = none := by
  rw [toJson_eq, get?, written]
  simp [lookup_append, Marked.lookup_optional]

/-- A field that was loaded is loaded again with its defaults reloaded. -/
theorem decode_toJson_resolveDefaults {field : Field} (h : field.Throughout Writable) :
    (decode (.ofJson field.resolveDefaults.toJson)).map resolveDefaults =
      .ok field.resolveDefaults.reloaded := by
  have hresolved : field.resolveDefaults.Throughout Writable := by
    rw [resolveDefaults_eq_mapRules]
    refine h.mapRules fun f children hf rules hrules ↦ ?_
    obtain ⟨original, horiginal, rfl⟩ := Option.map_eq_some_iff.mp hrules
    exact Rules.writable_resolveDefault f.kind (hf original horiginal)
  calc (decode (.ofJson field.resolveDefaults.toJson)).map resolveDefaults
      = .ok (field.resolveDefaults.mapRules fun _ ↦ Rules.forgetNull).resolveDefaults := by
        rw [decode_toJson hresolved]
        rfl
    _ = .ok field.resolveDefaults.reloaded := by
        simp only [reloaded, resolveDefaults_eq_mapRules, mapRules_mapRules,
          Rules.resolveDefault_forgetNull]

end Field

/-! ## Parameters -/

namespace ToolParams

/-- The parameters with the defaults that they have after they were saved and loaded again. -/
def reloaded : ToolParams → ToolParams
  | flat parameters => flat parameters
  | field f => field f.reloaded

/-- No default anywhere changes when it is saved and loaded again. Flat maps have none. -/
def Settled : ToolParams → Prop
  | flat _ => True
  | field f => f.Throughout Field.Settled

/-- Parameters that were loaded can be saved and loaded again. They have the same shape, and a flat
map is the same; a field is the same but for its defaults, and altogether the same if those are
settled. -/
theorem ofJson_toJson {document : Json} {p : ToolParams} (h : ofJson document = .ok p) :
    ofJson p.toJson = .ok p.reloaded ∧ p.reloaded.shape = p.shape ∧
      (p.Settled → p.reloaded = p) := by
  unfold ofJson at h
  -- What was loaded in one shape is written in that shape, so the same branch is taken again.
  split at h
  · obtain ⟨parameters, hparameters, rfl⟩ := Outcome.map_eq_ok.mp h
    refine ⟨?_, rfl, fun _ ↦ rfl⟩
    have hdecode := FlatParameters.decode_toJson (FlatParameters.writable_of_decode hparameters)
    have hflat : isFlat parameters.toJson := rfl
    rw [toJson, ofJson, if_pos hflat, hdecode]
    rfl
  · obtain ⟨f, hf, rfl⟩ := Outcome.map_eq_ok.mp h
    refine ⟨?_, rfl, fun hsettled ↦ congrArg field (Field.reloaded_of_settled hsettled)⟩
    have hdecode := Field.decode_toJson_resolveDefaults
      ((Field.throughout_writable_of_decode (.ofJson document)).1 f hf)
    have hflat : ¬ isFlat f.resolveDefaults.toJson := by
      rw [isFlat, Field.get?_properties_toJson]
      simp
    rw [toJson, ofJson, if_neg hflat]
    obtain ⟨again, hagain, heq⟩ := Outcome.map_eq_ok.mp hdecode
    rw [hagain]
    exact congrArg (fun f ↦ Except.ok (field f)) heq

/-- A list of tags that is stored as text is loaded as a list, and stays one. -/
theorem ofJson_toJson_tags :
    let tags : ToolParams := .field
      { name := "tags", kind := .array
        rules := some { default := some (.array [.string "a", .null]) } }
    ofJson (.object [("name", .string "tags"), ("type", .string "array"),
      ("validations", .object [("default", .string " [\"a\", null]")])]) = .ok tags ∧
      ofJson tags.toJson = .ok tags := by
  intro tags
  have hload : ofJson (.object [("name", .string "tags"), ("type", .string "array"),
      ("validations", .object [("default", .string " [\"a\", null]")])]) = .ok tags := by cbv
  obtain ⟨hreload, -, hsettled⟩ := ofJson_toJson hload
  have hself : tags.reloaded = tags := by
    refine hsettled ⟨fun rules hrules value hvalue ↦ ?_, List.forall_mem_nil _⟩
    obtain rfl := Option.some.inj hrules
    obtain rfl := Option.some.inj hvalue
    exact ⟨by decide, fun _ text h ↦ by cases h⟩
  exact ⟨hload, hself ▸ hreload⟩

/-- Not all parameters that were loaded are loaded again as they are: a union that had the text of
a text by default has that text, which is read as a number the next time, and a list that had the
text of null by default has no default the next time. -/
theorem ofJson_toJson_unsettled :
    let quoted : Json := .object [("type", .string "union"),
      ("validations", .object [("default", .string "\"5\"")])]
    let absent : Json := .object [("type", .string "array"),
      ("validations", .object [("default", .string "null")])]
    (∃ p, ofJson quoted = .ok p ∧ ofJson p.toJson ≠ .ok p) ∧
      ∃ p, ofJson absent = .ok p ∧ ofJson p.toJson ≠ .ok p := by
  intro quoted absent
  let union (default : Json) : ToolParams :=
    .field { kind := .union, rules := some { default := some default } }
  let array (default : Option Json) : ToolParams :=
    .field { kind := .array, rules := some { default := default } }
  have hquoted : ofJson (union (.string "5")).toJson = .ok (union (.ofInt 5)) := by cbv
  have habsent : ofJson (array (some .null)).toJson = .ok (array none) := by cbv
  constructor
  · refine ⟨union (.string "5"), by cbv, ?_⟩
    rw [hquoted]
    intro h
    cases h
  · refine ⟨array (some .null), by cbv, ?_⟩
    rw [habsent]
    intro h
    cases h

end ToolParams

end ToolSchema
