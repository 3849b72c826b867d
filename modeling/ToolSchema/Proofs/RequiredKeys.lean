import ToolSchema.Proofs.DeclaredFields
import ToolSchema.Proofs.ReadBack
import ToolSchema.Proofs.StrictCompilers
import Mathlib

/-!
# Required keys

The declaration of an object lists the keys that callers must give, and the validator of the object
refuses objects that lack a key. Both look at the child of that name, the last one where there are
several, and at whether it has a default. They differ where a default is declared that the child
does not accept itself: the declaration goes by what is declared, the validator by what it can fill
in.
-/

namespace ToolSchema

def Json.requiredKeys (schema : Json) : List String :=
  ((schema.get? "required").getD .null).items.filterMap text?

/-- The issue that an object lacks a key. -/
def Issue.lacking (key : String) : Issue := ⟨.key .root key, .missing⟩

namespace Validator

def issues (v : Validator) (value : Json) : List Issue :=
  match v.validate value with
  | .ok _ => []
  | .error rejection => rejection.issues

/-- An object lacks a key and is valid otherwise: nothing but the lack can be said against it. -/
def ValidWithout (v : Validator) (key : String) (members : List (String × Json)) : Prop :=
  key ∉ keys members ∧ ∀ issue ∈ v.issues (.object members), issue = .lacking key

end Validator

namespace Field

/-- The child that counts under a key: the last one of that name. -/
def definition? (field : Field) (key : String) : Option Field :=
  (field.children.getD []).reverse.find? fun child ↦ child.name = key

/-- The child that counts under a key is required, but has a default, and one that it does not
accept itself. -/
def DropsDefault (compiler : Compiler) (coerce : Bool) (field : Field) (key : String) : Prop :=
  ∃ child default path v, field.definition? key = some child ∧ child.isRequired ∧
    child.default? = some default ∧ (compiler.compileAt coerce path child).Yields v ∧
      v.accepts default = false

/-! ## What declarations list -/

theorem filterMap_text?_ofStrings (texts : List String) :
    (Json.ofStrings texts).items.filterMap Json.text? = texts := by
  rw [Json.ofStrings, Json.items, List.filterMap_map]
  exact List.filterMap_some

/-- An object's declaration lists the children that must be given. -/
theorem requiredKeys_jsonSchema {field : Field} (h : field.kind = .object) :
    field.jsonSchema.requiredKeys =
      ((field.children.getD []).filter mustBeGiven).map Field.name := by
  have hnone : lookup "required" (Json.optional "description" Json.string field.description ++
      Json.optional "default" id field.default?) = none := by
    rw [lookup_append, Option.or_eq_none_iff]
    constructor
    · cases field.description <;> rfl
    · cases field.default? <;> rfl
  have hlookup : field.jsonSchema.get? "required" =
      lookup "required" (requiredNames (field.children.getD [])) := by
    rw [jsonSchema_eq, Json.get?, List.append_assoc, lookup_append, hnone, Option.or_none,
      keywords, h]
    rfl
  rw [Json.requiredKeys, hlookup, requiredNames]
  cases (((field.children.getD []).filter mustBeGiven).map Field.name) with
  | nil => rfl
  | cons name rest => exact filterMap_text?_ofStrings _

/-- A key is listed if any child of that name must be given, although only the last one counts. -/
theorem mem_requiredKeys_iff {field : Field} (h : field.kind = .object) {key : String} :
    key ∈ field.jsonSchema.requiredKeys ↔
      ∃ child ∈ field.children.getD [], child.mustBeGiven ∧ child.name = key := by
  simp [requiredKeys_jsonSchema h, and_assoc]

/-- A key is listed as often at most as children bear it. -/
theorem count_requiredKeys_le {field : Field} (h : field.kind = .object) (key : String) :
    field.jsonSchema.requiredKeys.count key ≤
      ((field.children.getD []).map Field.name).count key := by
  rw [requiredKeys_jsonSchema h]
  exact (List.filter_sublist.map Field.name).count_le key

theorem definition?_eq_some {field child : Field} {key : String}
    (h : field.definition? key = some child) :
    child ∈ field.children.getD [] ∧ child.name = key := by
  constructor
  · exact List.mem_reverse.mp (List.mem_of_find?_eq_some h)
  · simpa using List.find?_some h

/-- The only child of a name counts under it. -/
theorem definition?_of_count_le_one {field child : Field}
    (hunique : ((field.children.getD []).map Field.name).count child.name ≤ 1)
    (h : child ∈ field.children.getD []) : field.definition? child.name = some child := by
  cases hfound : field.definition? child.name with
  | none =>
    have hnone := List.find?_eq_none.mp hfound child (List.mem_reverse.mpr h)
    simp at hnone
  | some other =>
    obtain ⟨hother, hname⟩ := definition?_eq_some hfound
    let bears : Field → Bool := fun other ↦ other.name == child.name
    have hlength : ((field.children.getD []).filter bears).length ≤ 1 := by
      rwa [List.count, List.countP_map, List.countP_eq_length_filter] at hunique
    have hchild : child ∈ (field.children.getD []).filter bears :=
      List.mem_filter.mpr ⟨h, by simp [bears]⟩
    have hlast : other ∈ (field.children.getD []).filter bears :=
      List.mem_filter.mpr ⟨hother, by simp [bears, hname]⟩
    obtain ⟨only, honly⟩ := List.length_eq_one_iff.mp
      (Nat.le_antisymm hlength (List.length_pos_of_mem hchild))
    rw [honly, List.mem_singleton] at hchild hlast
    rw [hchild, hlast]

end Field

namespace Validator

/-! ## What validators find missing -/

theorem issues_eq (v : Validator) (value : Json) :
    v.issues value = (v.judge (some value)).issues := by
  rw [issues, validate_eq]
  cases hvalue : (v.judge (some value)).value? with
  | some out => exact ((decided_judge v value).issues_eq_nil hvalue).symm
  | none => rfl

theorem accepts_eq_false_iff {v : Validator} {value : Json} :
    v.accepts value = false ↔ v.issues value ≠ [] := by
  have hdecided : (v.judge (some value)).value?.isSome ↔ (v.judge (some value)).issues = [] :=
    decided_judge v value
  rw [issues_eq, ← Bool.not_eq_true, accepts_iff, hdecided]

/-- An object's own checks and refinements never find that a key is missing. -/
theorem lacking_mem_issues_conclude_iff {verdict : Verdict} {checks : List Check}
    {refinements : List Refinement} (h : verdict.Decided) {key : String} :
    Issue.lacking key ∈ (verdict.conclude checks refinements).issues ↔
      Issue.lacking key ∈ verdict.issues := by
  unfold Verdict.conclude
  cases hvalue : verdict.value? with
  | none => rfl
  | some value =>
    rw [h.issues_eq_nil hvalue, Verdict.issues_ofParts]
    simp [Issue.lacking, FieldPath.root, FieldPath.key, FieldPath.push]

theorem lacking_notMem_unknown (policy : UnknownKeys) (others : List (String × Json))
    (key : String) : Issue.lacking key ∉ policy.issues others := by
  cases policy <;> simp [UnknownKeys.issues, Issue.lacking]

theorem lacking_mem_issuesAt_iff {verdict : Verdict} {key name : String} :
    Issue.lacking key ∈ verdict.issuesAt (.key name) ↔
      name = key ∧ ⟨.root, .missing⟩ ∈ verdict.issues := by
  have hunder : ∀ issue : Issue, issue.under ⟨[.key name]⟩ = .lacking key ↔
      name = key ∧ ⟨.root, .missing⟩ = issue := by
    rintro ⟨⟨segments⟩, reason⟩
    simp [Issue.under, Issue.lacking, FieldPath.key, FieldPath.push, FieldPath.root, and_assoc,
      eq_comm]
  simp only [Verdict.issuesAt, List.mem_map, hunder]
  constructor
  · rintro ⟨issue, hissue, hname, rfl⟩
    exact ⟨hname, hissue⟩
  · rintro ⟨hname, hissue⟩
    exact ⟨_, hissue, hname, rfl⟩

/-- That an object lacks a key is found by the field under that key, and by no other one. -/
theorem lacking_mem_fieldIssues_iff {fields : List (String × Validator)}
    {members : List (String × Json)} (hnodup : (keys fields).Nodup) {key : String} :
    Issue.lacking key ∈ Verdict.fieldIssues (judgeFields fields members) ↔
      ∃ field, lookup key fields = some field ∧
        ⟨.root, .missing⟩ ∈ (field.judge (lookup key members)).issues := by
  induction fields with
  | nil => simp [judgeFields, Verdict.fieldIssues]
  | cons pair rest ih =>
    obtain ⟨name, field⟩ := pair
    rw [keys_cons, List.nodup_cons] at hnodup
    rw [judgeFields, Verdict.fieldIssues_cons, List.mem_append, lacking_mem_issuesAt_iff,
      ih hnodup.2, lookup_cons]
    by_cases hname : name = key
    · subst hname
      simp [lookup_eq_none_iff.mpr hnodup.1]
    · simp [hname]

/-- Nothing is missing where a missing value may stay so, or where a default passes. -/
theorem missing_mem_issues_judge_none_iff {v : Validator}
    (hdefault : ∀ default ∈ v.default, v.accepts default) :
    ⟨.root, .missing⟩ ∈ (v.judge none).issues ↔ v.acceptsMissing = false := by
  rw [judge_none, acceptsMissing]
  cases hkept : v.default with
  | some default =>
    have hpasses := accepts_iff.mp (hdefault default hkept)
    have hissues : (v.judge (some default)).issues = [] := (decided_judge v default).mp hpasses
    simp [hissues]
  | none => cases v.optional <;> simp [Verdict.refuse]

/-- An object lacks a key that it must have if the field under the key must not be missing. -/
theorem lacking_mem_issues_iff {v : Validator} {fields : List (String × Validator)}
    {policy : UnknownKeys} (hkind : v.kind = .object fields policy) (hnodup : (keys fields).Nodup)
    (hdefaults : ∀ field ∈ fields.map Prod.snd, ∀ default ∈ field.default, field.accepts default)
    {key : String} {members : List (String × Json)} (hlacks : key ∉ keys members) :
    Issue.lacking key ∈ v.issues (.object members) ↔
      ∃ field, lookup key fields = some field ∧ field.acceptsMissing = false := by
  rw [issues_eq, judge_some, lacking_mem_issues_conclude_iff (decided_judgeKind _ _), hkind,
    judgeKind, Verdict.issues_ofParts, List.mem_append, lacking_mem_fieldIssues_iff hnodup,
    lookup_eq_none_iff.mpr hlacks, or_iff_left (lacking_notMem_unknown _ _ _)]
  refine exists_congr fun field ↦ and_congr_right fun hfield ↦ ?_
  have hmem : field ∈ fields.map Prod.snd := List.mem_map.mpr ⟨_, mem_of_lookup hfield, rfl⟩
  exact missing_mem_issues_judge_none_iff (hdefaults field hmem)

/-- An otherwise valid object is refused if and only if the key is found lacking. -/
theorem ValidWithout.accepts_eq_false_iff {v : Validator} {key : String}
    {members : List (String × Json)} (h : v.ValidWithout key members) :
    v.accepts (.object members) = false ↔ Issue.lacking key ∈ v.issues (.object members) := by
  rw [Validator.accepts_eq_false_iff]
  constructor
  · intro hissues
    obtain ⟨issue, hissue⟩ := List.exists_mem_of_ne_nil _ hissues
    exact h.2 issue hissue ▸ hissue
  · exact List.ne_nil_of_mem

end Validator

namespace Field

variable {s : Setting} {field : Field} {key : String}

theorem lookup_reverse_named {α : Type} (value : Field → α) (fields : List Field) :
    lookup key (named value fields).reverse =
      (fields.reverse.find? fun field ↦ field.name = key).map value := by
  rw [named, ← List.map_reverse]
  induction fields.reverse with
  | nil => rfl
  | cons field rest ih =>
    rw [List.map_cons, lookup_cons, ih, List.find?_cons]
    by_cases hname : field.name = key <;> simp [hname]

/-- The field of an object's validator under a key is the validator of the child that counts. -/
theorem lookup_collect_validators :
    lookup key (collect (named (validator s) (field.children.getD []))) =
      (field.definition? key).map (validator s) := by
  rw [lookup_collect, lookup_reverse_named, definition?]

theorem accepts_validator_iff {value : Json} :
    (field.validator s).accepts value ↔ (field.read s value).isSome := by
  rw [Validator.accepts_iff, value?_judge_validator]

/-- The validator of a child refuses a missing value if the child must be given, or if its default
was dropped. -/
theorem acceptsMissing_validator_eq_false_iff :
    (field.validator s).acceptsMissing = false ↔
      field.mustBeGiven ∨ field.isRequired ∧
        ∃ default, field.default? = some default ∧ (field.validator s).accepts default = false := by
  rw [acceptsMissing_validator, mayBeMissing, mustBeGiven]
  cases hdefault : field.default? with
  | none => simp
  | some default =>
    have hrefuses : (field.validator s).accepts default = false ↔ field.read s default = none := by
      rw [← Bool.not_eq_true, accepts_validator_iff, Option.not_isSome_iff_eq_none]
    simp [hrefuses]

/-- The defaults that validators kept pass. -/
theorem accepts_of_default_validator {default : Json}
    (h : (field.validator s).default = some default) : (field.validator s).accepts default := by
  rw [validator_eq, Validator.default_withRules, ← validator_eq] at h
  rw [Validator.accepts_iff]
  exact (Option.filter_eq_some_iff.mp h).2

/-- The validator of an object has the validators of its children, each name's last one. -/
theorem kind_validator_object (h : field.kind = .object) :
    ∃ policy, (field.validator s).kind =
      .object (collect (named (validator s) (field.children.getD []))) policy := by
  rw [validator_eq, h]
  cases field.children with
  | none => exact ⟨.passthrough, rfl⟩
  | some children =>
    refine ⟨s.unknownKeys, ?_⟩
    rw [Option.getD_some, ← validators_eq_named]
    rfl

/-! ## Both on one object -/

variable {compiler : Compiler} {coerce : Bool}

/-- An object is found to lack a key if the child that counts must be given or drops its default. -/
theorem lacking_mem_issues_validator_iff (hkind : field.kind = .object)
    (hchildren : ∀ child ∈ field.children.getD [],
      ∃ path v, (compiler.compileAt coerce path child).Yields v)
    {members : List (String × Json)} (hlacks : key ∉ keys members) :
    Issue.lacking key ∈ (field.validator (compiler.setting coerce)).issues (.object members) ↔
      (∃ child, field.definition? key = some child ∧ child.mustBeGiven) ∨
        field.DropsDefault compiler coerce key := by
  let s := compiler.setting coerce
  obtain ⟨policy, hobject⟩ := kind_validator_object (s := s) hkind
  have hdefaults : ∀ v ∈ (collect (named (validator s) (field.children.getD []))).map Prod.snd,
      ∀ default ∈ v.default, v.accepts default := by
    intro v hv default hdefault
    obtain ⟨pair, hpair, rfl⟩ := List.mem_map.mp hv
    obtain ⟨child, -, rfl⟩ := List.mem_map.mp (mem_of_mem_collect hpair)
    exact accepts_of_default_validator hdefault
  rw [Validator.lacking_mem_issues_iff hobject (nodup_keys_collect _) hdefaults hlacks,
    lookup_collect_validators]
  constructor
  · rintro ⟨v, hv, hrefuses⟩
    obtain ⟨child, hchild, rfl⟩ := Option.map_eq_some_iff.mp hv
    rcases acceptsMissing_validator_eq_false_iff.mp hrefuses with hgiven | hdropped
    · exact .inl ⟨child, hchild, hgiven⟩
    · obtain ⟨hrequired, default, hdefault, hfails⟩ := hdropped
      obtain ⟨path, v, hv⟩ := hchildren child (definition?_eq_some hchild).1
      refine .inr ⟨child, default, path, v, hchild, hrequired, hdefault, hv, ?_⟩
      rwa [Compiler.eq_of_yields_compileAt compiler coerce child hv]
  · rintro (⟨child, hchild, hgiven⟩ | ⟨child, default, path, v, hchild, hdropped⟩)
    · refine ⟨_, Option.map_eq_some_iff.mpr ⟨child, hchild, rfl⟩, ?_⟩
      exact acceptsMissing_validator_eq_false_iff.mpr (.inl hgiven)
    · obtain ⟨hrequired, hdefault, hv, hfails⟩ := hdropped
      rw [Compiler.eq_of_yields_compileAt compiler coerce child hv] at hfails
      refine ⟨_, Option.map_eq_some_iff.mpr ⟨child, hchild, rfl⟩, ?_⟩
      exact acceptsMissing_validator_eq_false_iff.mpr (.inr ⟨hrequired, default, hdefault, hfails⟩)

/-- Every key of a child that counts and must be given is listed. -/
theorem mem_requiredKeys_of_definition? (hkind : field.kind = .object) {child : Field}
    (hchild : field.definition? key = some child) (hgiven : child.mustBeGiven) :
    key ∈ field.jsonSchema.requiredKeys := by
  obtain ⟨hmem, hname⟩ := definition?_eq_some hchild
  exact (mem_requiredKeys_iff hkind).mpr ⟨child, hmem, hgiven, hname⟩

/-- A key that at most one child bears is listed if that child must be given. -/
theorem exists_definition?_iff_mem_requiredKeys (hkind : field.kind = .object)
    (hunique : ((field.children.getD []).map Field.name).count key ≤ 1) :
    (∃ child, field.definition? key = some child ∧ child.mustBeGiven) ↔
      key ∈ field.jsonSchema.requiredKeys := by
  constructor
  · rintro ⟨child, hchild, hgiven⟩
    exact mem_requiredKeys_of_definition? hkind hchild hgiven
  · intro hlisted
    obtain ⟨child, hmem, hgiven, rfl⟩ := (mem_requiredKeys_iff hkind).mp hlisted
    exact ⟨child, definition?_of_count_le_one hunique hmem, hgiven⟩

end Field

namespace Compiler

variable {compiler : Compiler} {coerce : Bool} {shape : Shape} {field : Field}

/-- The parts of what compiles compile. -/
theorem exists_of_yields_compileAt {path : FieldPath} {v : Validator}
    (h : (compiler.compileAt coerce path field).Yields v) :
    ∀ part ∈ field.parts, ∃ path v, (compiler.compileAt coerce path part).Yields v := by
  rw [compileAt_eq, Compiled.yields_bind] at h
  obtain ⟨base, hbase, -⟩ := h
  exact exists_of_yields_compileKind hbase

/-- A compiler that yields a validator has yielded one for every part. -/
theorem everywhere_exists_yields (field : Field) :
    ∀ {path : FieldPath} {v : Validator}, (compiler.compileAt coerce path field).Yields v →
      field.Everywhere fun node ↦ ∃ path v, (compiler.compileAt coerce path node).Yields v := by
  induction field using Field.partsInduction with
  | step field ih =>
    intro path v h
    refine ⟨⟨path, v, h⟩, fun part hpart ↦ ?_⟩
    obtain ⟨_, _, hcompiled⟩ := exists_of_yields_compileAt h part hpart
    exact ih part hpart hcompiled

/-- Wherever a field that compiles has an object, an otherwise valid object that lacks a key is
refused only if the declaration lists the key or the child that counts drops its default. Where at
most one child bears the key, it is listed at most once, and the object is refused exactly if one of
the two is the case; they never both are. -/
theorem everywhere_refuses_lacking {out : Validator}
    (h : (compiler.compileShaped shape field).outcome = .ok out) :
    field.Everywhere fun node ↦ node.kind = .object →
      ∃ path v, (compiler.compileAt (compiler.options.coercion.resolve shape) path node).Yields v ∧
        ∀ key,
          let required := node.jsonSchema.requiredKeys
          let dropped := node.DropsDefault compiler (compiler.options.coercion.resolve shape) key
          let unique := ((node.children.getD []).map Field.name).count key ≤ 1
          (unique → required.count key ≤ 1) ∧
          (unique → ¬ (key ∈ required ∧ dropped)) ∧
          ∀ members, v.ValidWithout key members →
            (v.accepts (.object members) = false → key ∈ required ∨ dropped) ∧
            (unique → (v.accepts (.object members) = false ↔ key ∈ required ∨ dropped)) := by
  obtain ⟨_, hcompiled, -⟩ := Compiled.yields_bind.mp h
  apply (everywhere_exists_yields field hcompiled).imp
  rintro node ⟨path, v, hv⟩ hkind
  refine ⟨path, v, hv, fun key ↦ ?_⟩
  have hchildren := exists_of_yields_compileAt hv
  rw [Field.parts_of_object hkind] at hchildren
  dsimp only
  refine ⟨fun hunique ↦ (node.count_requiredKeys_le hkind key).trans hunique, ?_, ?_⟩
  · rintro hunique ⟨hlisted, child, default, _, _, hchild, -, hdefault, -⟩
    obtain ⟨other, hother, hgiven⟩ :=
      (Field.exists_definition?_iff_mem_requiredKeys hkind hunique).mpr hlisted
    obtain rfl := Option.some.inj (hchild.symm.trans hother)
    simp [Field.mustBeGiven, hdefault] at hgiven
  · intro members hmembers
    have hrefused := hmembers.accepts_eq_false_iff
    rw [eq_of_yields_compileAt compiler _ node hv,
      Field.lacking_mem_issues_validator_iff hkind hchildren hmembers.1,
      ← eq_of_yields_compileAt compiler _ node hv] at hrefused
    constructor
    · intro hfalse
      exact (hrefused.mp hfalse).imp_left fun ⟨child, hchild, hgiven⟩ ↦
        Field.mem_requiredKeys_of_definition? hkind hchild hgiven
    · intro hunique
      rw [hrefused, Field.exists_definition?_iff_mem_requiredKeys hkind hunique]

/-- A parcel: its weight is a number with a default that is none, and the label is declared
twice. -/
def parcel : Field :=
  { kind := .object
    children := some [
      { name := "weight", kind := .number, rules := some { default := some (.string "heavy") } },
      { name := "label", kind := .string },
      { name := "label", kind := .string }] }

/-- Nothing can be said against a parcel without a weight but that it has none. -/
theorem validWithout_weight_parcel :
    (parcel.validator (Compiler.setting {} true)).ValidWithout "weight"
      [("label", .string "books")] := by
  have hissues : (parcel.validator (Compiler.setting {} true)).issues
      (.object [("label", .string "books")]) = [.lacking "weight"] := by rfl
  refine ⟨by decide, fun issue hissue ↦ ?_⟩
  rwa [hissues, List.mem_singleton] at hissue

/-- A parcel without a weight is refused, because the default was dropped. -/
theorem refuses_parcel_without_weight :
    ∃ v, (Compiler.compile {} parcel).outcome = .ok v ∧
      v.ValidWithout "weight" [("label", .string "books")] ∧
      parcel.DropsDefault {} true "weight" ∧
      v.accepts (.object [("label", .string "books")]) = false := by
  let v := parcel.validator (Compiler.setting {} true)
  let weight : Field :=
    { name := "weight", kind := .number, rules := some { default := some (.string "heavy") } }
  have h : (Compiler.compile {} parcel).outcome = .ok v := by rfl
  have hweight : (Compiler.compileAt {} true .root weight).Yields (.number true) := by rfl
  have hdropped : parcel.DropsDefault {} true "weight" :=
    ⟨weight, .string "heavy", .root, .number true, rfl, rfl, rfl, hweight, rfl⟩
  obtain ⟨path, w, hw, hkeys⟩ := (everywhere_refuses_lacking h).here rfl
  obtain rfl : w = v := eq_of_yields_compileAt _ _ _ hw
  have hrefused := ((hkeys "weight").2.2 _ validWithout_weight_parcel).2 (by decide)
  exact ⟨_, h, validWithout_weight_parcel, hdropped, hrefused.mpr (.inr hdropped)⟩

/-- The declaration of a parcel does not list the weight, without which a parcel is refused, and
lists the label twice. -/
theorem parcel_declaration_misses_weight :
    (∃ v, (Compiler.compile {} parcel).outcome = .ok v ∧
      v.ValidWithout "weight" [("label", .string "books")] ∧
      v.accepts (.object [("label", .string "books")]) = false) ∧
    "weight" ∉ parcel.jsonSchema.requiredKeys ∧ ¬ parcel.jsonSchema.requiredKeys.Nodup := by
  have h : (Compiler.compile {} parcel).outcome =
      .ok (parcel.validator (Compiler.setting {} true)) := by rfl
  have hlisted : parcel.jsonSchema.requiredKeys = ["label", "label"] := by rfl
  rw [hlisted]
  exact ⟨⟨_, h, validWithout_weight_parcel, rfl⟩, by decide, by decide⟩

end Compiler

end ToolSchema
