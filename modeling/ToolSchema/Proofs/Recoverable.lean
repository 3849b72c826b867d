import ToolSchema.Emit
import ToolSchema.Proofs.DeclaredFields
import ToolSchema.Proofs.LenientCompilers
import ToolSchema.Proofs.ReadBack

/-!
# What is read back says the same

Of some fields nothing that counts is lost when they are read back from their validators: scalars,
enumerations, arrays with items and objects with distinct fields, where there is neither a custom
check nor a default. What is read back of such a field stands for the same validator, has the same
declaration and is emitted as the same source text.
-/

namespace ToolSchema

namespace Rules

variable (kind : FieldKind) (mayBeMissing : Bool) (rules : Rules)

@[simp]
theorem isRequired_recovered : (rules.recovered kind mayBeMissing).isRequired = !mayBeMissing := by
  cases mayBeMissing <;> cases kind <;> rfl

@[simp]
theorem custom?_recovered : (rules.recovered kind mayBeMissing).custom? = none := by
  cases kind <;> rfl

@[simp]
theorem default_recovered : (rules.recovered kind mayBeMissing).default = none := by
  cases kind <;> rfl

@[simp]
theorem pattern?_recovered_string :
    (rules.recovered .string mayBeMissing).pattern? = rules.pattern? := by
  show rules.pattern?.filter _ = _
  rw [pattern?, Option.filter_filter]
  simp

/-- The rules that are read back ask for the same checks. -/
theorem checks_recovered (members? : Option (List String)) :
    (rules.recovered kind mayBeMissing).checks (kind.recovered members?) = rules.checks kind := by
  cases kind with
  | string =>
    show _ ++ _ ++ ((rules.recovered .string mayBeMissing).pattern?.map patternCheck).toList = _
    rw [pattern?_recovered_string]
    rfl
  | enumeration => cases members? <;> rfl
  | _ => rfl

end Rules

namespace Field

/-- A field of which all that counts is read back: it has a kind of its own, an array says what its
items are, an object says what its fields are under distinct names, and there is neither a custom
check nor a default. -/
structure Recoverable (field : Field) : Prop where
  kind : field.kind ∈ [.string, .number, .boolean, .date, .enumeration, .array, .object]
  item : field.kind = .array → field.children.getD [] ≠ []
  fields : field.kind = .object → field.children.isSome
  namesDistinct : field.NamesDistinct
  noCustom : (field.rules.getD {}).custom? = none
  noDefault : field.default? = none

variable {s : Setting} {field : Field}

section Projections

variable (name : String)

@[simp]
theorem name_recovered : (field.recovered s name).name = name := by
  rw [recovered_eq]

theorem kind_recovered :
    (field.recovered s name).kind = field.kind.recovered field.members? := by
  rw [recovered_eq]

theorem description_recovered : (field.recovered s name).description = field.description := by
  rw [recovered_eq]

theorem rules_recovered :
    (field.recovered s name).rules =
      ((field.rules.getD {}).recovered field.kind (field.mayBeMissing s)).unlessEmpty := by
  rw [recovered_eq]

theorem children_recovered : (field.recovered s name).children = field.recoveredChildren s := by
  rw [recovered_eq]

theorem default?_recovered : (field.recovered s name).default? = none := by
  rw [default?_eq, rules_recovered, Rules.getD_unlessEmpty, Rules.default_recovered]

theorem members?_recovered (hkind : field.kind = .enumeration) :
    (field.recovered s name).members? = field.members? := by
  rw [recovered_eq, members?, if_pos hkind, members?, Option.filter_filter]
  simp

end Projections

theorem Recoverable.isRequired_rules (s : Setting) (h : field.Recoverable) :
    (field.rules.getD {}).isRequired = !field.mayBeMissing s := by
  simp [mayBeMissing, h.noDefault, isRequired_eq]

theorem Recoverable.default_rules (h : field.Recoverable) :
    (field.rules.getD {}).default = none := by
  rw [← default?_eq, h.noDefault]

theorem recoveredChildren_array {item : Field} {rest : List Field} (hkind : field.kind = .array)
    (hchildren : field.children = some (item :: rest)) :
    field.recoveredChildren s = some [item.recovered s Validator.itemName] := by
  rw [recoveredChildren, hkind, hchildren]

theorem recoveredChildren_object {children : List Field} (h : field.Recoverable)
    (hkind : field.kind = .object) (hchildren : field.children = some children) :
    field.recoveredChildren s = some (children.map fun child ↦ child.recovered s child.name) := by
  have hdistinct : (children.map Field.name).Nodup := by
    simpa [hchildren] using h.namesDistinct hkind
  have hlast : lastUnderEach (named (fun child ↦ child.recovered s child.name) children) =
      named (fun child ↦ child.recovered s child.name) children := by
    rw [← collect_eq_lastUnderEach]
    exact collect_of_nodup (by rwa [keys_named])
  rw [recoveredChildren, hkind, hchildren]
  dsimp only
  rw [hlast, named, List.map_map]
  rfl

theorem named_map_recovered {α : Type} {value : Field → α} {children : List Field}
    (h : ∀ child ∈ children, value (child.recovered s child.name) = value child) :
    named value (children.map fun child ↦ child.recovered s child.name) = named value children := by
  rw [named, named, List.map_map]
  apply List.map_congr_left
  intro child hchild
  simp [h child hchild]

/-! ## Validators -/

/-- Rules and what is read back of them make the same validator of a kind. -/
theorem withRules_recovered (t : Setting) (h : field.Recoverable) (base : ValidatorKind Validator) :
    base.withRules t.predicates (field.kind.recovered field.members?)
        ((field.rules.getD {}).recovered field.kind (field.mayBeMissing s)).unlessEmpty
        field.description =
      base.withRules t.predicates field.kind field.rules field.description := by
  simp only [ValidatorKind.withRules, Rules.getD_unlessEmpty, Rules.checks_recovered,
    Rules.isRequired_recovered, Rules.default_recovered, Rules.refinements, Rules.custom?_recovered,
    h.noCustom, h.isRequired_rules s, h.default_rules]

theorem validatorKind_enumeration (t : Setting) (field : Field) (children : Option (List Field)) :
    validatorKind t field.members .enumeration children =
      match field.members? with
      | some members => .enumeration members
      | none => .string := by
  rw [validatorKind]
  rfl

theorem validatorKind_recovered (t : Setting) (name : String) (h : field.Recoverable)
    (ih : ∀ part ∈ field.parts, ∀ name, (part.recovered s name).validator t = part.validator t) :
    let back := field.recovered s name
    validatorKind t back.members back.kind back.children =
      validatorKind t field.members field.kind field.children := by
  have hrecoverable := h.kind
  dsimp only
  rw [kind_recovered, children_recovered]
  cases hkind : field.kind with
  | union | file | calculated | unsupported => simp [hkind] at hrecoverable
  | string | number | boolean | date => simp only [FieldKind.recovered, validatorKind]
  | enumeration =>
    have hback := members?_recovered (s := s) name hkind
    rw [validatorKind_enumeration]
    cases hmembers : field.members? with
    | none =>
      show validatorKind t _ .string _ = .string
      rw [validatorKind]
    | some members =>
      rw [FieldKind.recovered, Option.isSome_some, if_pos rfl, validatorKind_enumeration, hback,
        hmembers]
  | array =>
    rcases hchildren : field.children with _ | (_ | ⟨item, rest⟩)
    case none | some.nil => exact absurd (by simp [hchildren]) (h.item hkind)
    case some.cons =>
      have hitem := ih item (item_mem_parts hkind hchildren) Validator.itemName
      rw [recoveredChildren_array hkind hchildren, FieldKind.recovered, validatorKind,
        validatorKind, hitem]
      all_goals simp
  | object =>
    obtain ⟨children, hchildren⟩ := Option.isSome_iff_exists.mp (h.fields hkind)
    have hparts : ∀ child ∈ children, child ∈ field.parts := child_mem_parts hkind hchildren
    have hfields : validators t (children.map fun child ↦ child.recovered s child.name) =
        validators t children := by
      rw [validators_eq_named, validators_eq_named]
      exact named_map_recovered fun child hchild ↦ ih child (hparts child hchild) child.name
    rw [recoveredChildren_object h hkind hchildren, hchildren, FieldKind.recovered, validatorKind,
      validatorKind, hfields]
    all_goals simp

/-- The field that is read back stands for the same validator in any setting, under any name. -/
theorem validator_recovered (t : Setting) (h : field.Everywhere Recoverable) : ∀ name,
    (field.recovered s name).validator t = field.validator t := by
  induction h with
  | @intro field here _ ih =>
    intro name
    rw [validator_eq, validatorKind_recovered t name here ih, validator_eq t field, kind_recovered,
      rules_recovered, description_recovered]
    exact withRules_recovered t here _

/-! ## Declarations -/

theorem stringConstraints_getD (rules? : Option Rules) :
    stringConstraints (some (rules?.getD {})) = stringConstraints rules? := by
  cases rules? <;> rfl

theorem numberConstraints_getD (rules? : Option Rules) :
    numberConstraints (some (rules?.getD {})) = numberConstraints rules? := by
  cases rules? <;> rfl

/-- Without a default, a member must be given exactly if it may not be missing. -/
theorem mustBeGiven_recovered (name : String) (h : field.Recoverable) :
    (field.recovered s name).mustBeGiven = field.mustBeGiven := by
  have hrequired : (field.recovered s name).isRequired = field.isRequired := by
    rw [isRequired_eq, rules_recovered, Rules.getD_unlessEmpty, Rules.isRequired_recovered,
      isRequired_eq, h.isRequired_rules s]
  rw [mustBeGiven, hrequired, default?_recovered, mustBeGiven, h.noDefault]

theorem stringConstraints_recovered (mayBeMissing : Bool) (rules : Rules) :
    stringConstraints (rules.recovered .string mayBeMissing).unlessEmpty =
      stringConstraints (some rules) := by
  rw [← stringConstraints_getD, Rules.getD_unlessEmpty, stringConstraints,
    Rules.pattern?_recovered_string]
  rfl

theorem numberConstraints_recovered (mayBeMissing : Bool) (rules : Rules) :
    numberConstraints (rules.recovered .number mayBeMissing).unlessEmpty =
      numberConstraints (some rules) := by
  rw [← numberConstraints_getD, Rules.getD_unlessEmpty]
  rfl

theorem requiredNames_map_recovered {children : List Field}
    (h : ∀ child ∈ children, child.Recoverable) :
    requiredNames (children.map fun child ↦ child.recovered s child.name) =
      requiredNames children := by
  have hfilter : (children.filter (mustBeGiven ∘ fun child ↦ child.recovered s child.name)) =
      children.filter mustBeGiven := by
    apply List.filter_congr
    intro child hchild
    exact mustBeGiven_recovered child.name (h child hchild)
  have hnames : ((children.map fun child ↦ child.recovered s child.name).filter mustBeGiven).map
      name = (children.filter mustBeGiven).map name := by
    rw [List.filter_map, hfilter, List.map_map]
    apply List.map_congr_left
    intro child _
    exact name_recovered child.name
  unfold requiredNames
  rw [hnames]

theorem keywords_recovered (name : String) (h : field.Recoverable)
    (hparts : ∀ part ∈ field.parts, part.Recoverable)
    (ih : ∀ part ∈ field.parts, ∀ name, (part.recovered s name).jsonSchema = part.jsonSchema) :
    (field.recovered s name).keywords = field.keywords := by
  have hrecoverable := h.kind
  unfold keywords
  rw [kind_recovered, rules_recovered, children_recovered]
  cases hkind : field.kind with
  | union | file | calculated | unsupported => simp [hkind] at hrecoverable
  | boolean | date => rfl
  | string =>
    simp only [FieldKind.recovered, stringConstraints_recovered, stringConstraints_getD]
  | number =>
    simp only [FieldKind.recovered, numberConstraints_recovered, numberConstraints_getD]
  | enumeration =>
    rw [members?_recovered name hkind]
    cases field.members? with
    | none =>
      have hconstraints : stringConstraints
          ((field.rules.getD {}).recovered .enumeration
            (field.mayBeMissing s)).unlessEmpty = [] := by
        rw [← stringConstraints_getD, Rules.getD_unlessEmpty]
        rfl
      show typeMember "string" :: stringConstraints _ = _
      rw [hconstraints]
      rfl
    | some members => rfl
  | array =>
    rcases hchildren : field.children with _ | (_ | ⟨item, rest⟩)
    case none | some.nil => exact absurd (by simp [hchildren]) (h.item hkind)
    case some.cons =>
      have hitem := ih item (item_mem_parts hkind hchildren) Validator.itemName
      rw [recoveredChildren_array hkind hchildren]
      simp only [FieldKind.recovered, hitem]
  | object =>
    obtain ⟨children, hchildren⟩ := Option.isSome_iff_exists.mp (h.fields hkind)
    have hmem : ∀ child ∈ children, child ∈ field.parts := child_mem_parts hkind hchildren
    rw [recoveredChildren_object h hkind hchildren, hchildren]
    have hschemas : named jsonSchema (children.map fun child ↦ child.recovered s child.name) =
        named jsonSchema children :=
      named_map_recovered fun child hchild ↦ ih child (hmem child hchild) child.name
    have hnames : requiredNames (children.map fun child ↦ child.recovered s child.name) =
        requiredNames children :=
      requiredNames_map_recovered fun child hchild ↦ hparts child (hmem child hchild)
    simp only [FieldKind.recovered, Option.getD_some, hschemas, hnames]

/-- The field that is read back has the same declaration. -/
theorem jsonSchema_recovered (h : field.Everywhere Recoverable) : ∀ name,
    (field.recovered s name).jsonSchema = field.jsonSchema := by
  induction h with
  | @intro field here hparts ih =>
    intro name
    have hkeywords : (field.recovered s name).keywords = field.keywords :=
      keywords_recovered name here (fun part hpart ↦ (hparts part hpart).here) ih
    rw [jsonSchema_eq, jsonSchema_eq, hkeywords, default?_recovered, here.noDefault,
      description_recovered]

end Field

/-! ## Source text -/

namespace Emitter

open ToolSchema.Field

variable {s : Setting} {field : Field}

theorem modifiers_getD (kind : FieldKind) (rules? : Option Rules) (description : Option String) :
    modifiers kind (some (rules?.getD {})) description = modifiers kind rules? description := by
  cases rules? with
  | some rules => rfl
  | none => cases kind <;> rfl

theorem modifiers_recovered (h : field.Recoverable) (description : Option String) :
    modifiers (field.kind.recovered field.members?)
        ((field.rules.getD {}).recovered field.kind (field.mayBeMissing s)).unlessEmpty
        description =
      modifiers field.kind field.rules description := by
  rw [← modifiers_getD, Rules.getD_unlessEmpty, ← modifiers_getD field.kind]
  simp only [modifiers, ruleModifiers, Rules.isRequired_recovered, Rules.custom?_recovered,
    Rules.default_recovered, h.isRequired_rules s, h.noCustom, h.default_rules]
  cases field.kind with
  | string =>
    simp only [FieldKind.recovered, Rules.pattern?_recovered_string]
    rfl
  | enumeration => cases field.members? <;> rfl
  | _ => rfl

theorem members_map_recovered (emitter : Emitter) (depth : Nat) {children : List Field}
    (h : ∀ child ∈ children,
      emitter.node depth (child.recovered s child.name) = emitter.node depth child) :
    emitter.members depth (children.map fun child ↦ child.recovered s child.name) =
      emitter.members depth children := by
  induction children with
  | nil => rfl
  | cons child rest ih =>
    rw [List.forall_mem_cons] at h
    rw [List.map_cons, members, members, h.1, ih h.2, Field.name_recovered]

/-- The field that is read back is written as the same expression, at any depth of nesting. -/
theorem node_recovered (emitter : Emitter) (h : field.Everywhere Recoverable) : ∀ name depth,
    emitter.node depth (field.recovered s name) = emitter.node depth field := by
  induction h with
  | @intro field here _ ih =>
    intro name depth
    have hrecoverable := here.kind
    have hmodifiers := modifiers_recovered (s := s) here field.description
    have hmembers : field.kind = .enumeration →
        (field.recovered s name).members? = field.members? := members?_recovered name
    rw [recovered_eq] at hmembers ⊢
    obtain ⟨ownName, kind, description, rules, members, children, calculation⟩ := field
    rw [node.eq_def, node.eq_def]
    dsimp only at hmodifiers ⊢
    rw [hmodifiers]
    -- What is left to compare is the text of the kind.
    refine congrArg (· ++ modifiers kind rules description) ?_
    cases kind with
    | union | file | calculated | unsupported => simp at hrecoverable
    | string | number | boolean | date => rfl
    | enumeration =>
      have hback := hmembers rfl
      dsimp only [members?] at hback ⊢
      cases hliterals : members.filter fun ms ↦ !ms.isEmpty with
      | none => rfl
      | some literals =>
        rw [hliterals] at hback
        rw [FieldKind.recovered]
        dsimp only [Option.isSome_some]
        rw [hback]
        rfl
    | array =>
      rcases children with _ | (_ | ⟨item, rest⟩)
      case none | some.nil => exact absurd rfl (here.item rfl)
      case some.cons =>
        have hitem := ih item (by simp [parts]) Validator.itemName depth
        rw [recoveredChildren_array rfl rfl]
        simp only [FieldKind.recovered, hitem]
    | object =>
      obtain ⟨fields, rfl⟩ := Option.isSome_iff_exists.mp (here.fields rfl)
      rw [recoveredChildren_object here rfl rfl]
      cases fields with
      | nil => rfl
      | cons first rest =>
        have hfirst := ih first (by simp [parts]) first.name (depth + 1)
        have hchildren : ∀ child ∈ rest, emitter.node (depth + 1) (child.recovered s child.name) =
            emitter.node (depth + 1) child :=
          fun child hchild ↦ ih child (by simp [parts, hchild]) child.name (depth + 1)
        have hrest := members_map_recovered emitter (depth + 1) hchildren
        simp only [FieldKind.recovered, List.map_cons, name_recovered, hfirst, hrest]

theorem moduleText_recovered (emitter : Emitter) (h : field.Everywhere Recoverable) :
    emitter.moduleText (field.recovered s field.name) = emitter.moduleText field := by
  have hexpression : emitter.expression (field.recovered s field.name) = emitter.expression field :=
    emitter.node_recovered h field.name 0
  unfold moduleText
  rw [hexpression, name_recovered]

end Emitter

end ToolSchema
