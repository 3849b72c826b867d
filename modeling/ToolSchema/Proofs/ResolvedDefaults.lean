import ToolSchema.Proofs.Conformance
import ToolSchema.Proofs.Defaults
import ToolSchema.Proofs.LenientCompilers
import ToolSchema.Proofs.Loosening
import ToolSchema.Proofs.Reloading
import Mathlib

/-!
# What becomes of defaults when they are resolved

Resolving replaces a text by the value that it stands for in a field of its kind. A field that reads
the text reads the same from that value, unless it is a union: the text of a document is read by one
alternative, and the document perhaps by another one or by none. An object is filled in by the
defaults of its members too, and a member whose text was refused may have a good default after
resolving. A default is therefore kept, with what it fills in, where the defaults of members are
read alike in both forms.
-/

namespace ToolSchema

/-! ## Reading resolved defaults -/

/-- A number is read from a text exactly as it is resolved. -/
theorem Json.coerceNumber?_resolveDefault {coerce : Bool} {value out : Json}
    (h : value.coerceNumber? coerce = some out) :
    (FieldKind.number.resolveDefault value).coerceNumber? coerce = some out := by
  cases value with
  | string text =>
    cases coerce with
    | false => cases h
    | true =>
      have hresolved : FieldKind.number.resolveText? text = some out := h
      obtain ⟨n, rfl⟩ := Field.exists_of_coerceNumber? h
      rw [FieldKind.resolveDefault_string, hresolved]
      rfl
  | _ => exact h

namespace Field

variable {s : Setting} {field : Field}

/-- The default of a field is read in the same form before and after resolving, or is refused in
both forms. -/
def DefaultSteady (s : Setting) (field : Field) : Prop :=
  ∀ default ∈ field.default?,
    field.read s (field.kind.resolveDefault default) = field.read s default

/-- The defaults of the members of an object are steady. Of several members under one name the last
counts. -/
def MembersSteady (s : Setting) (field : Field) : Prop :=
  field.kind = .object →
    ∀ pair ∈ collect (named id (field.children.getD [])), pair.2.DefaultSteady s

/-- A text is neither a truth value nor a list nor an object. -/
theorem readKind_text_eq_none {kind : FieldKind} (hkind : kind ∈ [.boolean, .array, .object])
    (members : Option (List String)) (children : Option (List Field)) (text : String) :
    readKind s members kind children (.string text) = none := by
  simp only [List.mem_cons, List.not_mem_nil, or_false] at hkind
  rcases hkind with rfl | rfl | rfl
  · rw [readKind]
    simp
  · rcases children with _ | (_ | ⟨item, rest⟩) <;> rfl
  · cases children <;> rfl

/-- A default that a field reads is read in the same form after resolving, unless the field is a
union. -/
theorem read_resolveDefault (hkind : field.kind ≠ .union) {default out : Json}
    (h : field.read s default = some out) :
    field.read s (field.kind.resolveDefault default) = some out := by
  cases default with
  | string text =>
    rw [read_eq_some_iff] at h ⊢
    refine h.imp_left fun hread ↦ ?_
    cases hfield : field.kind with
    | number =>
      rw [hfield, readKind] at hread
      rw [readKind]
      exact Json.coerceNumber?_resolveDefault hread
    | boolean | array | object =>
      rw [hfield, readKind_text_eq_none (by simp)] at hread
      cases hread
    | union => exact absurd hfield hkind
    | _ =>
      rw [hfield] at hread
      exact hread
  | _ => exact h

/-- A default that is kept is steady, unless the field is a union. -/
theorem defaultSteady_of_read (hkind : field.kind ≠ .union)
    (h : ∀ default ∈ field.default?, (field.read s default).isSome) : field.DefaultSteady s := by
  intro default hdefault
  obtain ⟨out, hout⟩ := Option.isSome_iff_exists.mp (h default hdefault)
  rw [hout, read_resolveDefault hkind hout]

/-! ## Reading along resolved fields -/

theorem resolveDefaults_eq (field : Field) :
    field.resolveDefaults =
      { field with
        rules := field.rules.map (Rules.resolveDefault field.kind)
        children := field.children.map (List.map resolveDefaults) } := by
  have hresolve : mapRules Rules.resolveDefault = resolveDefaults :=
    funext fun f ↦ f.resolveDefaults_eq_mapRules.symm
  rw [resolveDefaults_eq_mapRules, mapRules_eq, hresolve]

theorem default?_resolveDefaults (field : Field) :
    field.resolveDefaults.default? = field.default?.map field.kind.resolveDefault := by
  rw [resolveDefaults_eq, default?, default?]
  cases field.rules <;> rfl

/-- Resolving changes nothing but the default of the rules. -/
theorem rules_resolveDefaults (field : Field) :
    field.resolveDefaults.rules.getD {} =
      { field.rules.getD {} with default := field.resolveDefaults.default? } := by
  rw [default?_resolveDefaults, resolveDefaults_eq, default?]
  cases field.rules <;> rfl

/-- A member is read as before if its default is steady. -/
theorem readMember_resolveDefaults (hread : field.resolveDefaults.read s = field.read s)
    (hsteady : field.DefaultSteady s) :
    (field.resolveDefaults.rules.getD {}).readMember (field.resolveDefaults.read s) =
      (field.rules.getD {}).readMember (field.read s) := by
  have hdefault : field.resolveDefaults.default?.bind (field.read s) =
      field.default?.bind (field.read s) := by
    rw [default?_resolveDefaults]
    cases hd : field.default? with
    | none => rfl
    | some default => exact hsteady default hd
  rw [default?_eq field] at hdefault
  funext value?
  cases value? with
  | some value => rw [Rules.readMember, Rules.readMember, hread]
  | none =>
    rw [hread, rules_resolveDefaults, Rules.readMember, Rules.readMember]
    dsimp only
    rw [hdefault]
    rfl

/-- The members of an object are read alike after resolving. -/
theorem lastUnderEach_memberReadings_resolveDefaults {children : List Field}
    (hread : ∀ child ∈ children, child.resolveDefaults.read s = child.read s)
    (hsteady : ∀ pair ∈ collect (named id children), pair.2.DefaultSteady s) :
    lastUnderEach (memberReadings s (children.map resolveDefaults)) =
      lastUnderEach (memberReadings s children) := by
  have hnamed : named id (children.map resolveDefaults) =
      mapValues (fun _ child ↦ child.resolveDefaults) (named id children) := by
    rw [named, named, mapValues, List.map_map, List.map_map]
    apply List.map_congr_left
    intro child _
    have hname : child.resolveDefaults.name = child.name := by rw [resolveDefaults_eq]
    rw [Function.comp_apply, Function.comp_apply, hname]
    rfl
  rw [lastUnderEach_memberReadings_eq, lastUnderEach_memberReadings_eq, hnamed, collect_mapValues,
    mapValues, mapValues, mapValues, List.map_map]
  apply List.map_congr_left
  intro pair hpair
  have hchild : pair.2 ∈ children := by
    obtain ⟨child, hmem, rfl⟩ := List.mem_map.mp (mem_of_mem_collect hpair)
    exact hmem
  exact congrArg (Prod.mk pair.1)
    (readMember_resolveDefaults (hread pair.2 hchild) (hsteady pair hpair))

theorem readKind_resolveDefaults (hsteady : field.MembersSteady s)
    (hread : ∀ part ∈ field.parts, part.resolveDefaults.read s = part.read s) (value : Json) :
    readKind s field.members field.kind (field.children.map (List.map resolveDefaults)) value =
      readKind s field.members field.kind field.children value := by
  cases hkind : field.kind with
  | array =>
    rcases hchildren : field.children with _ | (_ | ⟨item, rest⟩)
    case none | some.nil => rfl
    case some.cons =>
      have hitem := hread item (item_mem_parts hkind hchildren)
      cases value with
      | array items => rw [Option.map_some, List.map_cons, readKind, readKind, hitem]
      | _ => rfl
  | object =>
    cases hchildren : field.children with
    | none => rfl
    | some children =>
      have hmembers : lastUnderEach (memberReadings s (children.map resolveDefaults)) =
          lastUnderEach (memberReadings s children) := by
        apply lastUnderEach_memberReadings_resolveDefaults
        · exact fun child hchild ↦ hread child (child_mem_parts hkind hchildren child hchild)
        · simpa [hchildren] using hsteady hkind
      cases value with
      | object given => rw [Option.map_some, readKind, readKind, hmembers]
      | _ => rfl
  | union =>
    rcases hchildren : field.children with _ | (_ | ⟨first, _ | ⟨second, rest⟩⟩)
    case none | some.nil | some.cons.nil => rfl
    case some.cons.cons =>
      have hfirst := hread first (first_mem_parts hkind hchildren)
      have hsecond := hread second (second_mem_parts hkind hchildren)
      rw [Option.map_some, List.map_cons, List.map_cons, readKind, readKind, hfirst, hsecond]
  | _ => rw [readKind.eq_def, readKind.eq_def]

/-- A field reads the same after resolving, if the defaults of members are steady. -/
theorem read_resolveDefaults (h : field.Everywhere (MembersSteady s)) :
    field.resolveDefaults.read s = field.read s := by
  induction field using partsInduction with
  | step field ih =>
    have hread : ∀ part ∈ field.parts, part.resolveDefaults.read s = part.read s :=
      fun part hpart ↦ ih part hpart (h.part part hpart)
    funext value
    calc field.resolveDefaults.read s value
        = (readKind s field.members field.kind (field.children.map (List.map resolveDefaults))
            value).filter
              ((field.resolveDefaults.rules.getD {}).admits s.predicates field.kind) := by
          rw [read_eq, resolveDefaults_eq]
      _ = (readKind s field.members field.kind field.children value).filter
            ((field.rules.getD {}).admits s.predicates field.kind) := by
          rw [readKind_resolveDefaults h.here hread, rules_resolveDefaults]
          rfl
      _ = field.read s value := (read_eq s field value).symm

/-- A default is kept if the field reads it. -/
theorem default_validator_eq_some_iff {default : Json} :
    (field.validator s).default = some default ↔
      field.default? = some default ∧ (field.read s default).isSome := by
  rw [validator_eq, Validator.default_withRules, ← validator_eq, ← default?_eq,
    Option.filter_eq_some_iff]
  simp only [value?_judge_validator]

end Field

namespace Compiler

variable {compiler : Compiler} {shape : Shape} {field : Field} {v : Validator}

/-- A field that compiles is compiled after resolving too. -/
theorem compileShaped_resolveDefaults (hlenient : compiler.options.strict = false)
    (h : (compiler.compileShaped shape field).outcome = .ok v) :
    (compiler.compileShaped shape field.resolveDefaults).outcome =
      .ok (field.resolveDefaults.validator
        (compiler.setting (compiler.options.coercion.resolve shape))) := by
  obtain ⟨_, hcompiled, -⟩ := Compiled.yields_bind.mp h
  have hregistered : field.Everywhere (Field.CustomRegistered compiler.predicates) :=
    (everywhere_exists_yields field hcompiled).imp fun _ ⟨_, _, hw⟩ ↦ customRegistered_of_yields hw
  apply compileShaped_eq_ok hlenient
  rw [Field.resolveDefaults_eq_mapRules]
  apply hregistered.mapRules
  intro f hf
  rw [← Field.resolveDefaults_eq_mapRules, Field.CustomRegistered, Field.rules_resolveDefaults]
  exact hf

/-- Resolving a default that a lenient compiler has kept does not make it worse by itself: the
validator reads the same from the resolved default, unless the field is a union. The resolved field
compiles too. Where the defaults of the members below are steady, it keeps the resolved default and
fills in the same value, exactly if the validator reads that value from the resolved default. -/
theorem resolved_default_fills_in (hlenient : compiler.options.strict = false)
    (h : (compiler.compileShaped shape field).outcome = .ok v) {default out : Json}
    (hkept : v.default = some default) (hout : v.validate default = .ok out) :
    (field.kind ≠ .union → v.validate (field.kind.resolveDefault default) = .ok out) ∧
      ∃ w, (compiler.compileShaped shape field.resolveDefaults).outcome = .ok w ∧
        (field.Everywhere (Field.MembersSteady
            (compiler.setting (compiler.options.coercion.resolve shape))) →
          (w.default = some (field.kind.resolveDefault default) ∧
              w.validateOptional none = .ok (some out) ↔
            v.validate (field.kind.resolveDefault default) = .ok out)) := by
  have hresolved := compileShaped_resolveDefaults hlenient h
  obtain rfl := eq_of_yields_compileShaped h
  rw [Validator.validate_eq_ok_iff, Field.value?_judge_validator] at hout
  rw [Validator.validate_eq_ok_iff, Field.value?_judge_validator]
  refine ⟨fun hkind ↦ Field.read_resolveDefault hkind hout, _, hresolved, fun hsteady ↦ ?_⟩
  obtain ⟨hdefault, -⟩ := Field.default_validator_eq_some_iff.mp hkept
  let s := compiler.setting (compiler.options.coercion.resolve shape)
  have hread : ∀ value, (field.resolveDefaults.validator s).validate value = .ok out ↔
      field.read s value = some out := by
    intro value
    rw [Validator.validate_eq_ok_iff, Field.value?_judge_validator,
      Field.read_resolveDefaults hsteady]
  rw [← hread]
  constructor
  · rintro ⟨hdefault, hfills⟩
    exact (Validator.validateOptional_none_eq_some_iff hdefault).mp hfills
  · intro hvalid
    have hdefault : (field.resolveDefaults.validator s).default =
        some (field.kind.resolveDefault default) := by
      rw [Field.default_validator_eq_some_iff, Field.default?_resolveDefaults, hdefault,
        Field.read_resolveDefaults hsteady, (hread _).mp hvalid]
      exact ⟨rfl, rfl⟩
    exact ⟨hdefault, (Validator.validateOptional_none_eq_some_iff hdefault).mpr hvalid⟩

/-- A text that one alternative of a union reads, and whose document the other one reads. -/
def amount : Field :=
  { kind := .union
    children := some [{ kind := .string }, { kind := .number }]
    rules := some { default := some (.string "5") } }

/-- A text that one alternative of a union reads, and whose document none does. -/
def code : Field :=
  { kind := .union
    children := some [{ kind := .string }, { kind := .boolean }]
    rules := some { default := some (.string "5") } }

/-- An object without members is a good default of this one, and a text is none of its member. -/
def switches : Field :=
  { kind := .object
    children := some [
      { name := "flag", kind := .boolean
        rules := some { required := some false, default := some (.string "true") } }]
    rules := some { default := some (.object []) } }

/-- What a default that is kept fills in may be another value after resolving, or nothing at all. -/
theorem resolved_defaults_differ :
    (∃ v w, (Compiler.compile {} amount).outcome = .ok v ∧
      v.validateOptional none = .ok (some (.string "5")) ∧
      (Compiler.compile {} amount.resolveDefaults).outcome = .ok w ∧
      w.validateOptional none = .ok (some (.ofInt 5))) ∧
    (∃ v w, (Compiler.compile {} code).outcome = .ok v ∧
      v.validateOptional none = .ok (some (.string "5")) ∧
      (Compiler.compile {} code.resolveDefaults).outcome = .ok w ∧
      w.default = none ∧ w.validateOptional none = .error (.single .root .missing)) ∧
    ∃ v w, (Compiler.compile {} switches).outcome = .ok v ∧
      v.validateOptional none = .ok (some (.object [])) ∧
      (Compiler.compile {} switches.resolveDefaults).outcome = .ok w ∧
      w.validateOptional none = .ok (some (.object [("flag", .bool true)])) := by
  refine ⟨⟨amount.validator (Compiler.setting {} true),
    amount.resolveDefaults.validator (Compiler.setting {} true), ?_⟩,
    ⟨code.validator (Compiler.setting {} true),
    code.resolveDefaults.validator (Compiler.setting {} true), ?_⟩,
    switches.validator (Compiler.setting {} true),
    switches.resolveDefaults.validator (Compiler.setting {} true), ?_⟩
  · cbv
  · cbv
  · cbv

/-- A shelf that is filled in by its members: a number that is a text, a label that stays one, and a
truth value whose default is refused in both forms. -/
def shelf : Field :=
  { kind := .object
    children := some [
      { name := "width", kind := .number, rules := some { default := some (.string " 80 ") } },
      { name := "label", kind := .string, rules := some { default := some (.string "42") } },
      { name := "fixed", kind := .boolean
        rules := some { required := some false, default := some (.string "yes") } }]
    rules := some { default := some (.object []) } }

theorem everywhere_membersSteady_shelf :
    shelf.Everywhere (Field.MembersSteady (Compiler.setting {} true)) := by
  refine ⟨fun _ pair hpair ↦ ?_, fun part hpart ↦ ?_⟩
  · rw [collect_of_nodup (by decide)] at hpair
    obtain ⟨child, hchild, rfl⟩ := List.mem_map.mp hpair
    simp only [shelf, Option.getD_some, List.mem_cons, List.not_mem_nil, or_false] at hchild
    rcases hchild with rfl | rfl | rfl
    · apply Field.defaultSteady_of_read (by decide)
      intro default hdefault
      obtain rfl : Json.string " 80 " = default := Option.some.inj hdefault
      cbv
    · intro default hdefault
      obtain rfl : Json.string "42" = default := Option.some.inj hdefault
      rfl
    · intro default hdefault
      obtain rfl : Json.string "yes" = default := Option.some.inj hdefault
      cbv
  · simp only [shelf, Field.parts, List.mem_cons, List.not_mem_nil, or_false] at hpart
    rcases hpart with rfl | rfl | rfl
    all_goals
      refine .of_parts_eq_nil ?_ rfl
      intro hkind
      cases hkind

theorem everywhere_customRegistered_shelf :
    shelf.Everywhere (Field.CustomRegistered .builtin) := by
  refine ⟨by simp [Field.CustomRegistered, shelf, Rules.custom?], fun part hpart ↦ ?_⟩
  simp only [shelf, Field.parts, List.mem_cons, List.not_mem_nil, or_false] at hpart
  rcases hpart with rfl | rfl | rfl
  all_goals exact .of_parts_eq_nil (by simp [Field.CustomRegistered, Rules.custom?]) rfl

/-- The shelf is filled in the same after resolving. -/
theorem shelf_default_fills_in :
    ∃ w, (Compiler.compile {} shelf.resolveDefaults).outcome = .ok w ∧
      w.default = some (.object []) ∧
      w.validateOptional none =
        .ok (some (.object [("width", .ofInt 80), ("label", .string "42")])) := by
  let s := Compiler.setting {} true
  have h : (Compiler.compile {} shelf).outcome = .ok (shelf.validator s) :=
    compileShaped_eq_ok rfl .field everywhere_customRegistered_shelf
  have hout : (shelf.validator s).validate (.object []) =
      .ok (.object [("width", .ofInt 80), ("label", .string "42")]) := by cbv
  have hread : (shelf.read s (.object [])).isSome := by
    rw [Validator.validate_eq_ok_iff, Field.value?_judge_validator] at hout
    rw [hout]
    rfl
  have hkept : (shelf.validator s).default = some (.object []) :=
    Field.default_validator_eq_some_iff.mpr ⟨rfl, hread⟩
  obtain ⟨hvalid, w, hw, hiff⟩ := resolved_default_fills_in rfl h hkept hout
  exact ⟨w, hw, (hiff everywhere_membersSteady_shelf).mpr (hvalid (by decide))⟩

end Compiler

end ToolSchema
