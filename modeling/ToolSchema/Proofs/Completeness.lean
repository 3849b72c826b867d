import ToolSchema.Proofs.Conformance
import ToolSchema.Proofs.StrictCompilers

/-!
# Valid arguments are never refused

Where a strict compiler yields a validator, the validator accepts every document that is valid
against the declaration of the field. A member that is missing is not required or has a default,
which the field reads. Dates, custom checks and forbidden keys are left out: declarations do not
speak of them.
-/

namespace ToolSchema

/-- What satisfies a bound as it is declared satisfies the bound, unless an infinite bound is taken
to say nothing. -/
theorem Json.holds_of_boundHolds {strange : StrangeBound} {holds : Double → Bool} {bound : Double}
    (hbound : strange = .unsatisfiable ∨ bound.finite?.isSome)
    (h : boundHolds strange holds bound) : holds bound := by
  cases bound with
  | finite x => exact h
  | _ =>
    rcases hbound with rfl | hfinite
    · cases h
    · cases hfinite

theorem Rules.admitsNumber_of_admitsDeclared {strange : StrangeBound} {rules : Rules} {x : Binary64}
    (hbounds : strange = .unsatisfiable ∨
      (∀ bound ∈ rules.min, bound.finite?.isSome) ∧ ∀ bound ∈ rules.max, bound.finite?.isSome)
    (h : rules.admitsDeclared strange x) : rules.admitsNumber x := by
  rw [admitsDeclared, Bool.and_eq_true, Option.all_eq_true, Option.all_eq_true] at h
  rw [admitsNumber, Bool.and_eq_true, Option.all_eq_true, Option.all_eq_true]
  constructor
  · intro bound hbound
    exact Json.holds_of_boundHolds (hbounds.imp_right fun hboth ↦ hboth.1 bound hbound)
      (h.1 bound hbound)
  · intro bound hbound
    exact Json.holds_of_boundHolds (hbounds.imp_right fun hboth ↦ hboth.2 bound hbound)
      (h.2 bound hbound)

namespace Field

/-- What makes the declaration of a field say all that the field asks for, if those of its parts
do. -/
structure Declarable (s : Setting) (field : Field) : Prop where
  namesDistinct : field.NamesDistinct
  defaultRead : ∀ default ∈ field.default?, (field.read s default).isSome
  notDate : field.kind ≠ .date
  noCustom : (field.rules.getD {}).custom? = none

/-- A field reads everything that is valid against its declaration. -/
def ReadsValid (strange : StrangeBound) (s : Setting) (field : Field) : Prop :=
  ∀ value, field.jsonSchema.valid strange value → (field.read s value).isSome

section Kinds

variable {strange : StrangeBound} {s : Setting} {field : Field} {value : Json}

theorem isSome_read_of_readKind (out : Json)
    (hkind : readKind s field.members field.kind field.children value = some out)
    (hadmits : (field.rules.getD {}).admits s.predicates field.kind out) :
    (field.read s value).isSome :=
  Option.isSome_of_eq_some (read_eq_some_iff.mpr ⟨hkind, hadmits⟩)

/-- Constraints count on texts and numbers only, so that other fields read what their kind reads. -/
theorem isSome_read_of_isSome_readKind {kind : FieldKind} (hfield : field.kind = kind)
    (hstring : kind ≠ .string) (hnumber : kind ≠ .number)
    (hcustom : ∀ out, (field.rules.getD {}).admitsCustom s.predicates out)
    (h : (readKind s field.members kind field.children value).isSome) :
    (field.read s value).isSome := by
  obtain ⟨out, hout⟩ := Option.isSome_iff_exists.mp h
  apply isSome_read_of_readKind out (by rwa [hfield])
  rw [hfield]
  cases kind with
  | string => exact absurd rfl hstring
  | number => exact absurd rfl hnumber
  | _ => simp [Rules.admits, hcustom]

/-- An enumeration without members is declared as a text, and reads any text. -/
theorem isSome_readKind_of_valid_enumeration (hfield : field.kind = .enumeration)
    (h : field.jsonSchema.valid strange value) :
    (readKind s field.members .enumeration field.children value).isSome := by
  obtain ⟨text, rfl, htext⟩ := (valid_enumeration_iff hfield).mp h
  unfold members? at htext
  rw [readKind.eq_def]
  rcases hmembers : field.members with _ | (_ | ⟨first, rest⟩)
  case none | some.nil => simp
  case some.cons =>
    have hmem : text ∈ first :: rest := htext _ (by simp [hmembers])
    simp [hmem]

/-- The first child reads all items. Without one a list is read as it is. -/
theorem isSome_readKind_of_valid_array (hfield : field.kind = .array)
    (hpart : ∀ part ∈ field.parts, part.ReadsValid strange s)
    (h : field.jsonSchema.valid strange value) :
    (readKind s field.members .array field.children value).isSome := by
  obtain ⟨items, rfl, hitems⟩ := (valid_array_iff hfield).mp h
  rcases hchildren : field.children with _ | (_ | ⟨item, rest⟩)
  case none | some.nil => simp [readKind]
  case some.cons =>
    rw [readKind, Option.isSome_map, isSome_mapM_iff]
    intro value hvalue
    have hvalid : item.jsonSchema.valid strange value :=
      hitems item (by simp [hchildren]) value hvalue
    exact hpart item (item_mem_parts hfield hchildren) value hvalid

/-- An object is read if its members are valid and those that must be given are there. -/
theorem isSome_readMembers_of_valid {children : List Field} {given : List (String × Json)}
    (hpolicy : s.unknownKeys ≠ .reject) (hdistinct : (children.map Field.name).Nodup)
    (hdefault : ∀ child ∈ children, ∀ default ∈ child.default?, (child.read s default).isSome)
    (hchild : ∀ child ∈ children, child.ReadsValid strange s)
    (h : ∀ child ∈ children,
      (∀ member ∈ lookup child.name given, child.jsonSchema.valid strange member) ∧
        (child.mustBeGiven → child.name ∈ keys given)) :
    (readMembers s.unknownKeys (lastUnderEach (memberReadings s children)) given).isSome := by
  rw [lastUnderEach_memberReadings hdistinct]
  rw [isSome_readMembers_iff, isSome_readDeclared_iff]
  refine ⟨fun pair hpair ↦ ?_, fun hreject ↦ absurd hreject hpolicy⟩
  obtain ⟨child, hmem, rfl⟩ := List.mem_map.mp hpair
  obtain ⟨hmembers, hgiven⟩ := h child hmem
  cases hlookup : lookup child.name given with
  | some value =>
    rw [Rules.isSome_readMember_some]
    exact hchild child hmem value (hmembers value hlookup)
  | none =>
    rw [Rules.isSome_readMember_none]
    cases hd : (child.rules.getD {}).default with
    | some default => exact .inl (hdefault child hmem default (by rwa [default?_eq]))
    | none =>
      have hkey : child.name ∉ keys given := lookup_eq_none_iff.mp hlookup
      have hoptional : ¬ child.mustBeGiven := fun hmust ↦ hkey (hgiven hmust)
      exact .inr (by simpa [mustBeGiven, isRequired_eq, default?_eq, hd] using hoptional)

theorem isSome_readKind_of_valid_object (hpolicy : s.unknownKeys ≠ .reject)
    (hfield : field.kind = .object) (hdistinct : field.NamesDistinct)
    (hdefault : ∀ part ∈ field.parts, ∀ default ∈ part.default?, (part.read s default).isSome)
    (hpart : ∀ part ∈ field.parts, part.ReadsValid strange s)
    (h : field.jsonSchema.valid strange value) :
    (readKind s field.members .object field.children value).isSome := by
  obtain ⟨given, rfl, hgiven⟩ := (valid_object_iff hfield (hdistinct hfield)).mp h
  cases hchildren : field.children with
  | none => simp [readKind]
  | some children =>
    have hparts : ∀ child ∈ children, child ∈ field.parts := child_mem_parts hfield hchildren
    have hnodup : (children.map Field.name).Nodup := by simpa [hchildren] using hdistinct hfield
    rw [readKind]
    exact isSome_readMembers_of_valid hpolicy hnodup
      (fun child hmem ↦ hdefault child (hparts child hmem))
      (fun child hmem ↦ hpart child (hparts child hmem)) (by simpa [hchildren] using hgiven)

/-- A union of fewer than two alternatives reads everything. -/
theorem isSome_readKind_of_valid_union (hfield : field.kind = .union)
    (hpart : ∀ part ∈ field.parts, part.ReadsValid strange s)
    (h : field.jsonSchema.valid strange value) :
    (readKind s field.members .union field.children value).isSome := by
  rcases hchildren : field.children with _ | (_ | ⟨first, _ | ⟨second, rest⟩⟩)
  case none | some.nil | some.cons.nil => simp [readKind]
  case some.cons.cons =>
    rw [readKind, Option.isSome_or, Bool.or_eq_true]
    rcases (valid_union_iff hfield hchildren).mp h with hfirst | hsecond
    · exact Or.inl (hpart first (first_mem_parts hfield hchildren) value hfirst)
    · exact Or.inr (hpart second (second_mem_parts hfield hchildren) value hsecond)

end Kinds

/-- What is valid against the declaration of a field is read by the field. -/
theorem isSome_read_of_valid {strange : StrangeBound} {s : Setting}
    (hpolicy : s.unknownKeys ≠ .reject) (field : Field) (hnodes : field.Everywhere (Declarable s))
    (hbounds : strange = .unsatisfiable ∨ field.Everywhere BoundsFinite) {value : Json}
    (h : field.jsonSchema.valid strange value) : (field.read s value).isSome := by
  induction field using partsInduction generalizing value with
  | step field ih =>
    have hpart : ∀ part ∈ field.parts, part.ReadsValid strange s := by
      intro part hpart value
      exact ih part hpart (hnodes.part part hpart) (hbounds.imp_right fun h ↦ h.part part hpart)
    have hdefault : ∀ part ∈ field.parts, ∀ default ∈ part.default?, (part.read s default).isSome :=
      fun part hpart ↦ (hnodes.part part hpart).here.defaultRead
    obtain ⟨hdistinct, -, hdate, hnone⟩ := hnodes.here
    have hcustom : ∀ out, (field.rules.getD {}).admitsCustom s.predicates out := by
      intro out
      rw [Rules.admitsCustom, hnone]
      rfl
    cases hfield : field.kind with
    | string =>
      obtain ⟨text, rfl, htext⟩ := (valid_string_iff hfield).mp h
      refine isSome_read_of_readKind (.string text) ?_ ?_
      · rw [hfield, readKind]
        rfl
      · rw [hfield, Rules.admits, htext, hcustom]
        rfl
    | number =>
      obtain ⟨n, rfl, hn⟩ := (valid_number_iff hfield).mp h
      have hbounded := Rules.admitsNumber_of_admitsDeclared (hbounds.imp_right fun h ↦ h.here) hn
      refine isSome_read_of_readKind (.number n) ?_ ?_
      · rw [hfield, readKind]
        rfl
      · rw [hfield, Rules.admits, hbounded, hcustom]
        rfl
    | boolean =>
      obtain ⟨truth, rfl⟩ := (valid_boolean_iff hfield).mp h
      apply isSome_read_of_isSome_readKind hfield (by decide) (by decide) hcustom
      simp [readKind]
    | date => exact absurd hfield hdate
    | enumeration =>
      apply isSome_read_of_isSome_readKind hfield (by decide) (by decide) hcustom
      exact isSome_readKind_of_valid_enumeration hfield h
    | array =>
      apply isSome_read_of_isSome_readKind hfield (by decide) (by decide) hcustom
      exact isSome_readKind_of_valid_array hfield hpart h
    | object =>
      apply isSome_read_of_isSome_readKind hfield (by decide) (by decide) hcustom
      exact isSome_readKind_of_valid_object hpolicy hfield hdistinct hdefault hpart h
    | union =>
      apply isSome_read_of_isSome_readKind hfield (by decide) (by decide) hcustom
      exact isSome_readKind_of_valid_union hfield hpart h
    | file | calculated | unsupported =>
      apply isSome_read_of_isSome_readKind hfield (by decide) (by decide) hcustom
      simp [readKind]

end Field

namespace Compiler

open Compiled

variable {compiler : Compiler}

/-- Where a strict compiler yields a validator, it accepts what is valid against the declaration,
unless there are dates, custom checks or forbidden keys, about which declarations say nothing. A
bound that is no number may be taken to refuse all numbers; if there is none, it does not matter how
it is taken. -/
theorem accepts_of_valid {field : Field} {v : Validator} (hstrict : compiler.options.strict = true)
    (hpolicy : compiler.options.unknownKeys ≠ .reject)
    (h : (compiler.compile field).outcome = .ok v)
    (hdate : field.Everywhere fun f ↦ f.kind ≠ .date)
    (hcustom : field.Everywhere fun f ↦ (f.rules.getD {}).custom? = none) (value : Json) :
    (field.jsonSchema.valid .unsatisfiable value → v.accepts value) ∧
      (field.Everywhere Field.BoundsFinite →
        ∀ strange, field.jsonSchema.valid strange value → v.accepts value) := by
  obtain ⟨w, hfield, -⟩ := yields_bind.mp h
  have hnodes := (((everywhere_of_yields hstrict field hfield).and hdate).and hcustom).imp
    fun f hf ↦ (⟨hf.1.1.1, hf.1.1.2, hf.1.2, hf.2⟩ : f.Declarable _)
  have haccepts : v.accepts value ↔ (field.read (compiler.setting
      (compiler.options.coercion.resolve .field)) value).isSome := by
    rw [Validator.accepts_iff, eq_of_yields_compileShaped h, Field.value?_judge_validator]
  rw [haccepts]
  constructor
  · intro hvalid
    exact Field.isSome_read_of_valid hpolicy field hnodes (Or.inl rfl) hvalid
  · intro hbounds strange hvalid
    exact Field.isSome_read_of_valid hpolicy field hnodes (Or.inr hbounds) hvalid

def ticket : Field :=
  { kind := .object
    children := some [
      { name := "title", kind := .string, rules := some { maxLength := some 20 } },
      { name := "priority", kind := .enumeration, members := some ["low", "high"]
        rules := some { default := some (.string "low") } }] }

/-- A ticket is accepted without a priority, which has a default. -/
theorem accepts_ticket :
    ∃ v, (Compiler.compile { options := { strict := true } } ticket).outcome = .ok v ∧
      v.accepts (.object [("title", .string "crash")]) := by
  let v := ticket.validator (Compiler.setting {} true)
  have h : (Compiler.compile { options := { strict := true } } ticket).outcome = .ok v := by rfl
  have hleaves : ∀ holds : Field → Prop, holds ticket → (∀ child ∈ ticket.parts, holds child) →
      ticket.Everywhere holds := by
    intro holds hroot hchildren
    constructor
    · exact hroot
    intro child hchild
    apply Field.Everywhere.of_parts_eq_nil (hchildren child hchild)
    simp [Field.parts, ticket] at hchild
    rcases hchild with rfl | rfl <;> rfl
  have hdate : ticket.Everywhere fun f ↦ f.kind ≠ .date :=
    hleaves _ (by decide) (by decide)
  have hcustom : ticket.Everywhere fun f ↦ (f.rules.getD {}).custom? = none :=
    hleaves _ (by rfl) (by simp [Field.parts, ticket, Rules.custom?])
  exact ⟨v, h, (accepts_of_valid rfl (by decide) h hdate hcustom _).1 (by cbv)⟩

end Compiler

end ToolSchema
