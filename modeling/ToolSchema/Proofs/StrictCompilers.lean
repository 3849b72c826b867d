import ToolSchema.Proofs.Acceptance

/-!
# What strict compilers guarantee

A strict compiler yields a validator only where nothing had to be mended: of the fields of an object
no two have one name, and every default is kept, so the field itself reads it. It has compiled every
part of the field, so the same holds at every depth.
-/

namespace ToolSchema

namespace Compiler

open Compiled

variable {compiler : Compiler} {coerce : Bool} {path : FieldPath}

/-- A name that comes twice stops strict compilers only. -/
theorem yields_checkNew {table : List (String × Validator)} {name : String} {out : Unit} :
    (compiler.checkNew path table name).Yields out ↔
      (name ∈ keys table → compiler.options.strict = false) := by
  unfold checkNew
  rw [← lookup_isSome_iff]
  split
  · next hmem => simp [hmem]
  · next hmem => simp [hmem]

theorem exists_of_yields_compileFields {fields : List Field} {table out : List (String × Validator)}
    (h : (compiler.compileFields coerce path table fields).Yields out) :
    ∀ field ∈ fields, ∃ path v, (compiler.compileAt coerce path field).Yields v := by
  induction fields generalizing table with
  | nil => simp
  | cons field rest ih =>
    rw [compileFields, yields_bind] at h
    obtain ⟨v, hfield, h⟩ := h
    obtain ⟨_, -, hrest⟩ := yields_bind.mp h
    exact List.forall_mem_cons.mpr ⟨⟨_, v, hfield⟩, ih hrest⟩

/-- A strict compiler yields no object in which a name comes twice. -/
theorem nodup_of_yields_compileFields (hstrict : compiler.options.strict = true)
    {fields : List Field} {table out : List (String × Validator)}
    (h : (compiler.compileFields coerce path table fields).Yields out) :
    (fields.map Field.name).Nodup ∧ ∀ field ∈ fields, field.name ∉ keys table := by
  induction fields generalizing table with
  | nil => simp
  | cons field rest ih =>
    rw [compileFields, yields_bind] at h
    obtain ⟨v, -, h⟩ := h
    obtain ⟨_, hnew, hrest⟩ := yields_bind.mp h
    have hfresh : field.name ∉ keys table := by
      intro hmem
      rw [yields_checkNew.mp hnew hmem] at hstrict
      cases hstrict
    obtain ⟨hnodup, hothers⟩ := ih hrest
    simp only [keys_insert, if_neg hfresh, List.mem_append, List.mem_singleton, not_or] at hothers
    rw [List.map_cons, List.nodup_cons, List.forall_mem_cons]
    have hfirst : field.name ∉ rest.map Field.name := by
      intro hmem
      obtain ⟨other, hother, hname⟩ := List.mem_map.mp hmem
      exact (hothers other hother).2 hname
    exact ⟨⟨hfirst, hnodup⟩, hfresh, fun other hother ↦ (hothers other hother).1⟩

theorem exists_of_yields_compileKind {field : Field} {base : Validator}
    (h : (compiler.compileKind coerce path field.members field.kind field.children).Yields base) :
    ∀ part ∈ field.parts, ∃ path v, (compiler.compileAt coerce path part).Yields v := by
  unfold Field.parts
  split
  · next item rest hkind hchildren =>
    rw [hkind, hchildren, compileKind, yields_bind] at h
    obtain ⟨v, hitem, -⟩ := h
    simpa using ⟨_, v, hitem⟩
  · next fields hkind hchildren =>
    rw [hkind, hchildren, compileKind, yields_bind] at h
    obtain ⟨table, hfields, -⟩ := h
    exact exists_of_yields_compileFields hfields
  · next first second rest hkind hchildren =>
    rw [hkind, hchildren, compileKind, yields_bind] at h
    obtain ⟨_, -, h⟩ := h
    rw [yields_bind] at h
    obtain ⟨both, hboth, -⟩ := h
    obtain ⟨hfirst, hsecond⟩ := yields_both.mp hboth
    rw [List.forall_mem_cons, List.forall_mem_singleton]
    exact ⟨⟨_, _, hfirst⟩, ⟨_, _, hsecond⟩⟩
  · simp

/-- A strict compiler keeps the default, since it fails on one that is refused. -/
theorem default_of_yields_addDefault (hstrict : compiler.options.strict = true) {rules : Rules}
    {v out : Validator} (hv : v.default = none)
    (h : (compiler.addDefault path rules v).Yields out) : out.default = rules.default := by
  unfold addDefault at h
  cases hdefault : rules.default with
  | none =>
    simp only [hdefault, yields_pure] at h
    rw [← h, hv]
  | some value =>
    cases hvalid : v.validate value with
    | ok parsed =>
      simp only [hdefault, hvalid, yields_pure] at h
      rw [← h]
      rfl
    | error rejection =>
      simp only [hdefault, hvalid, yields_bind, yields_degrade, hstrict] at h
      obtain ⟨-, h, -⟩ := h
      cases h

theorem default_addDescription (description : Option String) (v : Validator) :
    (addDescription description v).default = v.default := by
  cases description <;> rfl

/-- A strict compiler keeps every default. -/
theorem default_of_yields_addRules (hstrict : compiler.options.strict = true) {kind : FieldKind}
    {rules? : Option Rules} {description : Option String} {base : ValidatorKind Validator}
    {out : Validator}
    (h : (compiler.addRules path kind rules? description { kind := base }).Yields out) :
    out.default = (rules?.getD {}).default := by
  unfold addRules at h
  cases rules? with
  | none =>
    rw [yields_pure] at h
    rw [← h, default_addDescription]
    rfl
  | some rules =>
    simp only [yields_bind, yields_pure] at h
    obtain ⟨checked, hchecked, refined, hrefined, defaulted, hdefaulted, rfl⟩ := h
    have hnone : refined.default = none := by
      rw [eq_of_yields_addCustom hrefined, eq_of_yields_addChecks hchecked]
      show (if rules.isRequired then _ else Validator.makeOptional _ : Validator).default = none
      split <;> rfl
    rw [default_addDescription, default_of_yields_addDefault hstrict hnone hdefaulted]
    rfl

/-- Where a strict compiler yields a validator, the names in objects are distinct and the defaults
are read. -/
theorem everywhere_of_yields (hstrict : compiler.options.strict = true) (field : Field) :
    ∀ {path : FieldPath} {v : Validator}, (compiler.compileAt coerce path field).Yields v →
      field.Everywhere fun field ↦ field.NamesDistinct ∧
        ∀ default ∈ field.default?, (field.read (compiler.setting coerce) default).isSome := by
  induction field using Field.partsInduction with
  | step field ih =>
    intro path v h
    have hv := eq_of_yields_compileAt compiler coerce field h
    rw [compileAt_eq, yields_bind] at h
    obtain ⟨base, hbase, hrules⟩ := h
    refine ⟨⟨?_, ?_⟩, ?_⟩
    · intro hkind
      cases hchildren : field.children with
      | none => simp
      | some children =>
        rw [hkind, hchildren, compileKind, yields_bind] at hbase
        obtain ⟨table, hfields, -⟩ := hbase
        exact (nodup_of_yields_compileFields hstrict hfields).1
    · intro default hdefault
      rw [eq_of_yields_compileKind compiler coerce _ _ _ hbase] at hrules
      have hkept := default_of_yields_addRules hstrict hrules
      rw [hv, Field.validator_eq, Validator.default_withRules, ← Field.validator_eq,
        ← Field.default?_eq, hdefault, Option.filter_eq_some_iff] at hkept
      simpa only [Field.value?_judge_validator] using hkept.2
    · intro part hpart
      obtain ⟨path, v, hcompiled⟩ := exists_of_yields_compileKind hbase part hpart
      exact ih part hpart hcompiled

end Compiler

end ToolSchema
