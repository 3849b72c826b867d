import ToolSchema.Proofs.FieldTree

/-!
# What stops lenient compilers

A lenient compiler warns of what is malformed and goes on. Only a custom check that is not
registered stops it. It compiles the parts of a field before the field itself, so of several such
checks the one it fails with is the first in post-order. Where every custom check is registered, a
field is compiled into the validator that it stands for.
-/

namespace ToolSchema

namespace Field

/-- The custom check of a field is registered, if it has one. -/
def CustomRegistered (predicates : Predicates) (field : Field) : Prop :=
  ∀ name ∈ (field.rules.getD {}).custom?, (predicates.get? name).isSome

/-- A field has a custom check that is not registered: the name is its text without white space at
the ends, and not empty. -/
def Unregistered (predicates : Predicates) (field : Field) (name : String) : Prop :=
  ∃ rules text, field.rules = some rules ∧ rules.custom = some text ∧ Text.trim text = name ∧
    name ≠ "" ∧ predicates.get? name = none

/-- The name of the custom check of a field, if it is not registered. -/
def unregistered? (predicates : Predicates) (field : Field) : Option String :=
  (field.rules.getD {}).custom?.filter fun name ↦ (predicates.get? name).isNone

theorem unregistered?_eq_some_iff {predicates : Predicates} {field : Field} {name : String} :
    field.unregistered? predicates = some name ↔ field.Unregistered predicates name := by
  unfold unregistered? Unregistered Rules.custom?
  cases field.rules with
  | none => simp
  | some rules =>
    simp only [Option.getD_some, Option.filter_eq_some_iff, Option.map_eq_some_iff,
      decide_eq_true_eq, Option.isNone_iff_eq_none]
    constructor
    · rintro ⟨⟨⟨text, htext, hname⟩, hblank⟩, hnone⟩
      exact ⟨rules, text, rfl, htext, hname, hblank, hnone⟩
    · rintro ⟨_, text, ⟨⟩, htext, hname, hblank, hnone⟩
      exact ⟨⟨⟨text, htext, hname⟩, hblank⟩, hnone⟩

theorem CustomRegistered.unregistered?_eq_none {predicates : Predicates} {field : Field}
    (h : field.CustomRegistered predicates) : field.unregistered? predicates = none := by
  rw [unregistered?, Option.filter_eq_none_iff]
  intro name hname
  simpa [Option.isSome_iff_ne_none] using h name hname

/-! ## The fields that are compiled -/

mutual
/-- The fields that are compiled with a field at a path, each with its own path: its parts and what
is compiled with them, in order, and then the field itself. -/
def visits (path : FieldPath) : Field → List (FieldPath × Field)
  | ⟨name, kind, description, rules, members, children, calculation⟩ =>
    visitsBelow path kind children ++
      [(path, ⟨name, kind, description, rules, members, children, calculation⟩)]

/-- The fields that are compiled before a field of a kind: all children of an object, the first one
of an array, and the first two of a union. -/
def visitsBelow (path : FieldPath) : FieldKind → Option (List Field) → List (FieldPath × Field)
  | .array, some (item :: _) => visits (path.index 0) item
  | .object, some fields => visitsFields path fields
  | .union, some (first :: second :: _) =>
    visits (path.index 0) first ++ visits (path.index 1) second
  | _, _ => []

def visitsFields (path : FieldPath) : List Field → List (FieldPath × Field)
  | [] => []
  | field :: rest => visits (path.key field.name) field ++ visitsFields path rest
end

/-- A field is compiled behind its parts. -/
theorem visits_eq (path : FieldPath) (field : Field) :
    field.visits path = visitsBelow path field.kind field.children ++ [(path, field)] := by
  obtain ⟨name, kind, description, rules, members, children, calculation⟩ := field
  rw [visits]

theorem exists_of_mem_visitsFields {path : FieldPath} {visit : FieldPath × Field}
    {fields : List Field} (h : visit ∈ visitsFields path fields) :
    ∃ field ∈ fields, visit ∈ field.visits (path.key field.name) := by
  induction fields with
  | nil => simp [visitsFields] at h
  | cons field rest ih =>
    rw [visitsFields, List.mem_append] at h
    rcases h with hfield | hrest
    · exact ⟨field, List.mem_cons_self, hfield⟩
    · obtain ⟨other, hother, hvisit⟩ := ih hrest
      exact ⟨other, List.mem_cons_of_mem _ hother, hvisit⟩

/-- What is compiled before a field is compiled with one of its parts. -/
theorem exists_of_mem_visitsBelow {path : FieldPath} {visit : FieldPath × Field} {field : Field}
    (h : visit ∈ visitsBelow path field.kind field.children) :
    ∃ part ∈ field.parts, ∃ below, visit ∈ part.visits below := by
  rw [visitsBelow.eq_def] at h
  split at h
  · next item rest hkind hchildren =>
    exact ⟨item, item_mem_parts hkind hchildren, _, h⟩
  · next fields hkind hchildren =>
    obtain ⟨part, hpart, hvisit⟩ := exists_of_mem_visitsFields h
    exact ⟨part, child_mem_parts hkind hchildren part hpart, _, hvisit⟩
  · next first second rest hkind hchildren =>
    rcases List.mem_append.mp h with hfirst | hsecond
    · exact ⟨first, first_mem_parts hkind hchildren, _, hfirst⟩
    · exact ⟨second, second_mem_parts hkind hchildren, _, hsecond⟩
  · cases h

/-- What holds everywhere holds of every field that is compiled. -/
theorem Everywhere.of_mem_visits {holds : Field → Prop} {field : Field}
    (h : field.Everywhere holds) :
    ∀ {path : FieldPath}, ∀ visit ∈ field.visits path, holds visit.2 := by
  induction h with
  | intro here _ ih =>
    intro path visit hvisit
    rw [visits_eq, List.mem_append, List.mem_singleton] at hvisit
    rcases hvisit with hbelow | rfl
    · obtain ⟨part, hpart, below, hmem⟩ := exists_of_mem_visitsBelow hbelow
      exact ih part hpart visit hmem
    · exact here

end Field

namespace Compiled

variable {α β : Type}

def error? (compiled : Compiled α) : Option SchemaError :=
  match compiled.outcome with
  | .ok _ => none
  | .error error => some error

theorem error?_eq_some_iff {compiled : Compiled α} {error : SchemaError} :
    compiled.error? = some error ↔ compiled.outcome = .error error := by
  unfold error?
  cases compiled.outcome <;> simp

theorem error?_eq_none_iff {compiled : Compiled α} :
    compiled.error? = none ↔ ∃ value, compiled.Yields value := by
  unfold error? Yields
  cases compiled.outcome <;> simp

@[simp]
theorem error?_pure (value : α) : (pure value : Compiled α).error? = none := rfl

@[simp]
theorem error?_event (e : Event) : (event e).error? = none := rfl

@[simp]
theorem error?_fail (error : SchemaError) : (fail error : Compiled α).error? = some error := rfl

/-- A sequence fails as its first step does, or else as the next one does whatever comes of the
first. -/
theorem error?_bind {first : Compiled α} {next : α → Compiled β} {later : Option SchemaError}
    (hnext : ∀ value, (next value).error? = later) :
    (first >>= next).error? = first.error?.or later := by
  obtain ⟨events, outcome⟩ := first
  cases outcome with
  | error error => rfl
  | ok value => exact hnext value

theorem error?_bind_of_none {first : Compiled α} {next : α → Compiled β}
    {later : Option SchemaError} (hfirst : first.error? = none)
    (hnext : ∀ value, (next value).error? = later) : (first >>= next).error? = later := by
  rw [error?_bind hnext, hfirst, Option.none_or]

theorem error?_bind_eq_left {first : Compiled α} {next : α → Compiled β}
    (hnext : ∀ value, (next value).error? = none) : (first >>= next).error? = first.error? := by
  rw [error?_bind hnext, Option.or_none]

/-- Of two compilations side by side the error of the first one counts. -/
theorem error?_both (first second : Compiled α) :
    (both first second).error? = first.error?.or second.error? := by
  obtain ⟨_, outcome⟩ := first
  obtain ⟨_, other⟩ := second
  cases outcome <;> cases other <;> rfl

end Compiled

/-- The error that a lenient compiler stops with at a field. -/
def SchemaError.atVisit? (predicates : Predicates) (visit : FieldPath × Field) :
    Option SchemaError :=
  (visit.2.unregistered? predicates).map fun name ↦ .unknownPredicate name visit.1

namespace Compiler

open Compiled

variable {compiler : Compiler} {coerce : Bool} {path : FieldPath}

section Lenient

variable (hlenient : compiler.options.strict = false)
include hlenient

theorem error?_degrade (degradation : Degradation) :
    (compiler.degrade path degradation).error? = none := by
  simp [degrade, hlenient]

theorem error?_addChecks (kind : FieldKind) (rules : Rules) (v : Validator) :
    (compiler.addChecks path kind rules v).error? = none := by
  unfold addChecks
  split
  · rfl
  · unfold addPattern
    cases rules.pattern? with
    | none => rfl
    | some source =>
      dsimp only
      cases Pattern.ofSource? source with
      | some pattern => rfl
      | none => exact error?_bind_of_none (error?_degrade hlenient _) fun _ ↦ error?_pure _
  · rfl

/-- A lenient compiler only warns of a default that is refused. -/
theorem error?_addDefault (rules : Rules) (v : Validator) :
    (compiler.addDefault path rules v).error? = none := by
  unfold addDefault
  cases rules.default with
  | none => rfl
  | some value =>
    dsimp only
    cases v.validate value with
    | ok _ => rfl
    | error rejection =>
      exact error?_bind_of_none (error?_degrade hlenient _) fun _ ↦ error?_pure _

theorem error?_checkArity (count : Nat) : (compiler.checkArity path count).error? = none := by
  unfold checkArity
  split
  · rfl
  · exact error?_degrade hlenient _

theorem error?_checkNew (table : List (String × Validator)) (name : String) :
    (compiler.checkNew path table name).error? = none := by
  unfold checkNew
  split
  · exact error?_degrade hlenient _
  · rfl

end Lenient

/-- A name that is not registered is the one thing that stops a lenient compiler. -/
theorem error?_addCustom (rules : Rules) (v : Validator) :
    (compiler.addCustom path rules v).error? =
      (rules.custom?.filter fun name ↦ (compiler.predicates.get? name).isNone).map
        fun name ↦ .unknownPredicate name path := by
  unfold addCustom
  cases rules.custom? with
  | none => rfl
  | some name =>
    rw [Option.filter_some]
    cases hpredicate : compiler.predicates.get? name <;> simp [hpredicate]

theorem registered_of_yields_addCustom {rules : Rules} {v out : Validator}
    (h : (compiler.addCustom path rules v).Yields out) :
    ∀ name ∈ rules.custom?, (compiler.predicates.get? name).isSome := by
  intro name hname
  rw [addCustom, hname] at h
  cases hpredicate : compiler.predicates.get? name with
  | none => simp [hpredicate] at h
  | some predicate => rfl

/-- The custom checks of a field that compiles are registered. -/
theorem customRegistered_of_yields {field : Field} {v : Validator}
    (h : (compiler.compileAt coerce path field).Yields v) :
    field.CustomRegistered compiler.predicates := by
  rw [compileAt_eq, Compiled.yields_bind] at h
  obtain ⟨base, -, hrules⟩ := h
  unfold addRules at hrules
  unfold Field.CustomRegistered
  cases hmem : field.rules with
  | none => simp [Rules.custom?]
  | some rules =>
    simp only [hmem, Compiled.yields_bind] at hrules
    obtain ⟨checked, -, refined, hrefined, -⟩ := hrules
    exact registered_of_yields_addCustom hrefined

/-- Laying the rules of a field over its kind fails only with its custom check. -/
theorem error?_addRules (hlenient : compiler.options.strict = false) (field : Field)
    (v : Validator) :
    (compiler.addRules path field.kind field.rules field.description v).error? =
      SchemaError.atVisit? compiler.predicates (path, field) := by
  unfold addRules SchemaError.atVisit? Field.unregistered?
  cases field.rules with
  | none => rfl
  | some rules =>
    refine error?_bind_of_none (error?_addChecks hlenient field.kind rules _) fun checked ↦ ?_
    refine (error?_bind_eq_left fun refined ↦ ?_).trans (error?_addCustom rules checked)
    exact error?_bind_of_none (error?_addDefault hlenient rules refined) fun _ ↦ error?_pure _

/-- The fields of an object fail with the first error among them. -/
theorem error?_compileFields (hlenient : compiler.options.strict = false) {fields : List Field}
    (h : ∀ field ∈ fields, ∀ path, (compiler.compileAt coerce path field).error? =
      (field.visits path).findSome? (SchemaError.atVisit? compiler.predicates))
    (table : List (String × Validator)) :
    (compiler.compileFields coerce path table fields).error? =
      (Field.visitsFields path fields).findSome? (SchemaError.atVisit? compiler.predicates) := by
  induction fields generalizing table with
  | nil => rfl
  | cons field rest ih =>
    rw [List.forall_mem_cons] at h
    rw [compileFields, Field.visitsFields, List.findSome?_append, ← h.1]
    refine error?_bind fun compiled ↦ ?_
    exact error?_bind_of_none (error?_checkNew hlenient table field.name) fun _ ↦ ih h.2 _

/-- A kind fails with the first error among the parts that count on it. -/
theorem error?_compileKind (hlenient : compiler.options.strict = false) (field : Field)
    (h : ∀ part ∈ field.parts, ∀ path, (compiler.compileAt coerce path part).error? =
      (part.visits path).findSome? (SchemaError.atVisit? compiler.predicates)) :
    (compiler.compileKind coerce path field.members field.kind field.children).error? =
      (Field.visitsBelow path field.kind field.children).findSome?
        (SchemaError.atVisit? compiler.predicates) := by
  cases hkind : field.kind with
  | string | number | boolean | date | file | calculated | unsupported =>
    rw [compileKind, Field.visitsBelow.eq_def]
    rfl
  | enumeration =>
    rw [compileKind, Field.visitsBelow.eq_def]
    cases field.members.filter fun ms ↦ !ms.isEmpty with
    | some literals => rfl
    | none => exact error?_bind_of_none (error?_degrade hlenient _) fun _ ↦ error?_pure _
  | array =>
    rcases hchildren : field.children with _ | (_ | ⟨item, rest⟩)
    case none | some.nil => rfl
    case some.cons =>
      have hitem := h item (Field.item_mem_parts hkind hchildren)
      rw [compileKind, Field.visitsBelow, ← hitem]
      exact error?_bind_eq_left fun _ ↦ error?_pure _
  | object =>
    cases hchildren : field.children with
    | none => rfl
    | some children =>
      have hfields : ∀ child ∈ children, ∀ path, (compiler.compileAt coerce path child).error? =
          (child.visits path).findSome? (SchemaError.atVisit? compiler.predicates) := by
        simpa [Field.parts_of_object hkind, hchildren] using h
      rw [compileKind, Field.visitsBelow, ← error?_compileFields hlenient hfields []]
      exact error?_bind_eq_left fun _ ↦ error?_pure _
  | union =>
    rcases hchildren : field.children with _ | (_ | ⟨first, _ | ⟨second, rest⟩⟩)
    case none | some.nil | some.cons.nil =>
      exact error?_bind_of_none (error?_checkArity hlenient _) fun _ ↦ error?_pure _
    case some.cons.cons =>
      have hfirst := h first (Field.first_mem_parts hkind hchildren)
      have hsecond := h second (Field.second_mem_parts hkind hchildren)
      rw [compileKind, Field.visitsBelow, List.findSome?_append, ← hfirst, ← hsecond, ← error?_both]
      refine error?_bind_of_none (error?_checkArity hlenient _) fun _ ↦ ?_
      exact error?_bind_eq_left fun _ ↦ error?_pure _

/-- A lenient compiler fails with the first custom check in post-order that is not registered, and
with nothing else. -/
theorem error?_compileAt (hlenient : compiler.options.strict = false) (field : Field) :
    ∀ path, (compiler.compileAt coerce path field).error? =
      (field.visits path).findSome? (SchemaError.atVisit? compiler.predicates) := by
  induction field using Field.partsInduction with
  | step field ih =>
    intro path
    rw [compileAt_eq, error?_bind fun base ↦ error?_addRules hlenient field base,
      error?_compileKind hlenient field ih, Field.visits_eq, List.findSome?_append,
      List.findSome?_singleton]

/-- A lenient compiler stops at the first visit to a name that is not registered. -/
theorem error?_compileShaped (hlenient : compiler.options.strict = false) (shape : Shape)
    (field : Field) :
    (compiler.compileShaped shape field).error? =
      (field.visits .root).findSome? (SchemaError.atVisit? compiler.predicates) := by
  rw [compileShaped, ← error?_compileAt hlenient field .root]
  exact error?_bind_eq_left fun _ ↦ rfl

/-- A lenient compiler compiles every field whose custom checks are registered. -/
theorem compileShaped_eq_ok (hlenient : compiler.options.strict = false) (shape : Shape)
    {field : Field} (h : field.Everywhere (Field.CustomRegistered compiler.predicates)) :
    (compiler.compileShaped shape field).outcome =
      .ok (field.validator (compiler.setting (compiler.options.coercion.resolve shape))) := by
  have hnone : (compiler.compileShaped shape field).error? = none := by
    rw [error?_compileShaped hlenient, List.findSome?_eq_none_iff]
    intro visit hvisit
    rw [SchemaError.atVisit?, (h.of_mem_visits visit hvisit).unregistered?_eq_none, Option.map_none]
  obtain ⟨v, hv⟩ := error?_eq_none_iff.mp hnone
  rw [← eq_of_yields_compileShaped hv]
  exact hv

/-- A lenient compiler fails if and only if a field that is compiled has a custom check that is not
registered. It then fails with the first one in post-order: it says its name and its path. -/
theorem compile_fails_iff_unregistered (hlenient : compiler.options.strict = false)
    (field : Field) :
    ((∃ error, (compiler.compile field).outcome = .error error) ↔
      ∃ visit ∈ field.visits .root, ∃ name, visit.2.Unregistered compiler.predicates name) ∧
    ∀ error, (compiler.compile field).outcome = .error error →
      ∃ before path f after name, field.visits .root = before ++ (path, f) :: after ∧
        (∀ visit ∈ before, ∀ other, ¬ visit.2.Unregistered compiler.predicates other) ∧
        f.Unregistered compiler.predicates name ∧ error = .unknownPredicate name path := by
  have herror := error?_compileShaped hlenient .field field
  constructor
  · calc (∃ error, (compiler.compile field).outcome = .error error)
        ↔ (compiler.compile field).error?.isSome := by
          simp only [Option.isSome_iff_exists, error?_eq_some_iff]
      _ ↔ ∃ visit ∈ field.visits .root,
            (SchemaError.atVisit? compiler.predicates visit).isSome := by
          rw [compile, herror, List.findSome?_isSome_iff]
      _ ↔ ∃ visit ∈ field.visits .root, ∃ name,
            visit.2.Unregistered compiler.predicates name := by
          simp only [SchemaError.atVisit?, Option.isSome_map, Option.isSome_iff_exists,
            Field.unregistered?_eq_some_iff]
  · intro error hfails
    rw [compile, ← error?_eq_some_iff, herror, List.findSome?_eq_some_iff] at hfails
    obtain ⟨before, ⟨path, f⟩, after, hvisits, hfirst, hbefore⟩ := hfails
    obtain ⟨name, hname, rfl⟩ := Option.map_eq_some_iff.mp hfirst
    refine ⟨before, path, f, after, name, hvisits, fun visit hvisit other hother ↦ ?_,
      Field.unregistered?_eq_some_iff.mp hname, rfl⟩
    have hnone := Option.map_eq_none_iff.mp (hbefore visit hvisit)
    rw [Field.unregistered?_eq_some_iff.mpr hother] at hnone
    cases hnone

/-- A booking with three custom checks, of which only that on the number of nights is registered.
The names of the guests are compiled before the booking itself. -/
def booking : Field :=
  { kind := .object
    rules := some { custom := some "affordable" }
    children := some [
      { name := "nights", kind := .number, rules := some { custom := some "positive" } },
      { name := "guests", kind := .array
        children := some [{ kind := .string, rules := some { custom := some " titled " } }] }] }

theorem compile_booking_fails :
    (∃ error, (Compiler.compile {} booking).outcome = .error error) ∧
      ∃ before path f after name, booking.visits .root = before ++ (path, f) :: after ∧
        (∀ visit ∈ before, ∀ other, ¬ visit.2.Unregistered .builtin other) ∧
        f.Unregistered .builtin name ∧
        SchemaError.unknownPredicate "titled" ((FieldPath.root.key "guests").index 0) =
          .unknownPredicate name path := by
  have hlenient : (Compiler.mk {} .builtin).options.strict = false := rfl
  have hfails := compile_fails_iff_unregistered hlenient booking
  have hunregistered : booking.Unregistered .builtin "affordable" :=
    ⟨_, _, rfl, rfl, rfl, by decide, rfl⟩
  have hvisit : (FieldPath.root, booking) ∈ booking.visits .root := by
    rw [Field.visits_eq]
    simp
  exact ⟨hfails.1.mpr ⟨_, hvisit, _, hunregistered⟩, hfails.2 _ rfl⟩

end Compiler

end ToolSchema
