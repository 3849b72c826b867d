import ToolSchema.Proofs.Assembly

/-!
# Strict compiling is lenient compiling up to the first degradation

A strict compiler does what the lenient one does until the lenient one warns of a degradation, and
fails with it. This is stated for single compilations, as a relation between what a lenient and a
strict one give, and it is kept when compilations follow one another or stand side by side. The
validators that degraded parts lead to never matter, as the strict compiler does not get there.
-/

namespace ToolSchema

/-- The degradation that an event warns of, with its path. -/
def Event.degradation? : Event → Option (FieldPath × Degradation)
  | .degraded path degradation => some (path, degradation)
  | _ => none

namespace Compiled

variable {α β : Type}

/-- The degradations that a compilation warns of, in order. -/
def degradations (compiled : Compiled α) : List (FieldPath × Degradation) :=
  compiled.events.filterMap Event.degradation?

/-- How a strict compilation stands to a lenient one: it gives the same value if that warns of no
degradation, fails with the first degradation otherwise, and fails if that does. -/
structure Mirrors (strict lenient : Compiled α) : Prop where
  same : ∀ value, lenient.outcome = .ok value → lenient.degradations = [] →
    strict.outcome = .ok value
  first : ∀ value path degradation rest, lenient.outcome = .ok value →
    lenient.degradations = (path, degradation) :: rest →
    strict.outcome = .error (.malformed path degradation)
  fails : ∀ error, lenient.outcome = .error error → ∃ other, strict.outcome = .error other

/-- A strict compilation gives what a lenient one gives without a degradation, and nothing else. -/
theorem Mirrors.outcome_eq_ok_iff {strict lenient : Compiled α} (h : strict.Mirrors lenient)
    {value : α} :
    strict.outcome = .ok value ↔ lenient.outcome = .ok value ∧ lenient.degradations = [] := by
  constructor
  · intro hstrict
    cases hlenient : lenient.outcome with
    | error error =>
      obtain ⟨other, hother⟩ := h.fails error hlenient
      rw [hstrict] at hother
      cases hother
    | ok out =>
      cases hdegraded : lenient.degradations with
      | nil =>
        have hsame := h.same out hlenient hdegraded
        rw [hstrict] at hsame
        exact ⟨hsame.symm, rfl⟩
      | cons pair rest =>
        have hfirst := h.first out _ _ rest hlenient hdegraded
        rw [hstrict] at hfirst
        cases hfirst
  · rintro ⟨hlenient, hnil⟩
    exact h.same value hlenient hnil

/-! ## Sequences -/

theorem bind_eq_of_ok {compiled : Compiled α} {next : α → Compiled β} {value : α}
    (h : compiled.outcome = .ok value) :
    compiled >>= next = ⟨compiled.events ++ (next value).events, (next value).outcome⟩ := by
  obtain ⟨events, outcome⟩ := compiled
  obtain rfl : outcome = .ok value := h
  rfl

theorem outcome_bind_of_ok {compiled : Compiled α} {next : α → Compiled β} {value : α}
    (h : compiled.outcome = .ok value) : (compiled >>= next).outcome = (next value).outcome := by
  rw [bind_eq_of_ok h]

theorem outcome_bind_of_error {compiled : Compiled α} {next : α → Compiled β} {error : SchemaError}
    (h : compiled.outcome = .error error) : (compiled >>= next).outcome = .error error := by
  obtain ⟨events, outcome⟩ := compiled
  obtain rfl : outcome = .error error := h
  rfl

theorem degradations_bind_of_ok {compiled : Compiled α} {next : α → Compiled β} {value : α}
    (h : compiled.outcome = .ok value) :
    (compiled >>= next).degradations = compiled.degradations ++ (next value).degradations := by
  rw [bind_eq_of_ok h, degradations, List.filterMap_append]
  rfl

/-- Sequences of compilations mirror each other if their steps do. -/
theorem mirrors_bind {strict lenient : Compiled α} {strictNext lenientNext : α → Compiled β}
    (h : strict.Mirrors lenient) (hnext : ∀ value, (strictNext value).Mirrors (lenientNext value)) :
    (strict >>= strictNext).Mirrors (lenient >>= lenientNext) where
  same out hout hnil := by
    obtain ⟨value, hvalue, hout⟩ := yields_bind.mp hout
    rw [degradations_bind_of_ok hvalue, List.append_eq_nil_iff] at hnil
    exact yields_bind.mpr
      ⟨value, h.same value hvalue hnil.1, (hnext value).same out hout hnil.2⟩
  first out path degradation rest hout hcons := by
    obtain ⟨value, hvalue, hout⟩ := yields_bind.mp hout
    rw [degradations_bind_of_ok hvalue] at hcons
    cases hfirst : lenient.degradations with
    | nil =>
      rw [hfirst, List.nil_append] at hcons
      rw [outcome_bind_of_ok (h.same value hvalue hfirst)]
      exact (hnext value).first out path degradation rest hout hcons
    | cons pair others =>
      rw [hfirst, List.cons_append] at hcons
      obtain ⟨rfl, -⟩ := List.cons.inj hcons
      exact outcome_bind_of_error (h.first value path degradation others hvalue hfirst)
  fails error herror := by
    cases hlenient : lenient.outcome with
    | error _ =>
      obtain ⟨other, hstrict⟩ := h.fails _ hlenient
      exact ⟨other, outcome_bind_of_error hstrict⟩
    | ok value =>
      rw [outcome_bind_of_ok hlenient] at herror
      cases hfirst : lenient.degradations with
      | nil =>
        rw [outcome_bind_of_ok (h.same value hlenient hfirst)]
        exact (hnext value).fails error herror
      | cons pair others =>
        exact ⟨_, outcome_bind_of_error (h.first value _ _ others hlenient hfirst)⟩

/-! ## Compilations side by side -/

theorem outcome_both_of_error {first second : Compiled α} {error : SchemaError}
    (h : first.outcome = .error error) : (both first second).outcome = .error error := by
  rw [both, h]
  rfl

theorem outcome_both_of_ok_of_error {first second : Compiled α} {value : α} {error : SchemaError}
    (h : first.outcome = .ok value) (hsecond : second.outcome = .error error) :
    (both first second).outcome = .error error := by
  rw [both, h, hsecond]
  rfl

/-- Both compilations are carried out, so that both warn. -/
theorem degradations_both (first second : Compiled α) :
    (both first second).degradations = first.degradations ++ second.degradations :=
  List.filterMap_append

/-- The second compilation warns of its degradations even if the first one failed, but then both
fail together. -/
theorem mirrors_both {strict lenient other otherLenient : Compiled α}
    (h : strict.Mirrors lenient) (hother : other.Mirrors otherLenient) :
    (both strict other).Mirrors (both lenient otherLenient) where
  same out hout hnil := by
    obtain ⟨hfirst, hsecond⟩ := yields_both.mp hout
    rw [degradations_both, List.append_eq_nil_iff] at hnil
    exact yields_both.mpr ⟨h.same _ hfirst hnil.1, hother.same _ hsecond hnil.2⟩
  first out path degradation rest hout hcons := by
    obtain ⟨hfirst, hsecond⟩ := yields_both.mp hout
    rw [degradations_both] at hcons
    cases hdegraded : lenient.degradations with
    | nil =>
      rw [hdegraded, List.nil_append] at hcons
      exact outcome_both_of_ok_of_error (h.same _ hfirst hdegraded)
        (hother.first _ path degradation rest hsecond hcons)
    | cons pair others =>
      rw [hdegraded, List.cons_append] at hcons
      obtain ⟨rfl, -⟩ := List.cons.inj hcons
      exact outcome_both_of_error (h.first _ path degradation others hfirst hdegraded)
  fails error herror := by
    cases hstrict : strict.outcome with
    | error _ => exact ⟨_, outcome_both_of_error hstrict⟩
    | ok value =>
      cases hsecond : other.outcome with
      | error _ => exact ⟨_, outcome_both_of_ok_of_error hstrict hsecond⟩
      | ok another =>
        -- Two lenient compilations that do not fail do not fail side by side.
        cases hlenient : lenient.outcome with
        | error _ =>
          obtain ⟨_, hfails⟩ := h.fails _ hlenient
          rw [hstrict] at hfails
          cases hfails
        | ok _ =>
          cases hotherLenient : otherLenient.outcome with
          | error _ =>
            obtain ⟨_, hfails⟩ := hother.fails _ hotherLenient
            rw [hsecond] at hfails
            cases hfails
          | ok _ =>
            rw [both, hlenient, hotherLenient] at herror
            cases herror

/-! ## Single steps -/

/-- A compilation that degrades nothing is the same for both. -/
theorem mirrors_self (compiled : Compiled α) (h : compiled.degradations = []) :
    compiled.Mirrors compiled where
  same _ hvalue _ := hvalue
  first _ _ _ _ _ hcons := by
    rw [h] at hcons
    cases hcons
  fails error herror := ⟨error, herror⟩

theorem mirrors_pure (value : α) : (pure value : Compiled α).Mirrors (pure value) :=
  mirrors_self _ rfl

end Compiled

namespace Compiler

open Compiled

def withStrict (compiler : Compiler) (strict : Bool) : Compiler :=
  { compiler with options := { compiler.options with strict := strict } }

variable (compiler : Compiler) (coerce : Bool) (path : FieldPath)

/-- A strict compiler fails with what a lenient one warns of. -/
theorem mirrors_degrade (degradation : Degradation) :
    ((compiler.withStrict true).degrade path degradation).Mirrors
      ((compiler.withStrict false).degrade path degradation) where
  same _ _ hnil := by cases hnil
  first _ _ _ _ _ hcons := by
    obtain ⟨heq, -⟩ := List.cons.inj hcons
    obtain ⟨rfl, rfl⟩ := Prod.mk.inj heq
    rfl
  fails _ herror := by cases herror

theorem mirrors_addPattern (source? : Option String) (v : Validator) :
    ((compiler.withStrict true).addPattern path source? v).Mirrors
      ((compiler.withStrict false).addPattern path source? v) := by
  unfold addPattern
  cases source? with
  | none => exact mirrors_pure v
  | some source =>
    dsimp only
    cases Pattern.ofSource? source with
    | some pattern => exact mirrors_pure _
    | none =>
      exact mirrors_bind (mirrors_degrade compiler path _) fun _ ↦ mirrors_pure _

theorem mirrors_addChecks (kind : FieldKind) (rules : Rules) (v : Validator) :
    ((compiler.withStrict true).addChecks path kind rules v).Mirrors
      ((compiler.withStrict false).addChecks path kind rules v) := by
  cases kind with
  | string => exact mirrors_addPattern compiler path _ _
  | _ => exact mirrors_pure _

/-- A custom check is no matter of strictness. -/
theorem mirrors_addCustom (rules : Rules) (v : Validator) :
    ((compiler.withStrict true).addCustom path rules v).Mirrors
      ((compiler.withStrict false).addCustom path rules v) := by
  refine mirrors_self (compiler.addCustom path rules v) ?_
  unfold addCustom
  cases rules.custom? with
  | none => rfl
  | some name => cases h : compiler.predicates.get? name <;> simp only [h] <;> rfl

theorem mirrors_addDefault (rules : Rules) (v : Validator) :
    ((compiler.withStrict true).addDefault path rules v).Mirrors
      ((compiler.withStrict false).addDefault path rules v) := by
  unfold addDefault
  cases rules.default with
  | none => exact mirrors_pure v
  | some value =>
    dsimp only
    cases v.validate value with
    | ok _ => exact mirrors_pure _
    | error rejection =>
      exact mirrors_bind (mirrors_degrade compiler path _) fun _ ↦ mirrors_pure _

theorem mirrors_addRules (kind : FieldKind) (rules? : Option Rules) (description : Option String)
    (v : Validator) :
    ((compiler.withStrict true).addRules path kind rules? description v).Mirrors
      ((compiler.withStrict false).addRules path kind rules? description v) := by
  unfold addRules
  cases rules? with
  | none => exact mirrors_pure _
  | some rules =>
    refine mirrors_bind (mirrors_addChecks compiler path kind rules _) fun checked ↦ ?_
    refine mirrors_bind (mirrors_addCustom compiler path rules checked) fun refined ↦ ?_
    refine mirrors_bind (mirrors_addDefault compiler path rules refined) fun defaulted ↦ ?_
    exact mirrors_pure _

theorem mirrors_checkArity (count : Nat) :
    ((compiler.withStrict true).checkArity path count).Mirrors
      ((compiler.withStrict false).checkArity path count) := by
  unfold checkArity
  split
  · exact mirrors_pure ()
  · exact mirrors_degrade compiler path _

theorem mirrors_checkNew (table : List (String × Validator)) (name : String) :
    ((compiler.withStrict true).checkNew path table name).Mirrors
      ((compiler.withStrict false).checkNew path table name) := by
  unfold checkNew
  split
  · exact mirrors_degrade compiler path _
  · exact mirrors_pure ()

/-! ## Fields -/

mutual
/-- Strict and lenient compilation go hand in hand at every field; the recursion is that of the
compiler. -/
theorem mirrors_compileAt (compiler : Compiler) (coerce : Bool) : (path : FieldPath) →
    (field : Field) →
    ((compiler.withStrict true).compileAt coerce path field).Mirrors
      ((compiler.withStrict false).compileAt coerce path field)
  | path, ⟨name, kind, description, rules, members, children, calculation⟩ => by
    rw [compileAt, compileAt]
    exact mirrors_bind (mirrors_compileKind compiler coerce members path kind children) fun base ↦
      mirrors_addRules compiler path kind rules description base

theorem mirrors_compileKind (compiler : Compiler) (coerce : Bool) (members : Option (List String)) :
    (path : FieldPath) → (kind : FieldKind) → (children : Option (List Field)) →
    ((compiler.withStrict true).compileKind coerce path members kind children).Mirrors
      ((compiler.withStrict false).compileKind coerce path members kind children)
  | path, .string, _ | path, .number, _ | path, .boolean, _ | path, .date, _ | path, .file, _
  | path, .calculated, _ => by
    rw [compileKind, compileKind]
    exact mirrors_pure _
  | path, .enumeration, _ => by
    rw [compileKind, compileKind]
    cases members.filter fun ms ↦ !ms.isEmpty with
    | some literals => exact mirrors_pure _
    | none => exact mirrors_bind (mirrors_degrade compiler path _) fun _ ↦ mirrors_pure _
  | path, .array, some (item :: _) => by
    rw [compileKind, compileKind]
    exact mirrors_bind (mirrors_compileAt compiler coerce _ item) fun _ ↦ mirrors_pure _
  | path, .array, some [] => mirrors_pure _
  | path, .array, none => mirrors_pure _
  | path, .object, some fields => by
    rw [compileKind, compileKind]
    exact mirrors_bind (mirrors_compileFields compiler coerce path [] fields) fun _ ↦ mirrors_pure _
  | path, .object, none => mirrors_pure _
  | path, .union, some (first :: second :: rest) => by
    rw [compileKind, compileKind]
    refine mirrors_bind (mirrors_checkArity compiler path _) fun _ ↦ ?_
    refine mirrors_bind (mirrors_both (mirrors_compileAt compiler coerce _ first)
      (mirrors_compileAt compiler coerce _ second)) fun _ ↦ ?_
    exact mirrors_pure _
  | path, .union, some [_] | path, .union, some [] | path, .union, none =>
    mirrors_bind (mirrors_checkArity compiler path _) fun _ ↦ mirrors_pure _
  | path, .unsupported, _ => by
    rw [compileKind, compileKind]
    exact mirrors_bind (mirrors_self _ rfl) fun _ ↦ mirrors_pure _

theorem mirrors_compileFields (compiler : Compiler) (coerce : Bool) (path : FieldPath) :
    (table : List (String × Validator)) → (fields : List Field) →
    ((compiler.withStrict true).compileFields coerce path table fields).Mirrors
      ((compiler.withStrict false).compileFields coerce path table fields)
  | table, [] => by
    rw [compileFields, compileFields]
    exact mirrors_pure table
  | table, field :: rest => by
    rw [compileFields, compileFields]
    refine mirrors_bind (mirrors_compileAt compiler coerce _ field) fun compiled ↦ ?_
    refine mirrors_bind (mirrors_checkNew compiler path table field.name) fun _ ↦ ?_
    exact mirrors_compileFields compiler coerce path _ rest
end

theorem mirrors_compileShaped (shape : Shape) (field : Field) :
    ((compiler.withStrict true).compileShaped shape field).Mirrors
      ((compiler.withStrict false).compileShaped shape field) := by
  unfold compileShaped
  refine mirrors_bind (mirrors_compileAt compiler _ .root field) fun v ↦ ?_
  exact mirrors_bind (mirrors_self _ rfl) fun _ ↦ mirrors_pure v

/-- A strict compiler gives the validator of a lenient one that warns of nothing, fails with the
first degradation that a lenient one warns of, and fails where a lenient one does. -/
theorem strict_compile_stops_at_first_degradation (compiler : Compiler) (field : Field) :
    (∀ v, ((compiler.withStrict true).compile field).outcome = .ok v ↔
      ((compiler.withStrict false).compile field).outcome = .ok v ∧
        ((compiler.withStrict false).compile field).degradations = []) ∧
    (∀ v path degradation rest,
      ((compiler.withStrict false).compile field).outcome = .ok v →
        ((compiler.withStrict false).compile field).degradations = (path, degradation) :: rest →
          ((compiler.withStrict true).compile field).outcome =
            .error (.malformed path degradation)) ∧
    ∀ error, ((compiler.withStrict false).compile field).outcome = .error error →
      ∃ other, ((compiler.withStrict true).compile field).outcome = .error other := by
  have h := mirrors_compileShaped compiler .field field
  exact ⟨fun v ↦ h.outcome_eq_ok_iff, h.first, h.fails⟩

/-- Both alternatives of the union are malformed, and the second one is compiled after the first. -/
example :
    let alternatives : List Field := [{ kind := .enumeration }, { kind := .union }]
    ((Compiler.withStrict {} false).compile
      { kind := .union, children := some alternatives }).degradations =
        [(FieldPath.root.index 0, .emptyEnumeration),
          (FieldPath.root.index 1, .unionArity 0)] := rfl

end Compiler

end ToolSchema
