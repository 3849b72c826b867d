import ToolSchema.Proofs.RequiredKeys
import ToolSchema.Proofs.RoundTrip

/-!
# What the round trip keeps and loses

Whatever a field was like, the field that is read back of its validator is known from the field
alone. Malformed nodes, duplicate names and misplaced constraints come back as what they were
compiled into. A node that is not required comes back so, and so does one whose default its own
validator accepts. Custom checks, defaults and calculations do not come back anywhere.
-/

namespace ToolSchema

namespace Field

/-- A field without a calculation whose rules say something, but name neither a custom check nor a
default. -/
structure Bare (field : Field) : Prop where
  calculation : field.calculation = none
  custom : ∀ rules ∈ field.rules, rules.custom = none
  default : ∀ rules ∈ field.rules, rules.default = none
  rules : ∀ rules ∈ field.rules, rules.isEmpty = false

variable {s : Setting} {field : Field}

/-- Of an object one child is read back for each name, from the last definition and in the order in
which the names come first. -/
theorem recoveredChildren_object_eq (hkind : field.kind = .object) :
    field.recoveredChildren s =
      some ((distinct ((field.children.getD []).map name)).filterMap fun key ↦
        (field.definition? key).map fun child ↦ child.recovered s key) := by
  rw [recoveredChildren, hkind]
  cases hchildren : field.children with
  | none => rfl
  | some children =>
    simp only [Option.some.injEq]
    rw [lastUnderEach, keys_named, List.map_filterMap, Option.getD_some]
    congr 1
    funext key
    rw [lookup_reverse_named, Option.map_map, Option.map_map, definition?, hchildren,
      Option.getD_some]
    cases hfind : children.reverse.find? fun child ↦ child.name = key with
    | none => rfl
    | some child =>
      have hname : child.name = key := by simpa using List.find?_some hfind
      simp [hname]

/-- A field may be missing if it says so, or if its validator accepts its default. -/
theorem mayBeMissing_iff :
    field.mayBeMissing s ↔ field.isRequired = false ∨
      ∃ default ∈ field.default?, (field.validator s).accepts default := by
  simp only [accepts_validator_iff]
  rw [mayBeMissing]
  cases field.default? <;> simp

end Field

namespace Validator

/-- What is read back names neither a custom check nor a default. -/
theorem bare_toField (v : Validator) (name : String) : (v.toField name).Bare := by
  have hrules : ∀ rules ∈ (v.toField name).rules, rules = v.fieldRules ∧ rules.isEmpty = false := by
    intro rules hmem
    rw [toField_eq, Rules.unlessEmpty, Option.mem_def, Option.ite_none_left_eq_some] at hmem
    obtain ⟨hempty, hsome⟩ := hmem
    obtain rfl := Option.some.inj hsome
    exact ⟨rfl, Bool.eq_false_iff.mpr hempty⟩
  refine ⟨by rw [toField_eq], fun rules hmem ↦ ?_, fun rules hmem ↦ ?_, fun rules hmem ↦ ?_⟩
  · rw [(hrules rules hmem).1, custom_fieldRules]
  · rw [(hrules rules hmem).1, default_fieldRules]
  · exact (hrules rules hmem).2

theorem throughout_bare_toField (v : Validator) : ∀ name,
    (v.toField name).Throughout Field.Bare := by
  induction v using partsInduction with
  | step v ih =>
    intro name
    refine ⟨v.bare_toField name, fun child hchild ↦ ?_⟩
    obtain ⟨inner, hinner, key, rfl⟩ := exists_of_mem_children_toField hchild
    exact ih inner hinner key

end Validator

namespace Compiler

variable {compiler : Compiler} {shape : Shape} {field : Field} {v : Validator}

/-- What is read back of a compiled validator, whatever the field and the options, is the normal
form of the field under the given name. In it a node may be missing if it is not required, or if the
validator that it is compiled into accepts its default; an object has a child for each name, from
the last definition; and custom checks, defaults, calculations and empty rules stand nowhere. -/
theorem introspect_eq_recovered (h : (compiler.compileShaped shape field).outcome = .ok v)
    (name : String) :
    let coerce := compiler.options.coercion.resolve shape
    let s := compiler.setting coerce
    v.introspect (some name) = field.recovered s name ∧
    (field.Everywhere fun node ↦
      (∃ path w, (compiler.compileAt coerce path node).Yields w ∧
        (node.mayBeMissing s ↔
          node.isRequired = false ∨ ∃ default ∈ node.default?, w.accepts default)) ∧
      (node.kind = .object → node.recoveredChildren s =
        some ((distinct ((node.children.getD []).map Field.name)).filterMap fun key ↦
          (node.definition? key).map fun child ↦ child.recovered s key))) ∧
    (v.introspect (some name)).Throughout Field.Bare := by
  intro coerce s
  obtain rfl := eq_of_yields_compileShaped h
  obtain ⟨_, hcompiled, -⟩ := Compiled.yields_bind.mp h
  refine ⟨field.toField_validator s name, ?_, (field.validator s).throughout_bare_toField name⟩
  apply (everywhere_exists_yields field hcompiled).imp
  rintro node ⟨path, w, hw⟩
  refine ⟨⟨path, w, hw, ?_⟩, Field.recoveredChildren_object_eq⟩
  rw [eq_of_yields_compileAt compiler coerce node hw]
  exact Field.mayBeMissing_iff

/-- A ledger, in which much is wrong: the entry is declared twice, the state has no members and a
constraint that does not count on it, the default of the note is no text, and there is only one
alternative. -/
def ledger : Field :=
  { name := "ledger", kind := .object
    children := some [
      { name := "entry", kind := .number
        rules := some { min := some (.finite (.ofInt 1)), custom := some "integer" } },
      { name := "tags", kind := .array, description := some "Tags" },
      { name := "state", kind := .enumeration, members := some []
        rules := some { maxLength := some 9 } },
      { name := "entry", kind := .boolean, rules := some { default := some (.bool true) } },
      { name := "note", kind := .string
        rules := some { regex := some "(", minLength := some 2, default := some .null } },
      { name := "meta", kind := .object },
      { name := "either", kind := .union, children := some [{ kind := .date }]
        rules := some { required := some false } },
      { name := "total", kind := .calculated, calculation := some { formula := "sum" } }] }

def ledgerCopy : Field :=
  { name := "copy", kind := .object
    children := some [
      { name := "entry", kind := .boolean, rules := some { required := some false } },
      { name := "tags", kind := .array, description := some "Tags"
        children := some [{ name := "item", kind := .string }] },
      { name := "state", kind := .string },
      { name := "note", kind := .string
        rules := some { regex := some "(", minLength := some 2 } },
      { name := "meta", kind := .object, children := some [] },
      { name := "either", kind := .string, rules := some { required := some false } },
      { name := "total", kind := .string }] }

theorem introspect_ledger :
    ∃ v, (Compiler.compile {} ledger).outcome = .ok v ∧ v.introspect (some "copy") = ledgerCopy ∧
      ledgerCopy.Throughout Field.Bare := by
  have h : (Compiler.compile {} ledger).outcome =
      .ok (ledger.validator (Compiler.setting {} true)) := by rfl
  obtain ⟨hback, -, hbare⟩ := introspect_eq_recovered h "copy"
  have hcopy : ledger.recovered (Compiler.setting {} true) "copy" = ledgerCopy := by rfl
  rw [hback.trans hcopy] at hbare
  exact ⟨_, h, hback.trans hcopy, hbare⟩

end Compiler

end ToolSchema
