import ToolSchema.Proofs.Reloading
import Mathlib

/-!
# Parameters that are built by hand and stored

Parameters need not have been loaded before they are saved. Those whose bounds are finite and whose
defaults are not null are loaded as they were built: a flat map as it was, and a field with its text
defaults resolved and nothing else changed. Only finite bounds can be written, and a member that is
null is absent when it is read.
-/

namespace ToolSchema

namespace Field

/-- A field that can be stored: it can be written, and its default is not null. -/
structure Storable (field : Field) : Prop where
  writable : field.Writable
  default : ∀ value ∈ field.default?, value.type ≠ .null

def withoutDefaults (field : Field) : Field :=
  field.mapRules fun _ rules ↦ { rules with default := none }

/-- Resolving defaults changes nothing but defaults. -/
theorem withoutDefaults_resolveDefaults (field : Field) :
    field.resolveDefaults.withoutDefaults = field.withoutDefaults := by
  rw [resolveDefaults_eq_mapRules, withoutDefaults, mapRules_mapRules]
  rfl

/-- Where no default is null, there is none to forget. -/
theorem mapRules_forgetNull {field : Field} (h : field.Throughout Storable) :
    (field.mapRules fun _ ↦ Rules.forgetNull) = field := by
  refine mapRules_eq_self (h.imp fun f hf rules hrules ↦ ?_)
  have hdefault : rules.default.filter (fun value ↦ value.type ≠ .null) = rules.default := by
    cases hd : rules.default with
    | none => rfl
    | some value =>
      have hnull := hf.default value (Option.bind_eq_some_iff.mpr ⟨rules, hrules, hd⟩)
      exact Option.filter_some_pos (decide_eq_true hnull)
  rw [Rules.forgetNull, hdefault]

end Field

namespace ToolParams

/-- Parameters that can be stored: no bound is infinite or no number, no default is null, and no map
has a key twice. -/
def Storable : ToolParams → Prop
  | flat parameters => parameters.Writable
  | field f => f.Throughout Field.Storable

/-- The parameters with their text defaults resolved. Flat maps have none. -/
def resolved : ToolParams → ToolParams
  | flat parameters => flat parameters
  | field f => field f.resolveDefaults

def withoutDefaults : ToolParams → ToolParams
  | flat parameters => flat parameters
  | field f => field f.withoutDefaults

/-- Parameters that can be stored are loaded in the shape in which they were built, with their text
defaults resolved and nothing else changed. -/
theorem ofJson_toJson_of_storable {p : ToolParams} (h : p.Storable) :
    ofJson p.toJson = .ok p.resolved ∧ p.resolved.shape = p.shape ∧
      p.resolved.withoutDefaults = p.withoutDefaults := by
  cases p with
  | flat parameters =>
    refine ⟨?_, rfl, rfl⟩
    have hflat : isFlat parameters.toJson := rfl
    rw [toJson, ofJson, if_pos hflat, FlatParameters.decode_toJson h]
    rfl
  | field f =>
    refine ⟨?_, rfl, congrArg field f.withoutDefaults_resolveDefaults⟩
    have hflat : ¬ isFlat f.toJson := by
      rw [isFlat, Field.get?_properties_toJson]
      simp
    have hdecode := Field.decode_toJson (h.imp fun _ hf ↦ hf.writable)
    rw [Field.mapRules_forgetNull h] at hdecode
    rw [toJson, ofJson, if_neg hflat, hdecode]
    rfl

/-- A draft of a form is loaded with what is present but empty, and with its limit as a number. -/
theorem ofJson_toJson_draft :
    let draft (limit : Json) : ToolParams := .field
      { name := "draft", kind := .object, rules := some {}
        children := some [
          { name := "limit", kind := .number
            rules := some { min := some (.finite (.ofInt 1)), default := some limit } },
          { name := "signature", kind := .unsupported, description := some "" },
          { name := "state", kind := .enumeration, members := some [] },
          { name := "rest", kind := .object, children := some [] },
          { name := "total", kind := .calculated, calculation := some {} }] }
    (draft (.string " 42 ")).Storable ∧
      ofJson (draft (.string " 42 ")).toJson = .ok (draft (.ofInt 42)) := by
  intro draft
  have hleaf : ∀ f : Field, f.children.getD [] = [] → f.Storable → f.Throughout Field.Storable :=
    fun f hchildren hf ↦ ⟨hf, by simp [hchildren]⟩
  have hstorable : (draft (.string " 42 ")).Storable := by
    refine ⟨⟨?_, by simp [Field.default?]⟩, ?_⟩
    · rintro rules ⟨⟩
      exact ⟨by simp, by simp, by simp⟩
    · intro child hchild
      simp only [Option.getD_some, List.mem_cons, List.not_mem_nil, or_false] at hchild
      obtain rfl | rfl | rfl | rfl | rfl := hchild
      · refine hleaf _ rfl ⟨?_, ?_⟩
        · rintro rules ⟨⟩
          exact ⟨by simp [Double.finite?], by simp, by simpa using Json.KeysDistinct.string _⟩
        · rintro value ⟨⟩
          decide
      all_goals exact hleaf _ rfl ⟨by simp [Field.Writable], by simp [Field.default?]⟩
  have hresolved : (draft (.string " 42 ")).resolved = draft (.ofInt 42) := by cbv
  exact ⟨hstorable, hresolved ▸ (ofJson_toJson_of_storable hstorable).1⟩

end ToolParams

end ToolSchema
