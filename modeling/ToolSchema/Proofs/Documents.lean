import ToolSchema.Json.Decode
import ToolSchema.Proofs.Outcomes
import ToolSchema.Proofs.Table

/-!
# Decoded documents

Lists and maps are decoded part by part. A decoded document has distinct keys in every object, and a
document with distinct keys is decoded as it is.
-/

namespace ToolSchema

namespace Decoded

@[simp]
theorem under_eq_ok {α : Type} {step : Step} {decoded : Decoded α} {out : α} :
    decoded.under step = .ok out ↔ decoded = .ok out :=
  Outcome.mapError_eq_ok

end Decoded

namespace Marked

/-- The documents that a document is made of. -/
def parts : Marked → List Marked
  | array items _ _ => items
  | object members _ _ => members.map fun member ↦ member.2.2
  | _ => []

mutual
/-- Induction on a document over its parts. -/
theorem partsInduction {motive : Marked → Prop}
    (step : ∀ m : Marked, (∀ part ∈ m.parts, motive part) → motive m) : (m : Marked) → motive m
  | array items _ _ => step _ (partsInduction_items step items)
  | object members _ _ => step _ (partsInduction_members step members)
  | null _ | bool _ _ | number _ _ | string _ _ | broken _ _ | tooDeep _ _ =>
    step _ (List.forall_mem_nil _)

/-- Induction on all items of a list. -/
theorem partsInduction_items {motive : Marked → Prop}
    (step : ∀ m : Marked, (∀ part ∈ m.parts, motive part) → motive m) :
    (items : List Marked) → ∀ part ∈ items, motive part
  | [] => List.forall_mem_nil _
  | item :: rest =>
    List.forall_mem_cons.mpr ⟨partsInduction step item, partsInduction_items step rest⟩

/-- Induction on the values of all members of an object. -/
theorem partsInduction_members {motive : Marked → Prop}
    (step : ∀ m : Marked, (∀ part ∈ m.parts, motive part) → motive m) :
    (members : List (Key × Option Flaw × Marked)) →
      ∀ part ∈ members.map fun member ↦ member.2.2, motive part
  | [] => List.forall_mem_nil _
  | (_, _, value) :: rest =>
    List.forall_mem_cons.mpr ⟨partsInduction step value, partsInduction_members step rest⟩
end

/-! ## Lists -/

section Lists

variable {α β : Type} {decode : Marked → Decoded α}

theorem exists_of_mem_decodeItems {items : List Marked} {place : Nat} {values : List α}
    (h : decodeItems decode place items = .ok values) :
    ∀ value ∈ values, ∃ item ∈ items, decode item = .ok value := by
  induction items generalizing place values with
  | nil =>
    obtain rfl := Except.ok.inj h
    exact List.forall_mem_nil _
  | cons item rest ih =>
    simp only [decodeItems, Outcome.bind_eq_ok, Decoded.under_eq_ok] at h
    obtain ⟨first, hfirst, others, hothers, heq⟩ := h
    obtain rfl := Except.ok.inj heq
    refine List.forall_mem_cons.mpr ⟨⟨item, List.mem_cons_self, hfirst⟩, fun value hvalue ↦ ?_⟩
    obtain ⟨other, hother, hdecode⟩ := ih hothers value hvalue
    exact ⟨other, List.mem_cons_of_mem _ hother, hdecode⟩

/-- A list that was written item by item is decoded if every item is. -/
theorem decodeItems_ofItems {encode : β → Json} {read : β → α} {values : List β}
    (h : ∀ value ∈ values, decode (ofJson (encode value)) = .ok (read value)) (place : Nat) :
    decodeItems decode place (ofItems (values.map encode)) = .ok (values.map read) := by
  induction values generalizing place with
  | nil => rfl
  | cons value rest ih =>
    rw [List.forall_mem_cons] at h
    rw [List.map_cons, ofItems, decodeItems, h.1, ih h.2]
    rfl

/-- A list is read back if its items are. -/
theorem decodeList_ofJson {encode : β → Json} {read : β → α} {values : List β}
    (h : ∀ value ∈ values, decode (ofJson (encode value)) = .ok (read value)) :
    decodeList decode (ofJson (.array (values.map encode))) = .ok (values.map read) := by
  rw [ofJson, decodeList, decodeItems_ofItems h]
  rfl

theorem decodeTexts_ofStrings (texts : List String) :
    decodeTexts (ofJson (.ofStrings texts)) = .ok texts := by
  have htexts : decodeTexts (ofJson (.array (texts.map .string))) = .ok (texts.map id) :=
    decodeList_ofJson fun _ _ ↦ rfl
  rwa [List.map_id] at htexts

end Lists

/-! ## Maps -/

section Maps

variable {α : Type} {decode : Marked → Decoded α}

def decodePairs (decode : Marked → Decoded α) :
    List (Key × Option Flaw × Marked) → Decoded (List (String × α))
  | [] => .ok []
  | (key, _, value) :: rest => do
    let first ← (decode value).under (.key key.text)
    let others ← decodePairs decode rest
    .ok ((key.text, first) :: others)

theorem exists_of_mem_decodePairs {members : List (Key × Option Flaw × Marked)}
    {pairs : List (String × α)} (h : decodePairs decode members = .ok pairs) :
    ∀ pair ∈ pairs, ∃ member ∈ members, decode member.2.2 = .ok pair.2 := by
  induction members generalizing pairs with
  | nil =>
    obtain rfl := Except.ok.inj h
    exact List.forall_mem_nil _
  | cons member rest ih =>
    simp only [decodePairs, Outcome.bind_eq_ok, Decoded.under_eq_ok] at h
    obtain ⟨first, hfirst, others, hothers, heq⟩ := h
    obtain rfl := Except.ok.inj heq
    refine List.forall_mem_cons.mpr ⟨⟨member, List.mem_cons_self, hfirst⟩, fun pair hpair ↦ ?_⟩
    obtain ⟨other, hother, hdecode⟩ := ih hothers pair hpair
    exact ⟨other, List.mem_cons_of_mem _ hother, hdecode⟩

/-- A map that was written value by value is decoded if every value is. -/
theorem decodePairs_ofMembers {encode : α → Json} {table : List (String × α)}
    (h : ∀ pair ∈ table, decode (ofJson (encode pair.2)) = .ok pair.2) :
    decodePairs decode (ofMembers (table.map (Prod.map id encode))) = .ok table := by
  induction table with
  | nil => rfl
  | cons pair rest ih =>
    rw [List.forall_mem_cons] at h
    rw [List.map_cons, Prod.map, ofMembers, decodePairs, h.1, ih h.2]
    rfl

end Maps

/-! ## Any documents -/

/-- Items of any form are decoded as the items of a list are. -/
theorem decodeAnyItems_eq_decodeItems (items : List Marked) (place : Nat) :
    decodeAnyItems place items = decodeItems decodeAny place items := by
  induction items generalizing place with
  | nil => rfl
  | cons item rest ih => rw [decodeAnyItems, decodeItems, ih]

theorem decodeAnyMembers_eq_decodePairs (members : List (Key × Option Flaw × Marked)) :
    decodeAnyMembers members = decodePairs decodeAny members := by
  induction members with
  | nil => rfl
  | cons member rest ih => rw [decodeAnyMembers, decodePairs, ih]

end Marked

namespace Json

/-- In no object of a document, at any depth, two members have one key. -/
inductive KeysDistinct : Json → Prop
  | null : KeysDistinct null
  | bool (value : Bool) : KeysDistinct (bool value)
  | number (value : Number) : KeysDistinct (number value)
  | string (value : String) : KeysDistinct (string value)
  | array {items : List Json} (parts : ∀ item ∈ items, KeysDistinct item) :
    KeysDistinct (array items)
  | object {members : List (String × Json)} (keys : (keys members).Nodup)
    (parts : ∀ member ∈ members, KeysDistinct member.2) : KeysDistinct (object members)

end Json

namespace Marked

open Json

/-- A document with distinct keys is decoded as it is. -/
theorem decodeAny_ofJson {document : Json} (h : document.KeysDistinct) :
    decodeAny (ofJson document) = .ok document := by
  induction h with
  | null | bool | number | string => rfl
  | @array items _ ih =>
    have hitems : decodeItems decodeAny 0 (ofItems (items.map id)) = .ok (items.map id) :=
      decodeItems_ofItems ih 0
    rw [List.map_id] at hitems
    rw [ofJson, decodeAny, decodeAnyItems_eq_decodeItems, hitems]
    rfl
  | @object members hkeys _ ih =>
    have hmembers : decodePairs decodeAny (ofMembers (members.map (Prod.map id id))) =
        .ok members := decodePairs_ofMembers ih
    rw [Prod.map_id, List.map_id] at hmembers
    rw [ofJson, decodeAny, decodeAnyMembers_eq_decodePairs, hmembers]
    show Except.ok (Json.object (collect members)) = _
    rw [collect_of_nodup hkeys]

/-- What is decoded has distinct keys. -/
theorem keysDistinct_of_decodeAny (m : Marked) : ∀ document, m.decodeAny = .ok document →
    document.KeysDistinct := by
  induction m using partsInduction with
  | step m ih =>
    intro document h
    cases m with
    | null | bool | number | string =>
      obtain rfl := Except.ok.inj h
      constructor
    | array items ending span =>
      simp only [decodeAny, decodeAnyItems_eq_decodeItems, Outcome.bind_eq_ok] at h
      obtain ⟨values, hvalues, -, -, heq⟩ := h
      obtain rfl := Except.ok.inj heq
      refine .array fun value hvalue ↦ ?_
      obtain ⟨item, hitem, hdecode⟩ := exists_of_mem_decodeItems hvalues value hvalue
      exact ih item hitem value hdecode
    | object members ending span =>
      simp only [decodeAny, decodeAnyMembers_eq_decodePairs, Outcome.bind_eq_ok] at h
      obtain ⟨pairs, hpairs, -, -, heq⟩ := h
      obtain rfl := Except.ok.inj heq
      refine .object (nodup_keys_collect pairs) fun pair hpair ↦ ?_
      obtain ⟨member, hmember, hdecode⟩ :=
        exists_of_mem_decodePairs hpairs pair (mem_of_mem_collect hpair)
      exact ih member.2.2 (List.mem_map_of_mem hmember) pair.2 hdecode
    | broken | tooDeep => cases h

end Marked

/-- Of members under one key the last one counts, so that a parsed document has each key once. -/
theorem Json.keysDistinct_of_parse {source : Source} {document : Json}
    (h : parse source = .ok document) : document.KeysDistinct := by
  obtain ⟨value, hvalue, h⟩ := Outcome.bind_eq_ok.mp h
  dsimp only at h
  split at h
  · obtain rfl := Except.ok.inj h
    exact Marked.keysDistinct_of_decodeAny _ value hvalue
  · cases h

end ToolSchema
