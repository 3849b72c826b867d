import ToolSchema.Flat.Decode
import ToolSchema.Flat.Encode
import ToolSchema.Proofs.FieldEncoding

/-!
# Flat parameter maps that are written and read again

A written flat map is decoded as it was. This asks for finite bounds, since only those can be
written, and for maps with distinct names, at every depth. All decoded maps are such.
-/

namespace ToolSchema

open Json

/-! ## Rules -/

namespace FlatRules

/-- Flat rules that can be written: the bounds are finite. -/
structure Writable (rules : FlatRules) : Prop where
  min : ∀ bound ∈ rules.min, bound.finite?.isSome
  max : ∀ bound ∈ rules.max, bound.finite?.isSome

theorem decode_toJson {rules : FlatRules} (h : rules.Writable) :
    decode (.ofJson rules.toJson) = .ok rules := by
  obtain ⟨min, max, minLength, maxLength, pattern⟩ := rules
  have hmin : Marked.Written decodeMember ["min"] {} (optional "min" ofDouble min) { min } :=
    .decoded (fun v ↦ ({ min := v } : FlatRules)) (fun _ ↦ rfl)
      fun bound hbound ↦ Marked.decodeDouble_ofDouble (h.min bound hbound)
  have hmax : Marked.Written decodeMember ["max"] { min } (optional "max" ofDouble max)
      { min, max } :=
    .decoded (fun v ↦ ({ min, max := v } : FlatRules)) (fun _ ↦ rfl)
      fun bound hbound ↦ Marked.decodeDouble_ofDouble (h.max bound hbound)
  have hminLength : Marked.Written decodeMember ["minLength"] { min, max }
      (optional "minLength" ofLength minLength) { min, max, minLength } :=
    .decoded (fun v ↦ ({ min, max, minLength := v } : FlatRules)) (fun _ ↦ rfl)
      fun length _ ↦ Marked.decodeLength_ofLength length
  have hmaxLength : Marked.Written decodeMember ["maxLength"] { min, max, minLength }
      (optional "maxLength" ofLength maxLength) { min, max, minLength, maxLength } :=
    .decoded (fun v ↦ ({ min, max, minLength, maxLength := v } : FlatRules)) (fun _ ↦ rfl)
      fun length _ ↦ Marked.decodeLength_ofLength length
  have hpattern : Marked.Written decodeMember ["pattern"] { min, max, minLength, maxLength }
      (optional "pattern" string pattern) { min, max, minLength, maxLength, pattern } :=
    .decoded (fun v ↦ ({ min, max, minLength, maxLength, pattern := v } : FlatRules))
      (fun _ ↦ rfl) fun _ _ ↦ rfl
  exact ((((hmin.append hmax).append hminLength).append hmaxLength).append hpattern).decodeRecord
    (by decide)

/-- Decoded flat rules can be written. -/
theorem writable_of_decode {m : Marked} {rules : FlatRules} (h : decode m = .ok rules) :
    rules.Writable := by
  refine (Marked.decodesTo_of_decodeRecord h).preserves
    (fun part _ name draft after hdraft hset ↦ ?_) ⟨by simp, by simp⟩
  unfold decodeMember at hset
  split at hset
  case h_6 => exact Except.ok.inj hset ▸ hdraft
  all_goals
    obtain ⟨value?, hvalue, rfl⟩ := Outcome.map_eq_ok.mp hset
  case h_1 =>
    exact ⟨fun bound hbound ↦
      Marked.finite_of_decodeDouble (Marked.decodeOption_eq_ok hvalue bound hbound), hdraft.max⟩
  case h_2 =>
    exact ⟨hdraft.min, fun bound hbound ↦
      Marked.finite_of_decodeDouble (Marked.decodeOption_eq_ok hvalue bound hbound)⟩
  all_goals exact ⟨hdraft.min, hdraft.max⟩

end FlatRules

/-! ## Parameters -/

namespace FlatParameter

def parts (parameter : FlatParameter) : List FlatParameter :=
  (parameter.properties.getD []).map Prod.snd ++ parameter.items.toList

/-- What holds of a parameter and of its parts at every depth. -/
inductive Throughout (holds : FlatParameter → Prop) : FlatParameter → Prop
  | intro {parameter : FlatParameter} (here : holds parameter)
      (parts : ∀ part ∈ parameter.parts, Throughout holds part) : Throughout holds parameter

/-- The rules of a parameter can be written, and the names of its properties are distinct. -/
structure Writable (parameter : FlatParameter) : Prop where
  rules : ∀ rules ∈ parameter.rules, rules.Writable
  names : (keys (parameter.properties.getD [])).Nodup

theorem pairsToJson_eq_map (pairs : List (String × FlatParameter)) :
    pairsToJson pairs = pairs.map (Prod.map id toJson) := by
  induction pairs with
  | nil => rw [pairsToJson, List.map_nil]
  | cons pair rest ih => rw [pairsToJson, ih, List.map_cons, Prod.map, id]

/-- The members that a parameter is written with. -/
def written (parameter : FlatParameter) : List (String × Json) :=
  [("type", .string parameter.type)] ++ [("description", .string parameter.description)] ++
  [("required", .bool parameter.required)] ++
  optional "enum" ofStrings parameter.members ++
  optional "properties" (fun pairs ↦ .object (pairs.map (Prod.map id toJson)))
    parameter.properties ++
  optional "items" toJson parameter.items ++
  optional "validation" FlatRules.toJson parameter.rules

theorem toJson_eq (parameter : FlatParameter) : parameter.toJson = .object parameter.written := by
  obtain ⟨type, description, required, members, properties, items, rules⟩ := parameter
  cases properties <;> cases items <;> simp only [toJson, pairsToJson_eq_map] <;> rfl

/-! ### Parameters as records -/

theorem decodePairs_eq (members : List (Key × Option Flaw × Marked)) :
    decodePairs members = Marked.decodePairs decode members := by
  induction members with
  | nil => rfl
  | cons member rest ih =>
    obtain ⟨key, flaw, value⟩ := member
    rw [decodePairs, Marked.decodePairs, ih]

def setMember (name : String) (m : Marked) (parameter : FlatParameter) : Decoded FlatParameter :=
  decodeMember parameter name m (fun _ ↦ decodeProperties m) fun _ ↦ decode m

theorem decodeMembers_eq (seen : List String) (parameter : FlatParameter)
    (members : List (Key × Option Flaw × Marked)) :
    decodeMembers seen parameter members =
      Marked.decodeMembers memberNames setMember seen parameter members :=
  Marked.eq_decodeMembers (fun _ _ ↦ by rw [decodeMembers])
    (fun _ _ _ _ _ _ ↦ by rw [decodeMembers]; rfl) seen parameter members

theorem decodePlaces_eq (place : Nat) (names : List String) (parameter : FlatParameter)
    (items : List Marked) :
    decodePlaces place names parameter items =
      Marked.decodePlaces setMember place names parameter items :=
  Marked.eq_decodePlaces (fun _ _ _ ↦ by rw [decodePlaces]) (fun _ _ _ _ ↦ rfl)
    (fun _ _ _ _ _ _ ↦ by rw [decodePlaces]; rfl) place names parameter items

theorem decodesTo_of_decode {m : Marked} {parameter : FlatParameter}
    (h : decode m = .ok parameter) : Marked.DecodesTo memberNames setMember blank m parameter := by
  cases m with
  | object members ending span =>
    rw [decode, decodeMembers_eq] at h
    exact .of_object h
  | array items ending span =>
    rw [decode, decodePlaces_eq] at h
    exact .of_array h
  | _ => cases h

/-- Properties are read back in order, as no name replaces another one. -/
theorem decodeProperties_ofJson {pairs : List (String × FlatParameter)}
    (hnames : (keys pairs).Nodup)
    (h : ∀ pair ∈ pairs, decode (.ofJson pair.2.toJson) = .ok pair.2) :
    decodeProperties (.ofJson (.object (pairs.map (Prod.map id toJson)))) = .ok pairs := by
  rw [Marked.ofJson, decodeProperties, decodePairs_eq, Marked.decodePairs_ofMembers h]
  show Except.ok (collect pairs) = _
  rw [collect_of_nodup hnames]

/-- The members of a written parameter lead to the parameter. -/
theorem written_self {parameter : FlatParameter} (h : parameter.Writable)
    (hparts : ∀ part ∈ parameter.parts, decode (.ofJson part.toJson) = .ok part) :
    Marked.Written setMember memberNames blank parameter.written parameter := by
  obtain ⟨type, description, required, members, properties, items, rules⟩ := parameter
  have htype : Marked.Written setMember ["type"] blank [("type", .string type)] { type } :=
    .single rfl
  have hdescription : Marked.Written setMember ["description"] { type }
      [("description", .string description)] { type, description } := .single rfl
  have hrequired : Marked.Written setMember ["required"] { type, description }
      [("required", .bool required)] { type, description, required } := .single rfl
  have hmembers : Marked.Written setMember ["enum"] { type, description, required }
      (optional "enum" ofStrings members) { type, description, required, members } := by
    let put (v : Option (List String)) : FlatParameter :=
      ⟨type, description, required, v, none, none, none⟩
    refine .decoded put (fun _ ↦ rfl) fun texts _ ↦ ?_
    exact congrArg (Except.map some) (Marked.decodeTexts_ofStrings texts)
  have hproperties : Marked.Written setMember ["properties"]
      { type, description, required, members }
      (optional "properties" (fun pairs ↦ .object (pairs.map (Prod.map id toJson))) properties)
      { type, description, required, members, properties } := by
    let put (v : Option (List (String × FlatParameter))) : FlatParameter :=
      ⟨type, description, required, members, v, none, none⟩
    have hset (m : Marked) :
        setMember "properties" m (put none) = (m.decodeOption decodeProperties).map put := by
      cases m <;> rfl
    refine .decoded put hset fun pairs hpairs ↦ ?_
    have hgetD : properties.getD [] = pairs := by rw [Option.mem_def.mp hpairs]; rfl
    have hdecode := decodeProperties_ofJson (hgetD ▸ h.names) fun pair hpair ↦
      hparts pair.2 (List.mem_append_left _ (List.mem_map_of_mem (hgetD ▸ hpair)))
    exact congrArg (Except.map some) hdecode
  have hitems : Marked.Written setMember ["items"]
      { type, description, required, members, properties } (optional "items" toJson items)
      { type, description, required, members, properties, items } := by
    let put (v : Option FlatParameter) : FlatParameter :=
      ⟨type, description, required, members, properties, v, none⟩
    have hset (m : Marked) :
        setMember "items" m (put none) = (m.decodeOption decode).map put := by
      cases m <;> rfl
    refine .decoded put hset fun item hitem ↦ ?_
    have hdecode := hparts item (List.mem_append_right _ (Option.mem_toList.mpr hitem))
    rw [toJson_eq] at hdecode ⊢
    exact congrArg (Except.map some) hdecode
  have hrules : Marked.Written setMember ["validation"]
      { type, description, required, members, properties, items }
      (optional "validation" FlatRules.toJson rules)
      { type, description, required, members, properties, items, rules } := by
    let put (v : Option FlatRules) : FlatParameter :=
      ⟨type, description, required, members, properties, items, v⟩
    refine .decoded put (fun _ ↦ rfl) fun value hvalue ↦ ?_
    exact congrArg (Except.map some) (FlatRules.decode_toJson (h.rules value hvalue))
  exact (((((htype.append hdescription).append hrequired).append hmembers).append
    hproperties).append hitems).append hrules

/-- A parameter is read back with its properties and items, at any depth. -/
theorem decode_toJson {parameter : FlatParameter} (h : parameter.Throughout Writable) :
    decode (.ofJson parameter.toJson) = .ok parameter := by
  induction h with
  | @intro parameter here _ ih =>
    have hwritten := (written_self here ih).decodeMembers (by decide)
    have htype : "type" ∈ keys parameter.written := by simp [written]
    rw [toJson_eq, Marked.ofJson, decode, decodeMembers_eq, hwritten]
    simp [Marked.closeRecord, Ending.close, bind, Except.bind, htype]

/-- Setting a member keeps a parameter writable, if the member is decoded to writable parameters. -/
theorem throughout_writable_setMember {name : String} {m : Marked} {draft after : FlatParameter}
    (hitem : ∀ parameter, decode m = .ok parameter → parameter.Throughout Writable)
    (hpairs : ∀ pairs, decodeProperties m = .ok pairs →
      (keys pairs).Nodup ∧ ∀ pair ∈ pairs, pair.2.Throughout Writable)
    (hdraft : draft.Throughout Writable) (h : setMember name m draft = .ok after) :
    after.Throughout Writable := by
  obtain ⟨here, hparts⟩ := hdraft
  unfold setMember decodeMember at h
  split at h
  case h_8 => exact Except.ok.inj h ▸ ⟨here, hparts⟩
  all_goals
    obtain ⟨value?, hvalue, rfl⟩ := Outcome.map_eq_ok.mp h
  case h_5 =>
    have hread : (keys (value?.getD [])).Nodup ∧
        ∀ pair ∈ value?.getD [], pair.2.Throughout Writable := by
      cases value? with
      | none => exact ⟨List.nodup_nil, List.forall_mem_nil _⟩
      | some pairs => exact hpairs pairs (Marked.decodeOption_eq_ok hvalue pairs rfl)
    refine ⟨⟨here.rules, hread.1⟩, fun part hpart ↦ ?_⟩
    rcases List.mem_append.mp hpart with hproperty | hitem
    · obtain ⟨pair, hpair, rfl⟩ := List.mem_map.mp hproperty
      exact hread.2 pair hpair
    · exact hparts part (List.mem_append_right _ hitem)
  case h_6 =>
    refine ⟨⟨here.rules, here.names⟩, fun part hpart ↦ ?_⟩
    rcases List.mem_append.mp hpart with hproperty | hmem
    · exact hparts part (List.mem_append_left _ hproperty)
    · exact hitem part (Marked.decodeOption_eq_ok hvalue part (Option.mem_toList.mp hmem))
  case h_7 =>
    exact ⟨⟨fun rules hrules ↦
      FlatRules.writable_of_decode (Marked.decodeOption_eq_ok hvalue rules hrules), here.names⟩,
      hparts⟩
  all_goals exact ⟨⟨here.rules, here.names⟩, hparts⟩

/-- Decoded parameters can be written. -/
theorem throughout_writable_of_decode (m : Marked) :
    (∀ parameter, decode m = .ok parameter → parameter.Throughout Writable) ∧
      ∀ pairs, decodeProperties m = .ok pairs →
        (keys pairs).Nodup ∧ ∀ pair ∈ pairs, pair.2.Throughout Writable := by
  -- Parameters and maps of parameters are decoded through each other.
  induction m using Marked.partsInduction with
  | step m ih =>
    have hset : ∀ part ∈ m.parts, ∀ name draft after, draft.Throughout Writable →
        setMember name part draft = .ok after → after.Throughout Writable := by
      intro part hpart name draft after
      exact throughout_writable_setMember (ih part hpart).1 (ih part hpart).2
    have hblank : blank.Throughout Writable :=
      ⟨⟨by simp [blank], by simp [blank]⟩, by simp [blank, parts]⟩
    constructor
    · intro parameter h
      exact (decodesTo_of_decode h).preserves hset hblank
    · intro pairs h
      cases m with
      | object members ending span =>
        simp only [decodeProperties, decodePairs_eq, Outcome.bind_eq_ok] at h
        obtain ⟨values, hvalues, -, -, heq⟩ := h
        obtain rfl := Except.ok.inj heq
        refine ⟨nodup_keys_collect values, fun pair hpair ↦ ?_⟩
        obtain ⟨member, hmember, hdecode⟩ :=
          Marked.exists_of_mem_decodePairs hvalues pair (mem_of_mem_collect hpair)
        exact (ih member.2.2 (List.mem_map_of_mem hmember)).1 pair.2 hdecode
      | tooDeep type start => cases type <;> cases h
      | _ => cases h

end FlatParameter

/-! ## Maps -/

namespace FlatParameters

/-- A map that can be written: its names are distinct, and its parameters can be written. -/
structure Writable (parameters : FlatParameters) : Prop where
  names : (keys parameters.properties).Nodup
  parameters : ∀ pair ∈ parameters.properties, pair.2.Throughout FlatParameter.Writable

theorem decode_toJson {parameters : FlatParameters} (h : parameters.Writable) :
    decode (.ofJson parameters.toJson) = .ok parameters := by
  have htype : Marked.Written decodeMember ["type"] {} [("type", .string "object")] {} :=
    .single rfl
  have hproperties : Marked.Written decodeMember ["properties"] {}
      [("properties", .object (FlatParameter.pairsToJson parameters.properties))] parameters := by
    apply Marked.Written.single
    have hdecode := FlatParameter.decodeProperties_ofJson h.names fun pair hpair ↦
      FlatParameter.decode_toJson (h.parameters pair hpair)
    rw [decodeMember, FlatParameter.pairsToJson_eq_map, hdecode]
    rfl
  exact (htype.append hproperties).decodeRecord (by decide)

/-- Decoded maps can be written. -/
theorem writable_of_decode {m : Marked} {parameters : FlatParameters}
    (h : decode m = .ok parameters) : parameters.Writable := by
  refine (Marked.decodesTo_of_decodeRecord h).preserves
    (fun part _ name draft after hdraft hset ↦ ?_) ⟨by simp, by simp⟩
  unfold decodeMember at hset
  split at hset
  · obtain ⟨-, -, rfl⟩ := Outcome.map_eq_ok.mp hset
    exact hdraft
  · obtain ⟨pairs, hpairs, rfl⟩ := Outcome.map_eq_ok.mp hset
    obtain ⟨hnames, hparameters⟩ :=
      (FlatParameter.throughout_writable_of_decode part).2 pairs hpairs
    exact ⟨hnames, hparameters⟩
  · exact Except.ok.inj hset ▸ hdraft

end FlatParameters

end ToolSchema
