import ToolSchema.Field.Decode
import ToolSchema.Proofs.FieldTree
import ToolSchema.Proofs.Records

/-!
# Fields that are written and read again

A written field is decoded as it was, but for defaults that are null: a member that is null is
absent. This asks for finite bounds, since only those can be written, and for defaults whose objects
have distinct keys. All decoded fields are such.
-/

namespace ToolSchema

open Json

theorem FieldKind.ofName_name (kind : FieldKind) : ofName kind.name = kind := by
  cases kind <;> rfl

/-- A finite bound is read back exactly. -/
theorem Marked.decodeDouble_ofDouble {bound : Double} (h : bound.finite?.isSome) :
    (Marked.ofJson (.ofDouble bound)).decodeOption Marked.decodeDouble = .ok (some bound) := by
  cases bound with
  | finite x => rfl
  | infinite _ | nan => cases h

/-- Documents hold no infinite numbers. -/
theorem Marked.finite_of_decodeDouble {m : Marked} {bound : Double}
    (h : m.decodeDouble = .ok bound) : bound.finite?.isSome := by
  cases m with
  | number n span =>
    obtain rfl := Except.ok.inj h
    rfl
  | _ => cases h

theorem Marked.decodeLength_ofLength (length : UInt64) :
    (Marked.ofJson (.ofLength length)).decodeOption Marked.decodeLength = .ok (some length) := by
  have hexact : IsExactInteger length.toNat := by
    have hlt := length.toNat_lt
    constructor <;> omega
  have hnumber : ofLength length = .number (.integer length.toNat hexact) := by
    rw [ofLength, ofInt, Number.ofInt, dif_pos hexact]
  rw [hnumber, Marked.ofJson, Marked.decodeOption, Marked.decodeLength, if_pos (by omega)]
  · simp [Except.map]
  · simp

/-- What may be null is decoded as it is, but that null is nothing. -/
theorem Marked.decodeOption_decodeAny {value : Json} (h : value.KeysDistinct) :
    (Marked.ofJson value).decodeOption Marked.decodeAny =
      .ok ((some value).filter fun v ↦ v.type ≠ .null) := by
  have hdecode := Marked.decodeAny_ofJson h
  cases value with
  | null => rfl
  | _ =>
    rw [Marked.decodeOption, hdecode]
    · rfl
    · simp [Marked.ofJson]

/-! ## Rules -/

namespace Rules

/-- Rules that can be written: the bounds are finite, and the objects in the default have distinct
keys. -/
structure Writable (rules : Rules) : Prop where
  min : ∀ bound ∈ rules.min, bound.finite?.isSome
  max : ∀ bound ∈ rules.max, bound.finite?.isSome
  default : ∀ value ∈ rules.default, value.KeysDistinct

/-- The rules without a default that is null. -/
def forgetNull (rules : Rules) : Rules :=
  { rules with default := rules.default.filter fun value ↦ value.type ≠ .null }

/-- Rules are read back but for a default that is null, which counts as none. -/
theorem decode_toJson {rules : Rules} (h : rules.Writable) :
    decode (.ofJson rules.toJson) = .ok rules.forgetNull := by
  obtain ⟨required, min, max, minLength, maxLength, regex, custom, default⟩ := rules
  have hrequired : Marked.Written decodeMember ["required"] {}
      (optional "required" bool required) { required } :=
    .decoded (fun v ↦ ({ required := v } : Rules)) (fun _ ↦ rfl) fun _ _ ↦ rfl
  have hmin : Marked.Written decodeMember ["min"] { required }
      (optional "min" ofDouble min) { required, min } :=
    .decoded (fun v ↦ ({ required, min := v } : Rules)) (fun _ ↦ rfl)
      fun bound hbound ↦ Marked.decodeDouble_ofDouble (h.min bound hbound)
  have hmax : Marked.Written decodeMember ["max"] { required, min }
      (optional "max" ofDouble max) { required, min, max } :=
    .decoded (fun v ↦ ({ required, min, max := v } : Rules)) (fun _ ↦ rfl)
      fun bound hbound ↦ Marked.decodeDouble_ofDouble (h.max bound hbound)
  have hminLength : Marked.Written decodeMember ["minLength"] { required, min, max }
      (optional "minLength" ofLength minLength) { required, min, max, minLength } :=
    .decoded (fun v ↦ ({ required, min, max, minLength := v } : Rules)) (fun _ ↦ rfl)
      fun length _ ↦ Marked.decodeLength_ofLength length
  have hmaxLength : Marked.Written decodeMember ["maxLength"] { required, min, max, minLength }
      (optional "maxLength" ofLength maxLength) { required, min, max, minLength, maxLength } :=
    .decoded (fun v ↦ ({ required, min, max, minLength, maxLength := v } : Rules)) (fun _ ↦ rfl)
      fun length _ ↦ Marked.decodeLength_ofLength length
  have hregex : Marked.Written decodeMember ["regex"] { required, min, max, minLength, maxLength }
      (optional "regex" string regex) { required, min, max, minLength, maxLength, regex } :=
    .decoded (fun v ↦ ({ required, min, max, minLength, maxLength, regex := v } : Rules))
      (fun _ ↦ rfl) fun _ _ ↦ rfl
  have hcustom : Marked.Written decodeMember ["custom"]
      { required, min, max, minLength, maxLength, regex } (optional "custom" string custom)
      { required, min, max, minLength, maxLength, regex, custom } :=
    .decoded (fun v ↦ ({ required, min, max, minLength, maxLength, regex, custom := v } : Rules))
      (fun _ ↦ rfl) fun _ _ ↦ rfl
  have hdefault : Marked.Written decodeMember ["default"]
      { required, min, max, minLength, maxLength, regex, custom } (optional "default" id default)
      (forgetNull ⟨required, min, max, minLength, maxLength, regex, custom, default⟩) := by
    refine .optional
      (fun v ↦ forgetNull ⟨required, min, max, minLength, maxLength, regex, custom, v⟩)
      fun value hvalue ↦ ?_
    rw [decodeMember, id, Marked.decodeOption_decodeAny (h.default value hvalue)]
    rfl
  have hall := ((((((hrequired.append hmin).append hmax).append hminLength).append
    hmaxLength).append hregex).append hcustom).append hdefault
  exact hall.decodeRecord (by decide)

end Rules

namespace Rules

/-- Decoded rules can be written. -/
theorem writable_of_decode {m : Marked} {rules : Rules} (h : decode m = .ok rules) :
    rules.Writable := by
  refine (Marked.decodesTo_of_decodeRecord h).preserves
    (fun part _ name draft after hdraft hset ↦ ?_) ⟨by simp, by simp, by simp⟩
  unfold decodeMember at hset
  split at hset
  case h_9 => exact Except.ok.inj hset ▸ hdraft
  all_goals
    obtain ⟨value?, hvalue, rfl⟩ := Outcome.map_eq_ok.mp hset
  case h_2 =>
    exact ⟨fun bound hbound ↦
      Marked.finite_of_decodeDouble (Marked.decodeOption_eq_ok hvalue bound hbound),
      hdraft.max, hdraft.default⟩
  case h_3 =>
    exact ⟨hdraft.min, fun bound hbound ↦
      Marked.finite_of_decodeDouble (Marked.decodeOption_eq_ok hvalue bound hbound),
      hdraft.default⟩
  case h_8 =>
    exact ⟨hdraft.min, hdraft.max, fun value hmem ↦
      Marked.keysDistinct_of_decodeAny part value (Marked.decodeOption_eq_ok hvalue value hmem)⟩
  all_goals exact ⟨hdraft.min, hdraft.max, hdraft.default⟩

end Rules

theorem Calculation.decode_toJson (calculation : Calculation) :
    decode (.ofJson calculation.toJson) = .ok calculation := by
  obtain ⟨dependencies, formula⟩ := calculation
  have hdependencies : Marked.Written decodeMember ["dependencies"] {}
      [("dependencies", .ofStrings dependencies)] { dependencies } := by
    apply Marked.Written.single
    rw [decodeMember, Marked.decodeTexts_ofStrings]
    rfl
  have hformula : Marked.Written decodeMember ["formula"] { dependencies }
      [("formula", .string formula)] { dependencies, formula } := .single rfl
  exact (hdependencies.append hformula).decodeRecord (by decide)

/-! ## Fields -/

namespace Field

def Writable (field : Field) : Prop := ∀ rules ∈ field.rules, rules.Writable

theorem listToJson_eq_map (fields : List Field) : listToJson fields = fields.map toJson := by
  induction fields with
  | nil => rw [listToJson, List.map_nil]
  | cons field rest ih => rw [listToJson, ih, List.map_cons]

/-- The members that a field is written with. -/
def written (field : Field) : List (String × Json) :=
  [("name", .string field.name)] ++ [("type", .string field.kind.name)] ++
  optional "description" string field.description ++
  optional "validations" Rules.toJson field.rules ++
  optional "enumValues" ofStrings field.members ++
  optional "children" (fun children ↦ .array (children.map toJson)) field.children ++
  optional "calculatedField" Calculation.toJson field.calculation

theorem toJson_eq (field : Field) : field.toJson = .object field.written := by
  obtain ⟨name, kind, description, rules, members, children, calculation⟩ := field
  cases children with
  | none => rw [toJson]; rfl
  | some children => rw [toJson, listToJson_eq_map]; rfl

/-! ### Fields as records -/

theorem decodeChildren_eq (items : List Marked) (place : Nat) :
    decodeChildren place items = Marked.decodeItems decode place items := by
  induction items generalizing place with
  | nil => rfl
  | cons item rest ih => rw [decodeChildren, Marked.decodeItems, ih]

/-- Decodes one member into the field, the children as a list of fields. -/
def setMember (name : String) (m : Marked) (field : Field) : Decoded Field :=
  match name with
  | "name" => m.decodeText.map fun v ↦ { field with name := v }
  | "type" => (FieldKind.decode m).map fun v ↦ { field with kind := v }
  | "description" =>
    (m.decodeOption Marked.decodeText).map fun v ↦ { field with description := v }
  | "validations" => (m.decodeOption Rules.decode).map fun v ↦ { field with rules := v }
  | "enumValues" => (m.decodeOption Marked.decodeTexts).map fun v ↦ { field with members := v }
  | "children" =>
    (m.decodeOption (Marked.decodeList decode)).map fun v ↦ { field with children := v }
  | "calculatedField" =>
    (m.decodeOption Calculation.decode).map fun v ↦ { field with calculation := v }
  | _ => .ok field

theorem decodeMember_eq (field : Field) (name : String) (m : Marked) :
    decodeMember field name m = setMember name m field := by
  by_cases hchildren : name = "children"
  · subst hchildren
    cases m with
    | array items ending span =>
      rw [decodeMember, setMember, Marked.decodeOption, Marked.decodeList, decodeChildren_eq]
      · cases Marked.decodeItems decode 0 items <;> cases ending.close <;> rfl
      · simp
    | tooDeep type start => cases type <;> rfl
    | _ => rfl
  · rw [decodeMember.eq_def]
    split <;> simp_all [setMember]

/-- Fields are decoded as other records are. -/
theorem decodeMembers_eq (seen : List String) (field : Field)
    (members : List (Key × Option Flaw × Marked)) :
    decodeMembers seen field members =
      Marked.decodeMembers memberNames setMember seen field members := by
  refine Marked.eq_decodeMembers (fun _ _ ↦ by rw [decodeMembers]) (fun _ _ _ _ _ _ ↦ ?_) _ _ _
  rw [decodeMembers]
  simp only [decodeMember_eq]

theorem decodePlaces_eq (place : Nat) (names : List String) (field : Field) (items : List Marked) :
    decodePlaces place names field items =
      Marked.decodePlaces setMember place names field items := by
  refine Marked.eq_decodePlaces (fun _ _ _ ↦ by rw [decodePlaces]) (fun _ _ _ _ ↦ rfl)
    (fun _ _ _ _ _ _ ↦ ?_) _ _ _ _
  rw [decodePlaces]
  simp only [decodeMember_eq]

theorem decodesTo_of_decode {m : Marked} {field : Field} (h : decode m = .ok field) :
    Marked.DecodesTo memberNames setMember blank m field := by
  cases m with
  | object members ending span =>
    rw [decode, decodeMembers_eq] at h
    exact .of_object h
  | array items ending span =>
    rw [decode, decodePlaces_eq] at h
    exact .of_array h
  | _ => cases h

/-- The members of a written field lead to the field without defaults that are null. -/
theorem written_forgetNull {field : Field} (hrules : field.Writable)
    (hchildren : ∀ child ∈ field.children.getD [],
      decode (.ofJson child.toJson) = .ok (child.mapRules fun _ ↦ Rules.forgetNull)) :
    Marked.Written setMember memberNames blank field.written
      (field.mapRules fun _ ↦ Rules.forgetNull) := by
  rw [mapRules_eq]
  obtain ⟨name, kind, description, rules, members, children, calculation⟩ := field
  -- The draft after each member is the field with the members so far.
  let kept := rules.map Rules.forgetNull
  let after := children.map (List.map (mapRules fun _ ↦ Rules.forgetNull))
  have hname : Marked.Written setMember ["name"] blank [("name", .string name)]
      { name, kind := .unsupported } := .single rfl
  have hkind : Marked.Written setMember ["type"] { name, kind := .unsupported }
      [("type", .string kind.name)] { name, kind } := by
    apply Marked.Written.single
    show Except.ok (Field.mk name (.ofName kind.name) _ _ _ _ _) = _
    rw [FieldKind.ofName_name]
  have hdescription : Marked.Written setMember ["description"] { name, kind }
      (optional "description" string description) { name, kind, description } :=
    .decoded (fun v ↦ ({ name, kind, description := v } : Field)) (fun _ ↦ rfl) fun _ _ ↦ rfl
  have hvalidations : Marked.Written setMember ["validations"] { name, kind, description }
      (optional "validations" Rules.toJson rules) { name, kind, description, rules := kept } := by
    let put (v : Option Rules) : Field :=
      ⟨name, kind, description, v.map Rules.forgetNull, none, none, none⟩
    refine .optional put fun value hvalue ↦ ?_
    have hdecode := Rules.decode_toJson (hrules value hvalue)
    show ((Rules.decode (.ofJson value.toJson)).map some).map _ = _
    rw [hdecode]
    rfl
  have hmembers : Marked.Written setMember ["enumValues"] { name, kind, description, rules := kept }
      (optional "enumValues" ofStrings members)
      { name, kind, description, rules := kept, members } := by
    let put (v : Option (List String)) : Field := ⟨name, kind, description, kept, v, none, none⟩
    refine .decoded put (fun _ ↦ rfl) fun texts _ ↦ ?_
    exact congrArg (Except.map some) (Marked.decodeTexts_ofStrings texts)
  have hchild : Marked.Written setMember ["children"]
      { name, kind, description, rules := kept, members }
      (optional "children" (fun children ↦ .array (children.map toJson)) children)
      { name, kind, description, rules := kept, members, children := after } := by
    let put (v : Option (List Field)) : Field :=
      ⟨name, kind, description, kept, members,
        v.map (List.map (mapRules fun _ ↦ Rules.forgetNull)), none⟩
    refine .optional put fun value hvalue ↦ ?_
    have hmem : ∀ child ∈ value, child ∈ children.getD [] := by
      rw [Option.mem_def.mp hvalue]
      exact fun _ ↦ id
    have hdecode := Marked.decodeList_ofJson fun child hchild ↦ hchildren child (hmem child hchild)
    show ((Marked.decodeList decode (.ofJson (.array (value.map toJson)))).map some).map _ = _
    rw [hdecode]
    rfl
  have hcalculation : Marked.Written setMember ["calculatedField"]
      { name, kind, description, rules := kept, members, children := after }
      (optional "calculatedField" Calculation.toJson calculation)
      { name, kind, description, rules := kept, members, children := after, calculation } := by
    let put (v : Option Calculation) : Field :=
      ⟨name, kind, description, kept, members, after, v⟩
    refine .decoded put (fun _ ↦ rfl) fun value _ ↦ ?_
    exact congrArg (Except.map some) (Calculation.decode_toJson value)
  exact (((((hname.append hkind).append hdescription).append hvalidations).append hmembers).append
    hchild).append hcalculation

/-- A field is read back with all that it says, but for defaults that are null, at any depth. -/
theorem decode_toJson {field : Field} (h : field.Throughout Writable) :
    decode (.ofJson field.toJson) = .ok (field.mapRules fun _ ↦ Rules.forgetNull) := by
  induction h with
  | @intro field here _ ih =>
    have hwritten := (written_forgetNull here ih).decodeMembers (by decide)
    have htype : "type" ∈ keys field.written := by simp [written]
    rw [toJson_eq, Marked.ofJson, decode, decodeMembers_eq, hwritten]
    simp [Marked.closeRecord, Ending.close, bind, Except.bind, htype]

/-- Setting a member keeps a field writable, if the member is decoded to writable fields. -/
theorem throughout_writable_setMember {name : String} {m : Marked} {draft after : Field}
    (hlist : ∀ fields, Marked.decodeList decode m = .ok fields →
      ∀ field ∈ fields, field.Throughout Writable)
    (hdraft : draft.Throughout Writable) (h : setMember name m draft = .ok after) :
    after.Throughout Writable := by
  unfold setMember at h
  split at h
  case h_8 => exact Except.ok.inj h ▸ hdraft
  all_goals
    obtain ⟨value?, hvalue, rfl⟩ := Outcome.map_eq_ok.mp h
  case h_4 =>
    exact ⟨fun rules hrules ↦
      Rules.writable_of_decode (Marked.decodeOption_eq_ok hvalue rules hrules), hdraft.child⟩
  case h_6 =>
    refine ⟨hdraft.here, fun child hchild ↦ ?_⟩
    cases value? with
    | none => cases hchild
    | some fields => exact hlist fields (Marked.decodeOption_eq_ok hvalue fields rfl) child hchild
  all_goals exact ⟨hdraft.here, hdraft.child⟩

/-- Decoded fields can be written. -/
theorem throughout_writable_of_decode (m : Marked) :
    (∀ field, decode m = .ok field → field.Throughout Writable) ∧
      ∀ fields, Marked.decodeList decode m = .ok fields →
        ∀ field ∈ fields, field.Throughout Writable := by
  -- A field needs its list of children to be writable, and a list needs its fields to be.
  induction m using Marked.partsInduction with
  | step m ih =>
    have hset : ∀ part ∈ m.parts, ∀ name draft after, draft.Throughout Writable →
        setMember name part draft = .ok after → after.Throughout Writable := by
      intro part hpart name draft after
      exact throughout_writable_setMember (ih part hpart).2
    have hblank : blank.Throughout Writable :=
      ⟨by simp [Writable, blank], by simp [blank]⟩
    constructor
    · intro field h
      exact (decodesTo_of_decode h).preserves hset hblank
    · intro fields h
      cases m with
      | array items ending span =>
        simp only [Marked.decodeList, Outcome.bind_eq_ok] at h
        obtain ⟨values, hvalues, -, -, heq⟩ := h
        obtain rfl := Except.ok.inj heq
        intro field hfield
        obtain ⟨item, hitem, hdecode⟩ := Marked.exists_of_mem_decodeItems hvalues field hfield
        exact (ih item hitem).1 field hdecode
      | tooDeep type start => cases type <;> cases h
      | _ => cases h

end Field

end ToolSchema
