import ToolSchema.Field.Encode
import ToolSchema.Proofs.Documents

/-!
# Decoded records

A record is decoded by setting its members one after the other. Where the members were written in
the order of their names, each is set once, and an optional member that was left out is not set.
What setting a member preserves, decoding a record preserves.
-/

namespace ToolSchema

open Json

namespace Marked

variable {σ α : Type} {names : List String} {set : String → Marked → σ → Decoded σ}

/-! ## Written records -/

/-- Sets members of a record that were written without marks. -/
def setMembers (set : String → Marked → σ → Decoded σ) (draft : σ)
    (members : List (String × Json)) : Decoded σ :=
  members.foldlM (fun draft (key, value) ↦ (set key (ofJson value) draft).under (.key key)) draft

/-- Members that were written in the order of their names, some of them left out, and that lead from
one draft to another. -/
structure Written (set : String → Marked → σ → Decoded σ) (names : List String) (draft : σ)
    (members : List (String × Json)) (after : σ) : Prop where
  keys : (keys members).Sublist names
  sets : setMembers set draft members = .ok after

theorem Written.append {others : List String} {draft between after : σ}
    {front back : List (String × Json)} (hfront : Written set names draft front between)
    (hback : Written set others between back after) :
    Written set (names ++ others) draft (front ++ back) after := by
  refine ⟨by simpa using hfront.keys.append hback.keys, ?_⟩
  rw [setMembers, List.foldlM_append]
  exact Outcome.bind_eq_ok.mpr ⟨between, hfront.sets, hback.sets⟩

theorem Written.single {key : String} {value : Json} {draft after : σ}
    (h : set key (ofJson value) draft = .ok after) :
    Written set [key] draft [(key, value)] after :=
  ⟨List.Sublist.refl _, by simp [setMembers, h, Decoded.under, Except.mapError]⟩

/-- An optional member is set if it was written. -/
theorem Written.optional (put : Option α → σ) {key : String} {encode : α → Json} {value? : Option α}
    (h : ∀ value ∈ value?, set key (ofJson (encode value)) (put none) = .ok (put (some value))) :
    Written set [key] (put none) (optional key encode value?) (put value?) := by
  cases value? with
  | none => exact ⟨List.nil_sublist _, rfl⟩
  | some value => exact .single (h value rfl)

/-- An optional member is set as it was if it is decoded as it was. -/
theorem Written.decoded (put : Option α → σ) {decode : Marked → Decoded α} {key : String}
    {encode : α → Json} {value? : Option α}
    (hset : ∀ m, set key m (put none) = (decodeOption decode m).map put)
    (h : ∀ value ∈ value?, decodeOption decode (ofJson (encode value)) = .ok (some value)) :
    Written set [key] (put none) (Json.optional key encode value?) (put value?) := by
  refine .optional put fun value hvalue ↦ ?_
  rw [hset, h value hvalue]
  rfl

theorem lookup_optional (name key : String) (encode : α → Json) (value? : Option α) :
    lookup name (optional key encode value?) = if key = name then value?.map encode else none := by
  cases value? with
  | none => simp [Json.optional]
  | some value => rfl

/-- Members that can be set one after the other are decoded, if all are known and none comes twice.
-/
theorem decodeMembers_ofMembers {draft after : σ} {members : List (String × Json)}
    {seen : List String} (hnames : ∀ key ∈ keys members, key ∈ names)
    (hnodup : (keys members).Nodup) (hnew : ∀ key ∈ keys members, key ∉ seen)
    (h : setMembers set draft members = .ok after) :
    decodeMembers names set seen draft (ofMembers members) =
      .ok ((keys members).reverse ++ seen, after) := by
  induction members generalizing seen draft with
  | nil =>
    obtain rfl := Except.ok.inj h
    rfl
  | cons member rest ih =>
    obtain ⟨key, value⟩ := member
    obtain ⟨between, hset, hrest⟩ := Outcome.bind_eq_ok.mp h
    rw [keys_cons, List.forall_mem_cons] at hnames hnew
    rw [keys_cons, List.nodup_cons] at hnodup
    have hlater : ∀ other ∈ keys rest, other ∉ key :: seen := by
      intro other hother
      rw [List.mem_cons, not_or]
      exact ⟨fun heq ↦ hnodup.1 (heq ▸ hother), hnew.2 other hother⟩
    have hunrepeated : unrepeated seen ⟨key, none, none⟩ = .ok () := by
      simp [unrepeated, hnew.1]
    rw [ofMembers, decodeMembers, if_pos (by simpa using hnames.1), hunrepeated]
    dsimp only at hset ⊢
    rw [hset]
    show decodeMembers names set (key :: seen) between (ofMembers rest) = _
    rw [ih hnames.2 hnodup.2 hlater hrest, keys_cons, List.reverse_cons, List.append_assoc,
      List.singleton_append]

theorem Written.decodeMembers {draft after : σ} {members : List (String × Json)}
    (h : Written set names draft members after) (hnodup : names.Nodup) :
    decodeMembers names set [] draft (ofMembers members) =
      .ok ((ToolSchema.keys members).reverse, after) := by
  have hdecode := decodeMembers_ofMembers (fun _ hkey ↦ h.keys.subset hkey)
    (h.keys.nodup hnodup) (fun _ _ ↦ List.not_mem_nil) h.sets
  rwa [List.append_nil] at hdecode

/-- A record that was written in the order of the names of its members is decoded by setting
them. -/
theorem Written.decodeRecord {type : String} {draft after : σ} {members : List (String × Json)}
    (h : Written set names draft members after) (hnodup : names.Nodup) :
    decodeRecord type names set draft (ofJson (.object members)) = .ok after := by
  rw [ofJson, Marked.decodeRecord, h.decodeMembers hnodup]
  rfl

/-! ## Records that are decoded by a walk of their own -/

/-- A walk over members that does what decoding members does, step by step, decodes members. -/
theorem eq_decodeMembers
    {walk : List String → σ → List (Key × Option Flaw × Marked) → Decoded (List String × σ)}
    (hnil : ∀ seen draft, walk seen draft [] = .ok (seen, draft))
    (hcons : ∀ seen draft key flaw value rest, walk seen draft ((key, flaw, value) :: rest) =
      if names.contains key.text then do
        unrepeated seen key
        let draft ← (set key.text value draft).under (.key key.text)
        walk (key.text :: seen) draft rest
      else do
        skip key flaw
        walk seen draft rest)
    (seen : List String) (draft : σ) (members : List (Key × Option Flaw × Marked)) :
    walk seen draft members = decodeMembers names set seen draft members := by
  induction members generalizing seen draft with
  | nil => exact hnil seen draft
  | cons member rest ih =>
    obtain ⟨key, flaw, value⟩ := member
    rw [hcons, decodeMembers]
    simp only [ih]

/-- A walk over places that does what decoding places does, step by step, decodes places. -/
theorem eq_decodePlaces {walk : Nat → List String → σ → List Marked → Decoded σ}
    (hnil : ∀ place names draft, walk place names draft [] = .ok draft)
    (hend : ∀ place draft item rest, walk place [] draft (item :: rest) = .ok draft)
    (hcons : ∀ place name names draft item rest,
      walk place (name :: names) draft (item :: rest) = do
        let draft ← (set name item draft).under (.index place)
        walk (place + 1) names draft rest)
    (place : Nat) (names : List String) (draft : σ) (items : List Marked) :
    walk place names draft items = decodePlaces set place names draft items := by
  induction items generalizing place names draft with
  | nil =>
    rw [hnil]
    cases names <;> rfl
  | cons item rest ih =>
    cases names with
    | nil => exact hend place draft item rest
    | cons name names =>
      rw [hcons, decodePlaces]
      simp only [ih]

/-- What comes of the members of a record, written as an object or as a list, if nothing is wrong
with them. -/
inductive DecodesTo (names : List String) (set : String → Marked → σ → Decoded σ) (draft : σ) :
    Marked → σ → Prop
  | object {members : List (Key × Option Flaw × Marked)} {ending : Ending} {span : Option Span}
      {seen : List String} {after : σ}
      (h : decodeMembers names set [] draft members = .ok (seen, after)) :
      DecodesTo names set draft (.object members ending span) after
  | array {items : List Marked} {ending : Ending} {span : Option Span} {after : σ}
      (h : decodePlaces set 0 names draft items = .ok after) :
      DecodesTo names set draft (.array items ending span) after

/-- A record is decoded member by member, in whichever form it was written. -/
theorem decodesTo_of_decodeRecord {type : String} {m : Marked} {draft after : σ}
    (h : decodeRecord type names set draft m = .ok after) : DecodesTo names set draft m after := by
  cases m with
  | object members ending span =>
    simp only [Marked.decodeRecord, Outcome.bind_eq_ok] at h
    obtain ⟨⟨seen, between⟩, hmembers, -, -, heq⟩ := h
    obtain rfl := Except.ok.inj heq
    exact .object hmembers
  | array items ending span =>
    simp only [Marked.decodeRecord, Outcome.bind_eq_ok] at h
    obtain ⟨between, hitems, -, -, heq⟩ := h
    obtain rfl := Except.ok.inj heq
    exact .array hitems
  | _ => cases h

/-- A record written as an object, of which one member must be there. -/
theorem DecodesTo.of_object {members : List (Key × Option Flaw × Marked)} {ending : Ending}
    {span : Option Span} {key : String} {failure : DecodeError} {draft after : σ}
    (h : (do
      let (seen, between) ← decodeMembers names set [] draft members
      closeRecord names seen ending
      if seen.contains key then .ok between else .error failure) = Except.ok after) :
    DecodesTo names set draft (.object members ending span) after := by
  simp only [Outcome.bind_eq_ok] at h
  obtain ⟨⟨seen, between⟩, hmembers, -, -, h⟩ := h
  split at h
  · obtain rfl := Except.ok.inj h
    exact .object hmembers
  · cases h

/-- A record written as a list, which must not be too short. -/
theorem DecodesTo.of_array {items : List Marked} {ending : Ending} {span : Option Span}
    {short : Prop} [Decidable short] {failure : DecodeError} {draft after : σ}
    (h : (do
      let between ← decodePlaces set 0 names draft items
      if short then
        ending.close
        .error failure
      else
        closePlaces names.length items ending span
        .ok between) = Except.ok after) :
    DecodesTo names set draft (.array items ending span) after := by
  simp only [Outcome.bind_eq_ok] at h
  obtain ⟨between, hplaces, h⟩ := h
  split at h
  · obtain ⟨-, -, h⟩ := Outcome.bind_eq_ok.mp h
    cases h
  · obtain ⟨-, -, heq⟩ := Outcome.bind_eq_ok.mp h
    obtain rfl := Except.ok.inj heq
    exact .array hplaces

/-! ## What decoding preserves -/

variable {holds : σ → Prop}

theorem decodeOption_eq_ok {decode : Marked → Decoded α} {m : Marked} {value? : Option α}
    (h : decodeOption decode m = .ok value?) : ∀ value ∈ value?, decode m = .ok value := by
  intro value hvalue
  cases m with
  | null =>
    obtain rfl := Except.ok.inj h
    cases hvalue
  | _ =>
    obtain ⟨first, hfirst, rfl⟩ := Outcome.map_eq_ok.mp h
    rw [hfirst, Option.some.inj hvalue]

/-- What setting any member preserves, decoding all of them preserves. -/
theorem decodeMembers_preserves {members : List (Key × Option Flaw × Marked)}
    (hset : ∀ member ∈ members, ∀ draft after, holds draft →
      set member.1.text member.2.2 draft = .ok after → holds after)
    {seen seenAfter : List String} {draft after : σ} (hdraft : holds draft)
    (h : decodeMembers names set seen draft members = .ok (seenAfter, after)) : holds after := by
  induction members generalizing seen draft with
  | nil =>
    obtain ⟨-, rfl⟩ := Prod.mk.inj (Except.ok.inj h)
    exact hdraft
  | cons member rest ih =>
    obtain ⟨key, flaw, value⟩ := member
    rw [List.forall_mem_cons] at hset
    rw [decodeMembers] at h
    split at h
    · simp only [Outcome.bind_eq_ok, Decoded.under_eq_ok] at h
      obtain ⟨-, -, between, hbetween, h⟩ := h
      exact ih hset.2 (hset.1 draft between hdraft hbetween) h
    · obtain ⟨-, -, h⟩ := Outcome.bind_eq_ok.mp h
      exact ih hset.2 hdraft h

theorem decodePlaces_preserves {items : List Marked}
    (hset : ∀ item ∈ items, ∀ name draft after, holds draft →
      set name item draft = .ok after → holds after)
    {place : Nat} {names : List String} {draft after : σ} (hdraft : holds draft)
    (h : decodePlaces set place names draft items = .ok after) : holds after := by
  induction items generalizing place names draft with
  | nil =>
    rw [decodePlaces.eq_def] at h
    cases names <;> exact Except.ok.inj h ▸ hdraft
  | cons item rest ih =>
    rw [List.forall_mem_cons] at hset
    cases names with
    | nil => exact Except.ok.inj h ▸ hdraft
    | cons name names =>
      obtain ⟨between, hbetween, h⟩ := Outcome.bind_eq_ok.mp h
      exact ih hset.2 (hset.1 name draft between hdraft (Decoded.under_eq_ok.mp hbetween)) h

/-- What setting a member preserves holds of every decoded record. -/
theorem DecodesTo.preserves {m : Marked} {draft after : σ} (h : DecodesTo names set draft m after)
    (hset : ∀ part ∈ m.parts, ∀ name draft after, holds draft →
      set name part draft = .ok after → holds after)
    (hdraft : holds draft) : holds after := by
  cases h with
  | object hmembers =>
    exact decodeMembers_preserves (fun member hmember ↦ hset _ (List.mem_map_of_mem hmember) _)
      hdraft hmembers
  | array hplaces => exact decodePlaces_preserves hset hdraft hplaces

end Marked

end ToolSchema
