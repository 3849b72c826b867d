import ToolSchema.Proofs.DeclaredFields

/-!
# What is read conforms to the declaration

Where the members of every object have distinct names, what a field reads is valid against the
JSON Schema of the field. Coercion turns texts into numbers before the bounds are looked at,
defaults are there for members that need not be given, and undeclared members are not spoken about.
-/

namespace ToolSchema

/-- What satisfies a bound satisfies it as it is declared, unless an infinite bound is taken to
refuse all numbers. -/
theorem Json.boundHolds_of_holds {strange : StrangeBound} {holds : Double → Bool} {bound : Double}
    (hbound : strange = .ignored ∨ bound.finite?.isSome) (h : holds bound) :
    boundHolds strange holds bound := by
  cases bound with
  | finite x => exact h
  | _ => simpa [boundHolds, Double.finite?] using hbound

theorem Rules.admitsDeclared_of_admitsNumber {strange : StrangeBound} {rules : Rules} {x : Binary64}
    (hbounds : strange = .ignored ∨
      (∀ bound ∈ rules.min, bound.finite?.isSome) ∧ ∀ bound ∈ rules.max, bound.finite?.isSome)
    (h : rules.admitsNumber x) : rules.admitsDeclared strange x := by
  rw [admitsNumber, Bool.and_eq_true, Option.all_eq_true, Option.all_eq_true] at h
  rw [admitsDeclared, Bool.and_eq_true, Option.all_eq_true, Option.all_eq_true]
  constructor
  · intro bound hbound
    exact Json.boundHolds_of_holds (hbounds.imp_right fun hboth ↦ hboth.1 bound hbound)
      (h.1 bound hbound)
  · intro bound hbound
    exact Json.boundHolds_of_holds (hbounds.imp_right fun hboth ↦ hboth.2 bound hbound)
      (h.2 bound hbound)

namespace Field

/-- What coercion gives is a number. -/
theorem exists_of_coerceNumber? {coerce : Bool} {value out : Json}
    (h : value.coerceNumber? coerce = some out) : ∃ n, out = .number n := by
  cases value with
  | number n => exact ⟨n, (Option.some.inj h).symm⟩
  | string text =>
    rw [Json.coerceNumber?, Option.ite_none_right_eq_some] at h
    obtain ⟨x, -, rfl⟩ := Option.map_eq_some_iff.mp h.2
    exact ⟨_, rfl⟩
  | _ => cases h

theorem exists_of_mem_mapM {α β : Type} {f : α → Option β} {as : List α} {bs : List β}
    (h : as.mapM f = some bs) : ∀ b ∈ bs, ∃ a ∈ as, f a = some b := by
  induction as generalizing bs with
  | nil =>
    obtain rfl := Option.some.inj h
    simp
  | cons a rest ih =>
    rw [List.mapM_cons] at h
    obtain ⟨first, hfirst, h⟩ := Option.bind_eq_some_iff.mp h
    obtain ⟨others, hothers, h⟩ := Option.bind_eq_some_iff.mp h
    obtain rfl := Option.some.inj h
    rw [List.forall_mem_cons]
    constructor
    · exact ⟨a, List.mem_cons_self, hfirst⟩
    · intro b hb
      obtain ⟨other, hother, heq⟩ := ih hothers b hb
      exact ⟨other, List.mem_cons_of_mem _ hother, heq⟩

/-- Whatever a field reads is valid against its declaration. -/
def Conforms (strange : StrangeBound) (s : Setting) (field : Field) : Prop :=
  ∀ value out, field.read s value = some out → field.jsonSchema.valid strange out

section Kinds

variable {strange : StrangeBound} {s : Setting} {field : Field} {value out : Json}

/-- An enumeration reads its members, or any text if it has none. -/
theorem valid_of_readKind_enumeration (hfield : field.kind = .enumeration)
    (h : readKind s field.members .enumeration field.children value = some out) :
    field.jsonSchema.valid strange out := by
  rw [valid_enumeration_iff hfield]
  unfold members?
  rw [readKind.eq_def] at h
  rcases hmembers : field.members with _ | (_ | ⟨first, rest⟩)
  case none | some.nil =>
    cases value with
    | string text => exact ⟨text, by simpa [hmembers] using h.symm, by simp⟩
    | _ => simp [hmembers] at h
  case some.cons =>
    cases value with
    | string text =>
      simp only [hmembers, Option.ite_none_right_eq_some, Option.some.injEq] at h
      exact ⟨text, h.2.symm, by simpa using h.1⟩
    | _ => simp [hmembers] at h

/-- A list that was read is valid if its items are, which were all read by one field. -/
theorem valid_of_readKind_array (hfield : field.kind = .array)
    (hpart : ∀ part ∈ field.parts, part.Conforms strange s)
    (h : readKind s field.members .array field.children value = some out) :
    field.jsonSchema.valid strange out := by
  rw [valid_array_iff hfield]
  rw [readKind.eq_def] at h
  rcases hchildren : field.children with _ | (_ | ⟨item, rest⟩)
  case none | some.nil =>
    cases value with
    | array items => exact ⟨items, by simpa [hchildren] using h.symm, by simp⟩
    | _ => simp [hchildren] at h
  case some.cons =>
    have hitem : item.Conforms strange s := hpart item (item_mem_parts hfield hchildren)
    cases value with
    | array items =>
      simp only [hchildren] at h
      obtain ⟨outs, houts, rfl⟩ := Option.map_eq_some_iff.mp h
      refine ⟨outs, rfl, ?_⟩
      intro child hchild out hout
      have heq : item = child := by simpa using hchild
      subst heq
      obtain ⟨value, -, hvalue⟩ := exists_of_mem_mapM houts out hout
      exact hitem value out hvalue
    | _ => simp [hchildren] at h

/-- An object that was read has valid members under all declared names that must be given. -/
theorem valid_of_readMembers {children : List Field} {given : List (String × Json)}
    (hfield : field.kind = .object) (hchildren : field.children = some children)
    (hdistinct : (children.map Field.name).Nodup)
    (hchild : ∀ child ∈ children, child.Conforms strange s)
    (h : readMembers s.unknownKeys (lastUnderEach (memberReadings s children)) given = some out) :
    field.jsonSchema.valid strange out := by
  rw [lastUnderEach_memberReadings hdistinct] at h
  obtain ⟨known, others, hknown, rfl, hothers⟩ := exists_of_readMembers h
  rw [keys_named] at hothers
  rw [valid_object_iff hfield (by rwa [hchildren]), hchildren]
  refine ⟨_, rfl, ?_⟩
  intro child hmem
  have hread : (child.rules.getD {}).readMember (child.read s) (lookup child.name given) =
      some (lookup child.name known) :=
    lookup_readDeclared hknown (by rwa [keys_named]) (List.mem_map.mpr ⟨child, hmem, rfl⟩)
  have hlookup : lookup child.name (known ++ others) = lookup child.name known := by
    have hnone : lookup child.name others = none :=
      lookup_eq_none_iff.mpr fun hkey ↦ hothers _ hkey (List.mem_map.mpr ⟨child, hmem, rfl⟩)
    calc lookup child.name (known ++ others)
        = (lookup child.name known).or (lookup child.name others) := lookup_append _ _ _
      _ = lookup child.name known := by rw [hnone, Option.or_none]
  obtain ⟨hvalue, hmissing⟩ := Rules.of_readMember hread
  constructor
  · intro member hmember
    rw [hlookup] at hmember
    obtain ⟨value, hvalue⟩ := hvalue member hmember
    exact hchild child hmem value member hvalue
  · intro hgiven
    rw [mustBeGiven, Bool.and_eq_true, isRequired_eq] at hgiven
    rw [← lookup_isSome_iff, hlookup, Option.isSome_iff_ne_none]
    intro hnone
    rw [hmissing hnone] at hgiven
    cases hgiven.1

/-- An object without children is declared without properties, and read as it is. -/
theorem valid_of_readKind_object (hfield : field.kind = .object) (hdistinct : field.NamesDistinct)
    (hpart : ∀ part ∈ field.parts, part.Conforms strange s)
    (h : readKind s field.members .object field.children value = some out) :
    field.jsonSchema.valid strange out := by
  have hnodup := hdistinct hfield
  rw [readKind.eq_def] at h
  cases hchildren : field.children with
  | none =>
    cases value with
    | object given =>
      rw [valid_object_iff hfield hnodup, hchildren]
      exact ⟨given, by simpa [hchildren] using h.symm, by simp⟩
    | _ => simp [hchildren] at h
  | some children =>
    rw [hchildren] at hnodup
    cases value with
    | object given =>
      simp only [hchildren] at h
      have hchild : ∀ child ∈ children, child ∈ field.parts := child_mem_parts hfield hchildren
      exact valid_of_readMembers hfield hchildren hnodup
        (fun child hmem ↦ hpart child (hchild child hmem)) h
    | _ => simp [hchildren] at h

/-- A union of fewer than two alternatives is declared as anything. -/
theorem valid_of_readKind_union (hfield : field.kind = .union)
    (hpart : ∀ part ∈ field.parts, part.Conforms strange s)
    (h : readKind s field.members .union field.children value = some out) :
    field.jsonSchema.valid strange out := by
  rcases hchildren : field.children with _ | (_ | ⟨first, _ | ⟨second, rest⟩⟩)
  case none | some.nil | some.cons.nil =>
    rw [valid_jsonSchema_iff, keywords, hfield, hchildren]
    simp
  case some.cons.cons =>
    rw [valid_union_iff hfield hchildren]
    rw [hchildren, readKind, Option.or_eq_some_iff] at h
    rcases h with hfirst | ⟨-, hsecond⟩
    · exact Or.inl (hpart first (first_mem_parts hfield hchildren) value out hfirst)
    · exact Or.inr (hpart second (second_mem_parts hfield hchildren) value out hsecond)

end Kinds

/-- What a field reads is valid against its declaration. -/
theorem valid_of_read {strange : StrangeBound} {s : Setting} (field : Field)
    (hnames : field.Everywhere NamesDistinct)
    (hbounds : strange = .ignored ∨ field.Everywhere BoundsFinite) {value out : Json}
    (h : field.read s value = some out) : field.jsonSchema.valid strange out := by
  induction field using partsInduction generalizing value out with
  | step field ih =>
    have hpart : ∀ part ∈ field.parts, part.Conforms strange s := by
      intro part hpart value out
      exact ih part hpart (hnames.part part hpart) (hbounds.imp_right fun h ↦ h.part part hpart)
    obtain ⟨hkind, hadmits⟩ := read_eq_some_iff.mp h
    cases hfield : field.kind with
    | string =>
      rw [hfield, readKind] at hkind
      obtain ⟨text, -, rfl⟩ := Option.map_eq_some_iff.mp hkind
      rw [hfield, Rules.admits, Bool.and_eq_true] at hadmits
      exact (valid_string_iff hfield).mpr ⟨text, rfl, hadmits.1⟩
    | number =>
      rw [hfield, readKind] at hkind
      obtain ⟨n, rfl⟩ := exists_of_coerceNumber? hkind
      rw [hfield, Rules.admits, Bool.and_eq_true] at hadmits
      have hdeclared := Rules.admitsDeclared_of_admitsNumber
        (hbounds.imp_right fun h ↦ h.here) hadmits.1
      exact (valid_number_iff hfield).mpr ⟨n, rfl, hdeclared⟩
    | boolean =>
      rw [hfield, readKind.eq_def] at hkind
      cases value with
      | bool truth => exact (valid_boolean_iff hfield).mpr ⟨truth, (Option.some.inj hkind).symm⟩
      | _ => cases hkind
    | date =>
      rw [hfield, readKind] at hkind
      obtain ⟨moment, -, rfl⟩ := Option.map_eq_some_iff.mp hkind
      exact (valid_date_iff hfield).mpr ⟨_, rfl⟩
    | enumeration =>
      rw [hfield] at hkind
      exact valid_of_readKind_enumeration hfield hkind
    | file | calculated | unsupported =>
      rw [valid_jsonSchema_iff, keywords, hfield]
      simp
    | array =>
      rw [hfield] at hkind
      exact valid_of_readKind_array hfield hpart hkind
    | object =>
      rw [hfield] at hkind
      exact valid_of_readKind_object hfield hnames.here hpart hkind
    | union =>
      rw [hfield] at hkind
      exact valid_of_readKind_union hfield hpart hkind

end Field

end ToolSchema
