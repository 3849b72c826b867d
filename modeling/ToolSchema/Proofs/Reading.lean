import ToolSchema.Proofs.FieldTree
import ToolSchema.Proofs.Locality

/-!
# Reading documents along fields

A field says directly which documents it accepts and in what form: by its kind, the constraints that
count on the kind, and the reading of its children. The validator that a field is compiled into
validates a document exactly if the field reads it, and gives what the field reads.
-/

namespace ToolSchema

namespace Rules

def admitsNumber (rules : Rules) (x : Binary64) : Bool :=
  (rules.min.all fun bound ↦ !(Double.finite x).lt bound) &&
    rules.max.all fun bound ↦ !bound.lt (.finite x)

/-- Whether a text has an allowed length and matches the pattern. Nothing matches a pattern that is
none. -/
def admitsText (rules : Rules) (text : String) : Bool :=
  (rules.minLength.all fun length ↦ length.toNat ≤ text.length) &&
    (rules.maxLength.all fun length ↦ text.length ≤ length.toNat) &&
    rules.pattern?.all fun source ↦ (Pattern.ofSource? source).any fun p ↦ p.matchesText text

def admitsCustom (predicates : Predicates) (rules : Rules) (value : Json) : Bool :=
  (rules.custom?.bind predicates.get?).all fun predicate ↦ predicate value

/-- Whether a value passes the constraints that count on a kind. -/
def admits (predicates : Predicates) (kind : FieldKind) (rules : Rules) (value : Json) : Bool :=
  (match kind, value with
    | .number, .number n => rules.admitsNumber n.toBinary64
    | .string, .string text => rules.admitsText text
    | _, _ => true) &&
    rules.admitsCustom predicates value

end Rules

/-- How the value of a member is read that may be missing: it is refused, or leaves no member, or a
member with another value. -/
abbrev MemberReading := Option Json → Option (Option Json)

/-- Reads a member of an object. A value is read by the field. Where it is missing the default is
read, and if there is none or it is refused, the member must not be required. -/
def Rules.readMember (rules : Rules) (read : Json → Option Json) : MemberReading
  | some value => (read value).map some
  | none =>
    match rules.default.bind read with
    | some out => some (some out)
    | none => if rules.isRequired then none else some none

/-- Reads the declared members of an object, in the order of their declarations. -/
def readDeclared (members : List (String × Json)) :
    List (String × MemberReading) → Option (List (String × Json))
  | [] => some []
  | (name, read) :: rest => do
    let out? ← read (lookup name members)
    let others ← readDeclared members rest
    some (out?.toList.map (fun out ↦ (name, out)) ++ others)

/-- Reads the members of an object. Other members than the declared ones are kept, dropped or
forbidden. -/
def readMembers (policy : UnknownKeys) (declared : List (String × MemberReading))
    (members : List (String × Json)) : Option Json := do
  let known ← readDeclared members declared
  let others := undeclared (keys declared) members
  match policy with
  | .passthrough => some (.object (known ++ others))
  | .strip => some (.object known)
  | .reject => if others = [] then some (.object known) else none

namespace Field

mutual
/-- The form in which a field reads a value, if it accepts it. -/
def read (s : Setting) : Field → Json → Option Json
  | ⟨_, kind, _, rules, members, children, _⟩, value =>
    (readKind s members kind children value).filter ((rules.getD {}).admits s.predicates kind)

/-- The form in which a kind reads a value, before the constraints are looked at. -/
def readKind (s : Setting) (members : Option (List String)) :
    FieldKind → Option (List Field) → Json → Option Json
  | .string, _, value => value.text?.map .string
  | .number, _, value => value.coerceNumber? s.coerce
  | .boolean, _, value =>
    match value with
    | .bool truth => some (.bool truth)
    | _ => none
  | .date, _, value => (value.moment? s.coerce).map fun moment ↦ .string moment.render
  | .enumeration, _, value =>
    match members, value with
    | some (first :: rest), .string text =>
      if text ∈ first :: rest then some (.string text) else none
    | _, .string text => some (.string text)
    | _, _ => none
  | .array, some (item :: _), value =>
    match value with
    | .array items => (items.mapM (read s item)).map .array
    | _ => none
  | .array, _, value =>
    match value with
    | .array items => some (.array items)
    | _ => none
  | .object, some fields, value =>
    match value with
    | .object given => readMembers s.unknownKeys (lastUnderEach (memberReadings s fields)) given
    | _ => none
  | .object, none, value =>
    match value with
    | .object given => some (.object given)
    | _ => none
  | .union, some (first :: second :: _), value => (read s first value).or (read s second value)
  | .union, _, value => some value
  | .file, _, value => some value
  | .calculated, _, value => some value
  | .unsupported, _, value => some value

/-- How fields read the members under their names. -/
def memberReadings (s : Setting) : List Field → List (String × MemberReading)
  | [] => []
  | field :: rest =>
    (field.name, (field.rules.getD {}).readMember (read s field)) :: memberReadings s rest
end

theorem memberReadings_eq_named (s : Setting) (fields : List Field) :
    memberReadings s fields =
      named (fun field ↦ (field.rules.getD {}).readMember (field.read s)) fields := by
  induction fields with
  | nil => rw [memberReadings, named, List.map_nil]
  | cons field rest ih => rw [memberReadings, ih, named, named, List.map_cons]

/-- The readings of the members of an object whose names are distinct. -/
theorem lastUnderEach_memberReadings {s : Setting} {children : List Field}
    (hdistinct : (children.map Field.name).Nodup) :
    lastUnderEach (memberReadings s children) =
      named (fun child ↦ (child.rules.getD {}).readMember (child.read s)) children := by
  rw [← collect_eq_lastUnderEach, memberReadings_eq_named]
  exact collect_of_nodup (by rwa [keys_named])

theorem isRequired_eq (field : Field) : field.isRequired = (field.rules.getD {}).isRequired := by
  unfold isRequired
  cases field.rules <;> rfl

theorem default?_eq (field : Field) : field.default? = (field.rules.getD {}).default := by
  unfold default?
  cases field.rules <;> rfl

theorem read_eq (s : Setting) (field : Field) (value : Json) :
    field.read s value = (readKind s field.members field.kind field.children value).filter
      ((field.rules.getD {}).admits s.predicates field.kind) := by
  obtain ⟨name, kind, description, rules, members, children, calculation⟩ := field
  rw [read]

theorem read_eq_some_iff {s : Setting} {field : Field} {value out : Json} :
    field.read s value = some out ↔
      readKind s field.members field.kind field.children value = some out ∧
        (field.rules.getD {}).admits s.predicates field.kind out := by
  rw [read_eq, Option.filter_eq_some_iff]

end Field

/-! ## Members that were read -/

theorem readDeclared_cons_eq_some {members known : List (String × Json)} {name : String}
    {read : MemberReading} {rest : List (String × MemberReading)} :
    readDeclared members ((name, read) :: rest) = some known ↔
      ∃ out? others, read (lookup name members) = some out? ∧
        readDeclared members rest = some others ∧
        known = out?.toList.map (fun out ↦ (name, out)) ++ others := by
  rw [readDeclared]
  cases read (lookup name members) with
  | none => simp
  | some out? => cases readDeclared members rest <;> simp [eq_comm]

/-- Only declared members are read. -/
theorem keys_subset_of_readDeclared {members known : List (String × Json)}
    {declared : List (String × MemberReading)} (h : readDeclared members declared = some known) :
    ∀ key ∈ keys known, key ∈ keys declared := by
  induction declared generalizing known with
  | nil =>
    obtain rfl := Option.some.inj h
    simp
  | cons pair rest ih =>
    obtain ⟨name, read⟩ := pair
    obtain ⟨out?, others, -, hothers, rfl⟩ := readDeclared_cons_eq_some.mp h
    intro key hkey
    rw [keys_append, List.mem_append] at hkey
    rw [keys_cons, List.mem_cons]
    rcases hkey with hkey | hkey
    · left
      cases out? with
      | none => simp at hkey
      | some out => simpa using hkey
    · exact Or.inr (ih hothers key hkey)

/-- Under a declared name stands what was read there. -/
theorem lookup_readDeclared {members known : List (String × Json)}
    {declared : List (String × MemberReading)} (h : readDeclared members declared = some known)
    (hnodup : (keys declared).Nodup) {name : String} {read : MemberReading}
    (hmem : (name, read) ∈ declared) : read (lookup name members) = some (lookup name known) := by
  induction declared generalizing known with
  | nil => cases hmem
  | cons pair rest ih =>
    obtain ⟨first, readFirst⟩ := pair
    obtain ⟨out?, others, hfirst, hothers, rfl⟩ := readDeclared_cons_eq_some.mp h
    rw [keys_cons, List.nodup_cons] at hnodup
    rw [lookup_append]
    rcases List.mem_cons.mp hmem with heq | hrest
    · obtain ⟨rfl, rfl⟩ := Prod.mk.inj heq
      have hothers : lookup name others = none :=
        lookup_eq_none_iff.mpr fun hkey ↦
          hnodup.1 (keys_subset_of_readDeclared hothers name hkey)
      rw [hfirst, hothers]
      cases out? <;> simp
    · have hne : first ≠ name := by
        rintro rfl
        exact hnodup.1 (List.mem_map.mpr ⟨_, hrest, rfl⟩)
      rw [ih hothers hnodup.2 hrest]
      cases out? <;> simp [hne]

/-- What is read of an object: the declared members, and perhaps some of the others. -/
theorem exists_of_readMembers {policy : UnknownKeys} {declared : List (String × MemberReading)}
    {members : List (String × Json)} {out : Json}
    (h : readMembers policy declared members = some out) :
    ∃ known others, readDeclared members declared = some known ∧ out = .object (known ++ others) ∧
      ∀ key ∈ keys others, key ∉ keys declared := by
  unfold readMembers at h
  cases hknown : readDeclared members declared with
  | none => simp [hknown] at h
  | some known =>
    have hundeclared : ∀ key ∈ keys (undeclared (keys declared) members), key ∉ keys declared := by
      intro key hkey
      obtain ⟨pair, hpair, rfl⟩ := List.mem_map.mp hkey
      simpa using (List.mem_filter.mp hpair).2
    cases policy with
    | passthrough =>
      simp only [hknown, Option.bind_eq_bind, Option.bind_some, Option.some.injEq] at h
      exact ⟨known, _, rfl, h.symm, hundeclared⟩
    | strip =>
      simp only [hknown, Option.bind_eq_bind, Option.bind_some, Option.some.injEq] at h
      exact ⟨known, [], rfl, by rw [List.append_nil, h], by simp⟩
    | reject =>
      simp only [hknown, Option.bind_eq_bind, Option.bind_some, Option.ite_none_right_eq_some,
        Option.some.injEq] at h
      exact ⟨known, [], rfl, by rw [List.append_nil, h.2], by simp⟩

/-- A member that was read comes from a value, and is missing only if it is not required. -/
theorem Rules.of_readMember {rules : Rules} {read : Json → Option Json} {value? out? : Option Json}
    (h : rules.readMember read value? = some out?) :
    (∀ out ∈ out?, ∃ value, read value = some out) ∧ (out? = none → rules.isRequired = false) := by
  cases value? with
  | some value =>
    obtain ⟨out, hout, rfl⟩ := Option.map_eq_some_iff.mp h
    exact ⟨fun _ hmem ↦ ⟨value, hout.trans hmem⟩, by simp⟩
  | none =>
    rw [readMember] at h
    cases hdefault : rules.default.bind read with
    | some out =>
      simp only [hdefault, Option.some.injEq] at h
      subst h
      obtain ⟨value, -, hvalue⟩ := Option.bind_eq_some_iff.mp hdefault
      exact ⟨fun _ hmem ↦ ⟨value, hvalue.trans hmem⟩, by simp⟩
    | none =>
      simp only [hdefault, Option.ite_none_left_eq_some, Option.some.injEq] at h
      obtain ⟨hrequired, rfl⟩ := h
      exact ⟨by simp, fun _ ↦ Bool.eq_false_iff.mpr hrequired⟩

/-! ## Whether anything is read -/

theorem isSome_mapM_iff {α β : Type} {f : α → Option β} {as : List α} :
    (as.mapM f).isSome ↔ ∀ a ∈ as, (f a).isSome := by
  induction as with
  | nil => simp
  | cons a rest ih =>
    rw [List.forall_mem_cons, ← ih, List.mapM_cons]
    cases f a with
    | none => simp
    | some first => cases rest.mapM f <;> simp

theorem isSome_readDeclared_iff {members : List (String × Json)}
    {declared : List (String × MemberReading)} :
    (readDeclared members declared).isSome ↔
      ∀ pair ∈ declared, (pair.2 (lookup pair.1 members)).isSome := by
  induction declared with
  | nil => simp [readDeclared]
  | cons pair rest ih =>
    obtain ⟨name, read⟩ := pair
    rw [List.forall_mem_cons, ← ih, readDeclared]
    dsimp only
    cases read (lookup name members) with
    | none => simp
    | some out? => cases readDeclared members rest <;> simp

/-- An object is read if its members are, and if it has no others where those are forbidden. -/
theorem isSome_readMembers_iff {policy : UnknownKeys} {declared : List (String × MemberReading)}
    {members : List (String × Json)} :
    (readMembers policy declared members).isSome ↔
      (readDeclared members declared).isSome ∧
        (policy = .reject → undeclared (keys declared) members = []) := by
  unfold readMembers
  cases readDeclared members declared with
  | none => simp
  | some known => cases policy <;> simp

namespace Rules

variable {rules : Rules} {read : Json → Option Json}

theorem isSome_readMember_some {value : Json} :
    (rules.readMember read (some value)).isSome ↔ (read value).isSome := by
  simp [readMember]

/-- Where the default is refused it is as if there were none: the member must not be required. -/
theorem isSome_readMember_none :
    (rules.readMember read none).isSome ↔
      (rules.default.bind read).isSome ∨ rules.isRequired = false := by
  rw [readMember]
  cases rules.default.bind read <;> simp

end Rules

end ToolSchema
