import ToolSchema.Proofs.Documents
import ToolSchema.Proofs.IssuePaths
import ToolSchema.Proofs.Reordering

/-!
# What was given is kept

A validator builds what comes out anew. Where it coerces nothing, reads no dates and keeps
undeclared members, what comes out is still what was given, and more: the members that defaults fill
in. At every place of the document the scalars are the same, the lists as long, and the keys all
there; only the order of members may change. Without defaults, it is what was given up to that
order.
-/

namespace ToolSchema

/-! ## Documents that extend others -/

namespace Json

/-- Equal but for the order of the members of objects, and for members that objects have gained.
Objects have gained a value under a key only if the two are among what may be gained. -/
inductive ExtendsTo (gained : String → Json → Prop) : Json → Json → Prop
  | refl (value : Json) : ExtendsTo gained value value
  | array {values others : List Json} (items : List.Forall₂ (ExtendsTo gained) values others) :
    ExtendsTo gained (.array values) (.array others)
  | object {members others : List (String × Json)}
    (distinct : (keys members).Nodup → (keys others).Nodup)
    (kept : keys members ⊆ keys others)
    (values : ∀ key value other, lookup key members = some value → lookup key others = some other →
      ExtendsTo gained value other)
    (gains : ∀ key other, lookup key others = some other → key ∉ keys members → gained key other) :
    ExtendsTo gained (.object members) (.object others)

/-- What is kept of a value: all of a scalar, the length of a list, the keys of an object. -/
def KeptAs : Json → Json → Prop
  | .array items, .array others => items.length = others.length
  | .object members, .object others => keys members ⊆ keys others
  | value, other => value = other

namespace ExtendsTo

variable {gained : String → Json → Prop} {value other part : Json}

theorem keptAs (h : value.ExtendsTo gained other) : value.KeptAs other := by
  cases h with
  | array hitems => exact hitems.length_eq
  | object _ hkept _ _ => exact hkept
  | refl =>
    cases value with
    | array => rfl
    | object => exact List.Subset.refl _
    | _ => rfl

/-- Every part of a value is still there in what extends it. -/
theorem step? {segment : Segment} (h : value.ExtendsTo gained other)
    (hpart : value.step? segment = some part) :
    ∃ kept, other.step? segment = some kept ∧ part.ExtendsTo gained kept := by
  cases h with
  | refl => exact ⟨part, hpart, .refl part⟩
  | @array values others hitems =>
    cases segment with
    | key name => cases hpart
    | index place =>
      obtain ⟨hplace, rfl⟩ := List.getElem?_eq_some_iff.mp hpart
      have hother : place < others.length := hitems.length_eq ▸ hplace
      exact ⟨others[place], List.getElem?_eq_getElem hother, hitems.get hplace hother⟩
  | @object members others _ hkept hvalues _ =>
    cases segment with
    | index place => cases hpart
    | key name =>
      have hpart : lookup name members = some part := hpart
      have hkey : name ∈ keys others := by
        apply hkept
        rw [← lookup_isSome_iff, hpart, Option.isSome_some]
      obtain ⟨kept, hlookup⟩ := Option.isSome_iff_exists.mp (lookup_isSome_iff.mpr hkey)
      exact ⟨kept, hlookup, hvalues name part kept hpart hlookup⟩

/-- What a path leads to is found at the end of the same path. -/
theorem at? {steps : List Segment} (h : value.ExtendsTo gained other)
    (hpart : value.at? steps = some part) :
    ∃ kept, other.at? steps = some kept ∧ part.ExtendsTo gained kept := by
  induction steps generalizing value other with
  | nil =>
    obtain rfl := Option.some.inj hpart
    exact ⟨other, rfl, h⟩
  | cons step steps ih =>
    obtain ⟨inner, hinner, hpart⟩ := Option.bind_eq_some_iff.mp hpart
    obtain ⟨next, hnext, hextends⟩ := h.step? hinner
    obtain ⟨kept, hkept, hends⟩ := ih hextends hpart
    exact ⟨kept, Option.bind_eq_some_iff.mpr ⟨next, hnext, hkept⟩, hends⟩

/-- Where nothing is gained, at most the order changes. -/
theorem upToOrder (hnone : ∀ key other, ¬ gained key other) (hdistinct : value.KeysDistinct) :
    ∀ other, value.ExtendsTo gained other → value.UpToOrder other := by
  -- induction on the document, by the distinctness of its keys
  induction hdistinct with
  | null | bool | number | string =>
    intro other h
    cases h
    exact .refl _
  | @array items _ ih =>
    intro other h
    cases h with
    | refl => exact .refl _
    | @array _ others hitems =>
      refine .array (List.forall₂_iff_zip.mpr ⟨hitems.length_eq, fun hmem ↦ ?_⟩)
      exact ih _ (List.of_mem_zip hmem).1 _ (List.forall₂_zip hitems hmem)
  | @object members hkeys _ ih =>
    intro other h
    cases h with
    | refl => exact .refl _
    | @object _ others hdistinct hkept hvalues hgains =>
      have hback : keys others ⊆ keys members := by
        intro key hkey
        obtain ⟨other, hother⟩ := Option.isSome_iff_exists.mp (lookup_isSome_iff.mpr hkey)
        by_contra hlacks
        exact hnone key other (hgains key other hother hlacks)
      refine .object hkeys ?_ fun key value other hvalue hother ↦ ?_
      · rw [List.perm_ext_iff_of_nodup hkeys (hdistinct hkeys)]
        exact fun key ↦ ⟨@hkept key, @hback key⟩
      · exact ih (key, value) (mem_of_lookup hvalue) other (hvalues key value other hvalue hother)

end ExtendsTo

end Json

open Json

namespace Validator

variable {v : Validator}

/-! ## What defaults fill in -/

/-- A validator is among the parts of another one, at some depth, or it is that one. -/
inductive Within (v : Validator) : Validator → Prop
  | self : Within v v
  | part {node part : Validator} (outer : Within v node) (mem : part ∈ node.parts) : Within v part

theorem everywhere_within (v : Validator) : v.Everywhere v.Within := by
  have hbelow : ∀ node, v.Within node → node.Everywhere v.Within := by
    intro node
    induction node using partsInduction with
    | step node ih => exact fun h ↦ ⟨h, fun part hpart ↦ ih part hpart (.part h hpart)⟩
  exact hbelow v .self

theorem Everywhere.within {holds : Validator → Prop} {node : Validator} (h : v.Everywhere holds)
    (hnode : v.Within node) : node.Everywhere holds := by
  induction hnode with
  | self => exact h
  | part _ hmem ih => exact ih.part _ hmem

/-- An object validator fills a key in with what it makes of the default of the field there. -/
def Fills (v : Validator) (key : String) (filled : Json) : Prop :=
  ∃ fields policy field default, v.kind = .object fields policy ∧ (key, field) ∈ fields ∧
    field.default = some default ∧ field.validate default = .ok filled

/-- Some object validator within a validator fills a key in. -/
def FillsIn (v : Validator) (key : String) (filled : Json) : Prop :=
  ∃ node, v.Within node ∧ node.Fills key filled

/-- Without defaults nothing is filled in. -/
theorem not_fillsIn (h : v.Everywhere fun node ↦ node.default = none) (key : String)
    (filled : Json) : ¬ v.FillsIn key filled := by
  rintro ⟨node, hnode, fields, policy, field, default, hkind, hfield, hdefault, -⟩
  have hmem : field ∈ node.parts := by
    rw [parts, hkind]
    exact List.mem_map_of_mem hfield
  have hnone : field.default = none := ((h.within hnode).part field hmem).here
  rw [hnone] at hdefault
  cases hdefault

/-! ## Validators that change nothing -/

/-- A validator that coerces no numbers, reads no dates and keeps undeclared members. -/
def Verbatim (v : Validator) : Prop :=
  match v.kind with
  | .number coerce => coerce = false
  | .date _ => False
  | .object _ policy => policy = .passthrough
  | _ => True

/-- What comes of a value extends it. -/
def Extends (gained : String → Json → Prop) (v : Validator) : Prop :=
  ∀ value out, (v.judge (some value)).value? = some out → value.ExtendsTo gained out

section Kinds

variable {gained : String → Json → Prop} {value out : Json}

/-- An object keeps the members that are not declared, and gains those that defaults fill in. -/
theorem extendsTo_object {fields : List (String × Validator)} (hdistinct : (keys fields).Nodup)
    (hkind : v.kind = .object fields .passthrough)
    (hfills : ∀ key filled, v.Fills key filled → gained key filled)
    (ih : ∀ field ∈ fields.map Prod.snd, field.Extends gained)
    (hout : (judgeKind (.object fields .passthrough) value).value? = some out) :
    value.ExtendsTo gained out := by
  obtain ⟨members, rfl, rfl, hissues⟩ := exists_of_judgeKind_object hout
  refine .object (nodup_keys_membersOut hdistinct .passthrough) ?_ ?_ ?_
  · intro key hkey
    obtain ⟨value, hvalue⟩ := Option.isSome_iff_exists.mp (lookup_isSome_iff.mpr hkey)
    rw [← lookup_isSome_iff, lookup_membersOut hdistinct, hvalue]
    cases hfield : lookup key fields with
    | none => exact lookup_isSome_iff.mpr hkey
    | some field =>
      -- a declared member that is there and has no issues comes out
      have hquiet := hissues (key, field) (mem_of_lookup hfield)
      dsimp only at hquiet
      rw [hvalue] at hquiet
      exact (decided_judge field value).mpr hquiet
  · intro key value other hvalue hother
    rw [lookup_membersOut hdistinct, hvalue] at hother
    cases hfield : lookup key fields with
    | none =>
      rw [hfield] at hother
      obtain rfl := Option.some.inj (hvalue.symm.trans hother)
      exact .refl value
    | some field =>
      rw [hfield] at hother
      exact ih field (List.mem_map.mpr ⟨_, mem_of_lookup hfield, rfl⟩) value other hother
  · intro key other hother hlacks
    have hnone := lookup_eq_none_iff.mpr hlacks
    rw [lookup_membersOut hdistinct, hnone] at hother
    cases hfield : lookup key fields with
    | none =>
      rw [hfield] at hother
      cases hnone.symm.trans hother
    | some field =>
      rw [hfield] at hother
      obtain ⟨default, hdefault, hfilled⟩ := exists_judge_some hother
      apply hfills
      exact ⟨fields, _, field, default, hkind, mem_of_lookup hfield, hdefault,
        validate_eq_ok_iff.mpr hfilled⟩

theorem extendsTo_union {first second : Validator} (hfirst : first.Extends gained)
    (hsecond : second.Extends gained)
    (hout : (judgeKind (.union first second) value).value? = some out) :
    value.ExtendsTo gained out := by
  rw [value?_judgeKind_union] at hout
  rcases Option.or_eq_some_iff.mp hout with hleft | ⟨-, hright⟩
  · exact hfirst value out hleft
  · exact hsecond value out hright

theorem eq_of_judgeKind_enumeration {members : List String}
    (h : (judgeKind (.enumeration members) value).value? = some out) : value = out := by
  cases value with
  | string text =>
    by_cases hmember : text ∈ members <;> simp [judgeKind, hmember] at h
    exact h
  | _ => simp [judgeKind] at h

theorem eq_of_judgeKind_number (h : (judgeKind (.number false) value).value? = some out) :
    value = out := by
  cases value <;> simp [judgeKind, coerceNumber?] at h
  exact h

/-- What a verbatim validator gives extends what it is given, if this is so for its parts. -/
theorem extendsTo_judgeKind (hdistinct : v.FieldsDistinct) (hverbatim : v.Verbatim)
    (hfills : ∀ key filled, v.Fills key filled → gained key filled)
    (ih : ∀ part ∈ v.parts, part.Extends gained)
    (hout : (judgeKind v.kind value).value? = some out) : value.ExtendsTo gained out := by
  unfold FieldsDistinct at hdistinct
  unfold Verbatim at hverbatim
  unfold parts at ih
  cases hkind : v.kind with
  | date coerce =>
    rw [hkind] at hverbatim
    exact hverbatim.elim
  | number coerce =>
    rw [hkind] at hverbatim
    obtain rfl : coerce = false := hverbatim
    obtain rfl := eq_of_judgeKind_number (hkind ▸ hout)
    exact .refl value
  | enumeration members =>
    obtain rfl := eq_of_judgeKind_enumeration (hkind ▸ hout)
    exact .refl value
  | any =>
    rw [hkind] at hout
    obtain rfl : value = out := Option.some.inj hout
    exact .refl value
  | string =>
    rw [hkind] at hout
    cases value with
    | string text =>
      obtain rfl := Option.some.inj hout
      exact .refl _
    | _ => cases hout
  | boolean =>
    rw [hkind] at hout
    cases value with
    | bool truth =>
      obtain rfl := Option.some.inj hout
      exact .refl _
    | _ => cases hout
  | array item =>
    simp only [hkind, List.forall_mem_singleton] at ih
    obtain ⟨values, outs, rfl, rfl, hitems⟩ := exists_of_judgeKind_array (hkind ▸ hout)
    exact .array (hitems.imp ih)
  | object fields policy =>
    simp only [hkind] at ih
    rw [hkind] at hverbatim
    obtain rfl : policy = .passthrough := hverbatim
    exact extendsTo_object (hdistinct fields _ hkind) hkind hfills ih (hkind ▸ hout)
  | union first second =>
    simp only [hkind, List.forall_mem_cons] at ih
    exact extendsTo_union ih.1 ih.2.1 (hkind ▸ hout)

end Kinds

/-- A validator that is verbatim everywhere gives what it is given and what its defaults fill in. -/
theorem extends_of_everywhere
    (h : v.Everywhere fun node ↦ node.FieldsDistinct ∧ node.Verbatim) : v.Extends v.FillsIn := by
  have hfills : v.Everywhere fun node ↦
      ∀ key filled, node.Fills key filled → v.FillsIn key filled :=
    v.everywhere_within.imp fun node hnode key filled hfilled ↦ ⟨node, hnode, hfilled⟩
  -- what the whole fills in stays fixed while the induction goes down to the parts
  generalize v.FillsIn = gained at hfills
  have hboth := h.and hfills
  clear h hfills
  induction hboth with
  | @intro v here _ ih =>
    obtain ⟨⟨hdistinct, hverbatim⟩, hfills⟩ := here
    intro value out hout
    exact extendsTo_judgeKind hdistinct hverbatim hfills ih
      (value?_judge_some_eq_some_iff.mp hout).1

end Validator

namespace Field

/-- Without coercion and with undeclared members kept, only the validators of dates are not
verbatim. -/
theorem verbatim_validator {s : Setting} (hcoerce : s.coerce = false)
    (hpolicy : s.unknownKeys = .passthrough) {field : Field} (hdate : field.kind ≠ .date) :
    (field.validator s).Verbatim := by
  have hcompiled := field.compiledKind_validator s
  unfold Validator.Verbatim
  generalize (field.validator s).kind = kind at hcompiled
  cases hcompiled with
  | number => exact hcoerce
  | date hkind => exact absurd hkind hdate
  | fields => exact hpolicy
  | noFields => rfl
  | _ => trivial

theorem default_validator_eq_none {s : Setting} {field : Field} (h : field.default? = none) :
    (field.validator s).default = none := by
  rw [validator_eq, Validator.default_withRules, ← default?_eq, h, Option.filter_none]

end Field

namespace Compiler

variable {compiler : Compiler} {shape : Shape} {field : Field} {v : Validator}

/-- Without coercion and with undeclared members kept, validation neither alters nor loses what was
given, as long as no field is a date. What comes out extends it: a path that leads to a scalar leads
to the same scalar, one that leads to a list to a list of the same length, and one that leads to an
object to an object with all its keys. What objects gain is what defaults fill in; without defaults,
only the order of members may change. -/
theorem validate_extends (hcoercion : compiler.options.coercion = .never)
    (hpolicy : compiler.options.unknownKeys = .passthrough)
    (hdates : field.Everywhere fun node ↦ node.kind ≠ .date)
    (h : (compiler.compileShaped shape field).outcome = .ok v) {value out : Json}
    (hout : v.validate value = .ok out) :
    value.ExtendsTo v.FillsIn out ∧
    (∀ steps part, value.at? steps = some part →
      ∃ kept, out.at? steps = some kept ∧ part.KeptAs kept ∧ part.ExtendsTo v.FillsIn kept) ∧
    (value.KeysDistinct → (field.Everywhere fun node ↦ node.default? = none) →
      value.UpToOrder out) := by
  obtain rfl := eq_of_yields_compileShaped h
  let s := compiler.setting (compiler.options.coercion.resolve shape)
  have hcoerce : s.coerce = false := by
    show compiler.options.coercion.resolve shape = false
    rw [hcoercion, CoercionPolicy.resolve]
  have hverbatim : (field.validator s).Everywhere Validator.Verbatim :=
    hdates.validator trivial fun node hnode ↦ node.verbatim_validator hcoerce hpolicy hnode
  have hdistinct := field.everywhere_fieldsDistinct_validator s
  have hextends : value.ExtendsTo (field.validator s).FillsIn out :=
    Validator.extends_of_everywhere (hdistinct.and hverbatim) value out
      (Validator.validate_eq_ok_iff.mp hout)
  refine ⟨hextends, fun steps part hpart ↦ ?_, fun hkeys hdefaults ↦ ?_⟩
  · obtain ⟨kept, hkept, hpart⟩ := hextends.at? hpart
    exact ⟨kept, hkept, hpart.keptAs, hpart⟩
  · have hnone : (field.validator s).Everywhere fun node ↦ node.default = none :=
      hdefaults.validator rfl fun node hnode ↦ Field.default_validator_eq_none hnode
    exact ExtendsTo.upToOrder (Validator.not_fillsIn hnone) hkeys out hextends

/-- A guest, whose age need not be given. -/
def guest : Field :=
  { name := "guest", kind := .object
    children := some [
      { name := "name", kind := .string },
      { name := "age", kind := .number, rules := some { required := some false } }] }

/-- A lodging: its guests, a contact, who is a guest or another person, and breakfast, which is
served by default. -/
def lodging : Field :=
  { kind := .object
    children := some [
      { name := "guests", kind := .array, children := some [guest] },
      { name := "contact", kind := .union, children := some [{ kind := .string }, guest] },
      { name := "breakfast", kind := .boolean, rules := some { default := some (.bool true) } }] }

theorem everywhere_guest :
    guest.Everywhere fun node ↦ node.kind ≠ .date ∧ node.default? = none := by
  refine ⟨⟨by decide, rfl⟩, ?_⟩
  simp only [guest, Field.parts, List.forall_mem_cons]
  exact ⟨.of_parts_eq_nil ⟨by decide, rfl⟩ rfl, .of_parts_eq_nil ⟨by decide, rfl⟩ rfl,
    List.forall_mem_nil _⟩

theorem everywhere_lodging : lodging.Everywhere fun node ↦ node.kind ≠ .date := by
  have hguest : guest.Everywhere fun node ↦ node.kind ≠ .date :=
    everywhere_guest.imp fun _ h ↦ h.1
  refine ⟨by decide, ?_⟩
  simp only [lodging, Field.parts, List.forall_mem_cons]
  refine ⟨⟨by decide, ?_⟩, ⟨by decide, ?_⟩, .of_parts_eq_nil (by decide) rfl, List.forall_mem_nil _⟩
  · exact List.forall_mem_singleton.mpr hguest
  · exact List.forall_mem_cons.mpr
      ⟨.of_parts_eq_nil (by decide) rfl, List.forall_mem_singleton.mpr hguest⟩

/-- A lodging gains the breakfast and keeps the rest, and a guest is the same up to order. -/
theorem validate_lodging_extends :
    let compiler : Compiler := ⟨⟨.never, .passthrough, false⟩, .builtin⟩
    let ann : Json := .object [("vip", .null), ("age", .ofInt 7), ("name", .string "Ann")]
    let annOut : Json := .object [("name", .string "Ann"), ("age", .ofInt 7), ("vip", .null)]
    let given : Json := .object [("contact", ann), ("guests", .array [ann])]
    let out : Json := .object [("guests", .array [annOut]), ("contact", annOut),
      ("breakfast", .bool true)]
    (∃ v, (compiler.compile lodging).outcome = .ok v ∧ v.validate given = .ok out ∧
      given.ExtendsTo v.FillsIn out ∧ (∃ kept, out.at? [.key "guests"] = some kept ∧
        Json.KeptAs (.array [ann]) kept)) ∧
    ∃ v, (compiler.compile guest).outcome = .ok v ∧ v.validate ann = .ok annOut ∧
      ann.UpToOrder annOut := by
  intro compiler ann annOut given out
  let s := compiler.setting false
  have hlodging : (compiler.compile lodging).outcome = .ok (lodging.validator s) := by rfl
  have hguest : (compiler.compile guest).outcome = .ok (guest.validator s) := by rfl
  have hout : (lodging.validator s).validate given = .ok out := by cbv
  have hann : (guest.validator s).validate ann = .ok annOut := by cbv
  have hkeys : ann.KeysDistinct := by
    refine .object (by decide) ?_
    simp only [List.forall_mem_cons]
    exact ⟨.null, .number _, .string _, List.forall_mem_nil _⟩
  obtain ⟨hextends, hpaths, -⟩ := validate_extends rfl rfl everywhere_lodging hlodging hout
  obtain ⟨-, -, horder⟩ := validate_extends rfl rfl (everywhere_guest.imp fun _ h ↦ h.1) hguest hann
  obtain ⟨kept, hkept, hlength, -⟩ := hpaths [.key "guests"] _ rfl
  exact ⟨⟨_, hlodging, hout, hextends, kept, hkept, hlength⟩, _, hguest, hann,
    horder hkeys (everywhere_guest.imp fun _ h ↦ h.2)⟩

end Compiler

end ToolSchema
