import ToolSchema.Proofs.Acceptance

/-!
# Looser options

A setting is loosened by turning coercion on and by no longer refusing undeclared keys. What a field
reads in a setting it reads in every looser one, though perhaps in another form: a member that had
no value may have a default now, and an earlier alternative of a union may read the value. So only
fields without parts may have custom checks, which see the form.
-/

namespace ToolSchema

/-! ## Coercion -/

/-- What is a number without coercion is the same number with it. -/
theorem Json.coerceNumber?_mono {coerce looser : Bool} (hcoerce : coerce → looser)
    {value out : Json} (h : value.coerceNumber? coerce = some out) :
    value.coerceNumber? looser = some out := by
  cases coerce with
  | true => rwa [hcoerce rfl]
  | false => cases value <;> simp_all [coerceNumber?]

theorem Moment.ofText?_mono {coerce looser : Bool} (hcoerce : coerce → looser) {text : String}
    {moment : Moment} (h : ofText? coerce text = some moment) :
    ofText? looser text = some moment := by
  cases coerce with
  | true => rwa [hcoerce rfl]
  | false =>
    cases looser with
    | false => exact h
    | true =>
      have hfull : (readStrict (Text.trimChars text.toList)).toOption = some moment := h
      simp [ofText?, hfull]

theorem Json.moment?_mono {coerce looser : Bool} (hcoerce : coerce → looser) {value : Json}
    {moment : Moment} (h : value.moment? coerce = some moment) :
    value.moment? looser = some moment := by
  cases value with
  | string text => exact Moment.ofText?_mono hcoerce h
  | number n =>
    cases coerce with
    | true => rwa [hcoerce rfl]
    | false => cases h
  | _ => cases h

/-! ## Settings -/

/-- A setting is loosened to another one: predicates are the same, what was coerced still is, and
undeclared keys are refused only if they were. -/
structure Setting.LoosensTo (s t : Setting) : Prop where
  predicates : s.predicates = t.predicates
  coerce : s.coerce → t.coerce
  unknownKeys : t.unknownKeys = .reject → s.unknownKeys = .reject

/-- A member that may be missing is read by whatever reads more values. -/
theorem Rules.isSome_readMember_mono {rules : Rules} {read looser : Json → Option Json}
    (hread : ∀ value, (read value).isSome → (looser value).isSome) {value? : Option Json}
    (h : (rules.readMember read value?).isSome) : (rules.readMember looser value?).isSome := by
  cases value? with
  | some value =>
    rw [isSome_readMember_some] at h ⊢
    exact hread value h
  | none =>
    rw [isSome_readMember_none] at h ⊢
    refine h.imp_left fun hdefault ↦ ?_
    cases hd : rules.default with
    | none => simp [hd] at hdefault
    | some default => exact hread default (by simpa [hd] using hdefault)

/-- On values with parts nothing but the custom check counts. -/
theorem Rules.admits_of_parts {predicates : Predicates} {kind : FieldKind} {rules : Rules}
    {value : Json} (hkind : kind ∈ [.array, .object, .union]) (hcustom : rules.custom? = none) :
    rules.admits predicates kind value := by
  have hpasses : rules.admitsCustom predicates value := by
    rw [admitsCustom, hcustom]
    rfl
  cases kind with
  | array | object | union => simpa [admits] using hpasses
  | _ => simp at hkind

namespace Field

variable {s t : Setting} {field : Field}

/-- Custom checks are only on fields without parts. -/
def CustomOnScalars (field : Field) : Prop :=
  field.kind ∈ [.array, .object, .union] → (field.rules.getD {}).custom? = none

/-- How an object reads its members, child by child. -/
theorem lastUnderEach_memberReadings_eq (s : Setting) (children : List Field) :
    lastUnderEach (memberReadings s children) =
      mapValues (fun _ child ↦ (child.rules.getD {}).readMember (child.read s))
        (collect (named id children)) := by
  have hreadings : memberReadings s children =
      mapValues (fun _ child ↦ (child.rules.getD {}).readMember (child.read s))
        (named id children) := by
    rw [memberReadings_eq_named, mapValues, named, named, List.map_map]
    rfl
  rw [← collect_eq_lastUnderEach, hreadings, collect_mapValues]

theorem isSome_readMembers_mono (h : s.LoosensTo t) {children : List Field}
    (hread : ∀ child ∈ children, ∀ value, (child.read s value).isSome → (child.read t value).isSome)
    {given : List (String × Json)}
    (hs : (readMembers s.unknownKeys (lastUnderEach (memberReadings s children)) given).isSome) :
    (readMembers t.unknownKeys (lastUnderEach (memberReadings t children)) given).isSome := by
  rw [isSome_readMembers_iff, isSome_readDeclared_iff, lastUnderEach_memberReadings_eq,
    keys_mapValues] at hs ⊢
  obtain ⟨hdeclared, hreject⟩ := hs
  refine ⟨fun pair hpair ↦ ?_, fun hpolicy ↦ hreject (h.unknownKeys hpolicy)⟩
  obtain ⟨entry, hentry, rfl⟩ := List.mem_map.mp hpair
  have hchild : entry.2 ∈ children := by
    obtain ⟨child, hmem, rfl⟩ := List.mem_map.mp (mem_of_mem_collect hentry)
    exact hmem
  exact Rules.isSome_readMember_mono (hread entry.2 hchild)
    (hdeclared _ (List.mem_map_of_mem hentry))

/-- Kinds without parts read the same form in a looser setting. -/
theorem readKind_mono (h : s.LoosensTo t) (hkind : field.kind ∉ [.array, .object, .union])
    {value out : Json} (hs : readKind s field.members field.kind field.children value = some out) :
    readKind t field.members field.kind field.children value = some out := by
  cases hfield : field.kind with
  | number =>
    rw [hfield, readKind] at hs
    rw [readKind]
    exact Json.coerceNumber?_mono h.coerce hs
  | date =>
    rw [hfield, readKind] at hs
    rw [readKind]
    obtain ⟨moment, hmoment, rfl⟩ := Option.map_eq_some_iff.mp hs
    rw [Json.moment?_mono h.coerce hmoment]
    rfl
  | array | object | union => simp [hfield] at hkind
  | string | boolean | enumeration | file | calculated | unsupported =>
    rw [hfield, readKind.eq_def] at hs
    rw [readKind.eq_def]
    exact hs

/-- Kinds with parts read something in a looser setting if the parts do. -/
theorem isSome_readKind_mono (h : s.LoosensTo t) (hkind : field.kind ∈ [.array, .object, .union])
    (ih : ∀ part ∈ field.parts, ∀ value, (part.read s value).isSome → (part.read t value).isSome)
    {value : Json} (hs : (readKind s field.members field.kind field.children value).isSome) :
    (readKind t field.members field.kind field.children value).isSome := by
  cases hfield : field.kind with
  | array =>
    rcases hchildren : field.children with _ | (_ | ⟨item, rest⟩)
    case none | some.nil =>
      rw [hfield, hchildren, readKind.eq_def] at hs
      rw [readKind.eq_def]
      exact hs
    case some.cons =>
      have hitem := ih item (item_mem_parts hfield hchildren)
      rw [hfield, hchildren] at hs
      cases value with
      | array items =>
        rw [readKind] at hs ⊢
        simp only [Option.isSome_map, isSome_mapM_iff] at hs ⊢
        exact fun member hmember ↦ hitem member (hs member hmember)
      | _ => simp [readKind] at hs
  | object =>
    cases hchildren : field.children with
    | none =>
      rw [hfield, hchildren, readKind.eq_def] at hs
      rw [readKind.eq_def]
      exact hs
    | some children =>
      have hread : ∀ child ∈ children, ∀ value,
          (child.read s value).isSome → (child.read t value).isSome :=
        fun child hchild ↦ ih child (child_mem_parts hfield hchildren child hchild)
      rw [hfield, hchildren] at hs
      cases value with
      | object given =>
        rw [readKind] at hs ⊢
        exact isSome_readMembers_mono h hread hs
      | _ => simp [readKind] at hs
  | union =>
    rcases hchildren : field.children with _ | (_ | ⟨first, _ | ⟨second, rest⟩⟩)
    case none | some.nil | some.cons.nil =>
      rw [readKind]
      all_goals simp
    case some.cons.cons =>
      have hfirst := ih first (first_mem_parts hfield hchildren) value
      have hsecond := ih second (second_mem_parts hfield hchildren) value
      rw [hfield, hchildren, readKind] at hs
      rw [readKind]
      simp only [Option.isSome_or, Bool.or_eq_true] at hs ⊢
      exact hs.imp hfirst hsecond
  | _ => simp [hfield] at hkind

/-- Whatever was read before loosening is read after it, if perhaps in another form. -/
theorem isSome_read_mono (h : s.LoosensTo t) (hcustom : field.Everywhere CustomOnScalars) :
    ∀ value, (field.read s value).isSome → (field.read t value).isSome := by
  induction hcustom with
  | @intro field here _ ih =>
    intro value hs
    obtain ⟨out, hout⟩ := Option.isSome_iff_exists.mp hs
    obtain ⟨hkind, hadmits⟩ := read_eq_some_iff.mp hout
    -- The form that is read may change only where there are parts, and there no check sees it.
    by_cases hparts : field.kind ∈ [.array, .object, .union]
    · have hsome := isSome_readKind_mono h hparts ih (Option.isSome_of_eq_some hkind)
      obtain ⟨looser, hlooser⟩ := Option.isSome_iff_exists.mp hsome
      have hadmits : (field.rules.getD {}).admits t.predicates field.kind looser :=
        Rules.admits_of_parts hparts (here hparts)
      exact Option.isSome_of_eq_some (read_eq_some_iff.mpr ⟨hlooser, hadmits⟩)
    · rw [h.predicates] at hadmits
      exact Option.isSome_of_eq_some
        (read_eq_some_iff.mpr ⟨readKind_mono h hparts hkind, hadmits⟩)

end Field

namespace Compiler

theorem accepts_iff_isSome_read {compiler : Compiler} {shape : Shape} {field : Field}
    {v : Validator} (h : (compiler.compileShaped shape field).outcome = .ok v) (value : Json) :
    v.accepts value ↔
      (field.read (compiler.setting (compiler.options.coercion.resolve shape)) value).isSome := by
  rw [Validator.accepts_iff, eq_of_yields_compileShaped h, Field.value?_judge_validator]

/-- Loosening the options never turns an accepted value into a rejected one, if only fields without
parts have custom checks. Dropping or keeping undeclared keys makes no difference to what is
accepted, and turning coercion on only adds to it. -/
theorem accepts_of_looser {first second : Compiler} {shape : Shape} {field : Field}
    {v w : Validator}
    (hpredicates : first.predicates = second.predicates)
    (hcustom : field.Everywhere Field.CustomOnScalars)
    (hfirst : (first.compileShaped shape field).outcome = .ok v)
    (hsecond : (second.compileShaped shape field).outcome = .ok w) :
    ((first.options.coercion.resolve shape → second.options.coercion.resolve shape) →
      (second.options.unknownKeys = .reject → first.options.unknownKeys = .reject) →
        ∀ value, v.accepts value → w.accepts value) ∧
    (first.options.coercion.resolve shape = second.options.coercion.resolve shape →
      first.options.unknownKeys = .strip → second.options.unknownKeys = .passthrough →
        ∀ value, v.accepts value ↔ w.accepts value) ∧
    (first.options.coercion = .never → second.options.coercion = .always →
      first.options.unknownKeys = second.options.unknownKeys →
        ∀ value, v.accepts value → w.accepts value) := by
  have hmono : (first.options.coercion.resolve shape → second.options.coercion.resolve shape) →
      (second.options.unknownKeys = .reject → first.options.unknownKeys = .reject) →
        ∀ value, v.accepts value → w.accepts value := by
    intro hcoerce hpolicy value
    rw [accepts_iff_isSome_read hfirst, accepts_iff_isSome_read hsecond]
    exact Field.isSome_read_mono ⟨hpredicates, hcoerce, hpolicy⟩ hcustom value
  refine ⟨hmono, ?_, ?_⟩
  · intro hcoerce hstrip hpassthrough value
    refine ⟨hmono (by rw [hcoerce]; exact id) (by simp [hpassthrough]) value, ?_⟩
    have hstays : first.options.unknownKeys = .reject → second.options.unknownKeys = .reject := by
      simp [hstrip]
    have hback : ∀ coerce, (second.setting coerce).LoosensTo (first.setting coerce) :=
      fun _ ↦ ⟨hpredicates.symm, id, hstays⟩
    rw [accepts_iff_isSome_read hfirst, accepts_iff_isSome_read hsecond, hcoerce]
    exact Field.isSome_read_mono (hback _) hcustom value
  · intro hnever halways hsame
    exact hmono (by simp [hnever, CoercionPolicy.resolve]) fun h ↦ hsame.trans h

/-- A meter whose count is by default a text, which is a count only if texts are coerced. -/
def meter : Field :=
  { kind := .object
    children := some [
      { name := "count", kind := .number
        rules := some { required := some false, custom := some "positive",
                        default := some (.string "7") } },
      { name := "state", kind := .union
        children := some [{ kind := .number }, { kind := .boolean }] }] }

theorem accepts_of_looser_meter :
    ∃ v w,
      (Compiler.compile
        { options := { coercion := .never, unknownKeys := .reject } } meter).outcome = .ok v ∧
      (Compiler.compile { options := { coercion := .always } } meter).outcome = .ok w ∧
        w.accepts (.object [("state", .bool true)]) := by
  have hfirst : (Compiler.compile { options := { coercion := .never, unknownKeys := .reject } }
      meter).outcome = .ok (meter.validator ⟨.builtin, false, .reject⟩) := rfl
  have hsecond : (Compiler.compile { options := { coercion := .always } } meter).outcome =
      .ok (meter.validator ⟨.builtin, true, .passthrough⟩) := rfl
  have hcustom : meter.Everywhere Field.CustomOnScalars := by
    refine ⟨fun _ ↦ rfl, ?_⟩
    simp only [meter, Field.parts, List.forall_mem_cons]
    refine ⟨?_, ?_, List.forall_mem_nil _⟩
    · exact .of_parts_eq_nil (by simp [Field.CustomOnScalars]) rfl
    · refine ⟨fun _ ↦ rfl, ?_⟩
      simp only [Field.parts, List.forall_mem_cons]
      exact ⟨.of_parts_eq_nil (fun _ ↦ rfl) rfl, .of_parts_eq_nil (fun _ ↦ rfl) rfl,
        List.forall_mem_nil _⟩
  have hpredicates : (Compiler.mk ⟨.never, .reject, false⟩ .builtin).predicates =
      (Compiler.mk ⟨.always, .passthrough, false⟩ .builtin).predicates := rfl
  have haccepts := (accepts_of_looser hpredicates hcustom hfirst hsecond).1 (by decide) (by decide)
  exact ⟨_, _, hfirst, hsecond, haccepts _ (by cbv)⟩

end Compiler

end ToolSchema
