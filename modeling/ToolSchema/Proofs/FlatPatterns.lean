import ToolSchema.Proofs.FlatReading
import ToolSchema.Proofs.Strictness

/-!
# What can go wrong with flat parameters

Lowered parameters are well formed at every depth: enumerations have members, names are distinct,
and there are neither unions nor defaults nor custom checks. All that is left to warn of is a
pattern that is none. So a lenient compiler warns of the unusable patterns in pre-order, which is
said here without lowering anything, and a strict one stops at the first of them.
-/

namespace ToolSchema

/-! ## Compilations that succeed -/

namespace Compiled

variable {α β : Type}

/-- A compilation succeeds with these events. -/
def Logs (compiled : Compiled α) (events : List Event) : Prop :=
  compiled.events = events ∧ ∃ value, compiled.outcome = .ok value

theorem logs_pure (value : α) : (pure value : Compiled α).Logs [] := ⟨rfl, value, rfl⟩

theorem logs_event (e : Event) : (event e).Logs [e] := ⟨rfl, (), rfl⟩

theorem Logs.bind {first : Compiled α} {next : α → Compiled β} {events later : List Event}
    (h : first.Logs events) (hnext : ∀ value, (next value).Logs later) :
    (first >>= next).Logs (events ++ later) := by
  obtain ⟨hevents, value, hvalue⟩ := h
  obtain ⟨hlater, out, hout⟩ := hnext value
  rw [bind_eq_of_ok hvalue, hevents, hlater]
  exact ⟨rfl, out, hout⟩

/-- A compilation that goes on without a further event. -/
theorem Logs.andThen {first : Compiled α} {next : α → Compiled β} {events : List Event}
    (h : first.Logs events) (hnext : ∀ value, (next value).Logs []) :
    (first >>= next).Logs events := by
  rw [← List.append_nil events]
  exact h.bind hnext

end Compiled

/-! ## The parameters that are reached -/

namespace FlatParameter

mutual
/-- The parameters that are reached from a parameter at a path, each with its own path: itself, and
then those reached from its properties if it is an object, or from its items if it is a list. -/
def reached (path : FieldPath) : FlatParameter → List (FieldPath × FlatParameter)
  | ⟨type, description, required, members, properties, items, rules⟩ =>
    (path, ⟨type, description, required, members, properties, items, rules⟩) ::
      match type with
      | "object" =>
        match properties with
        | some properties => reachedIn path properties
        | none => []
      | "array" =>
        match items with
        | some item => reached (path.index 0) item
        | none => []
      | _ => []

def reachedIn (path : FieldPath) :
    List (String × FlatParameter) → List (FieldPath × FlatParameter)
  | [] => []
  | (name, parameter) :: rest => reached (path.key name) parameter ++ reachedIn path rest
end

/-- The pattern of a parameter, where the parameter leads to a string and the pattern is none. -/
def unusable? (parameter : FlatParameter) : Option String :=
  if parameter.kind = .string then
    parameter.pattern?.filter fun source ↦ (Pattern.ofSource? source).isNone
  else none

/-- A parameter that leads to a string has no pattern, or one that can be used. -/
def PatternUsable (parameter : FlatParameter) : Prop :=
  parameter.kind = .string →
    ∀ source ∈ parameter.pattern?, (Pattern.ofSource? source).isSome

theorem unusable?_eq_none_iff {parameter : FlatParameter} :
    parameter.unusable? = none ↔ parameter.PatternUsable := by
  unfold unusable? PatternUsable
  by_cases hkind : parameter.kind = .string
  · rw [if_pos hkind, Option.filter_eq_none_iff]
    simp [hkind, Option.isSome_iff_ne_none]
  · simp [hkind]

end FlatParameter

/-- The parameters that are reached from a flat map, in pre-order. -/
def FlatParameters.reached (parameters : FlatParameters) : List (FieldPath × FlatParameter) :=
  FlatParameter.reachedIn .root parameters.properties

/-- The unusable patterns of the parameters that are reached from a flat map, with their paths, in
pre-order. -/
def FlatParameters.unusablePatterns (parameters : FlatParameters) : List (FieldPath × String) :=
  parameters.reached.filterMap fun visit ↦ visit.2.unusable?.map fun source ↦ (visit.1, source)

theorem FlatParameters.unusablePatterns_eq_nil_iff {parameters : FlatParameters} :
    parameters.unusablePatterns = [] ↔ ∀ visit ∈ parameters.reached, visit.2.PatternUsable := by
  rw [unusablePatterns, List.filterMap_eq_nil_iff]
  simp only [Option.map_eq_none_iff, FlatParameter.unusable?_eq_none_iff]

namespace FlatParameter

variable {parameter : FlatParameter} {path : FieldPath}

/-! ### Lowering, type by type -/

theorem kind_of_object (htype : parameter.type = "object") : parameter.kind = .object := by
  rw [kind, htype]
  rfl

theorem kind_of_array (htype : parameter.type = "array") : parameter.kind = .array := by
  rw [kind, htype]
  rfl

theorem children_of_object (htype : parameter.type = "object") (name : String) :
    (parameter.toField name).children = parameter.properties.map toFields := by
  obtain ⟨type, description, required, members, properties, items, rules⟩ := parameter
  obtain rfl : type = "object" := htype
  rw [toField.eq_def]
  cases properties <;> rfl

theorem children_of_array (htype : parameter.type = "array") (name : String) :
    (parameter.toField name).children = parameter.items.map fun item ↦ [item.toField itemName] := by
  obtain ⟨type, description, required, members, properties, items, rules⟩ := parameter
  obtain rfl : type = "array" := htype
  rw [toField.eq_def]
  cases items <;> rfl

theorem reached_of_object (htype : parameter.type = "object") :
    parameter.reached path =
      (path, parameter) :: reachedIn path (parameter.properties.getD []) := by
  obtain ⟨type, description, required, members, properties, items, rules⟩ := parameter
  obtain rfl : type = "object" := htype
  rw [reached.eq_def]
  cases properties <;> rfl

theorem reached_of_array (htype : parameter.type = "array") :
    parameter.reached path = (path, parameter) ::
      (parameter.items.map (reached (path.index 0))).getD [] := by
  obtain ⟨type, description, required, members, properties, items, rules⟩ := parameter
  obtain rfl : type = "array" := htype
  rw [reached.eq_def]
  cases items <;> rfl

theorem reached_of_leaf (hobject : parameter.type ≠ "object") (harray : parameter.type ≠ "array") :
    parameter.reached path = [(path, parameter)] := by
  obtain ⟨type, description, required, members, properties, items, rules⟩ := parameter
  rw [reached.eq_def]
  dsimp only at hobject harray ⊢
  split
  · exact absurd rfl hobject
  · exact absurd rfl harray
  · rfl

theorem eq_of_typePattern? {type source : String} (h : typePattern? type = some source) :
    source = emailPattern ∨ source = urlPattern := by
  unfold typePattern? at h
  split at h
  · exact .inl (Option.some.inj h).symm
  · exact .inr (Option.some.inj h).symm
  · cases h

/-- The pattern of a type is not empty. -/
theorem ne_empty_of_typePattern? {type source : String} (h : typePattern? type = some source) :
    source ≠ "" := by
  rcases eq_of_typePattern? h with rfl | rfl
  · decide
  · decide

/-- A pattern that counts is not empty. -/
theorem filter_pattern? (parameter : FlatParameter) :
    (parameter.pattern?.filter fun source ↦ source ≠ "") = parameter.pattern? := by
  cases hpattern : parameter.pattern? with
  | none => rfl
  | some source =>
    have hne : source ≠ "" := by
      rcases Option.or_eq_some_iff.mp hpattern with hwritten | ⟨-, htype⟩
      · simpa using (Option.filter_eq_some_iff.mp hwritten).2
      · exact ne_empty_of_typePattern? htype
    rw [Option.filter_some, if_pos (by simpa using hne)]

/-- The rules of a string have the pattern that counts, be it written or that of the type. -/
theorem pattern?_fieldRules (hkind : parameter.kind = .string) :
    parameter.fieldRules.pattern? = parameter.pattern? := by
  rw [fieldRules, hkind, Rules.pattern?]
  exact filter_pattern? parameter

/-- A parameter that is neither an object nor a list leads to a kind without parts, and to an
enumeration only if it has members. -/
theorem kind_of_leaf (hobject : parameter.type ≠ "object") (harray : parameter.type ≠ "array") :
    parameter.kind ∈ [.string, .number, .boolean, .date] ∨
      parameter.kind = .enumeration ∧ ∃ literals, parameter.members? = some literals := by
  have hbase : baseKind parameter.type ∈ [.string, .number, .boolean, .date] := by
    unfold baseKind
    split
    all_goals simp_all
  unfold kind
  split
  · next literals _ hliterals => exact Or.inr ⟨rfl, literals, hliterals⟩
  · exact Or.inl hbase

end FlatParameter

namespace Compiler

open Compiled FlatParameter

variable {compiler : Compiler} {coerce : Bool} {path : FieldPath}

/-! ## Warnings of lowered parameters -/

/-- The warnings of the parameters whose patterns are unusable. -/
def warnings (visits : List (FieldPath × FlatParameter)) : List Event :=
  visits.filterMap fun visit ↦
    visit.2.unusable?.map fun source ↦ .degraded visit.1 (.unusablePattern source)

theorem warnings_singleton (visit : FieldPath × FlatParameter) :
    warnings [visit] = (visit.2.unusable?.map fun source ↦
      Event.degraded visit.1 (.unusablePattern source)).toList := by
  rw [warnings, List.filterMap_cons, List.filterMap_nil]
  cases visit.2.unusable? <;> rfl

/-- Nothing but a string warns of a pattern. -/
theorem warnings_of_kind_ne {parameter : FlatParameter} (hkind : parameter.kind ≠ .string)
    (rest : List (FieldPath × FlatParameter)) :
    warnings ((path, parameter) :: rest) = warnings rest := by
  have hnone : parameter.unusable? = none := if_neg hkind
  rw [warnings, List.filterMap_cons_none]
  · rfl
  · rw [hnone, Option.map_none]

/-- A lenient compiler warns once of a pattern that cannot be used, and of nothing else. -/
theorem logs_addChecks (hlenient : compiler.options.strict = false) (parameter : FlatParameter)
    (v : Validator) :
    (compiler.addChecks path parameter.kind parameter.fieldRules v).Logs
      (warnings [(path, parameter)]) := by
  by_cases hkind : parameter.kind = .string
  · have hunusable : parameter.unusable? =
        parameter.pattern?.filter fun source ↦ (Pattern.ofSource? source).isNone := if_pos hkind
    rw [hkind, addChecks, pattern?_fieldRules hkind, addPattern.eq_def,
      warnings_singleton, hunusable]
    cases parameter.pattern? with
    | none => exact logs_pure _
    | some source =>
      dsimp only
      cases hsource : Pattern.ofSource? source with
      | some pattern =>
        rw [Option.filter_some, hsource]
        exact logs_pure _
      | none =>
        rw [Option.filter_some, hsource, degrade, hlenient]
        exact (logs_event _).andThen fun _ ↦ logs_pure _
  · rw [warnings_of_kind_ne hkind]
    unfold addChecks
    split
    · exact logs_pure _
    · contradiction
    · exact logs_pure v

/-- Of the rules of a lowered parameter, only its pattern can be warned of. -/
theorem logs_addRules (hlenient : compiler.options.strict = false) (parameter : FlatParameter)
    (description : Option String) (v : Validator) :
    (compiler.addRules path parameter.kind (some parameter.fieldRules) description v).Logs
      (warnings [(path, parameter)]) := by
  have hcustom : ∀ v, compiler.addCustom path parameter.fieldRules v = pure v := by
    intro v
    rw [addCustom, Rules.custom?, custom_fieldRules]
    rfl
  have hdefault : ∀ v, compiler.addDefault path parameter.fieldRules v = pure v := by
    intro v
    rw [addDefault, default_fieldRules]
  unfold addRules
  dsimp only
  apply (logs_addChecks hlenient parameter _).andThen
  intro checked
  rw [hcustom]
  apply (logs_pure checked).andThen
  intro refined
  rw [hdefault]
  exact (logs_pure refined).andThen fun _ ↦ logs_pure _

/-- A kind without parts is compiled without a warning. -/
theorem logs_compileKind_of_leaf {parameter : FlatParameter} (hobject : parameter.type ≠ "object")
    (harray : parameter.type ≠ "array") (name : String) (children : Option (List Field)) :
    (compiler.compileKind coerce path (parameter.toField name).members parameter.kind
      children).Logs [] := by
  rcases kind_of_leaf hobject harray with hkind | ⟨hkind, literals, hliterals⟩
  · simp only [List.mem_cons, List.not_mem_nil, or_false] at hkind
    rcases hkind with hkind | hkind | hkind | hkind
    all_goals
      rw [hkind, compileKind]
      exact logs_pure _
  · have hkept : (some literals).filter (fun ms ↦ !ms.isEmpty) = some literals := by
      rw [← hliterals, members?, Option.filter_filter]
      simp
    rw [members_toField, hkind, compileKind, if_pos rfl, hliterals, hkept]
    exact logs_pure _

/-- The properties of an object are compiled one after the other, without a warning of their
names. -/
theorem logs_compileFields {properties : List (String × FlatParameter)}
    (hproperties : ∀ pair ∈ properties, ∀ name path,
      (compiler.compileAt coerce path (pair.2.toField name)).Logs (warnings (pair.2.reached path)))
    {table : List (String × Validator)} (hnames : (keys properties).Nodup)
    (htable : ∀ key ∈ keys properties, key ∉ keys table) :
    (compiler.compileFields coerce path table (toFields properties)).Logs
      (warnings (reachedIn path properties)) := by
  induction properties generalizing table with
  | nil =>
    rw [toFields, compileFields, reachedIn]
    exact logs_pure table
  | cons pair rest ih =>
    obtain ⟨name, parameter⟩ := pair
    rw [List.forall_mem_cons] at hproperties
    rw [keys_cons, List.forall_mem_cons] at htable
    rw [keys_cons, List.nodup_cons] at hnames
    rw [toFields, compileFields, reachedIn, warnings, List.filterMap_append, name_toField]
    apply (hproperties.1 name _).bind
    intro compiled
    have hnew : compiler.checkNew path table name = pure () := by
      rw [checkNew, if_neg]
      rw [lookup_isSome_iff]
      exact htable.1
    rw [hnew]
    refine (logs_pure ()).bind fun _ ↦ ih hproperties.2 hnames.2 ?_
    intro key hkey hmem
    rw [keys_insert, if_neg htable.1, List.mem_append, List.mem_singleton] at hmem
    rcases hmem with hmem | rfl
    · exact htable.2 key hkey hmem
    · exact hnames.1 hkey

/-- The properties of an object warn one after the other, in their order. -/
theorem logs_compileKind_of_object {parameter : FlatParameter} (htype : parameter.type = "object")
    (hnames : (keys (parameter.properties.getD [])).Nodup)
    (hproperties : ∀ pair ∈ parameter.properties.getD [], ∀ name path,
      (compiler.compileAt coerce path (pair.2.toField name)).Logs (warnings (pair.2.reached path)))
    (name : String) :
    (compiler.compileKind coerce path (parameter.toField name).members parameter.kind
      (parameter.toField name).children).Logs
        (warnings (reachedIn path (parameter.properties.getD []))) := by
  rw [kind_of_object htype, children_of_object htype]
  cases hmembers : parameter.properties with
  | none =>
    rw [Option.map_none, compileKind, Option.getD_none, reachedIn]
    exact logs_pure _
  | some properties =>
    rw [hmembers] at hproperties hnames
    rw [Option.map_some, compileKind]
    exact (logs_compileFields hproperties hnames (by simp)).andThen fun _ ↦ logs_pure _

/-- The items of a list warn under the place of the first one. -/
theorem logs_compileKind_of_array {parameter : FlatParameter} (htype : parameter.type = "array")
    (hitems : ∀ item ∈ parameter.items, ∀ name path,
      (compiler.compileAt coerce path (item.toField name)).Logs (warnings (item.reached path)))
    (name : String) :
    (compiler.compileKind coerce path (parameter.toField name).members parameter.kind
      (parameter.toField name).children).Logs
        (warnings ((parameter.items.map (reached (path.index 0))).getD [])) := by
  rw [kind_of_array htype, children_of_array htype]
  cases hitem : parameter.items with
  | none =>
    rw [Option.map_none, compileKind]
    · exact logs_pure _
    · simp
  | some item =>
    rw [Option.map_some, compileKind, Option.map_some, Option.getD_some]
    exact (hitems item hitem itemName _).andThen fun _ ↦ logs_pure _

/-- A parameter that leads to no string is compiled with the warnings of what is below it. -/
theorem logs_compileAt_of_kind_ne (hlenient : compiler.options.strict = false)
    {parameter : FlatParameter} {name : String} (hkind : parameter.kind ≠ .string)
    {below : List (FieldPath × FlatParameter)}
    (hbelow : (compiler.compileKind coerce path (parameter.toField name).members parameter.kind
      (parameter.toField name).children).Logs (warnings below)) :
    (compiler.compileAt coerce path (parameter.toField name)).Logs
      (warnings ((path, parameter) :: below)) := by
  rw [compileAt_eq, rules_toField, kind_toField, warnings_of_kind_ne hkind]
  apply hbelow.andThen
  intro base
  have hrules : (compiler.addRules path parameter.kind (some parameter.fieldRules)
      (parameter.toField name).description base).Logs (warnings [(path, parameter)]) :=
    logs_addRules hlenient parameter _ base
  rwa [warnings_of_kind_ne hkind] at hrules

/-- A lenient compiler warns of the unusable patterns that are reached from a parameter, in
pre-order, and of nothing else. -/
theorem logs_compileAt (hlenient : compiler.options.strict = false) {parameter : FlatParameter}
    (h : parameter.NamesDistinct) : ∀ name path,
    (compiler.compileAt coerce path (parameter.toField name)).Logs
      (warnings (parameter.reached path)) := by
  induction h with
  | @intro parameter here _ _ hproperties hitems =>
    intro name path
    by_cases hobject : parameter.type = "object"
    · rw [reached_of_object hobject]
      apply logs_compileAt_of_kind_ne hlenient (by simp [kind_of_object hobject])
      exact logs_compileKind_of_object hobject here hproperties name
    · by_cases harray : parameter.type = "array"
      · rw [reached_of_array harray]
        apply logs_compileAt_of_kind_ne hlenient (by simp [kind_of_array harray])
        exact logs_compileKind_of_array harray hitems name
      · rw [reached_of_leaf hobject harray, compileAt_eq, rules_toField, kind_toField]
        apply (logs_compileKind_of_leaf hobject harray name _).bind
        exact logs_addRules hlenient parameter _

/-- Compiling a flat map warns of the unusable patterns, and says in the end what was compiled. -/
theorem logs_compileFlat (hlenient : compiler.options.strict = false) {parameters : FlatParameters}
    (h : parameters.NamesDistinct) :
    (compiler.compileFlat parameters).Logs
      (warnings parameters.reached ++ [.compiled FlatParameters.rootName .object .flat]) := by
  have hfields : (compiler.compileFields (compiler.options.coercion.resolve .flat) .root []
      (toFields parameters.properties)).Logs (warnings parameters.reached) :=
    logs_compileFields (fun pair hpair ↦ logs_compileAt hlenient (h.2 pair hpair)) h.1 (by simp)
  have hroot : (compiler.compileAt (compiler.options.coercion.resolve .flat) .root
      parameters.toField).Logs (warnings parameters.reached) := by
    rw [compileAt_eq, FlatParameters.toField, compileKind]
    exact (hfields.andThen fun _ ↦ logs_pure _).andThen fun _ ↦ logs_pure _
  rw [compileFlat, compileShaped]
  apply hroot.bind
  intro v
  exact (logs_event _).andThen fun _ ↦ logs_pure v

theorem warnings_reached (parameters : FlatParameters) :
    warnings parameters.reached = parameters.unusablePatterns.map fun pattern ↦
      .degraded pattern.1 (.unusablePattern pattern.2) := by
  rw [warnings, FlatParameters.unusablePatterns, List.map_filterMap]
  simp only [Option.map_map, Function.comp_def]

/-- The only thing that can be wrong with a flat map is a pattern. A lenient compiler compiles it in
any case, and warns of the unusable patterns of the strings that are reached, in pre-order. A strict
one compiles it if and only if there are none, and fails with the first of them otherwise. -/
theorem compileFlat_fails_only_on_patterns (compiler : Compiler) {parameters : FlatParameters}
    (hnames : parameters.NamesDistinct) :
    (∃ v, ((compiler.withStrict false).compileFlat parameters).outcome = .ok v) ∧
      ((compiler.withStrict false).compileFlat parameters).events =
        (parameters.unusablePatterns.map fun pattern ↦
          .degraded pattern.1 (.unusablePattern pattern.2)) ++
            [.compiled FlatParameters.rootName .object .flat] ∧
      ((∃ v, ((compiler.withStrict true).compileFlat parameters).outcome = .ok v) ↔
        ∀ visit ∈ parameters.reached, visit.2.PatternUsable) ∧
      ∀ error, ((compiler.withStrict true).compileFlat parameters).outcome = .error error ↔
        ∃ path source rest, parameters.unusablePatterns = (path, source) :: rest ∧
          error = .malformed path (.unusablePattern source) := by
  have hlogs : ((compiler.withStrict false).compileFlat parameters).Logs _ :=
    logs_compileFlat rfl hnames
  obtain ⟨hevents, v, hv⟩ := hlogs
  rw [warnings_reached] at hevents
  have hdegradations : ((compiler.withStrict false).compileFlat parameters).degradations =
      parameters.unusablePatterns.map fun pattern ↦ (pattern.1, .unusablePattern pattern.2) := by
    rw [degradations, hevents, List.filterMap_append, List.filterMap_map, ← List.filterMap_eq_map]
    exact List.append_nil _
  have hmirrors : ((compiler.withStrict true).compileFlat parameters).Mirrors
      ((compiler.withStrict false).compileFlat parameters) :=
    mirrors_compileShaped compiler .flat parameters.toField
  refine ⟨⟨v, hv⟩, hevents, ?_, ?_⟩
  · calc (∃ v, ((compiler.withStrict true).compileFlat parameters).outcome = .ok v)
        ↔ parameters.unusablePatterns = [] := by
          simp only [hmirrors.outcome_eq_ok_iff, hv, hdegradations, List.map_eq_nil_iff]
          simp
      _ ↔ ∀ visit ∈ parameters.reached, visit.2.PatternUsable :=
          FlatParameters.unusablePatterns_eq_nil_iff
  · intro error
    cases hpatterns : parameters.unusablePatterns with
    | nil =>
      rw [hpatterns] at hdegradations
      rw [hmirrors.same v hv hdegradations]
      simp
    | cons pattern rest =>
      obtain ⟨path, source⟩ := pattern
      rw [hpatterns] at hdegradations
      rw [hmirrors.first v _ _ _ hv hdegradations]
      simp [eq_comm]

/-- A registration. The patterns of the phone number and of the tags are none. Those of the age and
of the role do not count, as a number and a string with members have no pattern. -/
def registration : FlatParameters where
  properties := [
    ("age", { type := "number", rules := some { pattern := some "(" } }),
    ("role", {
      type := "string", members := some ["guest", "host"], rules := some { pattern := some "[" } }),
    ("contact", { type := "object", properties := some [
      ("mail", { type := "email" }),
      ("phone", { type := "string", rules := some { pattern := some "(" } })] }),
    ("tags", { type := "array", items := some {
      type := "string", rules := some { pattern := some "[" } } })]

/-- A strict compiler stops at the phone number. -/
theorem compileFlat_registration :
    (∃ v, ((Compiler.withStrict {} false).compileFlat registration).outcome = .ok v) ∧
      ((Compiler.withStrict {} false).compileFlat registration).events =
        [.degraded ((FieldPath.root.key "contact").key "phone") (.unusablePattern "("),
          .degraded ((FieldPath.root.key "tags").index 0) (.unusablePattern "["),
          .compiled "parameters" .object .flat] ∧
      ((Compiler.withStrict {} true).compileFlat registration).outcome = .error
        (.malformed ((FieldPath.root.key "contact").key "phone") (.unusablePattern "(")) := by
  have hnames : registration.NamesDistinct := by
    refine ⟨by decide, ?_⟩
    simp only [registration, List.forall_mem_cons]
    refine ⟨.of_isNone rfl rfl, .of_isNone rfl rfl, ?_, ?_, List.forall_mem_nil _⟩
    · refine .intro (by decide) ?_ (by simp)
      simp only [Option.getD_some, List.forall_mem_cons]
      exact ⟨.of_isNone rfl rfl, .of_isNone rfl rfl, List.forall_mem_nil _⟩
    · refine .intro List.nodup_nil (List.forall_mem_nil _) ?_
      rintro _ ⟨⟩
      exact .of_isNone rfl rfl
  have hpatterns : registration.unusablePatterns =
      [((FieldPath.root.key "contact").key "phone", "("),
        ((FieldPath.root.key "tags").index 0, "[")] := by
    decide +kernel
  obtain ⟨hok, hevents, -, hfails⟩ := compileFlat_fails_only_on_patterns {} hnames
  rw [hpatterns] at hevents
  exact ⟨hok, hevents, (hfails _).mpr ⟨_, _, _, hpatterns, rfl⟩⟩

end Compiler

end ToolSchema
