import ToolSchema.Proofs.Defaults

/-!
# Fields that need not be there

That a field is not required changes what becomes of a missing value, and nothing else. The flag is
laid over the validator of a field first, and no later rule looks at it: the same field compiles,
or fails with the same error, the same default is kept, and a value that is there gets the same
verdict. So in an object that lacks the field one issue goes away, and all others stay in their
places.
-/

namespace ToolSchema

/-- The field, but not required. It gets rules if it had none. -/
def Field.relaxed (field : Field) : Field :=
  { field with rules := some { field.rules.getD {} with required := some false } }

/-! ## Compiling with a change of the result -/

namespace Compiled

variable {α β γ δ : Type}

/-- A compilation with its value changed. -/
def map (change : α → β) (compiled : Compiled α) : Compiled β :=
  ⟨compiled.events, compiled.outcome.map change⟩

@[simp]
theorem map_pure (change : α → β) (value : α) : (pure value : Compiled α).map change =
    pure (change value) := rfl

theorem map_bind (change : β → γ) (first : Compiled α) (next : α → Compiled β) :
    (first >>= next).map change = first >>= fun value ↦ (next value).map change := by
  obtain ⟨events, outcome⟩ := first
  cases outcome <;> rfl

/-- A change of the first value is passed on if the next step passes it on. -/
theorem bind_map {change : α → γ} {later : β → δ} {first : Compiled α} {next : α → Compiled β}
    {other : γ → Compiled δ} (h : ∀ value, other (change value) = (next value).map later) :
    first.map change >>= other = (first >>= next).map later := by
  obtain ⟨events, outcome⟩ := first
  cases outcome with
  | error error => rfl
  | ok value =>
    show Compiled.mk (events ++ (other (change value)).events) _ = _
    rw [h]
    rfl

end Compiled

namespace Validator

variable {v : Validator}

/-! ## Optional validators -/

@[simp]
theorem judge_makeOptional_some (v : Validator) (value : Json) :
    v.makeOptional.judge (some value) = v.judge (some value) := by
  rw [judge_some, judge_some]
  rfl

/-- A value that is there is validated as before. -/
@[simp]
theorem validate_makeOptional (v : Validator) (value : Json) :
    v.makeOptional.validate value = v.validate value := by
  rw [validate_eq, validate_eq, judge_makeOptional_some]

theorem DefaultPasses.makeOptional (h : v.DefaultPasses) : v.makeOptional.DefaultPasses := by
  intro default hdefault
  have haccepts := h default hdefault
  rwa [accepts, validate_makeOptional]

end Validator

namespace Compiler

open Compiled Validator

variable {compiler : Compiler} {coerce : Bool} {path : FieldPath}

theorem addCheck_makeOptional {α : Type} (check : α → Check) (bound : Option α) (v : Validator) :
    addCheck check bound v.makeOptional = (addCheck check bound v).makeOptional := by
  cases bound <;> rfl

theorem addPattern_makeOptional (source? : Option String) (v : Validator) :
    compiler.addPattern path source? v.makeOptional =
      (compiler.addPattern path source? v).map makeOptional := by
  unfold addPattern
  cases source? with
  | none => rfl
  | some source =>
    dsimp only
    cases Pattern.ofSource? source with
    | some pattern => rfl
    | none =>
      rw [map_bind]
      rfl

/-- Whether the value may be missing makes no difference to its checks. -/
theorem addChecks_makeOptional (kind : FieldKind) (rules : Rules) (v : Validator) :
    compiler.addChecks path kind rules v.makeOptional =
      (compiler.addChecks path kind rules v).map makeOptional := by
  unfold addChecks
  split
  · rw [addCheck_makeOptional, addCheck_makeOptional, map_pure]
  · rw [addCheck_makeOptional, addCheck_makeOptional, addPattern_makeOptional]
  · rfl

theorem addCustom_makeOptional (rules : Rules) (v : Validator) :
    compiler.addCustom path rules v.makeOptional =
      (compiler.addCustom path rules v).map makeOptional := by
  unfold addCustom
  cases rules.custom? with
  | none => rfl
  | some name =>
    dsimp only
    cases compiler.predicates.get? name <;> rfl

/-- Whether a default is kept does not depend on whether it is needed. -/
theorem addDefault_makeOptional (rules : Rules) (v : Validator) :
    compiler.addDefault path rules v.makeOptional =
      (compiler.addDefault path rules v).map makeOptional := by
  unfold addDefault
  cases rules.default with
  | none => rfl
  | some value =>
    dsimp only
    rw [validate_makeOptional]
    cases v.validate value with
    | ok _ => rfl
    | error rejection =>
      dsimp only
      rw [map_bind]
      rfl

theorem addDescription_makeOptional (description : Option String) (v : Validator) :
    addDescription description v.makeOptional = (addDescription description v).makeOptional := by
  cases description <;> rfl

/-- A field without rules is compiled like one whose rules say nothing. -/
theorem addRules_none (kind : FieldKind) (description : Option String) (v : Validator) :
    compiler.addRules path kind none description v =
      compiler.addRules path kind (some {}) description v := by
  cases kind <;> rfl

theorem addRules_not_required (kind : FieldKind) (rules : Rules) (description : Option String)
    (v : Validator) :
    compiler.addRules path kind (some { rules with required := some false }) description v =
      (compiler.addRules path kind (some rules) description v).map makeOptional := by
  have hstart : v.makeOptional =
      (if rules.isRequired then v else v.makeOptional).makeOptional := by
    split <;> rfl
  show compiler.addChecks path kind rules v.makeOptional >>= _ = _
  rw [hstart, addChecks_makeOptional]
  -- Every step passes on that the validator is optional.
  refine bind_map fun checked ↦ ?_
  show compiler.addCustom path rules checked.makeOptional >>= _ = _
  rw [addCustom_makeOptional]
  refine bind_map fun refined ↦ ?_
  show compiler.addDefault path rules refined.makeOptional >>= _ = _
  rw [addDefault_makeOptional]
  refine bind_map fun defaulted ↦ ?_
  rw [addDescription_makeOptional, map_pure]

theorem addRules_relaxed (kind : FieldKind) (rules? : Option Rules) (description : Option String)
    (v : Validator) :
    compiler.addRules path kind (some { rules?.getD {} with required := some false }) description
        v = (compiler.addRules path kind rules? description v).map makeOptional := by
  rw [addRules_not_required]
  cases rules? with
  | none => rw [addRules_none, Option.getD_none]
  | some rules => rfl

/-- A field that is not required is compiled as it would be otherwise, and made optional. -/
theorem compileAt_relaxed (field : Field) :
    compiler.compileAt coerce path field.relaxed =
      (compiler.compileAt coerce path field).map makeOptional := by
  rw [compileAt_eq, compileAt_eq, map_bind]
  apply congrArg
  funext base
  exact addRules_relaxed field.kind field.rules field.description base

/-- Relaxing a field makes its validator optional. Errors and warnings stay the same. -/
theorem compileShaped_relaxed (shape : Shape) (field : Field) :
    compiler.compileShaped shape field.relaxed =
      (compiler.compileShaped shape field).map makeOptional := by
  rw [compileShaped, compileShaped, compileAt_relaxed]
  exact bind_map fun v ↦ rfl

end Compiler

namespace Validator

variable {v : Validator} {front back : List (String × Validator)} {policy : UnknownKeys}
  {key : String} {part : Validator} {members : List (String × Json)}

/-! ## Objects with an optional field -/

/-- All that can be found in a missing value is that it is missing. -/
theorem DefaultPasses.found_none_eq (h : v.DefaultPasses) :
    v.found none = if v.acceptsMissing then [] else [⟨.root, .missing⟩] := by
  cases hdefault : v.default with
  | some default => simp [h.found_none hdefault, acceptsMissing, hdefault]
  | none =>
    rw [found_eq, judge_none, hdefault, acceptsMissing, hdefault]
    cases v.optional <;> rfl

/-- A missing value passes wherever it is optional. -/
theorem DefaultPasses.validateOptional_none_makeOptional (h : v.DefaultPasses) :
    ∃ out?, v.makeOptional.validateOptional none = .ok out? :=
  h.makeOptional.acceptsMissing_iff.mp rfl

/-- In a value without checks and refinements of its own, the issues are those in its parts. -/
theorem found_eq_foundAlong (hchecks : v.checks = []) (hrefinements : v.refinements = [])
    (value : Json) : v.found (some value) = foundAlong v.kind value := by
  by_cases h : foundAlong v.kind value = []
  · obtain ⟨parsed, -, hfound⟩ := found_of_foundAlong_eq_nil h
    rw [hfound, h, hchecks, hrefinements]
    rfl
  · exact found_of_foundAlong_ne_nil h

theorem foundInFields_append (front back : List (String × Validator))
    (members : List (String × Json)) :
    foundInFields (front ++ back) members =
      foundInFields front members ++ foundInFields back members :=
  List.flatMap_append

theorem foundInFields_cons (key : String) (part : Validator) (rest : List (String × Validator))
    (members : List (String × Json)) :
    foundInFields ((key, part) :: rest) members =
      (part.found (lookup key members)).map (Issue.under ⟨[.key key]⟩) ++
        foundInFields rest members :=
  List.flatMap_cons

/-- Fields under other keys do not find that a key is missing. -/
theorem lacking_notMem_foundInFields {fields : List (String × Validator)} (h : key ∉ keys fields)
    (members : List (String × Json)) : Issue.lacking key ∉ foundInFields fields members := by
  intro hmem
  obtain ⟨⟨name, field⟩, hfield, hissue⟩ := List.mem_flatMap.mp hmem
  obtain ⟨issue, -, hunder⟩ := List.mem_map.mp hissue
  have hsteps : Segment.key name :: issue.path.segments = [.key key] :=
    congrArg (fun issue ↦ issue.path.segments) hunder
  obtain ⟨hname, -⟩ := List.cons.inj hsteps
  obtain rfl := Segment.key.inj hname
  exact h (List.mem_map_of_mem hfield)

/-- An object that has the key gets the same verdict. -/
theorem judgeKind_object_makeOptional (hkey : key ∈ keys members) :
    judgeKind (.object (front ++ (key, part.makeOptional) :: back) policy) (.object members) =
      judgeKind (.object (front ++ (key, part) :: back) policy) (.object members) := by
  obtain ⟨value, hvalue⟩ := Option.isSome_iff_exists.mp (lookup_isSome_iff.mpr hkey)
  simp only [judgeKind, judgeFields_eq_map, List.map_append, List.map_cons, hvalue,
    judge_makeOptional_some]

/-- In an object that lacks the key, the issue that it is missing goes away, if it was there. -/
theorem foundAlong_object_makeOptional
    (hdistinct : (keys (front ++ (key, part) :: back)).Nodup) (hpasses : part.DefaultPasses)
    (hlacks : key ∉ keys members) :
    let issues := foundAlong (.object (front ++ (key, part) :: back) policy) (.object members)
    issues.count (.lacking key) ≤ 1 ∧
      foundAlong (.object (front ++ (key, part.makeOptional) :: back) policy) (.object members) =
        issues.erase (.lacking key) := by
  have hkeys : keys (front ++ (key, part.makeOptional) :: back) =
      keys (front ++ (key, part) :: back) := by simp
  rw [keys_append, keys_cons, List.nodup_middle, List.nodup_cons, List.mem_append, not_or]
    at hdistinct
  obtain ⟨⟨hfront, hback⟩, -⟩ := hdistinct
  rw [foundAlong_object, foundAlong_object, hkeys]
  generalize hothers : policy.issues (undeclared _ members) = others
  have hbefore : Issue.lacking key ∉ foundInFields front members :=
    lacking_notMem_foundInFields hfront members
  have hafter : Issue.lacking key ∉ foundInFields back members ++ others := by
    rw [List.mem_append, not_or, ← hothers]
    exact ⟨lacking_notMem_foundInFields hback members, lacking_notMem_unknown _ _ _⟩
  have hmissing : lookup key members = none := lookup_eq_none_iff.mpr hlacks
  have hloose : part.makeOptional.found none = [] := by
    rw [hpasses.makeOptional.found_none_eq]
    rfl
  simp only [foundInFields_append, foundInFields_cons, hmissing, hloose, List.map_nil,
    List.nil_append, List.append_assoc, hpasses.found_none_eq]
  cases part.acceptsMissing with
  | true =>
    have hnone : Issue.lacking key ∉
        foundInFields front members ++ (foundInFields back members ++ others) := by
      rw [List.mem_append, not_or]
      exact ⟨hbefore, hafter⟩
    simp [List.count_eq_zero_of_not_mem hnone, List.erase_of_not_mem hnone]
  | false =>
    have hunder : Issue.under ⟨[.key key]⟩ ⟨.root, .missing⟩ = .lacking key := rfl
    simp only [Bool.false_eq_true, if_false, List.map_singleton, hunder, List.singleton_append]
    constructor
    · simp [List.count_append, List.count_eq_zero_of_not_mem hbefore,
        List.count_eq_zero_of_not_mem hafter]
    · rw [List.erase_append_right _ hbefore, List.erase_cons_head]

end Validator

namespace Field

variable {s : Setting}

/-! ## Compiled fields -/

theorem validator_relaxed (s : Setting) (field : Field) :
    field.relaxed.validator s = (field.validator s).makeOptional := by
  let rules := field.rules.getD {}
  let bare : Validator :=
    { kind := validatorKind s field.members field.kind field.children
      optional := !rules.isRequired
      checks := rules.checks field.kind
      refinements := rules.refinements s.predicates }
  have hchecks : ({ rules with required := some false } : Rules).checks field.kind =
      rules.checks field.kind := by
    cases field.kind <;> rfl
  have haccepts : bare.makeOptional.accepts = bare.accepts := by
    funext value
    rw [Validator.accepts, Validator.accepts, Validator.validate_makeOptional]
  calc field.relaxed.validator s
      = { bare.makeOptional with
          default := rules.default.filter bare.makeOptional.accepts
          description := field.description } := by
        rw [validator_eq]
        simp only [relaxed, ValidatorKind.withRules, Option.getD_some, rules, hchecks]
        rfl
    _ = (field.validator s).makeOptional := by
        rw [haccepts, validator_eq]
        rfl

/-- The fields of an object whose children have distinct names are those of the children. -/
theorem kind_validator_of_distinct (s : Setting) (field : Field) {children : List Field}
    (hkind : field.kind = .object) (hchildren : field.children = some children)
    (hdistinct : (children.map name).Nodup) :
    (field.validator s).kind = .object (named (validator s) children) s.unknownKeys := by
  have hnodup : (keys (named (validator s) children)).Nodup := by rwa [keys_named]
  calc (field.validator s).kind
      = .object (collect (validators s children)) s.unknownKeys := by
        rw [kind_validator, hkind, hchildren, validatorKind]
    _ = .object (named (validator s) children) s.unknownKeys := by
        rw [validators_eq_named, collect_of_nodup hnodup]

theorem checks_validator (s : Setting) (field : Field) :
    (field.validator s).checks = (field.rules.getD {}).checks field.kind := by
  rw [validator_eq]
  rfl

theorem refinements_validator (s : Setting) (field : Field) :
    (field.validator s).refinements = (field.rules.getD {}).refinements s.predicates := by
  rw [validator_eq]
  rfl

/-- An object has no checks of its own, and no refinements unless its rules name one. -/
theorem issues_validator_object (s : Setting) (field : Field) (hkind : field.kind = .object)
    (hcustom : (field.rules.getD {}).custom? = none) (value : Json) :
    (field.validator s).issues value = Validator.foundAlong (field.validator s).kind value := by
  have hchecks : (field.validator s).checks = [] := by
    rw [checks_validator, hkind]
    rfl
  have hrefinements : (field.validator s).refinements = [] := by
    rw [refinements_validator, Rules.refinements, hcustom, Option.bind_none, Option.toList_none]
  rw [Validator.issues_eq, ← Validator.found_eq,
    Validator.found_eq_foundAlong hchecks hrefinements]

variable {node child : Field} {front back : List Field}

/-- An object with one of its children relaxed: where the key is there nothing changes, and where it
is not, the issue that it is missing goes away. -/
theorem validator_relaxed_child (s : Setting) (hkind : node.kind = .object)
    (hchildren : node.children = some (front ++ child :: back)) (hdistinct : node.NamesDistinct)
    (members : List (String × Json)) :
    let v := node.validator s
    let w := { node with children := some (front ++ child.relaxed :: back) }.validator s
    (child.name ∈ keys members → w.validate (.object members) = v.validate (.object members)) ∧
      ((node.rules.getD {}).custom? = none → child.name ∉ keys members →
        (v.issues (.object members)).count (.lacking child.name) ≤ 1 ∧
          w.issues (.object members) =
            (v.issues (.object members)).erase (.lacking child.name)) := by
  let other : Field := { node with children := some (front ++ child.relaxed :: back) }
  let before := named (validator s) front
  let after := named (validator s) back
  have hnames : ((front ++ child :: back).map name).Nodup := by
    simpa [hchildren] using hdistinct hkind
  have hsame : (front ++ child.relaxed :: back).map name = (front ++ child :: back).map name := by
    simp [relaxed]
  have hv : (node.validator s).kind =
      .object (before ++ (child.name, child.validator s) :: after) s.unknownKeys := by
    rw [kind_validator_of_distinct s node hkind hchildren hnames, named, List.map_append]
    rfl
  have hw : (other.validator s).kind =
      .object (before ++ (child.name, (child.validator s).makeOptional) :: after)
        s.unknownKeys := by
    rw [kind_validator_of_distinct s other hkind rfl (by rwa [hsame]), named, List.map_append,
      List.map_cons, validator_relaxed]
    rfl
  have hnodup : (keys (before ++ (child.name, child.validator s) :: after)).Nodup := by
    rwa [← keys_named (validator s), named, List.map_append] at hnames
  constructor
  · intro hkey
    have hjudge : (other.validator s).judge (some (.object members)) =
        (node.validator s).judge (some (.object members)) := by
      rw [Validator.judge_some, Validator.judge_some, hv, hw,
        Validator.judgeKind_object_makeOptional hkey]
      simp only [checks_validator, refinements_validator, other]
    rw [Validator.validate_eq, Validator.validate_eq, hjudge]
  · intro hcustom hlacks
    have hpasses := (child.everywhere_defaultPasses_validator s).here
    rw [issues_validator_object s node hkind hcustom, hv,
      issues_validator_object s other hkind hcustom, hw]
    exact Validator.foundAlong_object_makeOptional hnodup hpasses hlacks

end Field

namespace Compiler

/-- That a field is not required only relaxes absence. It compiles exactly if it did before, and
fails with the same error otherwise; a value that is there is validated as before, and a missing one
never fails. Nor does it disturb the objects that have it as a child: those that give the key are
validated as before, and from the issues of those that lack it the one that it is missing, which is
there at most once, is taken away. -/
theorem relaxed_only_relaxes_absence (compiler : Compiler) (shape : Shape) (field : Field) :
    (∀ error, (compiler.compileShaped shape field.relaxed).outcome = .error error ↔
      (compiler.compileShaped shape field).outcome = .error error) ∧
    (∀ v w, (compiler.compileShaped shape field).outcome = .ok v →
      (compiler.compileShaped shape field.relaxed).outcome = .ok w →
        (∀ value, w.validate value = v.validate value) ∧
          ∃ out?, w.validateOptional none = .ok out?) ∧
    ∀ coerce path (node child : Field) front back v w, node.kind = .object →
      node.children = some (front ++ child :: back) → node.NamesDistinct →
      (node.rules.getD {}).custom? = none →
      (compiler.compileAt coerce path node).Yields v →
      (compiler.compileAt coerce path
        { node with children := some (front ++ child.relaxed :: back) }).Yields w →
      ∀ members,
        (child.name ∈ keys members →
          w.validate (.object members) = v.validate (.object members)) ∧
        (child.name ∉ keys members →
          (v.issues (.object members)).count (.lacking child.name) ≤ 1 ∧
          w.issues (.object members) =
            (v.issues (.object members)).erase (.lacking child.name)) := by
  have houtcome : (compiler.compileShaped shape field.relaxed).outcome =
      (compiler.compileShaped shape field).outcome.map Validator.makeOptional :=
    congrArg Compiled.outcome (compileShaped_relaxed shape field)
  rw [houtcome]
  refine ⟨fun error ↦ ?_, ?_, ?_⟩
  · cases (compiler.compileShaped shape field).outcome <;> simp [Except.map]
  · intro v w hv hw
    rw [hv] at hw
    obtain rfl := Except.ok.inj hw
    obtain rfl := eq_of_yields_compileShaped hv
    refine ⟨Validator.validate_makeOptional _, ?_⟩
    have hpasses := (field.everywhere_defaultPasses_validator
      (compiler.setting (compiler.options.coercion.resolve shape))).here
    exact hpasses.validateOptional_none_makeOptional
  · intro coerce path node child front back v w hkind hchildren hdistinct hcustom hv hw members
    rw [eq_of_yields_compileAt compiler coerce _ hv, eq_of_yields_compileAt compiler coerce _ hw]
    have h := Field.validator_relaxed_child (compiler.setting coerce) hkind hchildren hdistinct
      members
    exact ⟨h.1, h.2 hcustom⟩

/-- The nights of a stay: by default a text, which is a number of nights only if texts are
coerced. -/
def nights : Field :=
  { name := "nights", kind := .number
    rules := some { min := some (.finite (.ofInt 1)), default := some (.string "one") } }

/-- A stay with a guest, some nights and perhaps pets. -/
def stay : Field :=
  { kind := .object
    children := some [{ name := "guest", kind := .string }, nights,
      { name := "pets", kind := .boolean }] }

/-- The default of the nights is dropped, so they are missing from a stay that does not give them.
If they are not required, the other two issues of the stay remain. -/
theorem stay_relaxed_only_relaxes_absence :
    ∃ v w,
      (Compiler.compileAt {} true .root stay).Yields v ∧
      (Compiler.compileAt {} true .root
        { stay with children := some ([{ name := "guest", kind := .string }] ++ nights.relaxed ::
          [{ name := "pets", kind := .boolean }]) }).Yields w ∧
      v.issues (.object [("pets", .ofInt 2)]) =
        [.lacking "guest", .lacking "nights", ⟨⟨[.key "pets"]⟩, .mismatch "boolean" .number⟩] ∧
      w.issues (.object [("pets", .ofInt 2)]) =
        [.lacking "guest", ⟨⟨[.key "pets"]⟩, .mismatch "boolean" .number⟩] := by
  let relaxedStay : Field :=
    { stay with children := some ([{ name := "guest", kind := .string }] ++ nights.relaxed ::
        [{ name := "pets", kind := .boolean }]) }
  have hv : (Compiler.compileAt {} true .root stay).Yields
      (stay.validator (Compiler.setting {} true)) := by rfl
  have hw : (Compiler.compileAt {} true .root relaxedStay).Yields
      (relaxedStay.validator (Compiler.setting {} true)) := by rfl
  have hissues : (stay.validator (Compiler.setting {} true)).issues
      (.object [("pets", .ofInt 2)]) = [.lacking "guest", .lacking "nights",
        ⟨⟨[.key "pets"]⟩, .mismatch "boolean" .number⟩] := by rfl
  obtain ⟨-, -, hchild⟩ := relaxed_only_relaxes_absence {} .field nights
  obtain ⟨-, herase⟩ := hchild true .root stay nights _ _ _ _ rfl rfl (by decide) rfl hv hw
    [("pets", .ofInt 2)]
  refine ⟨_, _, hv, hw, hissues, ?_⟩
  rw [(herase (by decide)).2, hissues]
  decide

end Compiler

end ToolSchema
