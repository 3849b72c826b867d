import ToolSchema.Command.Run
import ToolSchema.Proofs.Documents
import Mathlib

/-!
# The exit code of validation

Validating reads a schema file and then one file of arguments after the other. A rejected document
is counted and the command goes on; a file that cannot be had ends it. Still the exit code tells
exactly whether the schema gave a tool and the tool accepted the arguments in every file, and the
printed text has an entry for every file up to the first one that could not be had. Files are only
read, so nothing else of the file system matters than what reading gives.
-/

namespace ToolSchema.Command

/-- Reading files in a state gives certain contents, and leaves the state as it is. -/
def ReadsAs {σ : Type} (files : FileAccess (StateM σ)) (state : σ)
    (contents : String → Except FileError String) : Prop :=
  ∀ path, (files.read path).run state = (contents path, state)

/-- A tree in memory is read as it is. -/
theorem FileTree.readsAs_access (tree : FileTree) : ReadsAs access tree tree.read :=
  fun _ ↦ rfl

/-! ## What a command needs -/

/-- The file at a path holds a schema that loads and compiles into a tool. -/
def HoldsTool (contents : String → Except FileError String) (options : CompileOptions)
    (path : String) (tool : CallableTool) : Prop :=
  ∃ text document, contents path = .ok text ∧ SchemaDocument.load text = .ok document ∧
    (document.toCallableTool { options := options }).outcome = .ok tool

/-- The file at a path can be read, is one document, and has arguments at the pointer. -/
def HoldsArguments (contents : String → Except FileError String) (pointer : Option String)
    (path : String) (arguments : Json) : Prop :=
  ∃ text document, contents path = .ok text ∧ Json.parse (.ofString text) = .ok document ∧
    (match pointer with
      | none => some document
      | some p => document.select? p) = some arguments

section Contents

variable {contents : String → Except FileError String} {options : CompileOptions}
  {pointer : Option String} {path : String}

def loadTool (contents : String → Except FileError String) (options : CompileOptions)
    (path : String) : Except Failure CallableTool :=
  documentOf path (contents path) >>= toolOf options

theorem loadTool_eq_ok_iff {tool : CallableTool} :
    loadTool contents options path = .ok tool ↔ HoldsTool contents options path tool := by
  simp only [loadTool, documentOf, toolOf, HoldsTool, Outcome.bind_eq_ok, Outcome.mapError_eq_ok]
  constructor
  · rintro ⟨document, ⟨text, htext, hload⟩, htool⟩
    exact ⟨text, document, htext, hload, htool⟩
  · rintro ⟨text, document, htext, hload, htool⟩
    exact ⟨document, ⟨text, htext, hload⟩, htool⟩

theorem argumentsOf_eq_ok_iff {arguments : Json} :
    argumentsOf pointer path (contents path) = .ok arguments ↔
      HoldsArguments contents pointer path arguments := by
  simp only [argumentsOf, HoldsArguments, Outcome.bind_eq_ok, Outcome.mapError_eq_ok]
  cases pointer with
  | none => simp
  | some p =>
    constructor
    · rintro ⟨text, htext, document, hdocument, hselected⟩
      refine ⟨text, document, htext, hdocument, ?_⟩
      dsimp only at hselected ⊢
      split at hselected
      · next selected hselect => rw [hselect, Except.ok.inj hselected]
      · cases hselected
    · rintro ⟨text, document, htext, hdocument, hselect⟩
      refine ⟨text, htext, document, hdocument, ?_⟩
      dsimp only at hselect ⊢
      rw [hselect]

theorem argumentsOf_eq_error
    (h : ¬ ∃ arguments, HoldsArguments contents pointer path arguments) :
    ∃ failure, argumentsOf pointer path (contents path) = .error failure := by
  cases hresult : argumentsOf pointer path (contents path) with
  | error failure => exact ⟨failure, rfl⟩
  | ok arguments => exact absurd ⟨arguments, argumentsOf_eq_ok_iff.mp hresult⟩ h

end Contents

/-! ## Reports -/

/-- What is printed about a document: a tick if the tool accepts it, and otherwise a cross and an
indented line for every issue, in the order of the issues. -/
inductive IsEntry (tool : CallableTool) (path : String) (document : Json) : String → Prop where
  | tick (haccepts : tool.validator.accepts document) :
    IsEntry tool path document ("✅ " ++ path ++ "\n")
  | cross (issues : List Issue) (hissues : tool.validator.validate document = .error ⟨issues⟩) :
    IsEntry tool path document
      ("❌ " ++ path ++ "\n" ++
        String.join (issues.map fun issue ↦ "    " ++ issue.render ++ "\n"))

theorem isEntry_verdict (tool : CallableTool) (path : String) (document : Json) :
    IsEntry tool path document (verdict tool path document) := by
  unfold verdict
  cases hresult : tool.validator.validate document with
  | ok value =>
    apply IsEntry.tick
    rw [Validator.accepts, hresult]
    rfl
  | error rejection => exact .cross rejection.issues hresult

theorem exitCode_reportVerdicts (tool : CallableTool) (rejected : Nat)
    (documents : List (String × Except Failure Json)) :
    (reportVerdicts tool rejected documents).exitCode = 0 ∨
      (reportVerdicts tool rejected documents).exitCode = 1 := by
  induction documents generalizing rejected with
  | nil =>
    rw [reportVerdicts]
    split
    · exact .inl rfl
    · exact .inr rfl
  | cons entry rest ih =>
    obtain ⟨path, result⟩ := entry
    cases result with
    | error failure => exact .inr rfl
    | ok document => exact ih _

/-- A report has the exit code zero exactly if no document was rejected before and every document is
there and accepted. -/
theorem exitCode_reportVerdicts_eq_zero_iff (tool : CallableTool) (rejected : Nat)
    (documents : List (String × Except Failure Json)) :
    (reportVerdicts tool rejected documents).exitCode = 0 ↔
      rejected = 0 ∧
        ∀ entry ∈ documents, ∃ document, entry.2 = .ok document ∧
          tool.validator.accepts document := by
  induction documents generalizing rejected with
  | nil =>
    rw [reportVerdicts]
    split
    · next hzero => simp [hzero]
    · next hrejected => simp [hrejected]
  | cons entry rest ih =>
    obtain ⟨path, result⟩ := entry
    cases result with
    | error failure => simp [reportVerdicts, Report.ofFailure]
    | ok document =>
      rw [reportVerdicts, List.forall_mem_cons]
      dsimp only
      rw [ih]
      cases haccepts : tool.validator.accepts document <;> simp [haccepts]

/-- What is printed: the verdicts on the documents up to the first one that is not there. -/
theorem printed_reportVerdicts (tool : CallableTool) (rejected : Nat)
    {front : List (String × Json)} {rest : List (String × Except Failure Json)}
    (hrest : ∀ entry ∈ rest.head?, ∃ failure, entry.2 = .error failure) :
    (reportVerdicts tool rejected
        (front.map (fun entry ↦ (entry.1, .ok entry.2)) ++ rest)).printed =
      String.join (front.map fun entry ↦ verdict tool entry.1 entry.2) := by
  induction front generalizing rejected with
  | nil =>
    cases rest with
    | nil =>
      show (reportVerdicts tool rejected []).printed = ""
      rw [reportVerdicts]
      split <;> rfl
    | cons entry rest =>
      obtain ⟨path, result⟩ := entry
      obtain ⟨failure, rfl⟩ : ∃ failure, result = .error failure := hrest _ rfl
      rfl
  | cons entry front ih =>
    rw [List.map_cons, List.map_cons, List.cons_append, reportVerdicts, String.join_cons, ih]

/-! ## Running -/

section Runs

variable {σ : Type} {files : FileAccess (StateM σ)} {state : σ}
  {contents : String → Except FileError String}

/-- A sequence goes on from what its first step gives. -/
theorem run_bind_of_run {α β : Type} {first : StateM σ α} {next : α → StateM σ β} {value : α}
    (h : first.run state = (value, state)) :
    (first >>= next).run state = (next value).run state := by
  rw [StateT.run_bind, h]
  rfl

/-- What cannot fail is an attempt that succeeds. -/
theorem run_liftM {α : Type} {action : StateM σ α} {value : α}
    (h : action.run state = (value, state)) :
    (liftM action : Attempt (StateM σ) α).run.run state = (.ok value, state) := by
  show (Except.ok <$> action).run state = (.ok value, state)
  rw [StateT.run_map, h]
  rfl

/-- An attempt goes on from what its first step gives. -/
theorem run_attempt_of_ok {α β : Type} {first : Attempt (StateM σ) α}
    {next : α → Attempt (StateM σ) β} {value : α}
    (h : first.run.run state = (.ok value, state)) :
    (first >>= next).run.run state = (next value).run.run state := by
  rw [ExceptT.run_bind, run_bind_of_run h]

/-- An attempt fails if its first step does. -/
theorem run_attempt_of_error {α β : Type} {first : Attempt (StateM σ) α}
    {next : α → Attempt (StateM σ) β} {failure : Failure}
    (h : first.run.run state = (.error failure, state)) :
    (first >>= next).run.run state = (.error failure, state) := by
  rw [ExceptT.run_bind, run_bind_of_run h]
  rfl

/-- Inputs that are no globs stand for themselves. -/
theorem allInputPaths_of_literal {inputs : List String}
    (hliteral : ∀ input ∈ inputs, Glob.isGlob input = false) :
    allInputPaths files inputs = pure inputs := by
  have hpaths : inputs.mapM (inputPaths files) =
      (pure (inputs.map fun input ↦ [input]) : Attempt (StateM σ) _) := by
    induction inputs with
    | nil => rfl
    | cons input rest ih =>
      rw [List.forall_mem_cons] at hliteral
      have hinput : inputPaths files input = pure [input] := by
        rw [inputPaths, hliteral.1]
        rfl
      rw [List.mapM_cons, hinput, pure_bind, ih hliteral.2, pure_bind, List.map_cons]
  have hflatten : (inputs.map fun input ↦ [input]).flatten = inputs := by
    rw [← List.flatMap_def, List.flatMap_singleton']
  rw [allInputPaths, hpaths, pure_bind, hflatten]

/-- Reading a tool leaves the file system as it is. -/
theorem run_readTool (h : ReadsAs files state contents) (options : CompileOptions)
    (path : String) :
    (readTool files options path).run.run state = (loadTool contents options path, state) := by
  have hdocument : (readDocument files path).run.run state =
      (documentOf path (contents path), state) := run_bind_of_run (h path)
  rw [readTool, loadTool]
  cases hresult : documentOf path (contents path) with
  | error failure =>
    rw [hresult] at hdocument
    exact run_attempt_of_error hdocument
  | ok document =>
    rw [hresult] at hdocument
    rw [run_attempt_of_ok hdocument]
    show _ = (toolOf options document, state)
    cases toolOf options document <;> rfl

theorem run_readArguments (h : ReadsAs files state contents) (pointer : Option String)
    (paths : List String) :
    (readArguments files pointer paths).run state =
      (paths.map fun path ↦ (path, argumentsOf pointer path (contents path)), state) := by
  induction paths with
  | nil => rfl
  | cons path rest ih =>
    have hpath : (do return (path, argumentsOf pointer path (← files.read path)) :
        StateM σ (String × Except Failure Json)).run state =
          ((path, argumentsOf pointer path (contents path)), state) := by
      rw [run_bind_of_run (h path)]
      rfl
    rw [readArguments] at ih ⊢
    rw [List.mapM_cons, run_bind_of_run hpath, run_bind_of_run ih]
    rfl

/-- The report of a validation in a file system whose files are only read. -/
def validationReport (contents : String → Except FileError String) (options : CompileOptions)
    (schema : String) (pointer : Option String) (inputs : List String) : Report :=
  match loadTool contents options schema with
  | .error failure => .ofFailure failure
  | .ok tool =>
    reportVerdicts tool 0
      (inputs.map fun path ↦ (path, argumentsOf pointer path (contents path)))

/-- The report of a validation depends on the contents of the files alone. -/
theorem run_validate (h : ReadsAs files state contents) {settings : Settings}
    {environment : String → Option String} {options : CompileOptions}
    (hsettings : settings.options environment = .ok options) {inputs : List String}
    (hliteral : ∀ input ∈ inputs, Glob.isGlob input = false) (schema : String)
    (pointer : Option String) :
    (run files environment (.validate schema pointer inputs settings)).run state =
      (validationReport contents options schema pointer inputs, state) := by
  have hattempt : (attempt files environment (.validate schema pointer inputs settings)).run.run
      state = ((loadTool contents options schema).map fun tool ↦ reportVerdicts tool 0
        (inputs.map fun path ↦ (path, argumentsOf pointer path (contents path))), state) := by
    have htool := run_readTool h options schema
    have hoptions : (liftM (settings.options environment) :
        Attempt (StateM σ) CompileOptions).run.run state = (.ok options, state) := by
      rw [hsettings]
      rfl
    have hpaths : (allInputPaths files inputs).run.run state = (.ok inputs, state) := by
      rw [allInputPaths_of_literal hliteral]
      rfl
    have harguments : (liftM (readArguments files pointer inputs) :
        Attempt (StateM σ) _).run.run state = (.ok (inputs.map fun path ↦
          (path, argumentsOf pointer path (contents path))), state) :=
      run_liftM (run_readArguments h pointer inputs)
    rw [attempt]
    rw [run_attempt_of_ok hoptions]
    cases hresult : loadTool contents options schema with
    | error failure =>
      rw [hresult] at htool
      exact run_attempt_of_error htool
    | ok tool =>
      rw [hresult] at htool
      rw [run_attempt_of_ok htool, run_attempt_of_ok hpaths]
      exact run_attempt_of_ok harguments
  rw [run, run_bind_of_run hattempt, validationReport]
  cases loadTool contents options schema <;> rfl

end Runs

/-! ## The gate -/

/-- Inputs are split before the first one that holds no arguments. The ones in front come with the
arguments that they hold. -/
structure SplitsInto (contents : String → Except FileError String) (pointer : Option String)
    (inputs : List String) (front : List (String × Json)) (rest : List String) : Prop where
  inputs_eq : inputs = front.map Prod.fst ++ rest
  holdsArguments : ∀ entry ∈ front, HoldsArguments contents pointer entry.1 entry.2
  stops : ∀ input ∈ rest.head?, ¬ ∃ arguments, HoldsArguments contents pointer input arguments

theorem exists_splitsInto (contents : String → Except FileError String) (pointer : Option String)
    (inputs : List String) : ∃ front rest, SplitsInto contents pointer inputs front rest := by
  induction inputs with
  | nil => exact ⟨[], [], rfl, List.forall_mem_nil _, by simp⟩
  | cons input rest ih =>
    by_cases hinput : ∃ arguments, HoldsArguments contents pointer input arguments
    · obtain ⟨arguments, harguments⟩ := hinput
      obtain ⟨front, others, h⟩ := ih
      refine ⟨(input, arguments) :: front, others, ?_, ?_, h.stops⟩
      · rw [h.inputs_eq, List.map_cons, List.cons_append]
      · exact List.forall_mem_cons.mpr ⟨harguments, h.holdsArguments⟩
    · exact ⟨[], input :: rest, rfl, List.forall_mem_nil _, by simpa using hinput⟩

/-- What was read from inputs that are split. -/
theorem SplitsInto.map_argumentsOf {contents : String → Except FileError String}
    {pointer : Option String} {inputs rest : List String} {front : List (String × Json)}
    (h : SplitsInto contents pointer inputs front rest) :
    (inputs.map fun path ↦ (path, argumentsOf pointer path (contents path))) =
      front.map (fun entry ↦ (entry.1, .ok entry.2)) ++
        rest.map fun path ↦ (path, argumentsOf pointer path (contents path)) := by
  rw [h.inputs_eq, List.map_append, List.map_map, List.append_cancel_right_eq]
  apply List.map_congr_left
  intro entry hentry
  rw [Function.comp_apply, argumentsOf_eq_ok_iff.mpr (h.holdsArguments entry hentry)]

/-- The exit code of a validation is zero if and only if the schema file holds a tool, and every
input holds arguments that the tool accepts; otherwise it is one. Without a tool nothing is printed.
With one an entry is printed for every input, in their order, up to the first one that holds no
arguments: a tick if the tool accepts that input, and otherwise a cross and its issues. -/
theorem validate_exits_zero_iff {σ : Type} {files : FileAccess (StateM σ)} {state : σ}
    {contents : String → Except FileError String} (hreads : ReadsAs files state contents)
    {settings : Settings} {environment : String → Option String} {options : CompileOptions}
    (hsettings : settings.options environment = .ok options) {inputs : List String}
    (hliteral : ∀ input ∈ inputs, Glob.isGlob input = false) (schema : String)
    (pointer : Option String) :
    ∃ report, (run files environment (.validate schema pointer inputs settings)).run state =
        (report, state) ∧
      (report.exitCode = 0 ↔ ∃ tool, HoldsTool contents options schema tool ∧
        ∀ input ∈ inputs, ∃ arguments, HoldsArguments contents pointer input arguments ∧
          tool.validator.accepts arguments) ∧
      (report.exitCode = 0 ∨ report.exitCode = 1) ∧
      ((¬ ∃ tool, HoldsTool contents options schema tool) → report.printed = "") ∧
      (∃ front rest, SplitsInto contents pointer inputs front rest) ∧
      ∀ tool, HoldsTool contents options schema tool →
        ∀ front rest, SplitsInto contents pointer inputs front rest →
          report.printed = String.join (front.map fun entry ↦ verdict tool entry.1 entry.2) ∧
          ∀ entry ∈ front, IsEntry tool entry.1 entry.2 (verdict tool entry.1 entry.2) := by
  refine ⟨_, run_validate hreads hsettings hliteral schema pointer, ?_⟩
  have hsplits := exists_splitsInto contents pointer inputs
  unfold validationReport
  cases htool : loadTool contents options schema with
  | error failure =>
    have hnone : ∀ tool, ¬ HoldsTool contents options schema tool := by
      intro tool hholds
      rw [← loadTool_eq_ok_iff, htool] at hholds
      cases hholds
    simp [hnone, hsplits, Report.ofFailure]
  | ok tool =>
    have hunique : ∀ other, HoldsTool contents options schema other ↔ other = tool := by
      intro other
      rw [← loadTool_eq_ok_iff, htool]
      simp [eq_comm]
    refine ⟨?_, exitCode_reportVerdicts tool 0 _, ?_, hsplits, ?_⟩
    · dsimp only
      rw [exitCode_reportVerdicts_eq_zero_iff]
      simp [hunique, argumentsOf_eq_ok_iff]
    · intro hnone
      exact absurd ⟨tool, (hunique tool).mpr rfl⟩ hnone
    · intro other hother front rest hsplit
      obtain rfl := (hunique other).mp hother
      refine ⟨?_, fun entry _ ↦ isEntry_verdict other entry.1 entry.2⟩
      dsimp only
      rw [hsplit.map_argumentsOf]
      apply printed_reportVerdicts
      intro entry hentry
      rw [List.head?_map] at hentry
      obtain ⟨input, hinput, rfl⟩ := Option.map_eq_some_iff.mp hentry
      exact argumentsOf_eq_error (hsplit.stops input hinput)

/-- A schema of lists of texts, and two lists of which the second one holds two numbers. -/
def desk : FileTree :=
  .directory [
    ("schema", .file "\x7b\"type\":\"array\",\"children\":[\x7b\"type\":\"string\"\x7d]\x7d"),
    ("a", .file "[\"x\"]"), ("b", .file "[1,\"y\",2]")]

/-- Validating three files of which the last one is not there. The second one has two issues. -/
theorem validate_desk :
    ∃ report, (run FileTree.access (fun _ ↦ none)
        (.validate "schema" none ["a", "b", "c"] {})).run desk = (report, desk) ∧
      report.exitCode = 1 ∧
      report.printed =
        "✅ a\n" ++
        "❌ b\n    [0]: expected string, received number\n" ++
        "    [2]: expected string, received number\n" := by
  have hsettings : Settings.options {} (fun _ ↦ none) = .ok {} := by rfl
  have hliteral : ∀ input ∈ ["a", "b", "c"], Glob.isGlob input = false := by decide
  let lists : Field := { kind := .array, children := some [{ kind := .string }] }
  have htool : HoldsTool desk.read {} "schema" ⟨"", "", lists, .array .string⟩ := by
    refine ⟨_, .params (.field lists), rfl, by cbv, by rfl⟩
  have hsplit : SplitsInto desk.read none ["a", "b", "c"]
      [("a", .array [.string "x"]), ("b", .array [.ofInt 1, .string "y", .ofInt 2])] ["c"] := by
    refine ⟨rfl, ?_, ?_⟩
    · rw [List.forall_mem_cons, List.forall_mem_singleton]
      exact ⟨⟨_, _, rfl, by cbv, rfl⟩, ⟨_, _, rfl, by cbv, rfl⟩⟩
    · rintro input ⟨⟩ ⟨arguments, text, document, htext, -⟩
      cases htext
  obtain ⟨report, hrun, hzero, hcode, -, -, hprinted⟩ := validate_exits_zero_iff
    (FileTree.readsAs_access desk) hsettings hliteral "schema" none
  refine ⟨report, hrun, hcode.resolve_left ?_, ?_⟩
  · rw [hzero]
    rintro ⟨tool, -, hall⟩
    obtain ⟨arguments, harguments, -⟩ := hall "c" (by simp)
    exact hsplit.stops "c" rfl ⟨arguments, harguments⟩
  · rw [(hprinted _ htool _ _ hsplit).1]
    rfl

end ToolSchema.Command
