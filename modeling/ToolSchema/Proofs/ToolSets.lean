import ToolSchema.Tool.Set
import ToolSchema.Proofs.Compiled
import ToolSchema.Proofs.Table
import Mathlib

/-!
# Tool sets as indexes of their history

A tool set is made by inserting tools one after the other, those of records first. After any such
history it holds under each name the tool that was inserted last, and its names stand in the order
in which they first came. A record is inserted only if it passes its checks and compiles; the first
one that does not is the error.
-/

namespace ToolSchema

/-! ## Records -/

namespace ToolRecord

variable {compiler : Compiler} {record : ToolRecord}

def compiled (compiler : Compiler) (record : ToolRecord) : Compiled Validator :=
  compiler.compileShaped record.parameters.shape record.parameters.schemaField

def Compiles (compiler : Compiler) (record : ToolRecord) : Prop :=
  ∃ v, (record.compiled compiler).outcome = .ok v

/-- Why no tool is made of a record, if so: it does not pass its checks, or does not compile. -/
def failure? (compiler : Compiler) (record : ToolRecord) : Option SchemaError :=
  match record.check with
  | .error rejection => some (.invalidRecord record.name rejection)
  | .ok () =>
    match (record.compiled compiler).outcome with
    | .error error => some error
    | .ok _ => none

theorem failure?_eq_none_iff :
    record.failure? compiler = none ↔ record.check = .ok () ∧ record.Compiles compiler := by
  unfold failure? Compiles
  cases record.check with
  | error rejection => simp
  | ok passed =>
    cases (record.compiled compiler).outcome <;> simp

/-- Either a tool is made of a record, or there is a reason why none is. -/
theorem outcome_toCallableTool (compiler : Compiler) (record : ToolRecord) :
    (∃ tool, (record.toCallableTool compiler).outcome = .ok tool ∧
        record.failure? compiler = none) ∨
      ∃ error, (record.toCallableTool compiler).outcome = .error error ∧
        record.failure? compiler = some error := by
  unfold failure? toCallableTool Compiler.toCallableTool
  cases record.check with
  | error rejection => exact .inr ⟨_, rfl, rfl⟩
  | ok passed =>
    unfold compiled
    cases houtcome :
        (compiler.compileShaped record.parameters.shape record.parameters.schemaField).outcome with
    | error error =>
      refine .inr ⟨error, ?_, rfl⟩
      simp only [Bind.bind, houtcome]
    | ok v =>
      refine .inl ⟨⟨record.name, record.description, record.parameters.schemaField, v⟩, ?_, rfl⟩
      exact Compiled.yields_bind.mpr ⟨v, houtcome, rfl⟩

end ToolRecord

/-- A tool that can be shown: its name is a word of ASCII letters, digits, underscores and hyphens,
and its description is not blank. -/
structure CallableTool.Presentable (tool : CallableTool) : Prop where
  name_ne : tool.name ≠ ""
  name_chars : ∀ c ∈ tool.name.toList,
    ('a' ≤ c ∧ c ≤ 'z') ∨ ('A' ≤ c ∧ c ≤ 'Z') ∨ ('0' ≤ c ∧ c ≤ '9') ∨ c = '_' ∨ c = '-'
  description : ∃ c ∈ tool.description.toList, ¬ Text.isBlank c

/-- A record passes its checks by its name and its description alone. -/
theorem ToolRecord.check_eq_ok_iff {record : ToolRecord} :
    record.check = .ok () ↔
      (¬ Text.isBlankText record.name ∧ ∀ c ∈ record.name.toList, isNameChar c) ∧
        ¬ Text.isBlankText record.description := by
  have hname : nameIssues record.name = [] ↔
      ¬ Text.isBlankText record.name ∧ ∀ c ∈ record.name.toList, isNameChar c := by
    unfold nameIssues
    split
    · next hblank => simp [hblank]
    · next hblank =>
      split
      · next hchars => simpa [hblank] using hchars
      · next hchars => simpa [hblank] using hchars
  have hdescription : descriptionIssues record.description = [] ↔
      ¬ Text.isBlankText record.description := by
    unfold descriptionIssues
    split <;> simp_all
  rw [← hname, ← hdescription, ← List.append_eq_nil_iff, check]
  cases nameIssues record.name ++ descriptionIssues record.description <;> simp

/-- A tool that is made of a record can be shown. -/
theorem ToolRecord.presentable_of_toCallableTool {compiler : Compiler} {record : ToolRecord}
    {tool : CallableTool} (h : (record.toCallableTool compiler).outcome = .ok tool) :
    tool.name = record.name ∧ tool.Presentable := by
  unfold toCallableTool at h
  split at h
  · cases h
  · next hcheck =>
    obtain ⟨v, -, htool⟩ := Compiled.yields_bind.mp h
    obtain rfl := Compiled.yields_pure.mp htool
    obtain ⟨⟨hblank, hchars⟩, hdescription⟩ := check_eq_ok_iff.mp hcheck
    refine ⟨rfl, ?_, ?_, ?_⟩
    · rintro hempty
      exact hblank (by simp_all [Text.isBlankText])
    · intro c hc
      have hchar := hchars c hc
      simp only [isNameChar, Char.isAlphanum, Char.isAlpha, Char.isUpper, Char.isLower,
        Char.isDigit, Bool.or_eq_true, Bool.and_eq_true, decide_eq_true_eq] at hchar
      grind [Char.le_def]
    · simpa [Text.isBlankText] using hdescription

/-! ## Sets -/

namespace ToolSet

variable {set : ToolSet} {history : List CallableTool}

/-- The set after tools were inserted one after the other. -/
def insertAll (set : ToolSet) (tools : List CallableTool) : ToolSet := tools.foldl insert set

/-- A set is the index of a history of insertions: each name stands once, at the place where it
first came, over the tool that was inserted last under it. -/
structure Indexes (set : ToolSet) (history : List CallableTool) : Prop where
  key_eq : ∀ entry ∈ set.entries, entry.1 = entry.2.name
  names_eq : set.names = distinct (history.map CallableTool.name)
  get?_eq : ∀ name, set.get? name = history.reverse.find? fun tool ↦ tool.name = name

theorem indexes_nil : ({} : ToolSet).Indexes [] := ⟨by simp, rfl, fun _ ↦ rfl⟩

/-- What one insertion keeps. -/
theorem Indexes.insert (h : set.Indexes history) (tool : CallableTool) :
    (set.insert tool).Indexes (history ++ [tool]) := by
  refine ⟨fun entry hentry ↦ ?_, ?_, fun name ↦ ?_⟩
  · rcases mem_of_mem_insert hentry with rfl | hold
    · rfl
    · exact h.key_eq entry hold
  · calc (set.insert tool).names
        = if tool.name ∈ set.names then set.names else set.names ++ [tool.name] :=
          keys_insert tool.name tool set.entries
      _ = distinct ((history ++ [tool]).map CallableTool.name) := by
          rw [List.map_append, List.map_singleton, distinct_concat, h.names_eq]
  · calc (set.insert tool).get? name
        = if tool.name = name then some tool else set.get? name :=
          lookup_insert name tool.name tool set.entries
      _ = (history ++ [tool]).reverse.find? fun other ↦ other.name = name := by
          rw [List.reverse_concat, List.find?_cons, h.get?_eq]
          by_cases hname : tool.name = name <;> simp [hname]

/-- What a run of insertions keeps. -/
theorem Indexes.insertAll (h : set.Indexes history) (tools : List CallableTool) :
    (set.insertAll tools).Indexes (history ++ tools) := by
  induction tools generalizing set history with
  | nil => rwa [List.append_nil]
  | cons tool rest ih =>
    have hrest := ih (h.insert tool)
    rwa [List.append_assoc, List.singleton_append] at hrest

theorem Indexes.nodup_names (h : set.Indexes history) : set.names.Nodup := by
  rw [h.names_eq]
  exact nodup_distinct _

/-- Every tool in a set was inserted at some time. -/
theorem Indexes.mem_history (h : set.Indexes history) :
    ∀ entry ∈ set.entries, entry.2 ∈ history := by
  intro entry hentry
  have hget : set.get? entry.1 = some entry.2 := lookup_of_mem h.nodup_names hentry
  rw [h.get?_eq] at hget
  exact List.mem_reverse.mp (List.mem_of_find?_eq_some hget)

/-- A set has as many tools as there are names in its history. -/
theorem Indexes.size_eq (h : set.Indexes history) :
    set.size = (history.map CallableTool.name).toFinset.card := by
  have hnames : set.names.toFinset = (history.map CallableTool.name).toFinset := by
    ext name
    rw [List.mem_toFinset, List.mem_toFinset, h.names_eq, mem_distinct]
  calc set.size
      = set.names.length := (List.length_map _).symm
    _ = set.names.toFinset.card := (List.toFinset_card_of_nodup h.nodup_names).symm
    _ = (history.map CallableTool.name).toFinset.card := by rw [hnames]

/-- There is one declaration per name, that of the tool under the name. -/
theorem Indexes.definitions_eq (h : set.Indexes history) :
    set.definitions.map some =
      set.names.map fun name ↦ (set.get? name).map CallableTool.definition := by
  rw [definitions, names, List.map_map, List.map_map]
  apply List.map_congr_left
  intro entry hentry
  have hget : set.get? entry.1 = some entry.2 := lookup_of_mem h.nodup_names hentry
  simp only [Function.comp_apply, hget, Option.map_some]

/-- The declarations carry the names of the set, in the order of the names. -/
theorem Indexes.get?_name_definitions (h : set.Indexes history) :
    (set.definitions.map fun declaration ↦ declaration.get? "name") =
      set.names.map fun name ↦ some (.string name) := by
  rw [definitions, names, List.map_map, List.map_map]
  apply List.map_congr_left
  intro entry hentry
  calc entry.2.definition.get? "name"
      = some (.string entry.2.name) := rfl
    _ = some (.string entry.1) := by rw [h.key_eq entry hentry]

/-- Inserting a tool gives exactly the one that it replaces, whose place it takes, and neither
changes nor moves anything else. -/
def InsertsInPlace (set : ToolSet) (tool : CallableTool) : Prop :=
  match set.replace tool with
  | (none, after) =>
    tool.name ∉ set.names ∧ after.entries = set.entries ++ [(tool.name, tool)]
  | (some old, after) =>
    ∃ front back, set.entries = front ++ (tool.name, old) :: back ∧
      after.entries = front ++ (tool.name, tool) :: back

theorem insertsInPlace (set : ToolSet) (tool : CallableTool) : set.InsertsInPlace tool := by
  unfold InsertsInPlace replace
  cases hget : set.get? tool.name with
  | none =>
    have hnew : tool.name ∉ keys set.entries := lookup_eq_none_iff.mp hget
    exact ⟨hnew, insert_of_notMem tool hnew⟩
  | some old => exact insert_of_lookup tool hget

/-! ## Sets of records -/

/-- Inserting the tools of records either fails with the first record that fails, or inserts them
all. -/
theorem outcome_insertRecords (compiler : Compiler) (set : ToolSet) (records : List ToolRecord) :
    (∃ tools, (insertRecords compiler set records).outcome = .ok (set.insertAll tools) ∧
      List.Forall₂ (fun record tool ↦ (record.toCallableTool compiler).outcome = .ok tool)
        records tools ∧ records.findSome? (ToolRecord.failure? compiler) = none) ∨
      ∃ error, (insertRecords compiler set records).outcome = .error error ∧
        records.findSome? (ToolRecord.failure? compiler) = some error := by
  induction records generalizing set with
  | nil => exact .inl ⟨[], rfl, .nil, rfl⟩
  | cons record rest ih =>
    rw [insertRecords, List.findSome?_cons]
    obtain ⟨tool, htool, hfine⟩ | ⟨error, herror, hfailure⟩ :=
      record.outcome_toCallableTool compiler
    · rw [hfine]
      simp only [Bind.bind, htool]
      obtain ⟨tools, houtcome, hmade, hnone⟩ | hfails := ih (set.insert tool)
      · exact .inl ⟨tool :: tools, houtcome, .cons htool hmade, hnone⟩
      · exact .inr hfails
    · rw [hfailure]
      refine .inr ⟨error, ?_, rfl⟩
      simp only [Bind.bind, herror]

/-- The tools that are made of records can be shown. -/
theorem forall_presentable {compiler : Compiler} {records : List ToolRecord}
    {made : List CallableTool}
    (h : List.Forall₂ (fun record tool ↦ (record.toCallableTool compiler).outcome = .ok tool)
      records made) : ∀ tool ∈ made, tool.Presentable := by
  induction h with
  | nil => exact List.forall_mem_nil _
  | cons hfirst _ ih =>
    exact List.forall_mem_cons.mpr ⟨(ToolRecord.presentable_of_toCallableTool hfirst).2, ih⟩

/-- The set of records exists if every record passes its checks and compiles, and otherwise the
first record that fails is the error. After any further insertions the set is the index of the tools
of the records and of those inserted later, its declarations stand in the order of the names that
they carry, and the next insertion takes place in it. -/
theorem ofRecords_insertAll (compiler : Compiler) (records : List ToolRecord) :
    ((∃ set, (ofRecords compiler records).outcome = .ok set) ↔
      ∀ record ∈ records, record.check = .ok () ∧ record.Compiles compiler) ∧
    (∀ error, (ofRecords compiler records).outcome = .error error ↔
      records.findSome? (ToolRecord.failure? compiler) = some error) ∧
    ∀ set, (ofRecords compiler records).outcome = .ok set →
      (∀ entry ∈ set.entries, entry.2.Presentable) ∧
      ∃ made, List.Forall₂ (fun record tool ↦ (record.toCallableTool compiler).outcome = .ok tool)
          records made ∧
        ∀ later : List CallableTool,
          let now := set.insertAll later
          now.Indexes (made ++ later) ∧ now.names.Nodup ∧
          now.size = ((made ++ later).map CallableTool.name).toFinset.card ∧
          now.definitions.map some =
            now.names.map (fun name ↦ (now.get? name).map CallableTool.definition) ∧
          now.definitions.map (fun declaration ↦ declaration.get? "name") =
            now.names.map (fun name ↦ some (.string name)) ∧
          ∀ tool, now.InsertsInPlace tool := by
  have hfine : records.findSome? (ToolRecord.failure? compiler) = none ↔
      ∀ record ∈ records, record.check = .ok () ∧ record.Compiles compiler := by
    rw [List.findSome?_eq_none_iff]
    exact forall₂_congr fun record _ ↦ ToolRecord.failure?_eq_none_iff
  rw [← hfine]
  obtain ⟨made, houtcome, hmade, hnone⟩ | ⟨error, herror, hfailure⟩ :=
    outcome_insertRecords compiler {} records
  · refine ⟨?_, ?_, ?_⟩
    · simp only [ofRecords, houtcome, hnone, Except.ok.injEq, exists_eq']
    · simp only [ofRecords, houtcome, hnone, reduceCtorEq, implies_true]
    · intro set hset
      obtain rfl := Except.ok.inj (houtcome.symm.trans hset)
      have hindexes := indexes_nil.insertAll made
      rw [List.nil_append] at hindexes
      refine ⟨fun entry hentry ↦ ?_, made, hmade, fun later ↦ ?_⟩
      · exact forall_presentable hmade entry.2 (hindexes.mem_history entry hentry)
      · have hnow := hindexes.insertAll later
        exact ⟨hnow, hnow.nodup_names, hnow.size_eq, hnow.definitions_eq,
          hnow.get?_name_definitions, insertsInPlace _⟩
  · refine ⟨?_, ?_, ?_⟩
    · simp only [ofRecords, herror, hfailure, reduceCtorEq, exists_false]
    · simp only [ofRecords, herror, hfailure, Except.error.injEq, Option.some.injEq, implies_true]
    · intro set hset
      exact absurd (herror.symm.trans hset) (by simp)

/-- Three records, two of them of one name. -/
def searchRecords : List ToolRecord :=
  [{ name := "search", description := "old", parameters := .flat {} },
   { name := "fetch-url", description := "a page", parameters := .flat {} },
   { name := "search", description := "new", parameters := .flat {} }]

/-- Of two tools of one name the later one counts, in the place of the earlier one. -/
theorem ofRecords_insertAll_search :
    ∃ set made, (ofRecords {} searchRecords).outcome = .ok set ∧
      made.map CallableTool.name = ["search", "fetch-url", "search"] ∧ set.Indexes made ∧
      set.names = ["search", "fetch-url"] ∧
      (set.definitions.map fun declaration ↦ declaration.get? "name") =
        [some (.string "search"), some (.string "fetch-url")] ∧
      (set.get? "search").map CallableTool.description = some "new" := by
  let tool (name description : String) : CallableTool :=
    ⟨name, description, FlatParameters.toField {}, { kind := .object [] .passthrough }⟩
  let set : ToolSet :=
    ⟨[("search", tool "search" "new"), ("fetch-url", tool "fetch-url" "a page")]⟩
  have hset : (ofRecords {} searchRecords).outcome = .ok set := by rfl
  obtain ⟨-, made, hmade, hlater⟩ := (ofRecords_insertAll {} searchRecords).2.2 set hset
  have hnames : List.Forall₂ Eq (searchRecords.map ToolRecord.name) (made.map CallableTool.name) :=
    List.forall₂_map_left_iff.mpr <| List.forall₂_map_right_iff.mpr <|
      hmade.imp fun record tool htool ↦ (ToolRecord.presentable_of_toCallableTool htool).1.symm
  rw [List.forall₂_eq_eq_eq] at hnames
  obtain ⟨hindexes, -, -, -, hdeclared, -⟩ := hlater []
  rw [List.append_nil] at hindexes
  exact ⟨set, made, hset, hnames.symm, hindexes, rfl, hdeclared, rfl⟩

end ToolSet

end ToolSchema
