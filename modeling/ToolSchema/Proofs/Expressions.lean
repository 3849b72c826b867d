import ToolSchema.Proofs.LenientCompilers
import ToolSchema.Proofs.Modifiers
import ToolSchema.Proofs.RequiredKeys
import Mathlib

/-!
# Expressions determine validators

The expression of a field starts with the word of what it builds, goes on with the arguments up to
a parenthesis, and ends with the modifiers. From the text it is known what is built, of which parts
and under which modifiers, so two fields with the same expression stand for the same validator.
Kinds that are written alike are read alike. Formulas are left out, which may hold any text, as are
slashes in patterns and names of checks that close a parenthesis; no registered name does.
-/

namespace ToolSchema

/-! ## Builders -/

/-- The functions that build expressions. -/
inductive Builder where
  | any | string | number | boolean | date | record | enumeration | array | object | union
deriving DecidableEq

def Builder.word (emitter : Emitter) : Builder → String
  | any => "z.any"
  | string => "z.string"
  | number => if emitter.coerce then "z.coerce.number" else "z.number"
  | boolean => "z.boolean"
  | date => if emitter.coerce then "z.coerce.date" else "z.date"
  | record => "z.record"
  | enumeration => "z.enum"
  | array => "z.array"
  | object => "z.object"
  | union => "z.union"

theorem Builder.word_injective (emitter : Emitter) : Function.Injective (word emitter) := by
  obtain ⟨coerce, policy⟩ := emitter
  intro b b' h
  cases coerce <;> cases b <;> cases b' <;> first | rfl | simp [word] at h

/-- The word of a builder ends before the first parenthesis. -/
theorem Builder.opening_notMem_word (emitter : Emitter) (b : Builder) :
    '(' ∉ (b.word emitter).toList := by
  obtain ⟨coerce, policy⟩ := emitter
  cases coerce <;> cases b <;> simp [word]

/-! ## Constructs -/

/-- What an expression builds of which parts, before it is modified. -/
inductive Construct where
  | any | string | number | boolean | date | record
  | enumeration (first : String) (rest : List String)
  | array (item : Field)
  | object (fields : List Field)
  | union (first second : Field)

namespace Construct

/-- The builder of a construct. -/
def builder : Construct → Builder
  | any => .any
  | string => .string
  | number => .number
  | boolean => .boolean
  | date => .date
  | record => .record
  | enumeration _ _ => .enumeration
  | array _ => .array
  | object _ => .object
  | union _ _ => .union

def parts : Construct → List Field
  | array item => [item]
  | object fields => fields
  | union first second => [first, second]
  | _ => []

/-- The kind of validator that a construct stands for. -/
def kind (s : Setting) : Construct → ValidatorKind Validator
  | any => .any
  | string => .string
  | number => .number s.coerce
  | boolean => .boolean
  | date => .date s.coerce
  | record => .object [] .passthrough
  | enumeration first rest => .enumeration (first :: rest)
  | array item => .array (item.validator s)
  | object fields => .object (collect (Field.validators s fields)) s.unknownKeys
  | union first second => .union (first.validator s) (second.validator s)

/-- The start of an object expression, up to its first member. -/
def opening (emitter : Emitter) (depth : ℕ) (first : Field) : String :=
  "z.object(\x7b\n" ++ Json.indent depth ++ objectKey first.name ++ ": " ++
    emitter.node depth first

/-- The expression that builds a construct at a depth of nesting. -/
def text (emitter : Emitter) (depth : ℕ) : Construct → String
  | any => "z.any()"
  | string => "z.string()"
  | number => if emitter.coerce then "z.coerce.number()" else "z.number()"
  | boolean => "z.boolean()"
  | date => if emitter.coerce then "z.coerce.date()" else "z.date()"
  | record => "z.record(z.any())"
  | enumeration first rest =>
    "z.enum([" ++ String.intercalate ", " ((first :: rest).map singleQuoted) ++ "])"
  | array item => "z.array(" ++ emitter.node depth item ++ ")"
  | object [] => "z.object(\x7b\x7d)" ++ emitter.strictness
  | object (first :: rest) =>
    opening emitter (depth + 1) first ++ emitter.members (depth + 1) rest ++ "\n" ++
      Json.indent depth ++ "\x7d)" ++ emitter.strictness
  | union first second =>
    "z.union([" ++ emitter.node depth first ++ ", " ++ emitter.node depth second ++ "])"

/-- A member of an object literal, on a line of its own. -/
def line (emitter : Emitter) (depth : ℕ) (field : Field) : List Char :=
  '\n' :: (Json.indent depth).toList ++ (objectKey field.name).toList ++
    ':' :: ' ' :: (emitter.node depth field).toList

/-- The end of an object expression, behind its last member. -/
def closing (emitter : Emitter) (depth : ℕ) : List Char :=
  (Json.indent depth).toList ++ '\x7d' :: ')' :: emitter.strictness.toList

/-- The arguments of a builder, from the character after the opening parenthesis on. -/
def arguments (emitter : Emitter) (depth : ℕ) : Construct → List Char
  | any | string | number | boolean | date => [')']
  | record => ['z', '.', 'a', 'n', 'y', '(', ')', ')']
  | enumeration first rest =>
    '[' :: (singleQuoted first).toList ++
      (rest.flatMap fun member ↦ ',' :: ' ' :: (singleQuoted member).toList) ++ [']', ')']
  | array item => (emitter.node depth item).toList ++ [')']
  | object [] => '\x7b' :: '\x7d' :: ')' :: emitter.strictness.toList
  | object (first :: rest) =>
    '\x7b' :: line emitter (depth + 1) first ++
      (rest.flatMap fun field ↦ ',' :: line emitter (depth + 1) field) ++
      '\n' :: closing emitter depth
  | union first second =>
    '[' :: (emitter.node depth first).toList ++
      ',' :: ' ' :: (emitter.node depth second).toList ++ [']', ')']

theorem toList_intercalate_singleQuoted (first : String) (rest : List String) :
    (String.intercalate ", " ((first :: rest).map singleQuoted)).toList =
      (singleQuoted first).toList ++
        rest.flatMap fun member ↦ ',' :: ' ' :: (singleQuoted member).toList := by
  induction rest generalizing first with
  | nil => simp
  | cons next rest ih =>
    rw [List.map_cons, List.map_cons, String.intercalate_cons_cons, ← List.map_cons]
    simp [ih, -List.map_cons]

theorem toList_members (emitter : Emitter) (depth : ℕ) (fields : List Field) :
    (emitter.members depth fields).toList =
      fields.flatMap fun field ↦ ',' :: line emitter depth field := by
  induction fields with
  | nil => simp [Emitter.members]
  | cons field rest ih => simp [Emitter.members, ih, line]

/-- An expression starts with the word of its builder and goes on with the arguments. -/
theorem toList_text (emitter : Emitter) (depth : ℕ) (c : Construct) :
    (c.text emitter depth).toList =
      (c.builder.word emitter).toList ++ '(' :: c.arguments emitter depth := by
  cases c with
  | enumeration first rest =>
    simp only [text, String.toList_append, toList_intercalate_singleQuoted]
    simp [builder, Builder.word, arguments]
  | object fields =>
    cases fields with
    | nil => simp [text, builder, Builder.word, arguments]
    | cons first rest =>
      simp [text, opening, builder, Builder.word, arguments, line, closing, toList_members]
  | number | date =>
    simp only [text, builder, Builder.word, arguments]
    split <;> simp
  | _ => simp [text, builder, Builder.word, arguments]

end Construct

namespace Field

/-- A field without a description or rules that accepts everything. -/
def anything : Field := { kind := .file }

/-- What the expression of a field builds. -/
def construct (field : Field) : Construct :=
  match field.kind with
  | .string => .string
  | .number => .number
  | .boolean => .boolean
  | .date => .date
  | .enumeration =>
    match field.members? with
    | some (first :: rest) => .enumeration first rest
    | _ => .string
  | .array =>
    match field.children with
    | some (item :: _) => .array item
    | _ => .array anything
  | .object =>
    match field.children with
    | some fields => .object fields
    | none => .record
  | .union =>
    match field.children with
    | some (first :: second :: _) => .union first second
    | _ => .any
  | .file | .calculated | .unsupported => .any

theorem validator_anything (s : Setting) : anything.validator s = .any := by
  simp [anything, validator, validatorKind, ValidatorKind.withRules, Validator.any,
    Rules.isRequired, Rules.checks, Rules.refinements, Rules.custom?]

/-- What is written and what is read are built of the same parts. -/
theorem validatorKind_eq_construct (s : Setting) (field : Field) :
    validatorKind s field.members field.kind field.children = field.construct.kind s := by
  unfold construct
  cases hkind : field.kind with
  | enumeration =>
    simp only [validatorKind, members?]
    rcases field.members with _ | (_ | ⟨first, rest⟩) <;> rfl
  | array =>
    rcases hchildren : field.children with _ | (_ | ⟨item, rest⟩) <;>
      simp [validatorKind, Construct.kind, validator_anything]
  | object => cases hchildren : field.children <;> simp [validatorKind, Construct.kind]
  | union =>
    rcases hchildren : field.children with _ | (_ | ⟨first, _ | ⟨second, rest⟩⟩) <;>
      simp [validatorKind, Construct.kind]
  | _ => simp [validatorKind, Construct.kind]

/-- The construct of a field, its rules and its description determine the validator. -/
theorem validator_eq_construct (s : Setting) (field : Field) :
    field.validator s =
      (field.construct.kind s).withRules s.predicates field.kind field.rules
        field.description := by
  rw [validator_eq, validatorKind_eq_construct]

theorem kind_eq_number_iff (field : Field) :
    field.kind = .number ↔ field.construct.builder = .number := by
  unfold construct
  cases hkind : field.kind <;> dsimp only <;> repeat' split
  all_goals simp [Construct.builder]

/-- The parts of a construct are parts of the field, or stand in for one that is not described. -/
theorem mem_parts_of_mem_construct {field part : Field} (h : part ∈ field.construct.parts) :
    part ∈ field.parts ∨ part = anything := by
  obtain ⟨name, kind, description, rules, members, children, calculation⟩ := field
  cases kind
  case array =>
    rcases children with _ | (_ | ⟨item, rest⟩)
    · exact .inr (List.mem_singleton.mp h)
    · exact .inr (List.mem_singleton.mp h)
    · exact .inl h
  case object =>
    cases children with
    | none => cases h
    | some fields => exact .inl h
  case union =>
    rcases children with _ | (_ | ⟨first, _ | ⟨second, rest⟩⟩)
    case some.cons.cons => exact .inl h
    all_goals cases h
  case enumeration =>
    unfold construct at h
    dsimp only at h
    split at h <;> cases h
  all_goals cases h

/-- What is written in a field can be read again: it is not a formula, and the texts in its rules
end visibly. -/
structure Legible (field : Field) : Prop where
  rules : (field.rules.getD {}).Legible
  calculation : field.kind = .calculated → field.calculation = none

theorem legible_anything : anything.Legible :=
  ⟨⟨by simp [anything, Rules.pattern?], by simp [anything, Rules.custom?]⟩, fun _ ↦ rfl⟩

/-- The parts that are written are legible if the parts that count are. -/
theorem everywhere_legible_of_mem_construct {field part : Field} (h : field.Everywhere Legible)
    (hpart : part ∈ field.construct.parts) : part.Everywhere Legible := by
  rcases mem_parts_of_mem_construct hpart with hpart | rfl
  · exact h.part part hpart
  · exact .of_parts_eq_nil legible_anything rfl

end Field

namespace Emitter

/-- An expression is what it builds, and the modifiers. -/
theorem node_eq (emitter : Emitter) (depth : ℕ) {field : Field} (h : field.Legible) :
    emitter.node depth field =
      field.construct.text emitter depth ++
        modifiers field.kind field.rules field.description := by
  have hformula := h.calculation
  obtain ⟨name, kind, description, rules, members, children, calculation⟩ := field
  cases kind
  case calculated =>
    obtain rfl : calculation = none := hformula rfl
    rfl
  case enumeration => rcases members with _ | (_ | ⟨first, rest⟩) <;> rfl
  case array => rcases children with _ | (_ | ⟨item, rest⟩) <;> rfl
  case object => rcases children with _ | (_ | ⟨first, rest⟩) <;> rfl
  case union => rcases children with _ | (_ | ⟨first, _ | ⟨second, rest⟩⟩) <;> rfl
  all_goals rfl

/-- An expression is the word of its builder, the arguments in parentheses, and the modifiers. -/
theorem toList_node (emitter : Emitter) (depth : ℕ) {field : Field} (h : field.Legible) :
    (emitter.node depth field).toList =
      (field.construct.builder.word emitter).toList ++ '(' ::
        (field.construct.arguments emitter depth ++
          (modifiers field.kind field.rules field.description).toList) := by
  rw [emitter.node_eq depth h, String.toList_append, Construct.toList_text, List.append_assoc,
    List.cons_append]

/-! ## Expressions are told apart -/

/-- The expression of a field tells the validator that the field stands for, and its end is
known. -/
def ToldApart (emitter : Emitter) (s : Setting) (field : Field) : Prop :=
  ∀ (other : Field) (depth : ℕ) (r t : List Char), other.Everywhere Field.Legible →
    Ends r → Ends t →
    (emitter.node depth field).toList ++ r = (emitter.node depth other).toList ++ t →
      field.validator s = other.validator s ∧ r = t

theorem ends_cons {c : Char} (h : c ≠ '.') (rest : List Char) : Ends (c :: rest) := by
  simpa [Ends] using h

variable {emitter : Emitter} {s : Setting} {depth : ℕ} {r t : List Char}

/-- The members of object literals are told apart, as far as each of them is. -/
theorem lines_append_inj {fields others : List Field}
    (ih : ∀ field ∈ fields, emitter.ToldApart s field)
    (hlegible : ∀ other ∈ others, other.Everywhere Field.Legible)
    (h : (fields.flatMap fun field ↦ ',' :: Construct.line emitter depth field) ++ '\n' :: r =
      (others.flatMap fun other ↦ ',' :: Construct.line emitter depth other) ++ '\n' :: t) :
    Field.validators s fields = Field.validators s others ∧ r = t := by
  have hline : ∀ field ∈ fields, ∀ other ∈ others, ∀ r t, Ends r → Ends t →
      Construct.line emitter depth field ++ r = Construct.line emitter depth other ++ t →
      (field.name, field.validator s) = (other.name, other.validator s) ∧ r = t := by
    intro field hfield other hother r t hr ht heq
    simp only [Construct.line, List.cons_append, List.append_assoc, List.cons.injEq, true_and,
      List.append_cancel_left_eq] at heq
    obtain ⟨hname, heq⟩ := objectKey_append_inj heq
    obtain ⟨hvalidator, hrest⟩ :=
      ih field hfield other depth r t (hlegible other hother) hr ht (List.cons.inj heq).2
    exact ⟨Prod.ext hname hvalidator, hrest⟩
  rw [Field.validators_eq_named, Field.validators_eq_named]
  exact flatMap_append_inj _ (by decide) (ends_cons (c := ',') (by decide))
    (ends_cons (c := '\n') (by decide)) hline h

/-- The members of enumerations are told apart. -/
theorem quotedMembers_append_inj {first first' : String} {rest rest' : List String}
    (h : (singleQuoted first).toList ++
        ((rest.flatMap fun member ↦ ',' :: ' ' :: (singleQuoted member).toList) ++ ']' :: r) =
      (singleQuoted first').toList ++
        ((rest'.flatMap fun member ↦ ',' :: ' ' :: (singleQuoted member).toList) ++ ']' :: t)) :
    first :: rest = first' :: rest' ∧ r = t := by
  have hmember : ∀ member ∈ rest, ∀ other ∈ rest', ∀ r t : List Char, True → True →
      ' ' :: (singleQuoted member).toList ++ r = ' ' :: (singleQuoted other).toList ++ t →
      member = other ∧ r = t := by
    intro member _ other _ r t _ _ heq
    simp only [List.cons_append, List.cons.injEq, true_and] at heq
    exact singleQuoted_append_inj heq
  obtain ⟨rfl, hothers⟩ := singleQuoted_append_inj h
  obtain ⟨hrest, hend⟩ := flatMap_append_inj id (by decide) (fun _ ↦ trivial) (fun _ ↦ trivial)
    hmember hothers
  rw [List.map_id, List.map_id] at hrest
  exact ⟨congrArg _ hrest, hend⟩

/-- Object literals are told apart, as far as their members are. -/
theorem object_append_inj {fields others : List Field}
    (ih : ∀ field ∈ fields, emitter.ToldApart s field)
    (hlegible : ∀ other ∈ others, other.Everywhere Field.Legible)
    (h : (Construct.object fields).arguments emitter depth ++ r =
      (Construct.object others).arguments emitter depth ++ t) :
    Field.validators s fields = Field.validators s others ∧ r = t := by
  cases fields with
  | nil =>
    cases others with
    | nil => exact ⟨rfl, List.append_cancel_left h⟩
    | cons other others => simp [Construct.arguments, Construct.line] at h
  | cons field fields =>
    cases others with
    | nil => simp [Construct.arguments, Construct.line] at h
    | cons other others =>
      -- behind a comma the first member reads as the others do
      have hmarked :
          ((field :: fields).flatMap fun f ↦ ',' :: Construct.line emitter (depth + 1) f) ++
            '\n' :: (Construct.closing emitter depth ++ r) =
          ((other :: others).flatMap fun f ↦ ',' :: Construct.line emitter (depth + 1) f) ++
            '\n' :: (Construct.closing emitter depth ++ t) := by
        simpa [Construct.arguments] using h
      obtain ⟨hvalidators, hrest⟩ := lines_append_inj ih hlegible hmarked
      exact ⟨hvalidators, List.append_cancel_left hrest⟩

/-- The arguments of one builder are told apart, as far as the parts are. -/
theorem arguments_append_inj {c d : Construct} (hbuilder : c.builder = d.builder)
    (ih : ∀ part ∈ c.parts, emitter.ToldApart s part)
    (hlegible : ∀ part ∈ d.parts, part.Everywhere Field.Legible)
    (h : c.arguments emitter depth ++ r = d.arguments emitter depth ++ t) :
    c.kind s = d.kind s ∧ r = t := by
  cases c with
  | any | string | number | boolean | date | record =>
    cases d <;> cases hbuilder
    exact ⟨rfl, List.append_cancel_left h⟩
  | enumeration first rest =>
    cases d <;> cases hbuilder
    simp only [Construct.arguments, List.cons_append, List.append_assoc] at h
    obtain ⟨hmembers, hrest⟩ := quotedMembers_append_inj (List.cons.inj h).2
    exact ⟨congrArg ValidatorKind.enumeration hmembers, (List.cons.inj hrest).2⟩
  | array item =>
    cases d with
    | array other =>
      simp only [Construct.arguments, List.append_assoc] at h
      obtain ⟨hitem, hrest⟩ := ih item List.mem_cons_self other depth _ _
        (hlegible other List.mem_cons_self) (ends_cons (by decide) _) (ends_cons (by decide) _) h
      exact ⟨congrArg ValidatorKind.array hitem, (List.cons.inj hrest).2⟩
    | _ => cases hbuilder
  | object fields =>
    cases d with
    | object others =>
      obtain ⟨hfields, hrest⟩ := object_append_inj ih hlegible h
      rw [Construct.parts, Construct.parts] at hfields
      exact ⟨by rw [Construct.kind, Construct.kind, hfields], hrest⟩
    | _ => cases hbuilder
  | union first second =>
    cases d with
    | union first' second' =>
      simp only [Construct.arguments, List.cons_append, List.append_assoc] at h
      obtain ⟨hfirst, hrest⟩ := ih first (by simp [Construct.parts]) first' depth _ _
        (hlegible first' (by simp [Construct.parts])) (ends_cons (by decide) _)
        (ends_cons (by decide) _) (List.cons.inj h).2
      simp only [List.cons.injEq, true_and] at hrest
      obtain ⟨hsecond, hrest⟩ := ih second (by simp [Construct.parts]) second' depth _ _
        (hlegible second' (by simp [Construct.parts])) (ends_cons (by decide) _)
        (ends_cons (by decide) _) hrest
      simp only [List.nil_append, List.cons.injEq, true_and] at hrest
      exact ⟨by rw [Construct.kind, Construct.kind, hfirst, hsecond], hrest⟩
    | _ => cases hbuilder

/-- A field is told apart from all others if the parts are that it is built of. -/
theorem toldApart_of_construct {field : Field} (hfield : field.Legible)
    (ih : ∀ part ∈ field.construct.parts, emitter.ToldApart s part) :
    emitter.ToldApart s field := by
  intro other depth r t hother hr ht h
  rw [emitter.toList_node depth hfield, emitter.toList_node depth hother.here] at h
  simp only [List.append_assoc, List.cons_append] at h
  -- word, arguments and modifiers are read off one after the other
  obtain ⟨hword, h⟩ := append_mark_inj (field.construct.builder.opening_notMem_word emitter)
    (other.construct.builder.opening_notMem_word emitter) h
  have hbuilder := Builder.word_injective emitter (String.toList_injective hword)
  obtain ⟨hkind, h⟩ := arguments_append_inj hbuilder ih
    (fun part ↦ Field.everywhere_legible_of_mem_construct hother) h
  obtain ⟨harguments, hrest⟩ := modifiers_append_inj hfield.rules hother.here.rules hr ht h
  have hnumber : field.kind = .number ↔ other.kind = .number := by
    rw [field.kind_eq_number_iff, other.kind_eq_number_iff, hbuilder]
  refine ⟨?_, hrest⟩
  calc field.validator s
      = (field.construct.kind s).withRules s.predicates field.kind field.rules
          field.description := field.validator_eq_construct s
    _ = (other.construct.kind s).withRules s.predicates field.kind field.rules
          field.description := by rw [hkind]
    _ = (other.construct.kind s).withRules s.predicates other.kind other.rules
          other.description := withRules_eq hfield.rules hother.here.rules hnumber harguments _ _
    _ = other.validator s := (other.validator_eq_construct s).symm

/-- Expressions tell validators, whatever follows them. -/
theorem toldApart (emitter : Emitter) (s : Setting) (field : Field) :
    field.Everywhere Field.Legible → emitter.ToldApart s field := by
  induction field using Field.partsInduction with
  | step field ih =>
    intro hlegible
    apply toldApart_of_construct hlegible.here
    intro part hpart
    rcases Field.mem_parts_of_mem_construct hpart with hpart | rfl
    · exact ih part hpart (hlegible.part part hpart)
    · exact toldApart_of_construct Field.legible_anything (List.forall_mem_nil _)

end Emitter

/-! ## Expressions of fields that compile -/

/-- A field that is no formula, and whose pattern has no slash. -/
structure Field.Plain (field : Field) : Prop where
  pattern : ∀ source ∈ (field.rules.getD {}).pattern?, '/' ∉ source.toList
  calculation : field.kind = .calculated → field.calculation = none

theorem Field.Plain.of_none {field : Field} (hpattern : (field.rules.getD {}).pattern? = none)
    (hcalculation : field.calculation = none) : field.Plain :=
  ⟨by simp [hpattern], fun _ ↦ hcalculation⟩

namespace Compiler

variable {compiler : Compiler} {coerce : Bool} {path : FieldPath} {field : Field}

/-- Where the registered names close no parenthesis, plain fields that compile are legible. -/
theorem everywhere_legible_of_yields {v : Validator}
    (hnames : ∀ name ∈ compiler.predicates.names, ')' ∉ name.toList)
    (hplain : field.Everywhere Field.Plain) (h : (compiler.compileAt coerce path field).Yields v) :
    field.Everywhere Field.Legible := by
  apply (hplain.and (everywhere_exists_yields field h)).imp
  rintro node ⟨hnode, path, w, hw⟩
  refine ⟨⟨hnode.pattern, fun name hname ↦ hnames name ?_⟩, hnode.calculation⟩
  have hregistered := customRegistered_of_yields hw name hname
  exact lookup_isSome_iff.mp hregistered

/-- Two fields with the same expression compile into the same validator. -/
theorem eq_of_expression_eq {emitter : Emitter} {shape : Shape} {other : Field} {v w : Validator}
    (hbuiltin : compiler.predicates = .builtin) (hfield : field.Everywhere Field.Plain)
    (hother : other.Everywhere Field.Plain)
    (hv : (compiler.compileShaped shape field).outcome = .ok v)
    (hw : (compiler.compileShaped shape other).outcome = .ok w)
    (h : emitter.expression field = emitter.expression other) : v = w := by
  have hnames : ∀ name ∈ compiler.predicates.names, ')' ∉ name.toList := by
    rw [hbuiltin]
    decide
  obtain ⟨_, hcompiled, -⟩ := Compiled.yields_bind.mp hv
  obtain ⟨_, hcompiled', -⟩ := Compiled.yields_bind.mp hw
  have hlegible := everywhere_legible_of_yields hnames hfield hcompiled
  have hlegible' := everywhere_legible_of_yields hnames hother hcompiled'
  rw [eq_of_yields_compileShaped hv, eq_of_yields_compileShaped hw]
  have hends : Emitter.Ends [] := by simp [Emitter.Ends]
  have htext := congrArg (fun text ↦ text.toList ++ []) h
  exact (emitter.toldApart _ field hlegible other 0 [] [] hlegible' hends hends htext).1

/-- A shipment: the members of its size are not listed, the items of its marks not described. -/
def roughShipment : Field :=
  { kind := .object
    children := some [
      { name := "size", kind := .enumeration, members := some [],
        rules := some { required := some false, minLength := some 2 } },
      { name := "marks", kind := .array }] }

/-- A shipment: its size is any text, and its marks are any values. -/
def shipment : Field :=
  { kind := .object
    children := some [
      { name := "size", kind := .string, rules := some { required := some false } },
      { name := "marks", kind := .array, children := some [{ name := "mark", kind := .file }] }] }

theorem everywhere_plain_roughShipment : roughShipment.Everywhere Field.Plain := by
  refine ⟨.of_none rfl rfl, ?_⟩
  simp only [roughShipment, Field.parts, List.forall_mem_cons]
  exact ⟨.of_parts_eq_nil (.of_none rfl rfl) rfl, .of_parts_eq_nil (.of_none rfl rfl) rfl,
    List.forall_mem_nil _⟩

theorem everywhere_plain_shipment : shipment.Everywhere Field.Plain := by
  refine ⟨.of_none rfl rfl, ?_⟩
  simp only [shipment, Field.parts, List.forall_mem_cons]
  refine ⟨.of_parts_eq_nil (.of_none rfl rfl) rfl, ⟨.of_none rfl rfl, ?_⟩, List.forall_mem_nil _⟩
  simp only [Field.parts, List.forall_mem_singleton]
  exact .of_parts_eq_nil (.of_none rfl rfl) rfl

/-- Both shipments have one expression, and compile into one validator. -/
theorem compile_roughShipment_eq_compile_shipment :
    Emitter.expression {} roughShipment = Emitter.expression {} shipment ∧
      ∃ v w, (Compiler.compile {} roughShipment).outcome = .ok v ∧
        (Compiler.compile {} shipment).outcome = .ok w ∧ v = w := by
  have htext : Emitter.expression {} roughShipment = Emitter.expression {} shipment := by rfl
  have hrough : (Compiler.compile {} roughShipment).outcome =
      .ok (roughShipment.validator (Compiler.setting {} true)) := by rfl
  have hplain : (Compiler.compile {} shipment).outcome =
      .ok (shipment.validator (Compiler.setting {} true)) := by rfl
  exact ⟨htext, _, _, hrough, hplain, eq_of_expression_eq rfl everywhere_plain_roughShipment
    everywhere_plain_shipment hrough hplain htext⟩

end Compiler

end ToolSchema
