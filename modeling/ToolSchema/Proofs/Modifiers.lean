import ToolSchema.Proofs.Assembly
import ToolSchema.Proofs.Literals
import Mathlib

/-!
# Modifiers are read one by one

The modifiers of a field are calls of different methods, chained in one order, each of them there or
not. Which of them are there is known from the text, as is where each of them ends, and the argument
of a call tells the value that it was written for. So the modifiers of a field tell its checks, its
refinement, its default and its description, and whether it is required.
-/

namespace ToolSchema

/-- The methods that modify an expression. -/
inductive Modifier where
  | optional | min | max | regex | refine | default | describe
deriving DecidableEq

namespace Modifier

def name : Modifier → String
  | optional => "optional"
  | min => "min"
  | max => "max"
  | regex => "regex"
  | refine => "refine"
  | default => "default"
  | describe => "describe"

/-- All methods, in the order in which they are called. -/
def all : List Modifier := [optional, min, max, regex, refine, default, describe]

theorem mem_all (m : Modifier) : m ∈ all := by cases m <;> decide

theorem opening_notMem_name (m : Modifier) : '(' ∉ m.name.toList := by
  cases m <;> simp [name]

theorem name_injective : Function.Injective name := by
  intro m n h
  cases m <;> cases n <;> first | rfl | simp [name] at h

/-- The call of a method, if there is an argument. -/
def call (m : Modifier) : Option (List Char) → List Char
  | some argument => '.' :: m.name.toList ++ '(' :: argument ++ [')']
  | none => []

/-- Calls of methods one behind the other. -/
def chain (methods : List Modifier) (argument? : Modifier → Option (List Char)) : List Char :=
  methods.flatMap fun m ↦ m.call (argument? m)

end Modifier

namespace Emitter

open Modifier

/-! ## Chains -/

/-- What follows an expression does not go on with a call. -/
def Ends (rest : List Char) : Prop := ∀ c ∈ rest.head?, c ≠ '.'

/-- A text does not start with the call of a method. -/
def Avoids (m : Modifier) (rest : List Char) : Prop :=
  ∀ others, rest ≠ '.' :: m.name.toList ++ '(' :: others

/-- Two arguments of a call are told apart, and their ends are known. -/
def Apart (x y : List Char) : Prop := ∀ r t, x ++ ')' :: r = y ++ ')' :: t → x = y ∧ r = t

/-- A chain starts with a call of one of its methods, if with any. -/
theorem avoids_chain {m : Modifier} {methods : List Modifier}
    {argument? : Modifier → Option (List Char)} {rest : List Char} (hother : m ∉ methods)
    (hrest : Ends rest) : Avoids m (chain methods argument? ++ rest) := by
  induction methods with
  | nil =>
    rintro others rfl
    exact hrest '.' rfl rfl
  | cons n methods ih =>
    rw [List.mem_cons, not_or] at hother
    rw [chain, List.flatMap_cons]
    cases argument? n with
    | none => exact ih hother.2
    | some argument =>
      intro others heq
      have hsame : m.name.toList ++ '(' :: others =
          n.name.toList ++ '(' :: (argument ++ ')' :: (chain methods argument? ++ rest)) := by
        simpa [chain, Modifier.call] using heq.symm
      obtain ⟨hname, -⟩ := append_mark_inj m.opening_notMem_name n.opening_notMem_name hsame
      exact hother.1 (name_injective (String.toList_injective hname))

/-- Whether there is a call can be told from what follows, which starts with another one. -/
theorem call_append_inj {m : Modifier} {a b : Option (List Char)} {r t : List Char}
    (hapart : ∀ x ∈ a, ∀ y ∈ b, Apart x y) (hr : Avoids m r) (ht : Avoids m t)
    (h : m.call a ++ r = m.call b ++ t) : a = b ∧ r = t := by
  cases a with
  | none =>
    cases b with
    | none => exact ⟨rfl, h⟩
    | some y => exact absurd h (by simpa [Modifier.call] using hr (y ++ ')' :: t))
  | some x =>
    cases b with
    | none => exact absurd h.symm (by simpa [Modifier.call] using ht (x ++ ')' :: r))
    | some y =>
      have hsame : x ++ ')' :: r = y ++ ')' :: t := by simpa [Modifier.call] using h
      obtain ⟨rfl, hrest⟩ := hapart x rfl y rfl r t hsame
      exact ⟨rfl, hrest⟩

/-- Chains of the same methods are told apart, as far as the arguments are. -/
theorem chain_append_inj {methods : List Modifier} {a b : Modifier → Option (List Char)}
    {r t : List Char} (hnodup : methods.Nodup)
    (hapart : ∀ m ∈ methods, ∀ x ∈ a m, ∀ y ∈ b m, Apart x y) (hr : Ends r) (ht : Ends t)
    (h : chain methods a ++ r = chain methods b ++ t) : (∀ m ∈ methods, a m = b m) ∧ r = t := by
  induction methods with
  | nil => exact ⟨List.forall_mem_nil _, h⟩
  | cons m methods ih =>
    rw [List.nodup_cons] at hnodup
    rw [List.forall_mem_cons] at hapart ⊢
    simp only [chain, List.flatMap_cons, List.append_assoc] at h
    obtain ⟨hfirst, hrest⟩ := call_append_inj hapart.1 (avoids_chain hnodup.1 hr)
      (avoids_chain hnodup.1 ht) h
    obtain ⟨hothers, hend⟩ := ih hnodup.2 hapart.2 hrest
    exact ⟨⟨hfirst, hothers⟩, hend⟩

/-! ## The arguments of modifiers -/

/-- A bound as it is written for a kind: one on numbers, or one on lengths. -/
def bound? (kind : FieldKind) (number : Option Double) (length : Option UInt64) : Option String :=
  match kind with
  | .number => number.map Numeral.plain
  | .string => length.map fun n ↦ toString n.toNat
  | _ => none

def pattern? (kind : FieldKind) (rules : Rules) : Option String :=
  match kind with
  | .string => rules.pattern?.map fun s ↦ "/" ++ regexLiteralBody s ++ "/"
  | _ => none

/-- The argument of each modifier, for rules on a kind and a description. -/
def argument? (kind : FieldKind) (rules : Rules) (description : Option String) :
    Modifier → Option String
  | .optional => if rules.isRequired then none else some ""
  | .min => bound? kind rules.min rules.minLength
  | .max => bound? kind rules.max rules.maxLength
  | .regex => pattern? kind rules
  | .refine => rules.custom?
  | .default => rules.default.map Json.compact
  | .describe => description.map Json.quoted

theorem toList_call (name : String) (m : Modifier) (hname : m.name = name) {α : Type}
    (argument : α → String) (value : Option α) :
    (call name argument value).toList = m.call ((value.map argument).map String.toList) := by
  cases value with
  | none => rfl
  | some v => simp [call, Modifier.call, ← hname]

theorem toList_optional (rules : Rules) :
    (if rules.isRequired then "" else ".optional()").toList =
      Modifier.optional.call ((if rules.isRequired then none else some "").map String.toList) := by
  split <;> rfl

/-- Modifiers are chained calls. -/
theorem toList_modifiers (kind : FieldKind) (rules? : Option Rules)
    (description : Option String) :
    (modifiers kind rules? description).toList =
      chain Modifier.all fun m ↦
        (argument? kind (rules?.getD {}) description m).map String.toList := by
  have hnone : ∀ m : Modifier, m.call none = [] := fun _ ↦ rfl
  unfold modifiers
  rw [String.toList_append, toList_call "describe" .describe rfl]
  cases rules? with
  | none =>
    cases kind <;> simp [chain, Modifier.all, argument?, bound?, pattern?, hnone,
      Rules.isRequired, Rules.pattern?, Rules.custom?]
  | some rules =>
    simp only [ruleModifiers, String.toList_append, toList_optional,
      toList_call "refine" .refine rfl, toList_call "default" .default rfl]
    cases kind <;>
      simp only [String.toList_append, toList_call "min" .min rfl, toList_call "max" .max rfl,
        toList_call "regex" .regex rfl, chain, Modifier.all, argument?, bound?,
        pattern?, List.flatMap_cons, List.flatMap_nil, List.append_assoc, List.append_nil,
        Option.getD_some, Option.map_none, hnone, String.toList_empty, List.nil_append,
        Option.map_id_fun, id_eq]

end Emitter

/-- Rules whose texts end visibly: there is no slash in the pattern, and no parenthesis is closed in
the name of the custom check. -/
structure Rules.Legible (rules : Rules) : Prop where
  pattern : ∀ source ∈ rules.pattern?, '/' ∉ source.toList
  custom : ∀ name ∈ rules.custom?, ')' ∉ name.toList

theorem escapeSlashes_of_notMem {cs : List Char} (h : '/' ∉ cs) (escaped : Bool) :
    escapeSlashes escaped cs = cs := by
  induction cs generalizing escaped with
  | nil => rfl
  | cons c rest ih =>
    rw [List.mem_cons, not_or] at h
    have hc : c ≠ '/' := fun heq ↦ h.1 heq.symm
    simp [escapeSlashes, hc, ih h.2]

/-- A pattern without a slash stands as it is between slashes. -/
theorem toList_regexLiteral {source : String} (h : '/' ∉ source.toList) :
    ("/" ++ regexLiteralBody source ++ "/").toList = '/' :: source.toList ++ ['/'] := by
  simp [regexLiteralBody, escapeSlashes_of_notMem h]

namespace Emitter

theorem apart_of_notMem {x y : List Char} (hx : ')' ∉ x) (hy : ')' ∉ y) : Apart x y :=
  fun _ _ h ↦ append_mark_inj hx hy h

theorem closing_notMem_toString (n : ℕ) : ')' ∉ (toString n).toList := by
  rw [Nat.toString_eq_ofList_toDigits, String.toList_ofList]
  exact Numeral.notMem_of_isDigit Numeral.isDigit_of_mem_digits rfl

/-- Bounds are written without parentheses. -/
theorem closing_notMem_bound? {kind : FieldKind} {number : Option Double}
    {length : Option UInt64} : ∀ text ∈ bound? kind number length, ')' ∉ text.toList := by
  intro text htext
  unfold bound? at htext
  split at htext
  · obtain ⟨bound, -, rfl⟩ := Option.map_eq_some_iff.mp htext
    exact Numeral.closing_notMem_plain bound
  · obtain ⟨length, -, rfl⟩ := Option.map_eq_some_iff.mp htext
    exact closing_notMem_toString _
  · cases htext

/-- A pattern without slashes ends at the one that closes its literal. -/
theorem apart_pattern? {kind kind' : FieldKind} {rules rules' : Rules} (h : rules.Legible)
    (h' : rules'.Legible) :
    ∀ x ∈ pattern? kind rules, ∀ y ∈ pattern? kind' rules', Apart x.toList y.toList := by
  have hsource : ∀ {kind : FieldKind} {rules : Rules}, rules.Legible →
      ∀ text ∈ pattern? kind rules,
        ∃ source : List Char, '/' ∉ source ∧ text.toList = '/' :: source ++ ['/'] := by
    intro kind rules hrules text htext
    unfold pattern? at htext
    split at htext
    · obtain ⟨source, hsource, rfl⟩ := Option.map_eq_some_iff.mp htext
      have hslash := hrules.pattern source hsource
      exact ⟨source.toList, hslash, toList_regexLiteral hslash⟩
    · cases htext
  intro x hx y hy r t heq
  obtain ⟨source, hslash, hx⟩ := hsource h x hx
  obtain ⟨source', hslash', hy⟩ := hsource h' y hy
  rw [hx, hy] at heq ⊢
  simp only [List.cons_append, List.append_assoc, List.nil_append, List.cons.injEq,
    true_and] at heq
  obtain ⟨rfl, hrest⟩ := append_mark_inj hslash hslash' heq
  exact ⟨rfl, (List.cons.inj hrest).2⟩

theorem apart_compact (a b : Json) : Apart a.compact.toList b.compact.toList := by
  intro r t h
  obtain ⟨rfl, hrest⟩ := a.toldApart b _ _ (Json.stops_cons rfl r) (Json.stops_cons rfl t) h
  exact ⟨rfl, (List.cons.inj hrest).2⟩

theorem apart_quoted (a b : String) : Apart (Json.quoted a).toList (Json.quoted b).toList := by
  intro r t h
  obtain ⟨rfl, hrest⟩ := Json.quoted_append_inj h
  exact ⟨rfl, (List.cons.inj hrest).2⟩

/-- The arguments of each modifier are told apart. -/
theorem apart_argument? {kind kind' : FieldKind} {rules rules' : Rules}
    {description description' : Option String} (h : rules.Legible) (h' : rules'.Legible)
    (m : Modifier) :
    ∀ x ∈ argument? kind rules description m, ∀ y ∈ argument? kind' rules' description' m,
      Apart x.toList y.toList := by
  intro x hx y hy
  cases m with
  | optional =>
    simp only [argument?, Option.mem_ite_none_left, Option.mem_some_iff] at hx hy
    rw [← hx.2, ← hy.2]
    exact apart_of_notMem (by simp) (by simp)
  | min | max => exact apart_of_notMem (closing_notMem_bound? x hx) (closing_notMem_bound? y hy)
  | regex => exact apart_pattern? h h' x hx y hy
  | refine => exact apart_of_notMem (h.custom x hx) (h'.custom y hy)
  | default =>
    obtain ⟨a, -, rfl⟩ := Option.map_eq_some_iff.mp hx
    obtain ⟨b, -, rfl⟩ := Option.map_eq_some_iff.mp hy
    exact apart_compact a b
  | describe =>
    obtain ⟨a, -, rfl⟩ := Option.map_eq_some_iff.mp hx
    obtain ⟨b, -, rfl⟩ := Option.map_eq_some_iff.mp hy
    exact apart_quoted a b

/-- Modifiers are told apart by what is written in them, and their end is known. -/
theorem modifiers_append_inj {kind kind' : FieldKind} {rules? rules?' : Option Rules}
    {description description' : Option String} {r t : List Char}
    (h : (rules?.getD {}).Legible) (h' : (rules?'.getD {}).Legible) (hr : Ends r) (ht : Ends t)
    (heq : (modifiers kind rules? description).toList ++ r =
      (modifiers kind' rules?' description').toList ++ t) :
    (∀ m, argument? kind (rules?.getD {}) description m =
      argument? kind' (rules?'.getD {}) description' m) ∧ r = t := by
  have hapart : ∀ m ∈ Modifier.all,
      ∀ x ∈ (argument? kind (rules?.getD {}) description m).map String.toList,
        ∀ y ∈ (argument? kind' (rules?'.getD {}) description' m).map String.toList, Apart x y := by
    intro m _ x hx y hy
    obtain ⟨a, ha, rfl⟩ := Option.map_eq_some_iff.mp hx
    obtain ⟨b, hb, rfl⟩ := Option.map_eq_some_iff.mp hy
    exact apart_argument? h h' m a ha b hb
  rw [toList_modifiers, toList_modifiers] at heq
  obtain ⟨harguments, hrest⟩ := chain_append_inj (by decide) hapart hr ht heq
  refine ⟨fun m ↦ ?_, hrest⟩
  exact Option.map_injective (fun _ _ ↦ String.toList_injective) (harguments m m.mem_all)

/-! ## What the arguments tell -/

theorem toString_toNat_injective : Function.Injective fun n : UInt64 ↦ toString n.toNat := by
  intro n m h
  exact UInt64.toNat_inj.mp (Nat.repr_injective h)

theorem compact_injective : Function.Injective Json.compact := by
  intro a b h
  have hstops : Json.Stops [] := by simp [Json.Stops]
  exact (a.toldApart b [] [] hstops hstops (by rw [h])).1

theorem quoted_injective : Function.Injective Json.quoted := by
  intro a b h
  have hempty : (Json.quoted a).toList ++ [] = (Json.quoted b).toList ++ [] := by rw [h]
  exact (Json.quoted_append_inj hempty).1

/-- On kinds other than numbers, what is written bounds lengths or gives a pattern. -/
theorem exists_lengths {kind : FieldKind} (h : kind ≠ .number) (rules : Rules) :
    ∃ least most : Option UInt64, ∃ source : Option String,
      bound? kind rules.min rules.minLength = least.map (fun n ↦ toString n.toNat) ∧
      bound? kind rules.max rules.maxLength = most.map (fun n ↦ toString n.toNat) ∧
      pattern? kind rules = source.map (fun s ↦ "/" ++ regexLiteralBody s ++ "/") ∧
      (∀ s ∈ source, s ∈ rules.pattern?) ∧
      rules.checks kind = (least.map .minLength).toList ++ (most.map .maxLength).toList ++
        (source.map Rules.patternCheck).toList := by
  cases kind with
  | number => exact absurd rfl h
  | string => exact ⟨_, _, _, rfl, rfl, rfl, fun _ hs ↦ hs, rfl⟩
  | _ => exact ⟨none, none, none, rfl, rfl, rfl, by simp, rfl⟩

/-- The bounds and the pattern as they are written tell the checks. -/
theorem checks_eq {kind kind' : FieldKind} {rules rules' : Rules} (h : rules.Legible)
    (h' : rules'.Legible) (hnumber : kind = .number ↔ kind' = .number)
    (hlower : bound? kind rules.min rules.minLength = bound? kind' rules'.min rules'.minLength)
    (hupper : bound? kind rules.max rules.maxLength = bound? kind' rules'.max rules'.maxLength)
    (hpattern : pattern? kind rules = pattern? kind' rules') :
    rules.checks kind = rules'.checks kind' := by
  by_cases hkind : kind = .number
  · obtain rfl := hkind
    obtain rfl := hnumber.mp rfl
    have hmin : rules.min = rules'.min :=
      Option.map_injective Numeral.plain_injective hlower
    have hmax : rules.max = rules'.max :=
      Option.map_injective Numeral.plain_injective hupper
    rw [Rules.checks, Rules.checks, hmin, hmax]
  · obtain ⟨least, most, source, hl, hu, hp, hs, hchecks⟩ := exists_lengths hkind rules
    obtain ⟨least', most', source', hl', hu', hp', hs', hchecks'⟩ :=
      exists_lengths (fun heq ↦ hkind (hnumber.mpr heq)) rules'
    obtain rfl : least = least' :=
      Option.map_injective toString_toNat_injective (hl ▸ hl' ▸ hlower)
    obtain rfl : most = most' :=
      Option.map_injective toString_toNat_injective (hu ▸ hu' ▸ hupper)
    obtain rfl : source = source' := by
      rw [hp, hp'] at hpattern
      cases source with
      | none => exact (Option.map_eq_none_iff.mp hpattern.symm).symm
      | some s =>
        cases source' with
        | none => cases hpattern
        | some s' =>
          have htext := congrArg String.toList (Option.some.inj hpattern)
          rw [toList_regexLiteral (h.pattern s (hs s rfl)),
            toList_regexLiteral (h'.pattern s' (hs' s' rfl))] at htext
          simp only [List.cons_append, List.cons.injEq, true_and, List.append_cancel_right_eq]
            at htext
          rw [String.toList_injective htext]
    rw [hchecks, hchecks']

/-- What is written in modifiers tells what they make of a kind. -/
theorem withRules_eq {kind kind' : FieldKind} {rules? rules?' : Option Rules}
    {description description' : Option String} (h : (rules?.getD {}).Legible)
    (h' : (rules?'.getD {}).Legible) (hnumber : kind = .number ↔ kind' = .number)
    (hargument : ∀ m, argument? kind (rules?.getD {}) description m =
      argument? kind' (rules?'.getD {}) description' m) (predicates : Predicates)
    (base : ValidatorKind Validator) :
    base.withRules predicates kind rules? description =
      base.withRules predicates kind' rules?' description' := by
  have hchecks := checks_eq h h' hnumber (hargument .min) (hargument .max) (hargument .regex)
  have hcustom : (rules?.getD {}).custom? = (rules?'.getD {}).custom? := hargument .refine
  have hdefault : (rules?.getD {}).default = (rules?'.getD {}).default :=
    Option.map_injective compact_injective (hargument .default)
  have hdescription : description = description' :=
    Option.map_injective quoted_injective (hargument .describe)
  have hrequired : (rules?.getD {}).isRequired = (rules?'.getD {}).isRequired := by
    have hoptional := hargument .optional
    simp only [argument?] at hoptional
    cases hleft : (rules?.getD {}).isRequired <;> cases hright : (rules?'.getD {}).isRequired <;>
      simp [hleft, hright] at hoptional ⊢
  unfold ValidatorKind.withRules Rules.refinements
  simp only [hchecks, hcustom, hdefault, hdescription, hrequired]

end Emitter

end ToolSchema
