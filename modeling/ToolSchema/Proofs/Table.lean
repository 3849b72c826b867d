import ToolSchema.Table
import Mathlib.Data.List.Nodup

/-!
# Laws of tables

Writing to a table changes one value, and adds its key at the end if it is new. A table that pairs
were written to one after the other holds each key once, in the order of the first pairs and with
the value of the last one; pairs with distinct keys are such a table already. Writing commutes with
changing all values, each according to its key.
-/

namespace ToolSchema

variable {α β : Type}

def keys (table : List (String × α)) : List String := table.map Prod.fst

@[simp]
theorem keys_nil : keys ([] : List (String × α)) = [] := rfl

@[simp]
theorem keys_cons (pair : String × α) (rest : List (String × α)) :
    keys (pair :: rest) = pair.1 :: keys rest := rfl

@[simp]
theorem keys_append (front back : List (String × α)) :
    keys (front ++ back) = keys front ++ keys back := List.map_append

@[simp]
theorem keys_map (change : α → β) (table : List (String × α)) :
    keys (table.map (Prod.map id change)) = keys table := by
  simp [keys]

/-! ## Looking up -/

@[simp]
theorem lookup_nil (key : String) : lookup key ([] : List (String × α)) = none := rfl

@[simp]
theorem lookup_cons (key name : String) (value : α) (rest : List (String × α)) :
    lookup key ((name, value) :: rest) = if name = key then some value else lookup key rest := rfl

theorem lookup_eq_none_iff {key : String} {table : List (String × α)} :
    lookup key table = none ↔ key ∉ keys table := by
  induction table with
  | nil => simp
  | cons pair rest ih =>
    obtain ⟨name, value⟩ := pair
    by_cases h : name = key
    · simp [h]
    · have hne : key ≠ name := fun heq ↦ h heq.symm
      simp [h, hne, ih]

theorem lookup_isSome_iff {key : String} {table : List (String × α)} :
    (lookup key table).isSome ↔ key ∈ keys table := by
  rw [Option.isSome_iff_ne_none, Ne, lookup_eq_none_iff, not_not]

/-- Where no key stands twice, every pair is the one that is looked up. -/
theorem lookup_of_mem {key : String} {value : α} {table : List (String × α)}
    (hnodup : (keys table).Nodup) (h : (key, value) ∈ table) : lookup key table = some value := by
  induction table with
  | nil => simp at h
  | cons pair rest ih =>
    obtain ⟨name, first⟩ := pair
    rw [keys_cons, List.nodup_cons] at hnodup
    rcases List.mem_cons.mp h with heq | hrest
    · obtain ⟨rfl, rfl⟩ := Prod.mk.inj heq
      simp
    · have hkey : key ∈ keys rest := List.mem_map.mpr ⟨_, hrest, rfl⟩
      have hne : name ≠ key := fun heq ↦ hnodup.1 (heq ▸ hkey)
      rw [lookup_cons, if_neg hne]
      exact ih hnodup.2 hrest

theorem mem_of_lookup {key : String} {value : α} {table : List (String × α)}
    (h : lookup key table = some value) : (key, value) ∈ table := by
  induction table with
  | nil => simp at h
  | cons pair rest ih =>
    obtain ⟨name, first⟩ := pair
    rw [lookup_cons] at h
    split at h
    · next heq =>
      obtain rfl := Option.some.inj h
      rw [heq]
      exact List.mem_cons_self
    · exact List.mem_cons_of_mem _ (ih h)

/-- What stands in front hides what stands behind under the same key. -/
theorem lookup_append (key : String) (front back : List (String × α)) :
    lookup key (front ++ back) = (lookup key front).or (lookup key back) := by
  induction front with
  | nil => rfl
  | cons pair rest ih =>
    obtain ⟨name, value⟩ := pair
    by_cases h : name = key <;> simp [h, ih]

/-! ## Writing -/

theorem insert_of_notMem {key : String} (value : α) {table : List (String × α)}
    (h : key ∉ keys table) : insert key value table = table ++ [(key, value)] := by
  induction table with
  | nil => rfl
  | cons pair rest ih =>
    obtain ⟨name, first⟩ := pair
    rw [keys_cons, List.mem_cons, not_or] at h
    rw [insert, if_neg fun heq ↦ h.1 heq.symm, ih h.2, List.cons_append]

/-- A key that is there keeps its place. -/
theorem keys_insert (key : String) (value : α) (table : List (String × α)) :
    keys (insert key value table) =
      if key ∈ keys table then keys table else keys table ++ [key] := by
  induction table with
  | nil => rfl
  | cons pair rest ih =>
    obtain ⟨name, first⟩ := pair
    by_cases h : name = key
    · simp [insert, h]
    · have hne : key ≠ name := fun heq ↦ h heq.symm
      rw [insert, if_neg h, keys_cons, ih]
      by_cases hmem : key ∈ keys rest <;> simp [hmem, hne]

theorem mem_of_mem_insert {key : String} {value : α} {table : List (String × α)}
    {pair : String × α} (h : pair ∈ insert key value table) :
    pair = (key, value) ∨ pair ∈ table := by
  induction table with
  | nil => exact .inl (List.mem_singleton.mp h)
  | cons first rest ih =>
    rw [insert] at h
    split at h
    · next heq =>
      rw [heq] at h
      rcases List.mem_cons.mp h with hfirst | hrest
      · exact .inl hfirst
      · exact .inr (List.mem_cons_of_mem _ hrest)
    · rcases List.mem_cons.mp h with hfirst | hrest
      · exact .inr (hfirst ▸ List.mem_cons_self)
      · exact (ih hrest).imp_right (List.mem_cons_of_mem _)

/-- Writing to a key that is present changes the value in its place. -/
theorem insert_of_lookup {key : String} {old : α} (value : α) {table : List (String × α)}
    (h : lookup key table = some old) :
    ∃ front back, table = front ++ (key, old) :: back ∧
      insert key value table = front ++ (key, value) :: back := by
  induction table with
  | nil => cases h
  | cons pair rest ih =>
    obtain ⟨name, first⟩ := pair
    rw [lookup_cons] at h
    split at h
    · next heq =>
      obtain rfl := Option.some.inj h
      exact ⟨[], rest, by rw [heq, List.nil_append], by rw [insert, if_pos heq, heq]; rfl⟩
    · next hne =>
      obtain ⟨front, back, hrest, hinsert⟩ := ih h
      refine ⟨(name, first) :: front, back, by rw [hrest, List.cons_append], ?_⟩
      rw [insert, if_neg hne, hinsert, List.cons_append]

theorem nodup_keys_insert (key : String) (value : α) {table : List (String × α)}
    (h : (keys table).Nodup) : (keys (insert key value table)).Nodup := by
  rw [keys_insert]
  split
  · exact h
  · next hmem =>
    have hapart : ∀ other ∈ keys table, ∀ new ∈ [key], other ≠ new := by
      intro other hother new hnew heq
      rw [List.mem_singleton] at hnew
      rw [heq, hnew] at hother
      exact hmem hother
    exact List.nodup_append.mpr ⟨h, List.nodup_singleton key, hapart⟩

theorem lookup_insert (key name : String) (value : α) (table : List (String × α)) :
    lookup key (insert name value table) = if name = key then some value else lookup key table := by
  induction table with
  | nil => rfl
  | cons pair rest ih =>
    obtain ⟨first, old⟩ := pair
    by_cases h : first = name
    · subst h
      by_cases hkey : first = key <;> simp [insert, hkey]
    · rw [insert, if_neg h, lookup_cons, lookup_cons, ih]
      by_cases hkey : first = key
      · have hne : name ≠ key := fun heq ↦ h (hkey.trans heq.symm)
        simp [hkey, hne]
      · simp [hkey]

/-- The table with all values changed, each according to its key. -/
def mapValues (change : String → α → β) (table : List (String × α)) : List (String × β) :=
  table.map fun pair ↦ (pair.1, change pair.1 pair.2)

@[simp]
theorem keys_mapValues (change : String → α → β) (table : List (String × α)) :
    keys (mapValues change table) = keys table := by
  simp [keys, mapValues]

theorem mapValues_insert (change : String → α → β) (key : String) (value : α)
    (table : List (String × α)) :
    mapValues change (insert key value table) =
      insert key (change key value) (mapValues change table) := by
  induction table with
  | nil => rfl
  | cons pair rest ih =>
    obtain ⟨name, first⟩ := pair
    by_cases h : name = key
    · simp [insert, mapValues, h]
    · simpa [insert, mapValues, h] using ih

/-! ## Collecting -/

/-- Writes pairs one after the other to a table. -/
def write (table pairs : List (String × α)) : List (String × α) :=
  pairs.foldl (fun table (key, value) ↦ insert key value table) table

theorem collect_eq_write (pairs : List (String × α)) : collect pairs = write [] pairs := rfl

@[simp]
theorem write_nil (table : List (String × α)) : write table [] = table := rfl

@[simp]
theorem write_cons (table : List (String × α)) (key : String) (value : α)
    (rest : List (String × α)) :
    write table ((key, value) :: rest) = write (insert key value table) rest := rfl

/-- Pairs under new keys are appended. -/
theorem write_of_nodup {table pairs : List (String × α)} (h : (keys (table ++ pairs)).Nodup) :
    write table pairs = table ++ pairs := by
  induction pairs generalizing table with
  | nil => simp
  | cons pair rest ih =>
    obtain ⟨key, value⟩ := pair
    have hmem : key ∉ keys table := by
      intro hmem
      rw [keys_append] at h
      exact (List.nodup_append.mp h).2.2 key hmem key List.mem_cons_self rfl
    rw [write_cons, insert_of_notMem value hmem, ih (by simpa using h)]
    simp

theorem nodup_keys_write (pairs : List (String × α)) {table : List (String × α)}
    (h : (keys table).Nodup) : (keys (write table pairs)).Nodup := by
  induction pairs generalizing table with
  | nil => exact h
  | cons pair rest ih => exact ih (nodup_keys_insert pair.1 pair.2 h)

theorem mapValues_write (change : String → α → β) (table pairs : List (String × α)) :
    mapValues change (write table pairs) =
      write (mapValues change table) (mapValues change pairs) := by
  induction pairs generalizing table with
  | nil => rfl
  | cons pair rest ih =>
    rw [write_cons, ih, mapValues_insert]
    rfl

/-- Pairs with distinct keys are a table already. -/
theorem collect_of_nodup {pairs : List (String × α)} (h : (keys pairs).Nodup) :
    collect pairs = pairs :=
  write_of_nodup h

theorem nodup_keys_collect (pairs : List (String × α)) : (keys (collect pairs)).Nodup :=
  nodup_keys_write pairs List.nodup_nil

/-- A table is collected as it is. -/
theorem collect_collect (pairs : List (String × α)) : collect (collect pairs) = collect pairs :=
  collect_of_nodup (nodup_keys_collect pairs)

theorem collect_mapValues (change : String → α → β) (pairs : List (String × α)) :
    collect (mapValues change pairs) = mapValues change (collect pairs) :=
  (mapValues_write change [] pairs).symm

theorem collect_map (change : α → β) (pairs : List (String × α)) :
    collect (pairs.map (Prod.map id change)) = (collect pairs).map (Prod.map id change) :=
  collect_mapValues (fun _ ↦ change) pairs

/-- The last pair under a key counts, and hides what the table had there. -/
theorem lookup_write (key : String) (table pairs : List (String × α)) :
    lookup key (write table pairs) = (lookup key pairs.reverse).or (lookup key table) := by
  induction pairs generalizing table with
  | nil => rfl
  | cons pair rest ih =>
    obtain ⟨name, value⟩ := pair
    rw [write_cons, ih, lookup_insert, List.reverse_cons, lookup_append, Option.or_assoc]
    by_cases h : name = key <;> simp [h]

/-- A collected table has the value of the last pair under each key. -/
theorem lookup_collect (key : String) (pairs : List (String × α)) :
    lookup key (collect pairs) = lookup key pairs.reverse := by
  rw [collect_eq_write, lookup_write, lookup_nil, Option.or_none]

theorem mem_of_mem_collect {pair : String × α} {pairs : List (String × α)}
    (h : pair ∈ collect pairs) : pair ∈ pairs := by
  have hlookup : lookup pair.1 pairs.reverse = some pair.2 := by
    rw [← lookup_collect]
    exact lookup_of_mem (nodup_keys_collect pairs) h
  exact List.mem_reverse.mp (mem_of_lookup hlookup)

/-! ## The last pair under each key -/

/-- Names without repetitions, each at its first place. -/
def distinct : List String → List String
  | [] => []
  | name :: rest => name :: (distinct rest).filter fun other ↦ other ≠ name

theorem mem_distinct {name : String} {names : List String} :
    name ∈ distinct names ↔ name ∈ names := by
  induction names with
  | nil => simp [distinct]
  | cons first rest ih =>
    by_cases h : name = first <;> simp [distinct, h, ih]

theorem nodup_distinct (names : List String) : (distinct names).Nodup := by
  induction names with
  | nil => exact List.nodup_nil
  | cons first rest ih =>
    rw [distinct, List.nodup_cons]
    exact ⟨by simp, ih.filter _⟩

/-- A name that comes last is new, or changes nothing. -/
theorem distinct_concat (names : List String) (name : String) :
    distinct (names ++ [name]) =
      if name ∈ distinct names then distinct names else distinct names ++ [name] := by
  induction names with
  | nil => rfl
  | cons first rest ih =>
    rw [List.cons_append, distinct, distinct, ih]
    by_cases hfirst : name = first
    · subst hfirst
      by_cases hrest : name ∈ distinct rest <;> simp [hrest]
    · by_cases hrest : name ∈ distinct rest <;> simp [hfirst, hrest]

/-- What stands under each key last, in the order in which the keys come first. -/
def lastUnderEach (pairs : List (String × α)) : List (String × α) :=
  (distinct (keys pairs)).filterMap fun key ↦
    (lookup key pairs.reverse).map fun value ↦ (key, value)

/-- New keys follow in the order in which they are first written. -/
theorem keys_write (table pairs : List (String × α)) :
    keys (write table pairs) =
      keys table ++ (distinct (keys pairs)).filter fun key ↦ key ∉ keys table := by
  induction pairs generalizing table with
  | nil => simp [distinct]
  | cons pair rest ih =>
    obtain ⟨name, value⟩ := pair
    rw [write_cons, ih, keys_insert, keys_cons, distinct, List.filter_cons, List.filter_filter]
    by_cases h : name ∈ keys table
    · rw [if_pos h, if_neg (by simpa using h)]
      congr 1
      apply List.filter_congr
      intro other _
      by_cases heq : other = name
      · simp [heq, h]
      · simp [heq]
    · rw [if_neg h, if_pos (by simpa using h)]
      simp only [List.append_assoc, List.singleton_append]
      congr 2
      apply List.filter_congr
      intro other _
      by_cases heq : other = name
      · simp [heq]
      · simp [heq]

/-- A table is known by its keys in order and by what stands under each of them. -/
theorem eq_filterMap_lookup {table : List (String × α)} (h : (keys table).Nodup) :
    table = (keys table).filterMap fun key ↦ (lookup key table).map fun value ↦ (key, value) := by
  have hself : ∀ pair ∈ table,
      ((lookup pair.1 table).map fun value ↦ (pair.1, value)) = some pair := by
    intro pair hpair
    rw [lookup_of_mem h hpair]
    rfl
  symm
  calc ((keys table).filterMap fun key ↦ (lookup key table).map fun value ↦ (key, value))
      = table.filterMap fun pair ↦ (lookup pair.1 table).map fun value ↦ (pair.1, value) := by
        rw [keys, List.filterMap_map]
        rfl
    _ = table.filterMap some := List.filterMap_congr hself
    _ = table := List.filterMap_some

/-- A collected table says under each key what the last pair says, in the order of the first
ones. -/
theorem collect_eq_lastUnderEach (pairs : List (String × α)) :
    collect pairs = lastUnderEach pairs := by
  have hkeys : keys (collect pairs) = distinct (keys pairs) := by
    simp [collect_eq_write, keys_write]
  calc collect pairs
      = (keys (collect pairs)).filterMap fun key ↦
          (lookup key (collect pairs)).map fun value ↦ (key, value) :=
        eq_filterMap_lookup (nodup_keys_collect pairs)
    _ = lastUnderEach pairs := by
        simp only [hkeys, lookup_collect, lastUnderEach]

end ToolSchema
