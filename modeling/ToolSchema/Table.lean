/-!
# Tables

A table holds values under texts, in order of arrival. Writing to a key that is present changes the
value and moves nothing, so a table that was only written to has each key once.
-/

namespace ToolSchema

/-- The value under a key: the first one, where a key stands twice. -/
def lookup {α : Type} (key : String) : List (String × α) → Option α
  | [] => none
  | (k, v) :: rest => if k = key then some v else lookup key rest

/-- Writes a value under a key: in place if the key is present, at the end otherwise. -/
def insert {α : Type} (key : String) (value : α) : List (String × α) → List (String × α)
  | [] => [(key, value)]
  | (k, v) :: rest => if k = key then (k, value) :: rest else (k, v) :: insert key value rest

/-- Writes pairs one after the other, from the empty table on. -/
def collect {α : Type} (pairs : List (String × α)) : List (String × α) :=
  pairs.foldl (fun table (k, v) ↦ insert k v table) []

end ToolSchema
