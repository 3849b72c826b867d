/-!
# Tables of code points

A set of code points is kept as closed ranges, ascending and apart. The tables of this library are
written as rows of numbers in base thirty-six: by turns the distance from the end of the last range
to the start of the next one, and the length of that range less one. They follow version 16 of the
character database.
-/

namespace ToolSchema.Unicode

abbrev Ranges := Array (Nat × Nat)

/-- The value of a digit in base thirty-six. -/
def digitValue (c : Char) : Nat :=
  if c.isDigit then c.toNat - '0'.toNat else c.toNat - 'a'.toNat + 10

/-- The numbers of a row, the last one first. -/
def numbers (row : String) : List Nat :=
  (row.toList.foldl (fun (done, n) c ↦
    if c = ' ' then (n :: done, 0) else (done, 36 * n + digitValue c)) (([] : List Nat), 0)) |>
    fun (done, n) ↦ n :: done

/-- Turns distances and lengths into ranges, from the end of the last range on. -/
def build : Nat → Ranges → List Nat → Ranges
  | last, ranges, distance :: length :: rest =>
    let start := last + distance
    build (start + length) (ranges.push (start, start + length)) rest
  | _, ranges, _ => ranges

def ofRows (rows : List String) : Ranges :=
  build 0 #[] (rows.flatMap fun row ↦ (numbers row).reverse)

/-- Looks for a code point between two places of the table, halving at most `fuel` times. -/
def searchIn (ranges : Ranges) (code : Nat) : Nat → Nat → Nat → Bool
  | 0, _, _ => false
  | fuel + 1, low, high =>
    if low < high then
      let middle := (low + high) / 2
      match ranges[middle]? with
      | none => false
      | some (first, last) =>
        if code < first then searchIn ranges code fuel low middle
        else if last < code then searchIn ranges code fuel (middle + 1) high
        else true
    else false

def Ranges.has (ranges : Ranges) (code : Nat) : Bool := searchIn ranges code 32 0 ranges.size

end ToolSchema.Unicode
