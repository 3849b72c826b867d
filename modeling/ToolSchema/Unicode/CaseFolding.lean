import ToolSchema.Unicode.Ranges

/-!
# Case folding

Simple case folding takes each cased character to one representative of its case variants. Two
characters are variants of each other when they have one representative. The table is a list of
runs: the distance to the first code point from that of the run before, the number of code points
less one, the step between them, and the difference to the representative, its sign in the lowest
bit.
-/

namespace ToolSchema.Unicode

/-- The runs of the folding table. -/
def foldingRows : List String :=
  ["1t p 1 1s 38 0 1 172 b m 1 1s o 6 1 1s 14 n 2 2 1e 2 2 2 7 7 2 2 h m 2 2 1a 0 1 6p 1 2 2 2",
   "6 0 1 ev 2 0 1 bo 1 1 2 2 4 0 1 bg 1 0 1 2 2 1 1 be 2 0 1 2 3 0 1 4e 1 0 1 b8 1 0 1 ba",
   "1 0 1 2 2 0 1 be 1 0 1 bi 2 0 1 bq 1 0 1 bm 1 0 1 2 4 0 1 bq 1 0 1 bu 2 0 1 bw 1 2 2 2",
   "6 0 1 c4 1 0 1 2 2 0 1 c4 3 0 1 2 2 0 1 c4 1 0 1 2 2 1 1 c2 2 1 2 2 4 0 1 c6 1 0 1 2",
   "4 0 1 2 8 0 1 4 1 0 1 2 2 0 1 4 1 0 1 2 2 0 1 4 1 8 2 2 j 8 2 2 j 0 1 4 1 1 2 2 4 0 1 5d",
   "1 0 1 33 1 j 2 2 14 0 1 77 2 8 2 2 o 0 1 gnq 1 0 1 2 2 0 1 91 1 0 1 gnk 3 0 1 2 2 0 1 at",
   "1 0 1 3u 1 0 1 3y 1 4 2 2 73 0 1 6g 17 1 2 2 6 0 1 2 9 0 1 6g 7 0 1 24 2 2 1 22 4 0 1 3k",
   "2 1 1 3i 3 g 1 1s i 8 1 1s v 0 1 2 d 0 1 g 1 0 1 1n 1 0 1 1d 4 0 1 t 1 0 1 17 2 b 2 2",
   "o 0 1 2z 1 0 1 2n 3 0 1 3b 1 0 1 3j 2 0 1 2 2 0 1 d 1 0 1 2 3 2 1 77 3 f 1 4g g v 1 1s",
   "28 g 2 2 16 q 2 2 1i 0 1 u 1 6 2 2 f 1b 2 2 2p 11 1 2o 29b 11 1 b7k 13 0 1 b7k 6 0 1 b7k",
   "mj 5 1 f 1oo 0 1 9ln 1 0 1 9ll 1 0 1 9l3 1 1 1 9kz 2 0 1 9l1 1 0 1 9kn 1 0 1 9jb",
   "1 0 1 1ifa 1 0 1 2 7 16 1 4n3 19 2 1 4n3 8z 22 2 2 4b 0 1 37 3 0 1 br1 2 1b 2 2 2w 7 1 f",
   "g 5 1 f g 7 1 f g 7 1 f g 5 1 f h 3 2 f f 7 1 f w 7 1 f g 7 1 f g 7 1 f g 1 1 f 2 1 1 43",
   "2 0 1 h 2 0 1 b2h a 3 1 4r 4 0 1 h 7 0 1 b5x 5 1 1 f 2 1 1 5j 9 0 1 b51 5 1 1 f 2 1 1 67",
   "2 0 1 d c 1 1 73 2 1 1 6z 2 0 1 h 8a 0 1 bll 4 0 1 cxp 1 0 1 cqz 7 0 1 1k 1a f 1 w z 0 1 2",
   "mr p 1 1g 1fu 1b 1 2o 2o 0 1 2 2 0 1 gkt 1 0 1 5vv 1 0 1 gjx 3 2 2 2 6 0 1 gmv 1 0 1 gl5",
   "1 0 1 gn1 1 0 1 gmz 2 0 1 2 3 0 1 2 9 1 1 got 2 1d 2 2 2z 1 2 2 7 0 1 2 nym m 2 2 1s d 2 2",
   "4i 6 2 2 g u 2 2 1z 1 2 2 4 0 1 1iiv 1 4 2 2 d 0 1 2 2 0 1 1t8v 3 1 2 2 6 9 2 2 k 0 1 1taf",
   "1 0 1 1tb1 1 0 1 1tat 1 0 1 1ta9 1 0 1 1taf 2 0 1 1t7n 1 0 1 1t8z 1 0 1 1t7t 1 0 1 1fk",
   "1 7 2 2 g 0 1 2n 1 0 1 1tad 1 0 1 1ilr 1 1 2 2 4 0 1 1tcd 1 0 1 2 4 0 1 2 6 2 2 2",
   "6 0 1 1toh p 0 1 2 or 27 1 1nz3 fpx 0 1 2 t8 p 1 1s yn 13 1 28 4w z 1 28 5c a 1 26",
   "c e 1 26 g 6 1 26 8 1 1 26 1d8 1e 1 3k 5s l 1 1s 28g v 1 1s gww v 1 1s o8w x 1 1w"]

/-- The pairs of one run. -/
def runPairs (start count step shift : Nat) : List (Nat × Nat) :=
  (List.range (count + 1)).map fun i ↦
    let code := start + step * i
    (code, if shift % 2 = 0 then code + shift / 2 else code - (shift + 1) / 2)

/-- The pairs of all runs, from the start of the last run on. -/
def foldingOf : Nat → List Nat → List (Nat × Nat)
  | last, distance :: count :: step :: shift :: rest =>
    let start := last + distance
    runPairs start count step shift ++ foldingOf start rest
  | _, _ => []

/-- Code points with their representatives, where these differ. -/
def folding : List (Nat × Nat) :=
  foldingOf 0 (foldingRows.flatMap fun row ↦ (numbers row).reverse)

def fold (code : Nat) : Nat := ((folding.find? fun p ↦ p.1 = code).map Prod.snd).getD code

/-- A character and all its case variants. -/
def variants (c : Char) : List Char :=
  let representative := fold c.toNat
  Char.ofNat representative ::
    (folding.filter fun p ↦ p.2 = representative).map fun p ↦ Char.ofNat p.1

end ToolSchema.Unicode
