import ToolSchema.Unicode.Ranges

/-!
# Characters that print

A character is written as an escape in quoted diagnostics if it does not print by itself: controls,
format characters, separators other than the space, private and unassigned code points, and marks
that join the character before them.
-/

namespace ToolSchema.Unicode

def unprintable : Ranges := ofRows
  ["0 v 2o x d 0 gj 33 9 1 7 3 8 0 2 0 l 0 69 6 4n 0 13 1 1f 1 4 19 2 0 2 1 2 1 2 8 s 3 7 g",
   "b a 2 0 1b k h 0 2u 7 2 5 3 1 2 3 x 1 2 0 v s 2i a 2 d 18 8 8 2 p 3 2 8 2 2 2 6 g 0 q 4",
   "2 0 c 4 w g 17 1k 1k 0 2 0 5 7 5 0 4 6 b 1 u 0 3 0 9 1 3 1 n 0 8 0 2 2 5 2 2 0 3 5 3 1",
   "3 0 2 c 3 0 4 3 p 4 2 0 7 3 3 1 n 0 8 0 3 0 3 0 3 3 4 n 5 0 2 6 b 1 4 0 2 b 2 0 a 0 4 0",
   "n 0 8 0 3 0 6 2 5 7 2 0 3 2 2 e 3 3 d 6 2 7 3 0 9 1 3 1 n 0 8 0 3 0 6 2 2 1 2 5 3 1 3 e",
   "3 0 4 3 j a 2 0 7 2 4 0 5 2 3 0 2 0 3 2 3 2 4 2 d 4 2 0 3 2 4 0 4 2 2 k m 5 4 0 9 0 4 0",
   "o 0 h 2 2 2 5 i 4 1 2 1 3 3 b 6 b 0 c 0 4 0 o 0 b 0 6 2 3 1 2 0 3 n 3 0 3 3 b 0 4 d c 0",
   "4 0 16 1 2 0 3 4 4 0 4 0 3 3 4 0 b 3 r 1 3 0 j 2 p 0 a 0 2 1 8 8 3 5 8 6 b 1 4 b 1d 0 3 a",
   "9 7 e 10 3 0 2 0 6 0 p 0 2 0 b 0 3 8 2 1 6 0 2 8 b 1 5 v p 1 s 0 2 0 2 0 f 0 11 h 2 4 2 1",
   "6 1c 9 0 7 0 e 10 1a 3 2 5 2 1 3 1 q 1 5 2 h 3 e 0 3 1 7 0 g 0 15 0 2 4 2 1 ai 0 5 1 8 0",
   "2 0 5 1 16 0 5 1 y 0 5 1 8 0 2 0 5 1 g 0 1m 0 5 1 1w 4 u 2 r 5 2f 1 7 1 ht 0 t 2 2i 6 j c",
   "k 2 3 8 j d e 0 4 e 1h 1 2 6 9 0 3 a a 2 b 5 b 5 c 4 b 5 2i 6 6 1 z 0 2 4 1z 9 w 3 5 1",
   "4 3 3 0 7 6 2 2 17 1 6 a 19 3 r 5 c 2 1m 1 3 2 1l 0 2 8 2 0 3 7 7 c b 5 b 5 f 2d 1d 9 5 2",
   "9 0 u 8 d 1 x 3 3 5 1l 0 2 1 4 0 2 c 1d 7 3 4 g 2 1r 4 18 1 c a 2 c 2 6 5 0 7 0 4 1 2 4",
   "5d 1r 7r 1 7 1 13 1 7 1 9 0 2 0 2 0 2 0 w 1 1i 0 g 0 f 1 7 0 k 1 4 0 a g p 7 1c g 3 1 s 0",
   "e 2 y 1q 3x 3 ij l c k 1ed 1 x 0 9l 2 3 4 1a 0 2 4 2 1 1l 6 3 e o 8 8 0 8 0 8 0 8 0 8 0",
   "8 0 8 0 8 w 2n x r 0 2i b 5z p h 0 16 5 h 0 2f 3 2u 4 18 0 2n 0 2f 8 1d 0 mlq 2 1k 8 9p j",
   "1c 3 2 9 x 1 29 1 7 7 5r 1 3 0 2 0 9 k h 0 4 0 5 0 q 1 6 3 b 5 1l 7 1x 9 d n e 0 13 7 q a",
   "2 b v 5 1d 0 3 3 3 1 3 0 e 0 c 3 8 0 q 0 16 5 3 1 3 a 4 0 9 0 2 1 b 1 x 0 1g 0 2 2 3 1",
   "6 1 2 0 2 n i 1 9 a 7 1 7 1 7 8 8 0 8 0 1p 3 3a 0 3 0 5 2 b 5 8md b o 3 1e 3 1kx 4xr a7 1",
   "2z 11 8 b 6 4 2 0 p 0 6 0 2 0 3 0 3 0 3i f ce 1 1j 6 2 v h f b l 10 0 k 0 5 3 6 0 3s 3",
   "4e 1 w 2 7 1 7 1 7 1 4 2 8 0 8 c 3 1 d 0 r 0 k 0 3 0 g 1 f x 3g 4 4 3 1a 2 2h 0 e 2 2 1a",
   "1a 3m u 2 1e f s 3 11 8 v 4 13 9 v 0 12 3 f 15 4f 1 b 5 11 3 11 3 15 7 1h a d 0 g 0 8 0",
   "3 0 c 0 g 0 8 0 3 2 1h b 8o 8 n 9 9 n 7 0 17 0 a 1w 7 1 2 0 19 0 3 2 2 1 o 0 21 7 a 1b",
   "k 0 3 4 y 2 s 4 2 1r 1l 3 l 1 1c e 5 0 4 0 u 9 a 6 a 6 1t v 12 5 d 8 1j 2 u 1 s 4 r 6 5 b",
   "8 27 22 1i 1g c 1g 6 17 b b 5 13 7 p 7 3 5r w 0 17 2 2 1 3 f 4 1m 15 7 n a a l j 3 5 11",
   "t j o 8 2 0 1j e 8 3 v 0 3 1 2 b 1e 3 3 1 3 0 5 d q 6 b 8 11 4 2 8 j 7 10 0 4 a 1h 8 2 0",
   "9 3 3 0 h 0 l a j 0 t 2 3 3 7 0 3 1q 8 0 2 0 5 0 g 0 c 5 1c 0 4 c b 7 3 0 9 1 3 1 n 0 8 0",
   "3 0 6 2 2 0 2 0 5 1 3 1 3 2 2 b 8 r b 0 2 1 2 0 13 0 2 0 3 e 2 0 3 2 2 0 4 0 3 12 1l 7",
   "3 2 2 0 m 0 2 0 4 t 1d 0 3 5 2 0 3 0 2 1 2 1 5 7 b 4l 1c 0 3 5 5 1 2 1 s z 1g 7 3 0 2 1",
   "5 a b 5 e i 18 0 2 0 3 7 3 5 b 5 l r s 2 2 0 3 3 2 8 o 54 1c 8 2 1 2 2r 2c b 9 1 2 1 9 0",
   "3 0 p 0 6 0 3 5 5 0 4 8 b 1x 9 1 17 7 5 0 5 q 2 9 15 5 3 3 9 8 2 5 3 2 1b c 2 1 a c 22 6",
   "b 51 z d b 5 a 0 13 d 2 0 7 9 u 2 x o 2 6 2 1 2 22 8 0 3 0 13 k 2 8 b 5 7 0 3 0 12 3 3 0",
   "2 0 2 6 b 8l k 1 5 8 g 0 11 7 3 2 o 2d 2 e 1f c po 2t 34 0 6 a 5h 217 2s c tt g 7 o 330 4",
   "g8 5a0 v b 4 2 b 1c5 fu 6 w 0 b 3 2a 0 b 5 v 6 2 9 1d 6 g 9 b 0 8 0 m 4 k bz 1n 5h 2k 2s",
   "24 4 1l a e 1r 5 r 4qh 7 yf 14 b 6w6 5 0 8 0 3 0 84 e 2 s 4 1 2 d 5 7 b1 1s3 30 4 e 2 a 6",
   "b 1 2 1 2 31b 6z 5 c5 4b 39 1n 6v 9 14 1 1p 4 4 l 3 6 v 3 1q k 1v 2 2 3d l b l b 2g 8",
   "q 3q 2e 0 20 0 3 1 2 1 3 1 5 0 d 0 2 0 8 0 1u 0 5 1 9 0 8 0 t 0 5 0 6 0 2 2 8 0 9h 1 85 1",
   "fn 1i 5 1d 9 0 f 0 8 vn w 5 7 78 1r 41 1a 9 8 1 b 3 3 8v v h 19 3 b 4 2 cv t 3 b 5x v 1",
   "c 3 2 db 8 0 5 0 3 0 g 0 5i 1 a 1b 1x 6 2 3 b 3 3 ls 1x 23 1q 5d 5 0 s 0 3 0 2 1 2 0 b 0",
   "5 0 2 0 2 5 2 3 2 0 2 0 2 0 4 0 3 0 2 1 2 0 2 0 2 0 2 0 2 0 3 0 2 1 5 0 8 0 5 0 5 0 2 0",
   "b 0 i 4 4 0 6 0 i 1f 3 7h 19 3 2t b g 1 g 0 g 0 12 9 4v 1j u c 19 3 a 6 3 d 7 49 rd 3 i 2",
   "e 2 3c 3 2o 5 d 3 2 e d 3 1l 7 b 5 15 7 v 1 d 3 3 1p 9h b f 1 e 2 b 4 1l 6 g 1 c 5 a 6",
   "44 0 2v sl wyp v 37f 5 67 1 4g3 d 5rm e hb 1wh f3 15t 3t8 4 38h jgwf"]

def isPrintable (c : Char) : Bool := !unprintable.has c.toNat

end ToolSchema.Unicode
