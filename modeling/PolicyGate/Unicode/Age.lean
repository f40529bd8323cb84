import PolicyGate.Unicode.CharSet

/-!
The version of the standard that first assigned each code point, in stretches of one version. A
version is a number with its two parts as digits: `0x79` is 12.1, and zero stands for no version.
-/
namespace PolicyGate.Unicode

/-- Version and length of each stretch, by turns. -/
def ageText : String :=
  "b 1f6 1e 4 b 1e 1e 8 20 1 28 1 1e 12 28 3 29 b 32 e b 59 1e 5 28 2 b 2f 1e 1 b a 1e 5 28 11 b 46
   1e 9 20 1 28 8 29 5 28 3 b 2 1e 1 20 d 33 4 b 2 33 2 0 2 b 1 32 3 b 1 46 1 0 4 b 7 0 1 b 1 0 1 b
   14 0 1 b 2c 33 1 b 7 1e 1 20 2 b 1 1e 1 b 1 1e 1 b 1 1e 1 b 1 1e 1 b 12 1f 2 20 1 28 5 29 4 1e 1
   b c 1e 1 b 42 1e 1 b c 1e 1 b 29 33 1 1e 2 20 2 1e 4 b 35 20 2 b 2 20 2 b 2 20 2 32 1 b 1c 1e 2 b
   8 29 2 b 2 32 6 20 10 32 4 33 10 34 2 3c 2 46 8 0 1 b 26 0 2 b 7 6e 1 b 27 6e 1 b 1 1e 1 0 2 46 2
   3d 1 0 1 14 11 29 1 14 d b a 32 1 b 9 14 1 29 3 0 8 b 1b 0 4 6e 1 b 5 0 b 28 4 3d 1 46 1 33 5 29
   1 b 1 28 9 33 5 b 1 3f 1 8c 1 29 1 b 1 3c 1 b 1a 33 5 b 13 1e 3 28 3 29 6 3c 1 b e 20 2 b 48 1e 2
   b 5 1e 1 b f 1e 1 b 1e 28 2 b a 1e 5 28 1 1e e 0 1 1e 1e 28 3 1e 1b 0 2 28 3 29 1e 33 12 1e 31 20
   1 0 e 32 3b 0 2 6e 3 34 2e 0 2 34 f 0 1 3c 1c 0 2 3c 1 0 1 64 b 0 5 8c 1f 0 1 8c 2 0 5 a0 1 8c 8
   3d 1 46 1 3d b 46 6 50 2 8c 1 5a 8 82 a 8c b 6e 1 5a f 50 1 3d 1b 46 1 34 1 b 3 28 1 b 35 3c 2 b
   12 34 1 3c 1 b 5 34 1 3c 2 b 19 33 2 3c 5 46 1 34 2 32 2 29 1 32 2 46 1 b 3 0 1 b 8 0 2 b 2 0 2 b
   16 0 1 b 7 0 1 b 1 0 3 b 4 0 2 b 1 28 1 b 7 0 2 b 2 0 2 b 3 29 1 0 8 b 1 0 4 b 2 0 1 b 5 0 2 b 15
   34 1 64 2 6e 1 0 2 28 1 b 1 28 1 0 1 b 6 0 4 b 2 0 2 b 16 0 1 b 7 0 1 b 2 0 1 b 2 0 1 b 2 0 2 b 1
   0 1 b 5 0 4 b 2 0 2 b 3 0 3 33 1 0 7 b 4 0 1 b 1 0 7 b f 33 1 6e 1 0 a b 3 0 1 b 7 28 1 b 1 0 1 b
   3 0 1 b 16 0 1 b 7 0 1 b 2 0 1 b 5 0 2 b a 0 1 b 3 0 1 b 3 0 2 b 1 0 f b 1 28 3 0 2 b a 3d 1 28 1
   0 7 50 1 64 6 0 1 b 3 0 1 b 8 0 2 b 2 0 2 b 16 0 1 b 7 0 1 b 2 0 1 28 1 b 4 0 2 b 8 33 1 0 2 b 2
   0 2 b 3 0 7 82 1 b 2 0 4 b 2 0 1 b 3 33 2 0 2 b b 28 1 3c 6 0 a b 2 0 1 b 6 0 3 b 3 0 1 b 4 0 3 b
   2 0 1 b 1 0 1 b 2 0 3 b 2 0 3 b 3 0 3 b 8 29 1 b 3 0 4 b 5 0 3 b 3 0 1 b 4 0 2 33 1 0 6 b 1 0 e
   29 1 b c 28 8 0 5 46 1 b 3 6e 1 b 8 0 1 b 3 0 1 b 17 0 1 b a 46 1 b 5 0 2 8c 1 33 1 b 7 0 1 b 3 0
   1 b 4 0 7 b 2 0 1 33 2 50 1 0 2 8c 1 0 2 b 2 33 2 0 2 b a 0 7 78 1 33 8 5a 1 46 1 b 2 6e 1 b 8 0
   1 b 3 0 1 b 17 0 1 b a 0 1 b 5 0 2 28 2 b 7 0 1 b 3 0 1 b 4 0 7 b 2 0 6 8c 1 b 1 0 1 b 2 32 2 0 2
   b a 0 1 32 2 96 1 0 c 64 1 46 1 b 2 82 1 b 8 0 1 b 3 0 1 b 17 3c 1 b 10 3c 1 64 2 33 1 b 6 33 1 0
   1 b 3 0 1 b 4 3c 1 5a 1 0 4 5a 3 b 1 5a 7 50 1 b 2 33 2 0 2 b a 33 6 5a 3 33 7 0 1 82 1 1e 2 0 1
   1e 12 0 3 1e 18 0 1 1e 9 0 1 1e 1 0 2 1e 7 0 3 1e 1 0 4 1e 6 0 1 1e 1 0 1 1e 8 0 6 46 a 0 2 1e 3
   0 c b 3a 0 4 b 1d 0 25 b 2 0 1 b 1 0 1 78 1 b 2 78 1 b 1 0 1 78 1 b 1 78 6 b 4 78 1 b 7 78 1 b 3
   0 1 b 1 0 1 b 1 78 2 b 2 78 1 b d 78 1 b 3 0 2 b 5 0 1 b 1 0 1 b 6 96 1 0 1 b a 0 2 b 2 3d 2 0 20
   14 48 0 1 14 21 1e 1 33 2 0 4 14 1b 3c 4 14 6 1e 1 14 1 0 1 14 15 1e 3 14 7 1e 1 14 1 1e 3 0 1 1e
   f 0 1 33 1 1e 1 29 2 33 3 34 4 3c 2 0 25 1e 22 33 1 1e 5 33 1 1e 2 33 1 1e 7 33 3 1e 4 33 6 1e 1a
   33 40 34 4 33 2 b 26 0 1 3d 1 0 5 3d 1 0 2 b 27 20 2 29 2 b 1 29 1 3d 3 b 5a 34 5 b 44 34 5 b 52
   34 6 1e 7 29 1 1e 3f 29 1 1e 1 0 1 1e 4 0 2 1e 7 0 1 1e 1 0 1 1e 4 0 2 1e 27 29 1 1e 1 0 1 1e 4 0
   2 1e 1f 29 1 1e 1 0 1 1e 4 0 2 1e 7 0 1 1e 1 0 1 1e 4 0 2 1e 7 29 1 1e 7 0 1 1e 17 29 1 1e 1f 29
   1 1e 1 0 1 1e 4 0 2 1e 7 29 1 1e 27 29 1 1e 13 0 2 3c 2 29 2 1e 1c 0 3 29 1a 0 6 1e 55 50 1 0 2
   50 6 0 2 34 1 1e 276 34 9 1e 1d 0 3 1e 51 46 8 0 7 20 d 8c 1 20 7 8c 1 0 9 8c 1 20 17 0 9 20 14 0
   c 20 d 0 1 20 3 0 1 20 2 0 c 1e 5d 28 1 0 2 1e a 0 6 28 a 0 6 1e f 8c 1 1e a 0 6 1e 58 6e 1 0 7
   1e 2a 33 1 0 5 34 46 0 a 28 1d 46 2 0 1 28 c 0 4 28 c 0 4 28 1 0 3 28 2a 0 2 28 5 0 b 29 2a 34 2
   0 4 29 1a 0 6 29 a 34 1 0 3 29 2 28 20 29 1c 0 2 29 2 34 3f 0 1 34 1d 0 2 34 b 0 6 34 a 0 6 34 e
   0 2 46 f 82 2 8c e 0 31 32 4c 8c 1 0 1 a0 2 32 2d 8c 2 a0 1 33 2b 3d 3 33 c 3d 6 3c 34 0 8 3c 4
   33 38 0 3 33 f 0 3 33 33 5a 9 a0 2 0 5 6e 2b 0 2 6e 3 3d 8 0 8 34 23 3d 4 64 1 46 2 78 1 0 5 28
   6c 29 58 32 7 33 1c 46 f 64 4 8c 1 5a 1 3c 1 34 1 32 2 b 9b 14 1 33 4 b 5a 33 6 b 16 0 2 b 6 0 2
   b 26 0 2 b 6 0 2 b 8 0 1 b 1 0 1 b 1 0 1 b 1 0 1 b 1f 0 2 b 35 0 1 b f 0 1 b e 0 2 b 6 0 1 b 13 0
   2 b 3 0 1 b 9 0 1 b 2f 1e 1 b 17 20 1 1e 6 20 5 28 2 29 2 20 1 29 7 20 5 33 1 0 1 3f 4 b 7 20 1 0
   2 b 1b 0 1 29 5 3c 8 0 3 b b 14 1 15 1 1e 3 20 2 29 4 34 3 3c 1 3e 1 46 3 50 1 64 1 8c 1 0 f b 12
   1e 2 20 7 29 1 32 4 33 1 0 f b 39 1e 2 28 1 29 1 20 f 29 1 32 2 33 1 34 3 b 30 1e 1 32 1 33 4 34
   1 50 2 0 4 b 5b 1e 9 20 c b f2 20 e b 1 1e 1 b 79 1e 1 20 1 1e 1e 20 34 28 2 29 b 32 c 34 1 3c b
   46 7 5a 4 64 1 b 25 1e 2 a0 3 0 16 b b 0 15 b 8b 20 14 28 1 b 96 20 a b 50 1e 8 20 8 b 14 28 2 20
   2 29 1 1e 1 b 56 1e 2 20 c 29 2 20 a 28 8 29 b 33 1 34 2 28 2 29 10 32 1 33 a 34 3 33 4 34 a 3c 1
   34 13 3c 1 34 1 3c 4 34 18 46 1 b 4 3c 1 b 4 3c 2 b 1c 3c 1 b 23 3c 1 b 1 3c 1 b 4 3c 3 b 1 34 1
   b 7 3c 2 b 7 20 e b 1f 3c 3 b 18 3c 1 b e 3c 1 29 7 32 4 3d 1 33 1 3d 1 3c 2 20 1c 33 4 20 10 1e
   100 20 200 28 e 29 6 32 7 33 5 32 4 33 29 46 3 33 5 34 5 46 1a 0 2 46 20 0 1 82 1 46 22 6e 3 46 c
   78 1 46 8 64 1 6e 19 50 4 6e f 78 1 29 2f 8c 1 29 2f 8c 1 32 d 33 3 34 1 33 3 32 4 33 6 34 2 29
   6b 34 7 3d 2 0 5 29 2d 0 1 3d 1 0 5 3d 1 0 2 29 36 3d 2 0 7 29 1 3c 1 0 e 3c 1 29 17 0 9 29 7 0 1
   29 7 0 1 29 7 0 1 29 7 0 1 29 7 0 1 29 7 0 1 29 7 0 1 29 7 0 1 33 20 29 18 33 4 29 2 33 13 34 1
   3d a 46 7 5a 2 64 5 6e 5 78 1 82 3 8c b 0 22 1e 1a 0 1 1e 59 0 c 1e d6 0 1a 1e c 97 4 b 38 1e 3
   20 3 1e 1 b 1 0 1 b 54 20 2 0 2 b 6 20 2 b 5e 20 1 0 5 b 28 33 1 64 1 6e 1 0 1 b 5e 0 1 b 10 1e
   18 3c 3 82 5 29 10 33 14 a0 2 0 9 97 1 20 10 b 1d 28 2 0 1 b 24 34 c 28 1 20 f b 1c 28 2 29 1 b
   32 20 f b c 28 4 b 2f 79 1 b 77 28 4 b 63 28 2 b 1f 28 1 1e 19b6 82 a 28 40 b 51a6 29 16 33 8 34
   8 3d 1 50 9 64 15 6e 5 82 d 8c 3 1e 48d 0 3 1e 12 20 2 1e 10 20 1 1e c 20 1 1e 3 20 1 1e 1 0 9 34
   30 33 12c 0 14 33 20 3c 2 33 12 3d 8 33 1c 46 6 50 1 3d 1 34 58 0 8 29 17 32 4 33 5 32 2 33 6b 3c
   2 50 1 3c 2 3d 2 46 c 3c a 3d 1 46 3 5a 1 6e 1 46 2 50 6 6e 2 78 6 8c 2 78 5 82 4 a0 3 0 2 8c 2 0
   1 8c 1 0 1 8c 5 a0 3 0 15 8c 3 82 2 46 1 3d 2 3c 1 33 5 29 2c 82 1 0 3 34 a 0 6 32 38 0 8 33 45
   5a 1 0 8 33 c 0 6 34 1c 50 2 6e 2 33 54 0 b 33 1 34 1d 0 3 34 4e 0 1 34 b 0 4 34 2 46 1f 0 1 33
   37 0 9 33 e 0 2 33 a 0 2 33 4 34 1c 46 4 34 43 0 18 34 5 3d 17 0 a 3c 6 0 2 3c 6 0 2 3c 6 0 9 3c
   7 0 1 3c 7 0 1 46 30 50 4 46 2 78 2 82 4 0 4 50 50 34 2e 0 2 34 a 0 6 14 2ba4 0 c 34 17 0 4 34 31
   0 804 b 1a2e 3d 2 20 3b 34 3 0 2 29 6a 0 26 b 7 0 c b 5 0 5 1e 1 b 19 0 1 b 5 0 1 b 1 0 1 b 2 0 1
   b 2 0 1 b 6c 3c 10 8c 1 0 10 b 16d 8c 10 b 40 0 2 b 36 0 7 8c 1 1f 20 b c 20 1 28 1 8c 2 20 10 29
   a 0 6 b 4 33 3 46 7 50 2 b 15 20 2 28 2 b a 0 1 b 13 0 1 b 4 0 4 b 3 20 1 b 1 0 1 b 87 0 2 b 1 0
   1 b 5e 20 2 b 5e 0 3 b 6 0 2 b 6 0 2 b 6 0 2 b 3 0 3 b 7 0 1 b 7 0 a 1e 3 15 1 b 3 28 c 0 1 28 1a
   0 1 28 13 0 1 28 2 0 1 28 f 0 2 28 e 0 22 28 7b 0 5 28 3 0 4 28 2d 0 3 28 9 29 4b 46 2 5a 2 0 1
   33 c 82 1 0 3 46 1 0 2f 33 2e 0 82 33 1d 0 3 33 31 0 f 46 1c 0 4 1f 1f 46 1 1f 4 0 9 64 3 1f 1b 0
   5 46 2b 0 5 28 1e 0 1 28 1 29 24 0 4 29 e 0 2a 1f 26 28 2 1f 26 28 50 0 2 28 a 0 6 5a 24 0 4 5a
   24 0 4 46 28 0 8 46 34 0 b 46 1 8c b 0 1 8c f 0 1 8c 7 0 1 8c 2 0 1 8c b 0 1 8c f 0 1 8c 7 0 1 8c
   2 0 3 a0 34 0 c 46 137 0 9 46 16 0 a 46 8 0 18 8c 6 0 1 8c 2a 0 1 8c 9 0 45 28 6 0 2 28 1 0 1 28
   2c 0 1 28 2 0 3 28 1 0 2 28 1 34 16 0 1 34 9 46 3f 0 8 46 9 0 30 50 13 0 1 50 2 0 5 50 5 32 1a 34
   2 0 3 32 1 33 1a 0 5 33 1 0 40 3d 38 0 4 50 2 3d 2 50 10 0 2 50 2e 29 4 0 1 29 2 0 5 29 8 0 1 29
   3 0 1 29 1b 6e 2 0 2 29 3 0 4 29 9 6e 1 0 7 29 9 0 7 34 20 46 20 0 20 46 27 0 4 46 c 0 9 34 36 0
   3 34 1d 0 2 34 1b 0 5 34 8 46 12 0 7 46 4 0 c 46 7 0 50 34 49 0 37 50 33 0 d 50 33 0 7 50 6 6e 28
   0 8 6e a 0 6 a0 26 0 3 a0 1d 0 8 a0 2 0 d0 34 1f 0 1 82 2a 0 1 82 3 0 2 82 2 0 10 a0 3 0 37 a0 1
   96 3 6e 28 0 8 6e 2a 0 16 8c 1a 0 26 82 1c 0 14 78 17 0 9 3c 4e 0 4 3c 1e 8c 6 0 9 46 1 34 42 8c
   1 0 a 6e 1 0 2 3d 19 0 7 3d a 0 6 3d 35 0 1 3d e 6e 3 82 1 0 8 46 27 0 9 3d 49 50 4 46 1 82 2 3d
   a 46 1 50 5 0 1 46 14 0 b 46 12 0 1 46 2b 5a 1 96 3 0 3e 50 7 0 1 50 1 0 1 50 4 0 1 50 f 0 1 50 b
   0 6 46 3b 0 5 46 a 0 6 50 1 46 3 0 1 46 8 0 2 46 2 0 2 46 16 0 1 46 7 0 1 46 2 0 1 46 5 0 1 6e 1
   46 9 0 2 46 2 0 2 46 3 0 2 50 1 0 6 46 1 0 5 46 7 0 2 46 7 0 3 46 5 0 b a0 a 0 1 a0 1 0 2 a0 1 0
   1 a0 26 0 1 a0 a 0 1 a0 1 0 2 a0 1 0 1 a0 4 0 1 a0 a 0 1 a0 2 0 8 a0 2 0 1d 5a 5a 82 1 5a 1 0 1
   5a 1 6e 1 78 1 82 2 0 1e 46 48 0 8 46 a 0 a6 46 36 0 2 46 12 50 14 0 22 46 45 0 b 46 a 0 6 5a d 0
   13 3d 38 78 1 8c 1 0 6 3d a 0 6 a0 14 0 1c 50 1a 6e 1 0 2 50 f 0 4 50 10 8c 7 0 b9 6e 3c 0 64 46
   53 0 c 46 1 82 7 0 2 82 1 0 2 82 8 0 1 82 2 0 1 82 1e 0 1 82 2 0 2 82 c 0 9 82 a 0 46 78 8 0 2 78
   2e 0 2 78 b 0 1b 64 48 0 8 64 34 78 2 64 17 6e 1 64 5 0 d 8c 10 46 39 0 7 96 a 0 b6 a0 22 0 e a0
   a 0 6 5a 9 0 1 5a 2d 0 1 5a e 0 a 5a 1d 0 3 5a 20 0 2 5a 16 0 1 5a e 0 49 64 7 0 1 64 2 0 1 64 2c
   0 3 64 1 0 1 64 2 0 1 64 9 0 8 64 a 0 6 6e 6 0 1 6e 2 0 1 6e 25 0 1 6e 2 0 1 6e 6 0 7 6e a 0 136
   6e 19 0 7 96 11 0 1 96 29 0 3 96 1c a0 1 0 55 82 1 0 f 78 32 0 d 78 1 32 36f 46 2a 50 1 0 66 32
   63 46 c 0 1 32 4 46 1 0 b 50 c4 0 a4c 8c 63 0 d 34 42f 96 1 78 9 96 1d 0 a a0 f9b 0 5 50 247 0
   1ab9 a0 3a 0 6c6 3c 239 0 7 46 1f 0 1 46 a 0 4 46 2 8c 4f 0 1 8c a 0 6 46 1e 0 2 46 6 0 a 46 46 0
   a 46 a 0 1 46 7 0 1 46 15 0 5 46 13 0 1b0 a0 3a 0 c6 6e 5b 0 65 3d 45 78 6 0 4 78 1 3d 2f 78 9 0
   7 3d 11 0 40 5a 1 64 1 78 2 82 1 0 b 82 2 0 e 5a 17ed 6e 5 78 6 0 8 5a 2f3 82 1e3 0 29 a0 1 82 9
   0 22e7 8c 4 0 1 8c 7 0 1 8c 2 0 1 3c 2 64 11d 8c 4 0 f 96 1 0 1d 78 3 0 2 96 1 0 e 78 4 0 8 64
   18c 0 904 46 6b 0 5 46 d 0 3 46 9 0 7 46 a 0 2 46 8 0 f5c a0 fa 0 6 a0 1b4 0 4c 8c 2e 0 2 8c 17 0
   9 8c 74 0 3c 1f f6 0 a 1f 27 0 2 33 1 1f b4 50 b 8c 2 0 15 29 46 0 7a 96 14 0 c 6e 14 0 c 28 57 0
   9 32 12 6e 7 0 87 1f 55 0 1 1f 47 0 1 1f 2 0 2 1f 1 0 2 1f 2 0 2 1f 4 0 1 1f c 0 1 1f 1 0 1 1f 4
   28 1 1f 2 0 1 1f 41 0 1 1f 4 0 2 1f 8 0 1 1f 7 0 1 1f 1c 0 1 1f 4 0 1 1f 5 0 1 1f 1 0 3 1f 7 0 1
   1f 152 29 2 0 2 1f 122 32 2 0 2 1f 32 50 28c 0 f 50 5 0 1 50 f 0 450 8c 1f 0 6 96 6 0 d5 5a 7 0 1
   5a 11 0 2 5a 7 0 1 5a 2 0 1 5a 5 0 5 96 3e 0 21 96 1 0 70 78 2d 0 3 78 e 0 2 78 a 0 4 78 2 0 140
   8c 1f 0 11 78 3a 0 5 78 1 0 1d0 96 2a 0 d6 a0 2b 0 4 a0 1 0 1e0 8c 7 0 1 8c 4 0 1 8c 2 0 1 8c f 0
   1 46 c5 0 2 46 10 0 29 5a 4b 78 1 0 4 5a a 0 4 5a 2 0 311 6e 44 0 4c 78 3d 0 c2 3d 4 0 1 3d 1b 0
   1 3d 2 0 1 3d 1 0 2 3d 1 0 1 3d a 0 1 3d 4 0 1 3d 1 0 1 3d 1 0 6 3d 1 0 4 3d 1 0 1 3d 1 0 1 3d 1
   0 1 3d 3 0 1 3d 2 0 1 3d 1 0 2 3d 1 0 1 3d 1 0 1 3d 1 0 1 3d 1 0 1 3d 1 0 1 3d 2 0 1 3d 1 0 2 3d
   4 0 1 3d 7 0 1 3d 4 0 1 3d 4 0 1 3d 1 0 1 3d a 0 1 3d 11 0 5 3d 3 0 1 3d 5 0 1 3d 11 0 34 3d 2 0
   10e 33 2c 0 4 33 64 0 c 3c f 0 2 3c e 46 1 0 1 3c f 0 1 3c f 46 16 0 a 34 b 46 2 82 3 34 1f 6e 1
   3c 1 34 1 3c b 34 1 3c 1 34 1 3c 2 34 1 3c 3 34 1 3c 3 34 5 3c 8 34 1 3c 7 34 1 3c a 3d 2 78 1 82
   3 3c 9 34 1 3c 1 34 2 3c 2 34 1 3c a 34 4 3c 2 34 1 3c a 5a 12 82 1 0 38 3c 1a 34 1 3c 2 0 d 34
   22 3c 9 5a 1 0 4 34 9 0 7 3c 2 0 e 64 6 0 9a 3c 21 46 c 50 3 3c 6 46 1 3c 46 46 1 50 2 3c 14 46 c
   3c 25 46 1 3c 5 46 4 50 5 46 c 3c 11 46 7 50 8 3c 3f 46 1 3c 1 46 1 3c b6 46 1 3c 4 46 2 50 1 3c
   3e 46 2 3d 4 46 7 50 5 3c 18 46 12 5a 1 46 29 5a 1 46 56 3c 5 3d 1 3c 10 3d 1 3c 3 3d 1 3c 1 3d 1
   3c 1 3d 1 3c 1 3d 1 3c 3 3d 1 3c 6 3d 2 3c 4 3d 1 3c 1 3d 2 3c 4 3d 1 3c c 46 2 50 2 3c b 46 30
   3c 46 46 a 50 1 5a 2 64 2 78 1 82 2 0 4 96 1 8c 3 46 d 0 3 46 4 5a 3 64 2 6e 1 78 1 82 2 0 3 3c
   74 96 3 0 4 96 5 46 55 6e 4 96 1 0 6 78 c 0 4 8c 1 0 f 46 c 0 4 46 38 0 8 46 a 0 6 46 28 0 8 46
   1e 0 2 82 2 a0 a 0 4 a0 2 0 3e 64 c 82 1 78 3 50 9 5a 6 64 1 5a 8 64 8 5a 1 64 2 5a c 78 1 5a c
   64 1 6e 3 5a f 64 d 6e 5 78 1 82 1 6e 4 82 2 8c 1 6e 1 78 1 6e 4 50 5 5a d 64 6 6e b 82 2 78 6 82
   3 78 2 6e a 78 6 50 1 6e 2 78 8 82 1 8c 1 78 3 64 17 6e 19 78 54 0 c 6e e 0 2 78 4 82 1 96 3 78 3
   8c 2 0 3 78 3 82 4 96 2 a0 1 0 5 a0 1 78 6 82 13 8c 4 96 3 82 7 8c 4 96 3 a0 1 96 1 82 3 8c 3 a0
   1 0 7 96 2 82 7 8c 3 96 2 a0 1 0 2 a0 1 8c 8 96 1 a0 1 0 6 8c 7 96 2 0 7 82 93 0 1 82 37 a0 25 82
   a 0 404 14 2 1f a6d7 82 7 8c 2 0 20 34 1035 8c 4 96 1 0 6 3c de 0 2 50 1682 0 e 64 1d31 0 f 97
   26e 0 9a2 1f 21e 0 5e0 14 2 82 134b 0 5 96 1060 0 dc4e 14 2 0 fffe 14 2 0 fffe 14 2 0 fffe 14 2 0
   fffe 14 2 0 fffe 14 2 0 fffe 14 2 0 fffe 14 2 0 fffe 14 2 0 fffe 14 2 0 fffe 14 2 0 1 1f 1 0 1e
   1f 60 0 80 28 f0 0 fe0e 14 20002"

/-- The stretches with their versions, from `start` on. -/
def stretchesFrom (start : Nat) : List Nat → List (Nat × Nat × Nat)
  | version :: length :: rest =>
    (version, start, start + length - 1) :: stretchesFrom (start + length) rest
  | _ => []

def ageRuns : List (Nat × Nat × Nat) := stretchesFrom 0 (numbers ageText)

/-- The versions that assigned anything, in the order of their code points. -/
def versions : List Nat := ((ageRuns.map Prod.fst).filter (0 < ·)).eraseDups

/-- A version is named with a dot between its parts, or with `v` before them. -/
def version? (name : String) : Option Nat :=
  versions.find? fun v =>
    name == toString (v / 10) ++ "." ++ toString (v % 10) || name == "v" ++ toString v

/-- The code points that a version of the standard knew, those of earlier versions included. -/
def age? (name : String) : Option CharSet :=
  (version? name).map fun v =>
    ageRuns.filterMap fun (since, range) => if 0 < since && since ≤ v then some range else none

end PolicyGate.Unicode
