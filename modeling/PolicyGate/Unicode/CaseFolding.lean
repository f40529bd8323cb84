import PolicyGate.Unicode.CharSet

/-!
Simple case folding. Characters that fold together form a class; each class is held as pairs of its
least member with every other one.
-/
namespace PolicyGate.Unicode

/-- Runs of pairs: least member, other member, count, and the step from one pair to the next. -/
def foldingText : String :=
  "41 61 1a 1 4b 212a 1 1 53 17f 1 1 b5 39c 1 1 b5 3bc 1 1 c0 e0 17 1 c5 212b 1 1 d8 f8 7 1 df
   1e9e 1 1 ff 178 1 1 100 101 18 2 132 133 3 2 139 13a 8 2 14a 14b 17 2 179 17a 3 2 180 243 1 1
   181 253 1 1 182 183 2 2 186 254 1 1 187 188 2 4 189 256 2 1 18e 1dd 1 1 18f 259 1 1 190 25b 1 1
   191 192 1 1 193 260 1 1 194 263 1 1 195 1f6 1 1 196 269 1 1 197 268 1 1 198 199 2 8 19a 23d 1 1
   19b a7dc 1 1 19c 26f 1 1 19d 272 1 1 19e 220 1 1 19f 275 1 1 1a2 1a3 2 2 1a6 280 2 3 1a7 1a8 2
   8 1ac 1ad 1 1 1ae 288 1 1 1b1 28a 2 1 1b3 1b4 2 2 1b7 292 1 1 1b8 1b9 2 4 1bf 1f7 1 1 1c4 1c5 4
   3 1c4 1c6 3 3 1cf 1d0 7 2 1de 1df 9 2 1f1 1f2 2 3 1f1 1f3 1 1 1f8 1f9 14 2 222 223 9 2 23a 2c65
   1 1 23b 23c 1 1 23e 2c66 1 1 23f 2c7e 2 1 241 242 1 1 244 289 1 1 245 28c 1 1 246 247 5 2 250
   2c6f 1 1 251 2c6d 1 1 252 2c70 1 1 25c a7ab 1 1 261 a7ac 1 1 264 a7cb 1 1 265 a78d 1 1 266 a7aa
   2 4 26b 2c62 1 1 26c a7ad 1 1 271 2c6e 1 1 27d 2c64 1 1 282 a7c5 1 1 287 a7b1 1 1 29d a7b2 1 1
   29e a7b0 1 1 345 399 1 1 345 3b9 1 1 345 1fbe 1 1 370 371 2 2 376 377 1 1 37b 3fd 3 1 37f 3f3 1
   1 386 3ac 1 1 388 3ad 3 1 38c 3cc 1 1 38e 3cd 2 1 390 1fd3 1 1 391 3b1 9 3 392 3b2 9 3 392 3d0
   1 1 393 3b3 2 3 395 3f5 1 1 398 3d1 1 1 398 3f4 1 1 39a 3f0 1 1 39f 3bf 1 1 3a0 3d6 1 1 3a1 3f1
   1 1 3a3 3c2 1 1 3a5 3c5 3 3 3a6 3d5 1 1 3a9 2126 1 1 3b0 1fe3 1 1 3cf 3d7 1 1 3d8 3d9 c 2 3f2
   3f9 1 1 3f7 3f8 2 3 400 450 10 1 410 430 20 1 412 1c80 1 1 414 1c81 1 1 41e 1c82 1 1 421 1c83 2
   1 422 1c85 1 1 42a 1c86 1 1 460 461 11 2 462 1c87 1 1 48a 48b 1b 2 4c0 4cf 1 1 4c1 4c2 7 2 4d0
   4d1 30 2 531 561 26 1 10a0 2d00 26 1 10c7 2d27 1 1 10cd 2d2d 1 1 10d0 1c90 2b 1 10fd 1cbd 3 1
   13a0 ab70 50 1 13f0 13f8 6 1 1c88 a64a 1 1 1c88 a64b 1 1 1c89 1c8a 1 1 1d79 a77d 1 1 1d7d 2c63
   1 1 1d8e a7c6 1 1 1e00 1e01 4b 2 1e60 1e9b 1 1 1ea0 1ea1 30 2 1f00 1f08 8 1 1f10 1f18 6 1 1f20
   1f28 8 1 1f30 1f38 8 1 1f40 1f48 6 1 1f51 1f59 4 2 1f60 1f68 8 1 1f70 1fba 2 1 1f72 1fc8 4 1
   1f76 1fda 2 1 1f78 1ff8 2 1 1f7a 1fea 2 1 1f7c 1ffa 2 1 1f80 1f88 8 1 1f90 1f98 8 1 1fa0 1fa8 8
   1 1fb0 1fb8 2 1 1fb3 1fbc 1 1 1fc3 1fcc 1 1 1fd0 1fd8 2 1 1fe0 1fe8 2 1 1fe5 1fec 1 1 1ff3 1ffc
   1 1 2132 214e 1 1 2160 2170 10 1 2183 2184 1 1 24b6 24d0 1a 1 2c00 2c30 30 1 2c60 2c61 1 1 2c67
   2c68 3 2 2c72 2c73 2 3 2c80 2c81 32 2 2ceb 2cec 2 2 2cf2 2cf3 1 1 a640 a641 c 4 a642 a643 2 4
   a64e a64f 8 4 a680 a681 e 2 a722 a723 14 4 a724 a725 a 8 a728 a729 1 1 a738 a739 7 8 a779 a77a
   2 2 a77e a77f 5 2 a78b a78c 1 1 a790 a791 4 8 a792 a793 6 4 a794 a7c4 1 1 a79c a79d 2 8 a7b3
   ab53 1 1 a7b4 a7b5 8 2 a7c7 a7c8 2 2 a7cc a7cd 2 4 a7d6 a7d7 3 2 a7f5 a7f6 1 1 fb05 fb06 1 1
   ff21 ff41 1a 1 10400 10428 28 1 104b0 104d8 24 1 10570 10597 13 2 10571 10598 a 4 10573 1059a 2
   4 1057f 105a6 3 4 1058f 105b6 1 1 10c80 10cc0 33 1 10d50 10d70 16 1 118a0 118c0 20 1 16e40
   16e60 20 1 1e900 1e922 22 1"

def pairRuns : List Nat → List (Nat × Nat)
  | least :: other :: count :: step :: rest =>
    (List.range count).map (fun i => (least + i * step, other + i * step)) ++ pairRuns rest
  | _ => []

/-- Each member of a class that is not the least, after the least. -/
def foldingPairs : List (Nat × Nat) := pairRuns (numbers foldingText)

/-- Whether some other character folds together with this one. -/
def folds (n : Nat) : Bool := foldingPairs.any fun (least, other) => least == n || other == n

/-- The set with all characters that fold together with one of its members. -/
def closeUnderFolding (s : CharSet) : CharSet :=
  let touched := foldingPairs.filter fun (least, other) => s.contains least || s.contains other
  let classes := (touched.map Prod.fst).eraseDups
  let members := foldingPairs.filter fun (least, _) => classes.contains least
  CharSet.normalize (s ++ members.flatMap fun (least, other) => [(least, least), (other, other)])

end PolicyGate.Unicode
