import PolicyGate.Regex.Basic
import PolicyGate.Regex.Encoding
import Std.Data.HashMap

/-!
The size of the byte automaton that an expression stands for. A pattern is refused if its automaton, or
the one that reads texts from the end, is too large. Automata are built state by state; here only
their states are counted, and what states with several successors take beside. Sets are shared
between their encodings as far as a cache of limited size remembers, so their count goes by the
numbers of the states before them.
-/
namespace PolicyGate.Regex

open CharSet (ByteRanges)

/-- What was built so far: states, and bytes beside them. -/
structure Tally where
  states : Nat
  extra : Nat

namespace Tally

def bytesPerState : Nat := 32

/-- The bytes of an entry in a state that reads one of several ranges. -/
def bytesPerRange : Nat := 8

/-- The bytes of a branch in a fork. -/
def bytesPerBranch : Nat := 4

def limit : Nat := 10 <<< 20

def size (t : Tally) : Nat := t.states * bytesPerState + t.extra

def add (t : Tally) (states : Nat) (extra : Nat) : Option Tally :=
  let t : Tally := ⟨t.states + states, t.extra + extra⟩
  if t.size ≤ limit then some t else none

/-- Goes on from the end of a part, which takes a branch if that end is a fork. -/
def leave (t : Tally) (fork : Bool) : Option Tally :=
  if fork then t.add 0 bytesPerBranch else some t

end Tally

/-- Mixes the numbers of a key, one after another. -/
def hash (key : List Nat) : UInt64 :=
  let prime : UInt64 := 1099511628211
  key.foldl (fun h n => (h ^^^ n.toUInt64) * prime) 14695981039346656037

/-- The slots of the cache for states of trees. -/
def treeSlots : Nat := 10000

/-- The slots of the cache for states of chains. -/
def chainSlots : Nat := 1000

/-- States by their slots. A state that comes to a slot takes the place of the one before. -/
abbrev Cache := Std.HashMap Nat (List Nat × Nat)

/-- The state made for a key, or else a new one. `made` counts the states made, `extra` their bytes
beside. -/
structure Sharing where
  cache : Cache
  made : Nat
  extra : Nat

namespace Sharing

def start (made : Nat) : Sharing := ⟨{}, made, 0⟩

def intern (x : Sharing) (slots : Nat) (key : List Nat) (extra : Nat) : Nat × Sharing :=
  let place := (hash key).toNat % slots
  let known := match x.cache[place]? with
    | some (key', state) => if key = key' then some state else none
    | none => none
  match known with
  | some state => (state, x)
  | none => (x.made, ⟨x.cache.insert place (key, x.made), x.made + 1, x.extra + extra⟩)

end Sharing

/-- Sequences of ranges that begin with the same one, together. -/
def byFirst : List ByteRanges → List ((Nat × Nat) × List ByteRanges)
  | [] => []
  | [] :: rest => byFirst rest
  | (range :: tail) :: rest =>
    match byFirst rest with
    | [] => [(range, [tail])]
    | (range', tails) :: more =>
      if range = range' then (range, tail :: tails) :: more
      else (range, [tail]) :: (range', tails) :: more

/-- The state that reads the sequences and goes to `target`; states that read alike are shared. -/
def tree (target : Nat) : (depth : Nat) → List ByteRanges → Sharing → Nat × Sharing
  | 0, _, x => (target, x)
  | depth + 1, sequences, x =>
    let step : List Nat × Nat × Sharing → (Nat × Nat) × List ByteRanges → List Nat × Nat × Sharing :=
      fun (key, count, x) ((low, high), tails) =>
        let (state, x) := if tails.all List.isEmpty then (target, x) else tree target depth tails x
        (state :: high :: low :: key, count + 1, x)
    let (key, count, x) := (byFirst sequences).foldl step ([], 0, x)
    x.intern treeSlots key.reverse (count * Tally.bytesPerRange)

/-- The states of a set whose encodings are read from the front: the target, and a tree. -/
def codedForward (states : Nat) (sequences : List ByteRanges) : Nat × Nat :=
  let (_, x) := tree states 4 sequences (.start (states + 1))
  (x.made - states, x.extra)

/-- The states of a set whose encodings are read from the back: a fork, the target, and a chain for
each sequence; chains that end alike are shared. -/
def codedBackward (states : Nat) (sequences : List ByteRanges) : Nat × Nat :=
  let chain (x : Sharing) (ranges : ByteRanges) : Sharing :=
    (ranges.foldl (fun (target, x) (low, high) => x.intern chainSlots [target, low, high] 0)
      (states + 1, x)).2
  let x := sequences.foldl chain (.start (states + 2))
  (x.made - states, sequences.length * Tally.bytesPerBranch)

/-- The texts at a node of a tree of literals, in runs that are parted by the texts that end there.
A text that ends there again before any other went on parts nothing. -/
def runs (texts : List (List Nat)) : List (List (List Nat)) :=
  let step : List (List (List Nat)) × List (List Nat) → List Nat →
      List (List (List Nat)) × List (List Nat) := fun (done, run) text =>
    if !text.isEmpty then (done, text :: run)
    else if run.isEmpty && !done.isEmpty && done.all List.isEmpty then (done, run)
    else (run.reverse :: done, [])
  let (done, run) := texts.foldl step ([], [])
  run.reverse :: done

/-- States and further bytes of a node of a tree of literals and all below it. A node is a fork between
its runs and the end, once for every text that ends there. -/
def literalNode : (depth : Nat) → List (List Nat) → Nat × Nat
  | 0, _ => (0, 0)
  | depth + 1, texts =>
    let parted := runs texts
    let going := parted.filter fun run => !run.isEmpty
    let child (run : List (List Nat)) (byte : Nat) : Nat × Nat :=
      let tails := run.filterMap fun
        | b :: tail => if b = byte then some tail else none
        | [] => none
      if tails.all List.isEmpty then (0, 0) else literalNode depth tails
    let below := going.foldl (fun n run =>
      let bytes := (run.filterMap List.head?).eraseDups
      let entries := if bytes.length = 1 then 0 else bytes.length * Tally.bytesPerRange
      bytes.foldl (fun (m : Nat × Nat) byte =>
        let (states, extra) := child run byte
        (m.1 + states, m.2 + extra)) (n.1 + 1, n.2 + entries)) (0, 0)
    (below.1 + 1, below.2 + (going.length + (parted.length - 1)) * Tally.bytesPerBranch)

/-- The tree of literals with its end. -/
def literals (texts : List (List Nat)) : Nat × Nat :=
  let depth := texts.foldl (fun n text => max n text.length) 0
  let (states, extra) := literalNode (depth + 1) texts
  (states + 1, extra)

/-- What is built for an expression, in the order in which it is built. -/
inductive Layout where
  /-- A literal, with its bytes as they are read. -/
  | text (bytes : List Nat)
  /-- A part that is the same wherever it stands. -/
  | plain (states extra : Nat)
  /-- A set of characters beyond ASCII. -/
  | coded (sequences : List ByteRanges)
  | seq (a b : Layout)
  /-- A choice between two. -/
  | alt (a b : Layout)
  /-- A choice with one branch more. -/
  | more (a b : Layout)
  /-- A repetition; `consumes` if no round of it is empty. -/
  | times (least : Nat) (most : Option Nat) (consumes : Bool) (a : Layout)
  | group (a : Layout)

namespace Layout

def text? : Layout → Option (List Nat)
  | .text bytes => some bytes
  | _ => none

/-- A choice. One between literals is a tree. -/
def choice : List Layout → Layout
  | [] => .plain 2 0
  | [a] => a
  | a :: b :: rest =>
    match (a :: b :: rest).mapM text? with
    | some texts => let (states, extra) := literals texts; .plain states extra
    | none => rest.foldl .more (.alt a b)

/-- A part of an automaton being built, and whether its end is a fork. -/
abbrev Built := Option (Tally × Bool)

/-- Goes on with `n` copies. -/
def copies (build : Tally → Built) : (n : Nat) → Tally × Bool → Built
  | 0, x => some x
  | n + 1, (t, fork) => do
    let (t, fork') ← build t
    copies build n (← t.leave fork, fork')

/-- `n` copies from the start; none is an empty state. -/
def exactly (build : Tally → Built) : (n : Nat) → Tally → Built
  | 0, t => do some (← t.add 1 0, false)
  | n + 1, t => do copies build n (← build t)

/-- Goes on with `n` copies that may be left out, each behind a fork. -/
def optional (build : Tally → Built) : (n : Nat) → Tally × Bool → Built
  | 0, x => some x
  | n + 1, (t, fork) => do
    let (t, fork') ← build (← t.add 1 0)
    let t ← t.leave fork
    optional build n (← t.add 0 (2 * Tally.bytesPerBranch), fork')

/-- Copies without an end. -/
def unbounded (build : Tally → Built) (consumes : Bool) (least : Nat) (t : Tally) : Built := do
  match least with
  | 0 =>
    if consumes then
      let (t, fork) ← build (← t.add 1 0)
      some (← (← t.leave fork).add 0 Tally.bytesPerBranch, true)
    else
      let (t, fork) ← build t
      some (← (← t.leave fork).add 3 (4 * Tally.bytesPerBranch), false)
  | _ =>
    let (t, fork) ← exactly build least t
    some (← (← t.leave fork).add 1 Tally.bytesPerBranch, true)

/-- Between `least` and `most` copies. -/
def bounded (build : Tally → Built) (least most : Nat) (t : Tally) : Built := do
  if least = most then exactly build least t
  else if least = 0 ∧ most = 1 then
    let (t, fork) ← build (← t.add 1 0)
    some (← (← t.leave fork).add 1 (2 * Tally.bytesPerBranch), false)
  else
    let (t, fork) ← exactly build least t
    let (t, fork) ← optional build (most - least) (← t.add 1 0, fork)
    some (← t.leave fork, false)

/-- Builds a part after what was built so far. -/
def build (backward : Bool) : Layout → Tally → Built
  | .text bytes, t => do some (← t.add bytes.length 0, false)
  | .plain states extra, t => do some (← t.add states extra, false)
  | .coded sequences, t => do
    let (states, extra) := (if backward then codedBackward else codedForward) t.states sequences
    some (← t.add states extra, false)
  | .seq a b, t => do
    let (t, fork) ← build backward a t
    let (t, fork') ← build backward b t
    some (← t.leave fork, fork')
  | .alt a b, t => do
    let (t, fork) ← build backward a t
    let (t, fork') ← build backward b t
    let t ← (← t.leave fork).leave fork'
    some (← t.add 2 (2 * Tally.bytesPerBranch), false)
  | .more a b, t => do
    let (t, _) ← build backward a t
    let (t, fork) ← build backward b t
    some (← (← t.leave fork).add 0 Tally.bytesPerBranch, false)
  | .times least none consumes a, t => unbounded (build backward a) consumes least t
  | .times least (some most) _ a, t => bounded (build backward a) least most t
  | .group a, t => do
    let (t, fork) ← build backward a (← t.add 1 0)
    some (← (← t.leave fork).add 1 0, false)

end Layout

/-- What is built for a set: one state with an entry for each range if all are in ASCII. -/
def setLayout (s : CharSet) : Layout :=
  if s.isAscii then .plain 2 (s.length * Tally.bytesPerRange) else .coded s.encoded

/-- The layouts of the branches of a choice; of any other expression its own alone. The automaton that
reads from the back has the members of sequences in reverse, and no groups. -/
def layouts (backward : Bool) : Regex → List Layout
  | .empty => [.plain 1 0]
  | .text cs =>
    let bytes := (String.ofList cs).toUTF8.toList.map UInt8.toNat
    [.text (if backward then bytes.reverse else bytes)]
  | .set s => [setLayout s]
  | .look _ => [.plain 1 0]
  | .seq r s =>
    let a := Layout.choice (layouts backward r)
    let b := Layout.choice (layouts backward s)
    [if backward then .seq b a else .seq a b]
  | .alt r s => layouts backward r ++ layouts backward s
  | .times least most r =>
    [.times least most (r.leastLength.any (0 < ·)) (Layout.choice (layouts backward r))]
  | .group r =>
    if backward then [Layout.choice (layouts backward r)]
    else [.group (Layout.choice (layouts backward r))]

/-- The automaton for the whole of an expression can be built. It starts with a loop that passes over
any bytes, unless a match starts where the text does, and ends with one state for the match. -/
def fitsReading (backward : Bool) (r : Regex) : Bool :=
  let anchored := if backward then r.endsText else r.startsText
  let start : Tally :=
    if anchored then ⟨1, 0⟩ else ⟨3, Tally.bytesPerRange + 2 * Tally.bytesPerBranch⟩
  let whole := Layout.choice (layouts backward r)
  let built := do
    let (t, fork) ← (if backward then whole else .group whole).build backward start
    (← t.leave fork).add 1 0
  built.isSome

def fits (r : Regex) : Bool := r.fitsReading false && r.fitsReading true

end PolicyGate.Regex
