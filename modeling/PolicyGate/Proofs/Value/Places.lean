import PolicyGate.Proofs.Value.Nodes

/-!
Trees put on a list, depth first and from left to right: at each node its level, at each entry its
key, and the leaves. A tree is filled again from a list of leaves.
-/
namespace PolicyGate

/-- What can be met on the way through a tree. -/
inductive Place where
  | node (level : Nat)
  | key (name : String)
  | leaf (v : Value)

namespace Value

mutual

/-- The places of a value that stands `level` levels below the root. A node comes before what is in
it, a key before the value under it. -/
def places (level : Nat) : Value → List Place
  | .array items => .node level :: itemPlaces (level + 1) items
  | .document entries => .node level :: entryPlaces (level + 1) entries
  | leaf => [.node level, .leaf leaf]

def itemPlaces (level : Nat) : List Value → List Place
  | [] => []
  | v :: rest => v.places level ++ itemPlaces level rest

def entryPlaces (level : Nat) : List (String × Value) → List Place
  | [] => []
  | (key, v) :: rest => .key key :: v.places level ++ entryPlaces level rest

end

def leavesAmong (places : List Place) : List Value :=
  places.filterMap fun place =>
    match place with
    | .leaf v => some v
    | _ => none

/-- The leaves of a tree from left to right. -/
def leaves (v : Value) : List Value := leavesAmong (v.places 0)

mutual

/-- The tree with the same containers and keys that has the given values as its leaves, from left to
right. -/
def refill (answers : List Value) : Value → Value
  | .array items => .array (refillItems answers items)
  | .document entries => .document (refillEntries answers entries)
  | leaf => answers.headD leaf

def refillItems (answers : List Value) : List Value → List Value
  | [] => []
  | v :: rest =>
    v.refill (answers.take v.leaves.length) :: refillItems (answers.drop v.leaves.length) rest

def refillEntries (answers : List Value) : List (String × Value) → List (String × Value)
  | [] => []
  | (key, v) :: rest =>
    (key, v.refill (answers.take v.leaves.length)) ::
      refillEntries (answers.drop v.leaves.length) rest

end

theorem places_leaf {v : Value} (leaf : v.isLeaf = true) (level : Nat) :
    v.places level = [.node level, .leaf v] := by
  cases v <;> first | rfl | cases leaf

theorem refill_leaf {v : Value} (leaf : v.isLeaf = true) (answer : Value) :
    v.refill [answer] = answer := by
  cases v <;> first | rfl | cases leaf

theorem leavesAmong_append (before after : List Place) :
    leavesAmong (before ++ after) = leavesAmong before ++ leavesAmong after :=
  List.filterMap_append

/-- The leaves of a tree do not depend on where it stands. -/
theorem leavesAmong_places (v : Value) (level : Nat) : leavesAmong (v.places level) = v.leaves := by
  suffices ∀ i j, leavesAmong (v.places i) = leavesAmong (v.places j) from this level 0
  induction v using tree_induction with
  | leaf v leaf =>
    intro i j
    rw [places_leaf leaf, places_leaf leaf]
    rfl
  | array items ih =>
    intro i j
    change leavesAmong (itemPlaces (i + 1) items) = leavesAmong (itemPlaces (j + 1) items)
    induction items with
    | nil => rfl
    | cons v rest later =>
      have first := ih v List.mem_cons_self (i + 1) (j + 1)
      have others := later fun w member => ih w (List.mem_cons_of_mem v member)
      rw [itemPlaces, itemPlaces, leavesAmong_append, leavesAmong_append, first, others]
  | document entries ih =>
    intro i j
    change leavesAmong (entryPlaces (i + 1) entries) = leavesAmong (entryPlaces (j + 1) entries)
    induction entries with
    | nil => rfl
    | cons entry rest later =>
      obtain ⟨key, v⟩ := entry
      have first := ih key v List.mem_cons_self (i + 1) (j + 1)
      have others := later fun name w member => ih name w (List.mem_cons_of_mem _ member)
      change leavesAmong (v.places (i + 1) ++ entryPlaces (i + 1) rest) =
        leavesAmong (v.places (j + 1) ++ entryPlaces (j + 1) rest)
      rw [leavesAmong_append, leavesAmong_append, first, others]

theorem refillItems_cons {answers : List Value} {v : Value}
    (enough : answers.length = v.leaves.length) (more : List Value) (rest : List Value) :
    refillItems (answers ++ more) (v :: rest) = v.refill answers :: refillItems more rest := by
  rw [refillItems, List.take_left' enough, List.drop_left' enough]

theorem refillEntries_cons {answers : List Value} {v : Value}
    (enough : answers.length = v.leaves.length) (more : List Value) (key : String)
    (rest : Document) :
    refillEntries (answers ++ more) ((key, v) :: rest) =
      (key, v.refill answers) :: refillEntries more rest := by
  rw [refillEntries, List.take_left' enough, List.drop_left' enough]

end Value
end PolicyGate
