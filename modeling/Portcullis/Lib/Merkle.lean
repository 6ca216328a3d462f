import Mathlib.Data.List.Basic
import Mathlib.Data.List.Induction
import Mathlib.Tactic

/-!
# Merkle trees by levels

A level is halved by joining neighbours; a last node without a neighbour is joined with
itself.  The halving is generic in the nodes, so that one lemma relates the tree of nodes,
the tree of digests and the digest at the top.  A path climbs from a digest to the top.  An
honest path reaches the top, and a path that reaches the top of a tree starts at one of its
leaves, as long as joins are not confused with each other or with leaves.  Under the same
proviso the top determines the perfect tree below it, and so the level up to what was
repeated to fill the tree.
-/

namespace Portcullis.Lib.Merkle

open List

/-! ## Levels -/

section Levels

variable {Node Other : Type} (join : Node → Node → Node)

def pairUp : List Node → List Node
  | [] => []
  | [last] => [join last last]
  | left :: right :: rest => join left right :: pairUp rest

theorem length_pairUp (level : List Node) :
    (pairUp join level).length = (level.length + 1) / 2 := by
  induction level using pairUp.induct with
  | case1 => simp [pairUp]
  | case2 last => simp [pairUp]
  | case3 left right rest ih =>
    rw [pairUp, length_cons, ih, length_cons, length_cons]
    omega

/-- The top of a level; `vacant` stands in for the top of no nodes. -/
def top (vacant : Node) : List Node → Node
  | [] => vacant
  | [root] => root
  | left :: right :: rest => top vacant (pairUp join (left :: right :: rest))
termination_by level => level.length
decreasing_by
  rw [length_pairUp]
  simp only [length_cons]
  omega

variable {level : List Node}

theorem forall_pairUp {below above : Node → Prop}
    (joins : ∀ left right, below left → below right → above (join left right))
    (holds : ∀ node ∈ level, below node) :
    ∀ node ∈ pairUp join level, above node := by
  induction level using pairUp.induct with
  | case1 => exact fun node mem => (not_mem_nil mem).elim
  | case2 last =>
    intro node mem
    rw [mem_singleton.mp mem]
    have last := holds last (mem_singleton_self last)
    exact joins _ _ last last
  | case3 left right rest ih =>
    intro node mem
    rcases mem_cons.mp mem with rfl | later
    · exact joins _ _ (holds left (by simp)) (holds right (by simp))
    · exact ih (fun node inside => holds node (by simp [inside])) node later

theorem top_induction (property : Node → Prop) {vacant : Node}
    (joins : ∀ left right, property left → property right → property (join left right))
    (base : level = [] → property vacant) (holds : ∀ node ∈ level, property node) :
    property (top join vacant level) := by
  induction level using top.induct join with
  | case1 =>
    rw [top]
    exact base rfl
  | case2 root =>
    rw [top]
    exact holds root (mem_singleton_self root)
  | case3 left right rest ih =>
    rw [top]
    exact ih (fun vanished => by simp [pairUp] at vanished) (forall_pairUp join joins holds)

variable {join} {joinOther : Other → Other → Other} (view : Node → Other)

theorem map_pairUp (view_join : ∀ left right,
      view (join left right) = joinOther (view left) (view right)) (level : List Node) :
    (pairUp join level).map view = pairUp joinOther (level.map view) := by
  induction level using pairUp.induct with
  | case1 => rfl
  | case2 last => simp [pairUp, view_join]
  | case3 left right rest ih => simp [pairUp, view_join, ih]

theorem view_top (view_join : ∀ left right,
      view (join left right) = joinOther (view left) (view right)) (vacant : Node)
    (level : List Node) :
    view (top join vacant level) = top joinOther (view vacant) (level.map view) := by
  induction level using top.induct join with
  | case1 => simp [top]
  | case2 root => simp [top]
  | case3 left right rest ih =>
    rw [top, ih, map_pairUp view view_join, map_cons, map_cons, top]

end Levels

/-! ## Paths -/

/-- One step up: the digest of the sibling, and whether it stands on the left. -/
structure Step (Digest : Type) where
  sibling : Digest
  onLeft : Bool
  deriving DecidableEq, Repr

section Paths

variable {Digest : Type} (join : Digest → Digest → Digest)

variable (digest : Digest)

def ascend (step : Step Digest) : Digest :=
  if step.onLeft then join step.sibling digest else join digest step.sibling

def climb (path : List (Step Digest)) : Digest :=
  path.foldl (ascend join) digest

def stepAt : List Digest → Nat → Option (Step Digest)
  | [], _ => none
  | [last], 0 => some ⟨last, false⟩
  | [_], _ + 1 => none
  | _ :: right :: _, 0 => some ⟨right, false⟩
  | left :: _ :: _, 1 => some ⟨left, true⟩
  | _ :: _ :: rest, index + 2 => stepAt rest index

theorem ascend_stepAt {level : List Digest} {index : Nat} {digest : Digest}
    (found : level[index]? = some digest) :
    ∃ step, stepAt level index = some step ∧
      (pairUp join level)[index / 2]? = some (ascend join digest step) := by
  induction level, index using stepAt.induct with
  | case1 index => cases found
  | case2 last =>
    obtain rfl := Option.some.inj found
    exact ⟨_, rfl, rfl⟩
  | case3 last index => cases found
  | case4 left right rest =>
    obtain rfl := Option.some.inj found
    exact ⟨_, rfl, rfl⟩
  | case5 left right rest =>
    obtain rfl := Option.some.inj found
    exact ⟨_, rfl, rfl⟩
  | case6 left right rest index ih =>
    obtain ⟨step, taken, above⟩ := ih found
    refine ⟨step, taken, ?_⟩
    rw [Nat.add_div_right index Nat.two_pos, pairUp, List.getElem?_cons_succ]
    exact above

def pathTo : List Digest → Nat → List (Step Digest)
  | [], _ => []
  | [_], _ => []
  | left :: right :: rest, index =>
    (stepAt (left :: right :: rest) index).toList ++
      pathTo (pairUp join (left :: right :: rest)) (index / 2)
termination_by level => level.length
decreasing_by
  rw [length_pairUp]
  simp only [length_cons]
  omega

theorem climb_pathTo (vacant : Digest) {level : List Digest} {index : Nat} {digest : Digest}
    (found : level[index]? = some digest) :
    climb join digest (pathTo join level index) = top join vacant level := by
  induction level, index using pathTo.induct join generalizing digest with
  | case1 index => cases found
  | case2 root index =>
    cases index with
    | zero =>
      obtain rfl := Option.some.inj found
      rw [pathTo, top]
      rfl
    | succ index => cases found
  | case3 left right rest index ih =>
    obtain ⟨step, taken, above⟩ := ascend_stepAt join found
    rw [pathTo, taken, Option.toList_some, singleton_append, top]
    exact ih above

end Paths

/-! ## Trees -/

inductive Tree (Digest : Type) where
  | leaf (digest : Digest)
  | node (left right : Tree Digest)

namespace Tree

variable {Digest : Type}

def leaves : Tree Digest → List Digest
  | .leaf digest => [digest]
  | .node left right => left.leaves ++ right.leaves

variable (join : Digest → Digest → Digest)

def root : Tree Digest → Digest
  | .leaf digest => digest
  | .node left right => join left.root right.root

/-- The digests that are joined anywhere in the tree. -/
def joins : Tree Digest → List (Digest × Digest)
  | .leaf _ => []
  | .node left right => (left.root join, right.root join) :: (left.joins ++ right.joins)

/-- Whatever is climbed through is told from the leaves of the tree, from its start, and
from joins of other digests. -/
structure Distinguished (tree : Tree Digest) (digest : Digest) (path : List (Step Digest)) :
    Prop where
  start : ∀ pair ∈ tree.joins join, digest ≠ join pair.1 pair.2
  leaf : ∀ first step rest, path = first ++ step :: rest → ∀ leaf ∈ tree.leaves,
    ascend join (climb join digest first) step ≠ leaf
  node : ∀ first step rest, path = first ++ step :: rest → ∀ pair ∈ tree.joins join,
    ascend join (climb join digest first) step = join pair.1 pair.2 →
      climb join digest first = if step.onLeft then pair.2 else pair.1

variable {join}

variable {tree left right : Tree Digest}

theorem Distinguished.mono {part : Tree Digest} {digest : Digest} {path first : List (Step Digest)}
    {step : Step Digest} (distinguished : Distinguished join tree digest path)
    (split : path = first ++ [step]) (leaves : ∀ leaf ∈ part.leaves, leaf ∈ tree.leaves)
    (joins : ∀ pair ∈ part.joins join, pair ∈ tree.joins join) :
    Distinguished join part digest first := by
  have longer : ∀ {front : List (Step Digest)} {next : Step Digest} {rest : List (Step Digest)},
      first = front ++ next :: rest → path = front ++ next :: (rest ++ [step]) := by
    intro front next rest prior
    rw [split, prior, append_assoc, cons_append]
  exact
    { start := fun pair mem => distinguished.start pair (joins pair mem)
      leaf := fun front next rest prior leaf mem =>
        distinguished.leaf front next _ (longer prior) leaf (leaves leaf mem)
      node := fun front next rest prior pair mem =>
        distinguished.node front next _ (longer prior) pair (joins pair mem) }

theorem mem_leaves_of_climb {digest : Digest} {path : List (Step Digest)}
    (distinguished : Distinguished join tree digest path)
    (reaches : climb join digest path = tree.root join) : digest ∈ tree.leaves := by
  -- the last step of the path is the first one down from the root
  induction path using List.reverseRecOn generalizing tree with
  | nil =>
    cases tree with
    | leaf top => exact mem_singleton.mpr reaches
    | node left right =>
      exact absurd reaches (distinguished.start _ mem_cons_self)
  | append_singleton first step ih =>
    have reached : ascend join (climb join digest first) step = tree.root join := by
      simp [← reaches, climb]
    cases tree with
    | leaf top =>
      exact absurd reached (distinguished.leaf first step [] rfl top (mem_singleton_self top))
    | node left right =>
      have below := distinguished.node first step [] rfl _ mem_cons_self reached
      by_cases onLeft : step.onLeft = true
      · rw [if_pos onLeft] at below
        refine mem_append_right _ (ih (distinguished.mono rfl ?_ ?_) below)
        · exact fun leaf mem => mem_append_right _ mem
        · exact fun pair mem => mem_cons_of_mem _ (mem_append_right _ mem)
      · rw [if_neg onLeft] at below
        refine mem_append_left _ (ih (distinguished.mono rfl ?_ ?_) below)
        · exact fun leaf mem => mem_append_left _ mem
        · exact fun pair mem => mem_cons_of_mem _ (mem_append_left _ mem)

/-- No join of one tree is a leaf of the other, and joins of equal digests only are equal. -/
structure Separated (join : Digest → Digest → Digest) (left right : Tree Digest) : Prop where
  leaf : ∀ leaf ∈ left.leaves, ∀ pair ∈ right.joins join, leaf ≠ join pair.1 pair.2
  other : ∀ leaf ∈ right.leaves, ∀ pair ∈ left.joins join, leaf ≠ join pair.1 pair.2
  node : ∀ pair ∈ left.joins join, ∀ other ∈ right.joins join,
    join pair.1 pair.2 = join other.1 other.2 → pair = other

theorem Separated.mono {part otherPart : Tree Digest} (separated : Separated join left right)
    (leaves : part.leaves ⊆ left.leaves) (otherLeaves : otherPart.leaves ⊆ right.leaves)
    (joins : part.joins join ⊆ left.joins join)
    (otherJoins : otherPart.joins join ⊆ right.joins join) : Separated join part otherPart where
  leaf leaf mem pair inside := separated.leaf leaf (leaves mem) pair (otherJoins inside)
  other leaf mem pair inside := separated.other leaf (otherLeaves mem) pair (joins inside)
  node pair mem other inside := separated.node pair (joins mem) other (otherJoins inside)

theorem eq_of_root_eq (separated : Separated join left right)
    (same : left.root join = right.root join) : left = right := by
  induction left generalizing right with
  | leaf digest =>
    cases right with
    | leaf other => exact congrArg Tree.leaf same
    | node otherLeft otherRight =>
      exact absurd same (separated.leaf digest (mem_singleton_self _) _ mem_cons_self)
  | node left right leftIh rightIh =>
    cases right with
    | leaf other =>
      exact absurd same.symm
        (separated.other other (mem_singleton_self _) _ mem_cons_self)
    | node otherLeft otherRight =>
      obtain ⟨sameLeft, sameRight⟩ := Prod.mk.inj
        (separated.node _ mem_cons_self _ mem_cons_self same)
      have first : Separated join left otherLeft := separated.mono
        (subset_append_left _ _) (subset_append_left _ _)
        (subset_cons_of_subset _ (subset_append_left _ _))
        (subset_cons_of_subset _ (subset_append_left _ _))
      have second : Separated join right otherRight := separated.mono
        (subset_append_right _ _) (subset_append_right _ _)
        (subset_cons_of_subset _ (subset_append_right _ _))
        (subset_cons_of_subset _ (subset_append_right _ _))
      rw [leftIh first sameLeft, rightIh second sameRight]

/-- Every leaf stands at one height. -/
inductive Perfect : Nat → Tree Digest → Prop
  | leaf (digest : Digest) : Perfect 0 (.leaf digest)
  | node {height : Nat} {left right : Tree Digest} (first : Perfect height left)
      (second : Perfect height right) : Perfect (height + 1) (.node left right)

theorem Perfect.length_leaves {height : Nat} (perfect : Perfect height tree) :
    tree.leaves.length = 2 ^ height := by
  induction perfect with
  | leaf digest => rfl
  | node first second firstIh secondIh =>
    rw [leaves, length_append, firstIh, secondIh, Nat.pow_succ]
    omega

theorem Perfect.eq_of_leaves {height : Nat} (perfect : Perfect height left)
    (other : Perfect height right) (same : left.leaves = right.leaves) : left = right := by
  induction perfect generalizing right with
  | leaf digest =>
    cases other with
    | leaf otherDigest => exact congrArg Tree.leaf (singleton_inj.mp same)
  | node first second firstIh secondIh =>
    cases other with
    | node otherFirst otherSecond =>
      have lengths := first.length_leaves.trans otherFirst.length_leaves.symm
      obtain ⟨sameFirst, sameSecond⟩ := append_inj same lengths
      rw [firstIh otherFirst sameFirst, secondIh otherSecond sameSecond]

end Tree

/-! ## Levels that fill a perfect tree -/

section Filled

variable {Leaf : Type}

/-- The leaves below the top, with everything that was repeated on the way. -/
def filled (level : List Leaf) : List Leaf :=
  top List.append [] (level.map fun leaf => [leaf])

def built (vacant : Leaf) (level : List Leaf) : Tree Leaf :=
  top Tree.node (.leaf vacant) (level.map Tree.leaf)

theorem top_vacant {Node : Type} (join : Node → Node → Node) (vacant other : Node)
    {level : List Node} (ne : level ≠ []) : top join vacant level = top join other level := by
  induction level using top.induct join with
  | case1 => exact absurd rfl ne
  | case2 root => rw [top, top]
  | case3 left right rest ih =>
    rw [top, top]
    exact ih (by simp [pairUp])

variable {level : List Leaf}

theorem leaves_built (vacant : Leaf) (ne : level ≠ []) :
    (built vacant level).leaves = filled level := by
  have seen : (built vacant level).leaves = top List.append [vacant]
      ((level.map Tree.leaf).map Tree.leaves) := view_top Tree.leaves (fun _ _ => rfl) _ _
  rw [seen, map_map, filled]
  exact top_vacant _ _ _ (by simpa using ne)

theorem exists_perfect_top (vacant : Leaf) {height : Nat} {level : List (Tree Leaf)}
    (ne : level ≠ []) (perfect : ∀ tree ∈ level, tree.Perfect height) :
    ∃ total, (top Tree.node (.leaf vacant) level).Perfect total := by
  induction level using top.induct Tree.node generalizing height with
  | case1 => exact absurd rfl ne
  | case2 root =>
    rw [top]
    exact ⟨height, perfect root (mem_singleton_self root)⟩
  | case3 left right rest ih =>
    rw [top]
    exact ih (by simp [pairUp]) (forall_pairUp _ (fun _ _ => .node) perfect)

theorem exists_perfect_built (vacant : Leaf) (ne : level ≠ []) :
    ∃ total, (built vacant level).Perfect total := by
  have perfect : ∀ tree ∈ level.map Tree.leaf, tree.Perfect 0 := by
    intro tree mem
    obtain ⟨leaf, -, rfl⟩ := mem_map.mp mem
    exact .leaf leaf
  exact exists_perfect_top vacant (by simpa using ne) perfect

theorem built_eq_of_filled {vacant other : Leaf} {left right : List Leaf} (ne : left ≠ [])
    (otherNonempty : right ≠ []) (same : filled left = filled right) :
    built vacant left = built other right := by
  obtain ⟨height, perfect⟩ := exists_perfect_built vacant ne
  obtain ⟨otherHeight, otherPerfect⟩ := exists_perfect_built other otherNonempty
  have leaves : (built vacant left).leaves = (built other right).leaves := by
    rw [leaves_built vacant ne, leaves_built other otherNonempty, same]
  have heights : 2 ^ height = 2 ^ otherHeight := by
    rw [← perfect.length_leaves, ← otherPerfect.length_leaves, leaves]
  rw [Nat.pow_right_injective (le_refl 2) heights] at perfect
  exact perfect.eq_of_leaves otherPerfect leaves

theorem flatten_prefix_top (level : List (List Leaf)) :
    level.flatten <+: top List.append [] level := by
  have grows : ∀ level : List (List Leaf),
      level.flatten <+: (pairUp List.append level).flatten := by
    intro level
    induction level using pairUp.induct with
    | case1 => exact prefix_refl _
    | case2 last => simp [pairUp]
    | case3 left right rest ih => simpa [pairUp] using ih
  induction level using top.induct List.append with
  | case1 => exact nil_prefix
  | case2 root => simp [top]
  | case3 left right rest ih =>
    rw [top]
    exact (grows _).trans ih

theorem prefix_filled (level : List Leaf) : level <+: filled level := by
  have flat : (level.map fun leaf => [leaf]).flatten = level := by
    induction level with
    | nil => rfl
    | cons leaf rest ih => simp [ih]
  have grown := flatten_prefix_top (level.map fun leaf => [leaf])
  rwa [flat] at grown

theorem filled_map {Other : Type} (view : Leaf → Other) (level : List Leaf) :
    filled (level.map view) = (filled level).map view := by
  have seen : (filled level).map view =
      top List.append [] ((level.map fun leaf => [leaf]).map (List.map view)) :=
    view_top (List.map view) (fun _ _ => map_append) [] _
  rw [seen, filled, map_map, map_map]
  rfl

theorem mem_of_mem_filled {leaf : Leaf} (mem : leaf ∈ filled level) : leaf ∈ level := by
  refine top_induction _ (fun leaves => ∀ leaf ∈ leaves, leaf ∈ level) ?joins ?base ?holds leaf
    mem
  case joins =>
    intro left right first second leaf mem
    exact (mem_append.mp mem).elim (first leaf) (second leaf)
  case base => exact fun _ _ none => absurd none not_mem_nil
  case holds =>
    intro leaves inside leaf mem
    obtain ⟨known, stored, rfl⟩ := mem_map.mp inside
    exact mem_singleton.mp mem ▸ stored

end Filled

end Portcullis.Lib.Merkle
