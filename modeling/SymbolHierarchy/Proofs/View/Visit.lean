import SymbolHierarchy.Proofs.Session.Asking
import SymbolHierarchy.Proofs.Session.Kinship
import SymbolHierarchy.Proofs.Session.Reading
import SymbolHierarchy.Proofs.View.Sight
import Mathlib.Algebra.Order.BigOperators.Group.List
import Mathlib.Algebra.Order.Group.Nat

/-! A walk over a hierarchy, visit by visit: which node it came to, how that stood then, and what
came of asking for its children. What is drawn and what was asked for are read off it, and so is
whether it tells of a forest as that stands in the end. -/
namespace SymbolHierarchy

inductive Upshot
  | rested
  | held
  | fetched (params reply : Json)
  | failed (params : Json) (reply : Reply) (fault : Fault)

namespace Upshot

def exchange? : Upshot → Option Exchange
  | .rested | .held => none
  | .fetched params w => some (params, .ok w)
  | .failed params r _ => some (params, r)

def leaf? : Upshot → Option Outline
  | .failed _ _ e => some (Outline.failure e)
  | _ => none

end Upshot

/- A node, its cell as the label was made from it, what came of the visit, and the visits to the
children that were laid open. -/
inductive Visit
  | mk (node : Handle) (cell : Cell) (upshot : Upshot) (below : List Visit)

namespace Visit

def node : Visit → Handle
  | .mk h _ _ _ => h

def cell : Visit → Cell
  | .mk _ c _ _ => c

section Fold

variable {β : Type} (place : Handle → Cell → Upshot → List β → β)

mutual
def fold : Visit → β
  | .mk h c u below => place h c u (foldAll below)
def foldAll : List Visit → List β
  | [] => []
  | x :: rest => fold x :: foldAll rest
end

theorem foldAllMap (xs : List Visit) : foldAll place xs = xs.map (fold place) := by
  induction xs with
  | nil => rfl
  | cons x rest ih => simp [foldAll, ih]

end Fold

def nodes : Visit → List Handle := fold fun h _ _ below => h :: below.flatten

def exchanges : Visit → List Exchange :=
  fold fun _ _ u below => u.exchange?.toList ++ below.flatten

def drawn (icons : IconTheme) : Visit → Except Raised Outline :=
  fold fun _ c u below => do
    let label ← c.face.styledLabel icons
    let below ← below.mapM id
    .ok (.branch label (u.leaf?.toList ++ below))

/- How the children that are visited come about, and what the node is left with: it lists them if
they were at hand or one reply brought them. If the request fails the node is unchanged, but that a
group is revealed, and it lists none. -/
inductive Comes (k : Kind) (f : Forest) (h : Handle) (c : Cell) : Upshot → List Handle → Prop
  | rested (leaf : c.isExpandable = false) (cell : f[h]? = some c) : Comes k f h c .rested []
  | held (opens : c.isExpandable = true) (full : c.isMaterialized = true)
      (cell : f[h]? = some c.shown) : Comes k f h c .held c.children
  | fetched {params w n hs} (opens : c.isExpandable = true) (bare : c.isMaterialized = false)
      (known : k.expansionParams c.symbol c.facet = .ok params)
      (read : Node.ofWire k.model w = .ok n) (all : hs.length = n.children.length)
      (cell : f[h]? = some { c.shown with numChildren := n.numChildren, children := hs }) :
      Comes k f h c (.fetched params w) hs
  | failed {params r e} (opens : c.isExpandable = true) (bare : c.isMaterialized = false)
      (known : k.expansionParams c.symbol c.facet = .ok params)
      (refused : (Session.fresh k).decode r = .error e) (cell : f[h]? = some c.shown) :
      Comes k f h c (.failed params r e) []

/- The visits tell of a forest, laid open this many levels deep. On the last level nobody asks. -/
def Agrees (k : Kind) (f : Forest) : Nat → Visit → Prop
  | 0, .mk h c u below => u = .rested ∧ below = [] ∧ f[h]? = some c
  | depth + 1, .mk h c u below =>
    Comes k f h c u (below.map node) ∧ ∀ x ∈ below, Agrees k f depth x

def above : Nat → Visit → List Handle
  | 0, _ => []
  | depth + 1, .mk h _ _ below => h :: below.flatMap (above depth)

section Place

variable (h : Handle) (c : Cell) (u : Upshot) (below : List Visit)

theorem nodesPlace : (mk h c u below).nodes = h :: below.flatMap nodes := by
  simp [nodes, fold, foldAllMap, List.flatMap]

theorem exchangesPlace : (mk h c u below).exchanges =
    u.exchange?.toList ++ below.flatMap exchanges := by
  simp [exchanges, fold, foldAllMap, List.flatMap]

theorem drawnPlace {icons : IconTheme} {o : Outline} :
    (mk h c u below).drawn icons = .ok o ↔ ∃ label os, c.face.styledLabel icons = .ok label ∧
      below.map (drawn icons) = os.map .ok ∧ o = .branch label (u.leaf?.toList ++ os) := by
  have opened : (mk h c u below).drawn icons = (c.face.styledLabel icons).bind fun label =>
      ((below.map (drawn icons)).mapM id).bind fun below =>
        .ok (.branch label (u.leaf?.toList ++ below)) := by
    simp only [drawn, fold, foldAllMap]
    rfl
  rw [opened]
  constructor
  · intro done
    cases labelled : c.face.styledLabel icons with
    | error e => simp [labelled, Except.bind] at done
    | ok label =>
      cases all : (below.map (drawn icons)).mapM id with
      | error e => simp [labelled, all, Except.bind] at done
      | ok os =>
        refine ⟨label, os, rfl, Sight.gathered.mp all, ?_⟩
        simpa [labelled, all, Except.bind] using done.symm
  · rintro ⟨label, os, labelled, each, rfl⟩
    rw [labelled, Sight.gathered.mpr each]
    rfl

end Place

section Comes

variable {k : Kind} {f f' : Forest} {h : Handle} {c : Cell} {u : Upshot} {hs : List Handle}

theorem comesKept (comes : Comes k f h c u hs) (same : f'[h]? = f[h]?) : Comes k f' h c u hs := by
  cases comes with
  | rested leaf cell => exact .rested leaf (same.trans cell)
  | held opens full cell => exact .held opens full (same.trans cell)
  | fetched opens bare known read all cell =>
    exact .fetched opens bare known read all (same.trans cell)
  | failed opens bare known refused cell =>
    exact .failed opens bare known refused (same.trans cell)

theorem comesChildren (comes : Comes k f h c u hs) : hs = [] ∨ hs = f.childrenAt h := by
  cases comes with
  | rested | failed => exact .inl rfl
  | held opens full cell => exact .inr (by simp [Forest.childrenOf cell])
  | fetched opens bare known read all cell => exact .inr (Forest.childrenOf cell).symm

theorem comesSub (comes : Comes k f h c u hs) : ∀ child ∈ hs, child ∈ f.childrenAt h := by
  rcases comesChildren comes with rfl | rfl
  · simp
  · exact fun _ mem => mem

theorem comesDistinct (sole : f.Sole) (comes : Comes k f h c u hs) : hs.Nodup := by
  rcases comesChildren comes with rfl | rfl
  · exact List.nodup_nil
  · exact sole.distinct h

end Comes

section Agrees

variable {k : Kind} {f f' : Forest} {icons : IconTheme} {depth : Nat} {x : Visit} {o : Outline}

theorem agreesKept (agrees : x.Agrees k f depth) (same : ∀ y ∈ x.nodes, f'[y]? = f[y]?) :
    x.Agrees k f' depth := by
  induction depth generalizing x with
  | zero =>
    obtain ⟨h, c, u, below⟩ := x
    obtain ⟨rested, leaf, cell⟩ := agrees
    exact ⟨rested, leaf, (same h (by simp [nodesPlace])).trans cell⟩
  | succ depth ih =>
    obtain ⟨h, c, u, below⟩ := x
    obtain ⟨comes, each⟩ := agrees
    rw [nodesPlace] at same
    refine ⟨comesKept comes (same h (by simp)), fun x mem => ih (each x mem) fun y inside => ?_⟩
    exact same y (List.mem_cons_of_mem h (List.mem_flatMap.mpr ⟨x, mem, inside⟩))

theorem agreesBelow (agrees : x.Agrees k f depth) : ∀ y ∈ x.nodes, f.Below x.node y := by
  induction depth generalizing x with
  | zero =>
    obtain ⟨h, c, u, below⟩ := x
    obtain ⟨_, rfl, _⟩ := agrees
    intro y mem
    obtain rfl : y = h := by simpa [nodesPlace] using mem
    exact .self
  | succ depth ih =>
    obtain ⟨h, c, u, below⟩ := x
    obtain ⟨comes, each⟩ := agrees
    rw [nodesPlace]
    intro y mem
    rcases List.mem_cons.mp mem with rfl | later
    · exact .self
    · obtain ⟨x, own, inside⟩ := List.mem_flatMap.mp later
      have child := comesSub comes x.node (List.mem_map_of_mem own)
      exact Forest.belowTrans (.child .self child) (ih (each x own) y inside)

theorem agreesFew (agrees : x.Agrees k f depth) : x.exchanges.length ≤ (x.above depth).length := by
  induction depth generalizing x with
  | zero =>
    obtain ⟨h, c, u, below⟩ := x
    obtain ⟨rfl, rfl, _⟩ := agrees
    simp [exchangesPlace, Upshot.exchange?]
  | succ depth ih =>
    obtain ⟨h, c, u, below⟩ := x
    have one : u.exchange?.toList.length ≤ 1 := by cases u <;> simp [Upshot.exchange?]
    have later : (below.flatMap exchanges).length ≤ (below.flatMap (above depth)).length := by
      simp only [List.length_flatMap]
      exact List.sum_le_sum fun x mem => ih (agrees.2 x mem)
    simp only [exchangesPlace, above, List.length_append, List.length_cons]
    omega

theorem agreesOnce (ordered : f.Ordered) (sole : f.Sole) (agrees : x.Agrees k f depth) :
    x.nodes.Nodup := by
  induction depth generalizing x with
  | zero =>
    obtain ⟨h, c, u, below⟩ := x
    obtain ⟨_, rfl, _⟩ := agrees
    simp [nodesPlace]
  | succ depth ih =>
    obtain ⟨h, c, u, below⟩ := x
    obtain ⟨comes, each⟩ := agrees
    have child : ∀ x ∈ below, x.node ∈ f.childrenAt h :=
      fun x mem => comesSub comes x.node (List.mem_map_of_mem mem)
    have distinct : below.Pairwise fun x y => x.node ≠ y.node :=
      List.pairwise_map.mp (comesDistinct sole comes)
    have apart : below.Pairwise (Function.onFun List.Disjoint nodes) := by
      refine distinct.imp_of_mem fun {x y} one other different z inside inside' => ?_
      exact Forest.siblingsApart ordered sole (child x one) (child y other) different
        (agreesBelow (each x one) z inside) (agreesBelow (each y other) z inside')
    rw [nodesPlace, List.nodup_cons]
    refine ⟨fun again => ?_, List.nodup_flatMap.mpr ⟨fun x mem => ih (each x mem), apart⟩⟩
    obtain ⟨x, mem, inside⟩ := List.mem_flatMap.mp again
    have behind := Forest.belowOrdered ordered (agreesBelow (each x mem) h inside)
    have front := (ordered h x.node (child x mem)).1
    omega

end Agrees

end Visit

namespace Outline

mutual
def height : Outline → Nat
  | .branch _ below => heightAll below
def heightAll : List Outline → Nat
  | [] => 0
  | o :: rest => max (o.height + 1) (heightAll rest)
end

theorem heightAllLe {os : List Outline} {depth : Nat} (each : ∀ o ∈ os, o.height ≤ depth) :
    heightAll os ≤ depth + 1 := by
  induction os with
  | nil => exact Nat.zero_le _
  | cons o rest ih =>
    have own := each o List.mem_cons_self
    have later := ih fun o mem => each o (List.mem_cons_of_mem _ mem)
    rw [heightAll]
    omega

end Outline

theorem Visit.agreesHeight {k : Kind} {f : Forest} {icons : IconTheme} {depth : Nat} {x : Visit}
    {o : Outline} (agrees : x.Agrees k f depth) (drawn : x.drawn icons = .ok o) :
    o.height ≤ depth := by
  induction depth generalizing x o with
  | zero =>
    obtain ⟨h, c, u, below⟩ := x
    obtain ⟨rfl, rfl, _⟩ := agrees
    obtain ⟨label, os, _, each, rfl⟩ := (drawnPlace h c .rested []).mp drawn
    obtain rfl : os = [] := by simpa using each.symm
    exact Nat.le_refl _
  | succ depth ih =>
    obtain ⟨h, c, u, below⟩ := x
    obtain ⟨_, all⟩ := agrees
    obtain ⟨label, os, _, each, rfl⟩ := (drawnPlace h c u below).mp drawn
    refine Outline.heightAllLe fun o mem => ?_
    rcases List.mem_append.mp mem with leaf | later
    · cases u <;> simp [Upshot.leaf?] at leaf
      subst leaf
      exact Nat.zero_le depth
    · have own : (Except.ok o : Except Raised Outline) ∈ below.map (Visit.drawn icons) :=
        each ▸ List.mem_map_of_mem later
      obtain ⟨x, inside, drawn⟩ := List.mem_map.mp own
      exact ih (all x inside) drawn

end SymbolHierarchy
