import SymbolHierarchy.Proofs.Session.Asking
import SymbolHierarchy.Proofs.Session.Growth
import SymbolHierarchy.Proofs.Session.Kinship
import SymbolHierarchy.Proofs.Session.Reading
import SymbolHierarchy.View.Outline

/-! What laying a hierarchy open leaves as it was, for either kind and whatever is answered: all
nodes but those below the ones it is for. Such walks follow each other over siblings, and over a
node and its children. -/
namespace SymbolHierarchy

namespace Served

variable {σ : Type}

structure Live (k : Kind) (v : Served σ) : Prop where
  reached : v.session.Reached k
  active : ∃ top, v.session.root = some top

section Live

variable {k : Kind} {v : Served σ}

theorem Live.grounded (live : v.Live k) : v.session.Grounded := by
  obtain ⟨inputs, same⟩ := live.reached
  exact same ▸ Session.afterGrounded k inputs

theorem Live.ordered (live : v.Live k) : v.session.forest.Ordered := live.grounded.ordered

theorem Live.sole (live : v.Live k) : v.session.forest.Sole := by
  obtain ⟨inputs, same⟩ := live.reached
  exact same ▸ Session.afterSole k inputs

end Live

/- What a walk below some nodes leaves behind: all other nodes as they were, and no node below
another than before. -/
structure Walked (k : Kind) (v v' : Served σ) (tops : List Handle) : Prop where
  live : v'.Live k
  root : v'.session.root = v.session.root
  longer : v.session.forest.length ≤ v'.session.forest.length
  kept : ∀ x < v.session.forest.length, (∀ top ∈ tops, ¬ v.session.forest.Below top x) →
    v'.session.forest[x]? = v.session.forest[x]?
  edges : ∀ p child, child < v.session.forest.length →
    child ∈ v'.session.forest.childrenAt p → child ∈ v.session.forest.childrenAt p

section Walked

variable {k : Kind} {v u v' : Served σ} {front back tops : List Handle} {h x y : Nat}

theorem Walked.rest (live : v.Live k) (tops : List Handle) : Walked k v v tops :=
  ⟨live, rfl, Nat.le_refl _, fun _ _ _ => rfl, fun _ _ _ mem => mem⟩

theorem Walked.trans (first : Walked k v u front) (second : Walked k u v' back)
    (sub : ∀ top ∈ front, top ∈ tops)
    (cover : ∀ x < v.session.forest.length, ∀ top ∈ back, u.session.forest.Below top x →
      ∃ top ∈ tops, v.session.forest.Below top x) : Walked k v v' tops where
  live := second.live
  root := second.root.trans first.root
  longer := Nat.le_trans first.longer second.longer
  kept x old out := by
    have inside := Nat.lt_of_lt_of_le old first.longer
    have later : ∀ top ∈ back, ¬ u.session.forest.Below top x := by
      intro top mem below
      obtain ⟨above, own, there⟩ := cover x old top mem below
      exact out above own there
    rw [second.kept x inside later, first.kept x old fun top mem => out top (sub top mem)]
  edges p child old mem :=
    first.edges p child old (second.edges p child (Nat.lt_of_lt_of_le old first.longer) mem)

theorem Walked.before (walked : Walked k v u tops) (live : v.Live k)
    (old : x < v.session.forest.length) (below : u.session.forest.Below y x) :
    v.session.forest.Below y x := by
  induction below with
  | self => exact .self
  | child above mem ih =>
    have edge := walked.edges _ _ old mem
    exact .child (ih (Nat.lt_trans (live.ordered _ _ edge).1 old)) edge

theorem Walked.beside (first : Walked k v u [h]) (second : Walked k u v' tops) (live : v.Live k) :
    Walked k v v' (h :: tops) :=
  first.trans second (by simp) fun x old top mem below =>
    ⟨top, List.mem_cons_of_mem h mem, first.before live old below⟩

theorem Walked.deepen (first : Walked k v u [h]) (second : Walked k u v' tops) (live : v.Live k)
    (held : u.session.forest.childrenAt h = tops) : Walked k v v' [h] :=
  first.trans second (by simp) fun x old top mem below => by
    have inside : u.session.forest.Below h x := Forest.belowTrans (.child .self (held ▸ mem)) below
    exact ⟨h, List.mem_singleton_self h, first.before live old inside⟩

end Walked

section Lists

variable {k : Kind} {serve : Serving σ} {v v' : Served σ} {h : Handle} {c : Cell}
  {r : Except Fault (List Handle)}

theorem listsWalked (live : v.Live k) (found : v.session.forest[h]? = some c)
    (lists : Lists serve v h c v' r) (reached : v'.session.Reached k) : Walked k v v' [h] := by
  have there : h < v.session.forest.length := (List.getElem?_eq_some_iff.mp found).1
  have shown : (v.session.viewed h).forest.length = v.session.forest.length :=
    Forest.shownLength _ _
  have edges : ∀ p, (v.session.viewed h).forest.childrenAt p = v.session.forest.childrenAt p :=
    fun p => Forest.shownChildren _ _ _
  have apart : ∀ {x : Nat}, (∀ top ∈ [h], ¬ v.session.forest.Below top x) → h ≠ x := by
    rintro x out rfl
    exact out h (List.mem_singleton_self h) .self
  cases lists with
  | held full =>
    exact ⟨⟨reached, live.active⟩, rfl, Nat.le_of_eq shown.symm,
      fun x _ out => Forest.shownElsewhere (apart out), fun p child _ mem => edges p ▸ mem⟩
  | failed bare known answered refused =>
    exact ⟨⟨reached, live.active⟩, rfl, Nat.le_of_eq shown.symm,
      fun x _ out => Forest.shownElsewhere (apart out), fun p child _ mem => edges p ▸ mem⟩
  | @fetched _ _ _ n bare known answered read =>
    refine ⟨⟨reached, live.active⟩, rfl, ?_, fun x old out => ?_, fun p child old mem => ?_⟩
    · rw [← shown]
      exact Nat.le_trans (Nat.le_add_right _ _) (Nat.le_of_eq Session.grownLength.symm)
    · refine (Session.grownElsewhere (shown ▸ old) (apart out)).trans ?_
      exact Forest.shownElsewhere (apart out)
    · rw [← edges]
      exact Session.grownEdges (shown ▸ there) (shown ▸ old) mem

theorem listsHeld {hs : List Handle} (found : v.session.forest[h]? = some c)
    (lists : Lists serve v h c v' (.ok hs)) : v'.session.forest.childrenAt h = hs := by
  have there : h < v.session.forest.length := (List.getElem?_eq_some_iff.mp found).1
  have shown : (v.session.viewed h).forest.length = v.session.forest.length :=
    Forest.shownLength _ _
  cases lists with
  | held full => exact (Forest.shownChildren _ _ _).trans (Forest.childrenOf found)
  | fetched =>
    rw [← shown]
    exact Session.grownChildrenSelf (shown ▸ there)

end Lists

theorem Walked.parent {k : Kind} {v v' : Served σ} {tops : List Handle} {h : Nat}
    (walked : Walked k v v' tops) (live : v.Live k) (there : h < v.session.forest.length)
    (held : ∀ top ∈ tops, top ∈ v.session.forest.childrenAt h) :
    v'.session.forest[h]? = v.session.forest[h]? := by
  refine walked.kept h there fun top mem below => ?_
  have later := (live.ordered h top (held top mem)).1
  have before := Forest.belowOrdered live.ordered below
  omega

end Served

namespace Outline
open Served

variable {σ : Type} {k : Kind} {serve : Serving σ} {icons : IconTheme} {v : Served σ}
  {below : Handle → Served σ → Served σ × Except Raised (List Outline)}

inductive Passes (icons : IconTheme)
    (below : Handle → Served σ → Served σ × Except Raised (List Outline)) (a : Handle)
    (rest : List Handle) (v : Served σ) : Served σ × Except Raised (List Outline) → Prop
  | unlabelled {e} (labelled : labelOf icons v.session.forest a = .error e) :
      Passes icons below a rest v (v, .error e)
  | stops {u e} (first : below a v = (u, .error e)) : Passes icons below a rest v (u, .error e)
  | ends {u own v' e} (first : below a v = (u, .ok own))
      (later : siblings icons below rest u = (v', .error e)) :
      Passes icons below a rest v (v', .error e)
  | passes {label u own v' more} (labelled : labelOf icons v.session.forest a = .ok label)
      (first : below a v = (u, .ok own)) (later : siblings icons below rest u = (v', .ok more)) :
      Passes icons below a rest v (v', .ok (.branch label own :: more))

theorem siblingsPass (icons : IconTheme)
    (below : Handle → Served σ → Served σ × Except Raised (List Outline)) (a : Handle)
    (rest : List Handle) (v : Served σ) :
    Passes icons below a rest v (siblings icons below (a :: rest) v) := by
  simp only [siblings]
  cases labelled : labelOf icons v.session.forest a with
  | error e => exact .unlabelled labelled
  | ok label =>
    rcases first : below a v with ⟨u, e | own⟩
    · exact .stops first
    · rcases later : siblings icons below rest u with ⟨v', e | more⟩
      · simpa [later] using Passes.ends first later
      · simpa [later] using Passes.passes labelled first later

theorem siblingsWalked (icons : IconTheme)
    (each : ∀ a u, u.Live k → Walked k u (below a u).1 [a]) (hs : List Handle) (live : v.Live k) :
    Walked k v (siblings icons below hs v).1 hs := by
  induction hs generalizing v with
  | nil => exact .rest live []
  | cons a rest ih =>
    have own := each a v live
    have passes := siblingsPass icons below a rest v
    generalize siblings icons below (a :: rest) v = r at passes ⊢
    cases passes with
    | unlabelled => exact .rest live _
    | stops first =>
      rw [first] at own
      exact own.beside (.rest own.live rest) live
    | ends first later | passes _ first later =>
      rw [first] at own
      exact own.beside (by simpa only [later] using ih own.live) live

inductive Grows (k : Kind) (serve : Serving σ) (icons : IconTheme) (depth : Nat) (h : Handle)
    (c : Cell) (v : Served σ) : Served σ × Except Raised (List Outline) → Prop
  | rests (leaf : c.isExpandable = false) : Grows k serve icons depth h c v (v, .ok [])
  | opens {u hs} (opens : c.isExpandable = true) (lists : Lists serve v h c u (.ok hs))
      (reached : u.session.Reached k) :
      Grows k serve icons depth h c v (siblings icons (grow serve icons depth) hs u)
  | fails {u e} (opens : c.isExpandable = true) (lists : Lists serve v h c u (.error e))
      (reached : u.session.Reached k) : Grows k serve icons depth h c v (u, .ok [failure e])
  | raises {u r} (lists : Lists serve v h c u (.error (.raised r)))
      (reached : u.session.Reached k) : Grows k serve icons depth h c v (u, .error r)

theorem growGrows (serve : Serving σ) (icons : IconTheme) (depth : Nat) {h : Handle} {c : Cell}
    (live : v.Live k) (found : v.session.forest[h]? = some c) :
    Grows k serve icons depth h c v (grow serve icons (depth + 1) h v) := by
  simp only [grow, found]
  by_cases opens : c.isExpandable = true
  · obtain ⟨top, active⟩ := live.active
    obtain ⟨lists, reached⟩ := childrenLists serve live.reached active found
    simp only [opens, Bool.not_true, Bool.false_eq_true, if_false]
    rcases listed : v.children serve (some h) with ⟨u, e | hs⟩ <;> rw [listed] at lists reached
    · cases e with
      | raised r => exact .raises lists reached
      | _ => exact .fails opens lists reached
    · exact .opens opens lists reached
  · rw [Bool.not_eq_true] at opens
    simpa [opens] using Grows.rests opens

theorem growWalked (serve : Serving σ) (icons : IconTheme) (depth : Nat) (h : Handle)
    (live : v.Live k) : Walked k v (grow serve icons depth h v).1 [h] := by
  induction depth generalizing h v with
  | zero => exact .rest live [h]
  | succ depth ih =>
    cases found : v.session.forest[h]? with
    | none =>
      simp only [grow, found]
      exact .rest live [h]
    | some c =>
      have grows := growGrows serve icons depth live found
      generalize grow serve icons (depth + 1) h v = r at grows ⊢
      cases grows with
      | rests leaf => exact .rest live [h]
      | @opens u hs opens lists reached =>
        have first := listsWalked live found lists reached
        have later := siblingsWalked icons (fun a u => ih a) hs first.live
        exact first.deepen later live (listsHeld found lists)
      | fails _ lists reached => exact listsWalked live found lists reached
      | raises lists reached => exact listsWalked live found lists reached

end Outline
end SymbolHierarchy
