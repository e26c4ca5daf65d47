import SymbolHierarchy.Proofs.Session.Fullness
import SymbolHierarchy.Proofs.Session.Openings
import SymbolHierarchy.Proofs.Session.Prompt

/-! What a view gets that asks an active session for the children of a node, when its requests are
answered at once: what is held, what a reply brings, or the fault of the reply. Either way the
session is one that some run leads to, and nothing but that node has changed. -/
namespace SymbolHierarchy

def Cell.shown (c : Cell) : Cell := if c.synthetic then { c with revealed := true } else c

namespace Cell

variable (c : Cell)

@[simp] theorem shownSymbol : c.shown.symbol = c.symbol := by
  unfold shown; split <;> rfl

@[simp] theorem shownFacet : c.shown.facet = c.facet := by
  unfold shown; split <;> rfl

@[simp] theorem shownCount : c.shown.numChildren = c.numChildren := by
  unfold shown; split <;> rfl

@[simp] theorem shownHeld : c.shown.children = c.children := by
  unfold shown; split <;> rfl

@[simp] theorem shownMaterialized : c.shown.isMaterialized = c.isMaterialized := by
  simp [isMaterialized]

end Cell

theorem Forest.shownCell {f : Forest} {h : Handle} {c : Cell} (found : f[h]? = some c) :
    (f.shown h)[h]? = some c.shown := by
  cases group : c.synthetic <;> simp [shown, found, group, Cell.shown, revealAt]

theorem Forest.shownElsewhere {f : Forest} {h i : Handle} (other : h ≠ i) :
    (f.shown h)[i]? = f[i]? := by
  unfold shown
  split
  · split
    · exact revealElsewhere f h i other
    · rfl
  · rfl

namespace Session

def viewed (s : Session) (h : Handle) : Session := { s with forest := s.forest.shown h }

def Reached (k : Kind) (s : Session) : Prop := ∃ inputs, s = (fresh k).after inputs

theorem grownEdges {s : Session} {h p child : Nat} {n : Node} (there : h < s.forest.length)
    (old : child < s.forest.length) (mem : child ∈ (s.grown h n).childrenAt p) :
    child ∈ s.forest.childrenAt p := by
  by_cases self : p = h
  · subst self
    rw [grownChildrenSelf there] at mem
    have new := (placesRange mem).1
    omega
  · rcases Nat.lt_or_ge p s.forest.length with before | later
    · rwa [grownChildrenOther before (Ne.symm self)] at mem
    · obtain ⟨j, rfl⟩ := Nat.exists_eq_add_of_le later
      have new := grownChildrenNew there mem
      omega

section Reached

variable {k : Kind} {s : Session}

theorem Reached.next (reached : s.Reached k) (i : Input) : (s.step i).1.Reached k := by
  obtain ⟨inputs, rfl⟩ := reached
  exact ⟨inputs ++ [i], (afterSnoc _ inputs i).symm⟩

theorem Reached.kind (reached : s.Reached k) : s.kind = k := by
  obtain ⟨inputs, rfl⟩ := reached
  exact afterKind _ inputs

theorem Reached.young (reached : s.Reached k) : ∀ w ∈ s.waiting, w.1 < s.issued := by
  obtain ⟨inputs, rfl⟩ := reached
  exact freshYoung k inputs

theorem Reached.known (reached : s.Reached k) {h : Handle} {c : Cell}
    (found : s.forest[h]? = some c) :
    ∃ params, k.expansionParams c.symbol c.facet = .ok params := by
  have kind := reached.kind
  obtain ⟨inputs, rfl⟩ := reached
  rw [← kind]
  exact expansionKnown k inputs found

end Reached

section Steps

variable {s : Session} {h top : Handle} {c : Cell} {params : Json}

theorem viewLists (active : s.root = some top) (found : s.forest[h]? = some c) :
    s.step (.children (some h)) = (s.viewed h).issue.listChildren s.issued h := by
  cases group : c.synthetic <;>
    simp [step, children, issue, active, found, group, viewed, Forest.shown]

theorem viewHeld (active : s.root = some top) (found : s.forest[h]? = some c)
    (full : c.isMaterialized = true) : s.step (.children (some h)) =
      ((s.viewed h).issue, [.finished s.issued (.listed (.ok c.children))]) := by
  have there : (s.viewed h).issue.forest[h]? = some c.shown := Forest.shownCell found
  simp [viewLists active found, listChildren, there, full]

theorem viewAsks (active : s.root = some top) (found : s.forest[h]? = some c)
    (bare : c.isMaterialized = false)
    (known : s.kind.expansionParams c.symbol c.facet = .ok params) :
    s.step (.children (some h)) =
      ((s.viewed h).issue.await s.issued (.expansion h s.root), [.request s.issued params]) := by
  have there : (s.viewed h).issue.forest[h]? = some c.shown := Forest.shownCell found
  have asked : (s.viewed h).issue.kind.expansionParams c.symbol c.facet = .ok params := known
  simp only [viewLists active found, listChildren, there, Cell.shownMaterialized, bare,
    Cell.shownSymbol, Cell.shownFacet, asked]
  rfl

end Steps

end Session

namespace Served

variable {σ : Type} {serve : Serving σ} {k : Kind} {v : Served σ} {h top : Handle} {c : Cell}

inductive Lists (serve : Serving σ) (v : Served σ) (h : Handle) (c : Cell) :
    Served σ → Except Fault (List Handle) → Prop
  | held (full : c.isMaterialized = true) :
      Lists serve v h c ⟨(v.session.viewed h).issue, v.server⟩ (.ok c.children)
  | fetched {params w server n} (bare : c.isMaterialized = false)
      (known : v.session.kind.expansionParams c.symbol c.facet = .ok params)
      (answered : serve params v.server = (.ok w, server))
      (read : Node.ofWire v.session.kind.model w = .ok n) :
      Lists serve v h c
        ⟨{ (v.session.viewed h).issue with forest := (v.session.viewed h).grown h n }, server⟩
        (.ok (placesFrom v.session.forest.length ((v.session.viewed h).newChildren h n)))
  | failed {params r server e} (bare : c.isMaterialized = false)
      (known : v.session.kind.expansionParams c.symbol c.facet = .ok params)
      (answered : serve params v.server = (r, server)) (refused : v.session.decode r = .error e) :
      Lists serve v h c ⟨(v.session.viewed h).issue, server⟩ (.error e)

theorem childrenLists (serve : Serving σ) (reached : v.session.Reached k)
    (active : v.session.root = some top) (found : v.session.forest[h]? = some c) :
    Lists serve v h c (v.children serve (some h)).1 (v.children serve (some h)).2 ∧
      (v.children serve (some h)).1.session.Reached k := by
  cases full : c.isMaterialized with
  | true =>
    have steps := Session.viewHeld active found full
    have next := reached.next (.children (some h))
    rw [steps] at next
    have lists : v.children serve (some h) =
        (⟨(v.session.viewed h).issue, v.server⟩, .ok c.children) := by
      simp only [children, performDone steps rfl]
    rw [lists]
    exact ⟨.held full, next⟩
  | false =>
    obtain ⟨params, known⟩ := reached.known found
    rw [← reached.kind] at known
    have steps := Session.viewAsks active found full known
    have next : ((v.session.viewed h).issue.await (v.session.viewed h).issued
        (.expansion h v.session.root)).Reached k := by
      have stepped := reached.next (.children (some h))
      rw [steps] at stepped
      exact stepped
    rcases answered : serve params v.server with ⟨r, server⟩
    have later := next.next (.reply (v.session.viewed h).issued r)
    have young : ∀ w ∈ (v.session.viewed h).waiting, w.1 < (v.session.viewed h).issued :=
      reached.young
    cases read : v.session.decode r with
    | ok n =>
      obtain ⟨w, rfl, wire⟩ := Session.decodeWire read
      obtain ⟨es, arrives, done⟩ :=
        Session.childrenArrive young read h v.session.root
      have lists : v.children serve (some h) =
          (⟨{ (v.session.viewed h).issue with forest := (v.session.viewed h).grown h n }, server⟩,
            .ok (placesFrom (v.session.viewed h).forest.length
              ((v.session.viewed h).newChildren h n))) := by
        simp only [children, performAsked steps answered arrives done]
      have length : (v.session.viewed h).forest.length = v.session.forest.length :=
        Forest.shownLength _ _
      rw [lists, length]
      rw [arrives] at later
      exact ⟨.fetched full known answered wire, later⟩
    | error e =>
      have arrives := Session.refusalArrives young read h v.session.root
      have lists : v.children serve (some h) =
          (⟨(v.session.viewed h).issue, server⟩, .error e) := by
        simp only [children, performAsked steps answered arrives rfl]
      rw [lists]
      rw [arrives] at later
      exact ⟨.failed full known answered read, later⟩

end Served

end SymbolHierarchy
