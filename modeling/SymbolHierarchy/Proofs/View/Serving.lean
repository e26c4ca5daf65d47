import SymbolHierarchy.View.Outline
import Mathlib.Logic.Relation

/-! What laying a hierarchy open does to the server behind it: one query after the other, and
nothing else. -/
namespace SymbolHierarchy

variable {σ : Type} {serve : Serving σ}

def Queried (serve : Serving σ) : σ → σ → Prop :=
  Relation.ReflTransGen fun s s' => ∃ params, s' = (serve params s).2

namespace Served

theorem converseQueried (depth : Nat) (es : List Effect) (v : Served σ) :
    Queried serve v.server (converse serve depth es v).1.server := by
  fun_induction converse serve depth es v with
  | case1 => exact .refl
  | case2 es v going depth t params asked r server answered s later turned ih =>
    have served : server = (serve params v.server).2 := by simp [answered]
    exact (Relation.ReflTransGen.single ⟨params, served⟩).trans ih
  | case3 => exact .refl

theorem performQueried (serve : Serving σ) (i : Input) (v : Served σ) :
    Queried serve v.server (v.perform serve i).1.server :=
  converseQueried 2 (v.session.step i).2 ⟨(v.session.step i).1, v.server⟩

theorem openRootQueried (serve : Serving σ) (p : DocumentPosition) (v : Served σ) :
    Queried serve v.server (v.openRoot serve p).1.server := by
  have moved := performQueried serve (.open p) v
  unfold openRoot
  split <;> simp_all

theorem childrenQueried (serve : Serving σ) (h : Option Handle) (v : Served σ) :
    Queried serve v.server (v.children serve h).1.server := by
  have moved := performQueried serve (.children h) v
  unfold children
  split <;> simp_all

end Served

namespace Outline

variable {icons : IconTheme}

theorem siblingsQueried {below : Handle → Served σ → Served σ × Except Raised (List Outline)}
    (each : ∀ h v, Queried serve v.server (below h v).1.server) (hs : List Handle) (v : Served σ) :
    Queried serve v.server (siblings icons below hs v).1.server := by
  induction hs generalizing v with
  | nil => exact .refl
  | cons h rest ih =>
    have first := each h v
    simp only [siblings]
    cases labelOf icons v.session.forest h with
    | error e => exact .refl
    | ok label =>
      rcases laid : below h v with ⟨w, e | os⟩
      · simpa [laid] using first
      · have both : Queried serve v.server (siblings icons below rest w).1.server := by
          rw [laid] at first
          exact first.trans (ih w)
        rcases more : siblings icons below rest w with ⟨x, e | more⟩ <;>
          simpa [more] using both

theorem growQueried (depth : Nat) (h : Handle) (v : Served σ) :
    Queried serve v.server (grow serve icons depth h v).1.server := by
  induction depth generalizing h v with
  | zero => exact .refl
  | succ depth ih =>
    simp only [grow]
    cases v.session.forest[h]? with
    | none => exact .refl
    | some c =>
      have first := Served.childrenQueried serve (some h) v
      by_cases expandable : c.isExpandable = true
      · rcases listed : v.children serve (some h) with ⟨w, f | hs⟩
        · cases f <;> simpa [listed, expandable] using first
        · have both : Queried serve v.server
              (siblings icons (grow serve icons depth) hs w).1.server := by
            rw [listed] at first
            exact first.trans (siblingsQueried ih hs w)
          simpa [listed, expandable] using both
      · simp only [expandable]
        exact .refl

theorem buildQueried (serve : Serving σ) (icons : IconTheme) (depth : Nat) (h : Handle)
    (v : Served σ) : Queried serve v.server (build serve icons depth h v).1.server := by
  have first : Queried serve v.server (grow serve icons depth h v).1.server :=
    growQueried depth h v
  simp only [build]
  cases labelOf icons v.session.forest h with
  | error e => exact .refl
  | ok label =>
    rcases laid : grow serve icons depth h v with ⟨w, e | os⟩ <;> simpa [laid] using first

end Outline
end SymbolHierarchy
