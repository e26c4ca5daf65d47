import SymbolHierarchy.Session.Served
import SymbolHierarchy.View.Markup

/-! A hierarchy laid open to a given depth, as labels below labels. Children are
asked for the way a view asks, so a node whose children are not at hand is
fetched. Where that fails a single leaf tells why; what no hierarchy contains
ends the whole. -/
namespace SymbolHierarchy

inductive Outline
  | branch (label : String) (below : List Outline)
  deriving Repr

namespace Outline

variable {σ : Type}

def failure (f : Fault) : Outline :=
  .branch ("[red]failed to expand: " ++ String.ofList (Markup.escape f.message.toList) ++
    "[/red]") []

def labelOf (icons : IconTheme) (f : Forest) (h : Handle) : Except Raised String :=
  match f[h]? with
  | some c => c.face.styledLabel icons
  | none => .ok ""

/-- What is drawn of siblings: each label is made before what is below it. -/
def siblings (icons : IconTheme)
    (below : Handle → Served σ → Served σ × Except Raised (List Outline)) :
    List Handle → Served σ → Served σ × Except Raised (List Outline)
  | [], v => (v, .ok [])
  | h :: rest, v =>
    match labelOf icons v.session.forest h with
    | .error e => (v, .error e)
    | .ok label =>
      match below h v with
      | (v, .error e) => (v, .error e)
      | (v, .ok os) =>
        match siblings icons below rest v with
        | (v, .error e) => (v, .error e)
        | (v, .ok more) => (v, .ok (.branch label os :: more))

def grow (serve : Serving σ) (icons : IconTheme) :
    Nat → Handle → Served σ → Served σ × Except Raised (List Outline)
  | 0, _, v => (v, .ok [])
  | depth + 1, h, v =>
    match v.session.forest[h]? with
    | none => (v, .ok [])
    | some c =>
      if !c.isExpandable then (v, .ok [])
      else match v.children serve (some h) with
        | (v, .ok hs) => siblings icons (grow serve icons depth) hs v
        | (v, .error (.raised r)) => (v, .error r)
        | (v, .error f) => (v, .ok [failure f])

def build (serve : Serving σ) (icons : IconTheme) (depth : Nat) (h : Handle) (v : Served σ) :
    Served σ × Except Raised Outline :=
  match labelOf icons v.session.forest h with
  | .error e => (v, .error e)
  | .ok label =>
    match grow serve icons depth h v with
    | (v, .error e) => (v, .error e)
    | (v, .ok os) => (v, .ok (.branch label os))

end Outline
end SymbolHierarchy
