import SymbolHierarchy.Session.Basic

/-! A session whose requests are answered at once, one operation at a time. The
server is any state with an answer to each query. -/
namespace SymbolHierarchy

abbrev Serving (σ : Type) := Json → σ → Reply × σ

structure Served (σ : Type) where
  session : Session
  server : σ

namespace Served

variable {σ : Type}

def outcome? : Effect → Option Outcome
  | .finished _ o => some o
  | _ => none

def request? : Effect → Option (Ticket × Json)
  | .request t p => some (t, p)
  | _ => none

/-- Answers requests until the operation ends; `depth` bounds their number. -/
def converse (serve : Serving σ) : Nat → List Effect → Served σ → Served σ × Option Outcome
  | depth, es, v =>
    match es.findSome? outcome? with
    | some o => (v, some o)
    | none =>
      match depth, es.findSome? request? with
      | depth + 1, some (t, p) =>
        let (r, server) := serve p v.server
        let (s, es) := v.session.step (.reply t r)
        converse serve depth es ⟨s, server⟩
      | _, _ => (v, none)

def perform (serve : Serving σ) (i : Input) (v : Served σ) : Served σ × Option Outcome :=
  let (s, es) := v.session.step i
  converse serve 2 es ⟨s, v.server⟩

def openRoot (serve : Serving σ) (p : DocumentPosition) (v : Served σ) :
    Served σ × Except Fault (Option Handle) :=
  match v.perform serve (.open p) with
  | (v, some (.opened r)) => (v, r)
  | (v, _) => (v, .ok none)

def children (serve : Serving σ) (h : Option Handle) (v : Served σ) :
    Served σ × Except Fault (List Handle) :=
  match v.perform serve (.children h) with
  | (v, some (.listed r)) => (v, r)
  | (v, _) => (v, .ok [])

end Served
end SymbolHierarchy
