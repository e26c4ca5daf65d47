/-! Entries in the order in which their keys were first set. -/
namespace SymbolHierarchy.Entries

variable {α β : Type}

/-- Sets an entry: a key already present keeps its place and its form. -/
def put (same : α → α → Bool) (k : α) (v : β) : List (α × β) → List (α × β)
  | [] => [(k, v)]
  | (l, w) :: rest => if same l k then (l, v) :: rest else (l, w) :: put same k v rest

def collect (same : α → α → Bool) (entries : List (α × β)) : List (α × β) :=
  entries.foldl (fun es e => put same e.1 e.2 es) []

theorem putKeys (same : α → α → Bool) (k : α) (v : β) (es : List (α × β)) :
    (put same k v es).map Prod.fst =
      if es.any (fun e => same e.1 k) then es.map Prod.fst else es.map Prod.fst ++ [k] := by
  induction es with
  | nil => rfl
  | cons e rest ih =>
    by_cases h : same e.1 k = true
    · simp [put, h]
    · simp only [put, h, List.map_cons, List.any_cons, Bool.false_or]
      simp only [Bool.false_eq_true, if_false, List.map_cons, ih]
      split <;> rfl

end SymbolHierarchy.Entries
