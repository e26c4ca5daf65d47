import SymbolHierarchy.Proofs.Session.Moves

/-! Whole runs of a session: where they lead, what each step of them did, and that what
every step keeps holds at their end. -/
namespace SymbolHierarchy.Session

def fresh (k : Kind) : Session := { kind := k }

def after (s : Session) (inputs : List Input) : Session := (s.run inputs).1

def history (s : Session) : List Input → List (Input × List Effect)
  | [] => []
  | i :: rest => (i, (s.step i).2) :: history (s.step i).1 rest

theorem runFrom (s : Session) (log : List (List Effect)) (inputs : List Input) :
    inputs.foldl (fun (p : Session × List (List Effect)) i =>
        ((p.1.step i).1, p.2 ++ [(p.1.step i).2])) (s, log) =
      (s.after inputs, log ++ (s.run inputs).2) := by
  induction inputs generalizing s log with
  | nil => simp [after, run]
  | cons i rest ih =>
    have first := ih (s.step i).1 [(s.step i).2]
    simp only [after, run, List.foldl_cons, List.nil_append] at first ih ⊢
    rw [first, ih]
    simp

theorem runCons (s : Session) (i : Input) (rest : List Input) :
    s.run (i :: rest) =
      ((s.step i).1.after rest, (s.step i).2 :: ((s.step i).1.run rest).2) := by
  have whole := runFrom (s.step i).1 [(s.step i).2] rest
  simpa [run] using whole

theorem afterNil (s : Session) : s.after [] = s := rfl

theorem afterCons (s : Session) (i : Input) (rest : List Input) :
    s.after (i :: rest) = (s.step i).1.after rest := by
  rw [after, runCons]

theorem afterAppend (s : Session) (front back : List Input) :
    s.after (front ++ back) = (s.after front).after back := by
  induction front generalizing s with
  | nil => rfl
  | cons i rest ih => simp only [List.cons_append, afterCons, ih]

theorem afterSnoc (s : Session) (inputs : List Input) (i : Input) :
    s.after (inputs ++ [i]) = ((s.after inputs).step i).1 := by
  rw [afterAppend, afterCons, afterNil]

theorem historyRun (s : Session) (inputs : List Input) :
    (s.history inputs).map Prod.snd = (s.run inputs).2 := by
  induction inputs generalizing s with
  | nil => rfl
  | cons i rest ih => simp [history, runCons, ih]

theorem afterKeeps {P : Session → Prop}
    (keeps : ∀ {s i s' es}, Moves s i s' es → P s → P s') {s : Session} (start : P s)
    (inputs : List Input) : P (s.after inputs) := by
  induction inputs generalizing s with
  | nil => exact start
  | cons i rest ih =>
    rw [afterCons]
    exact ih (keeps (stepMoves s i) start)

theorem movesKind {s i s' es} (moves : Moves s i s' es) : s'.kind = s.kind := by
  cases moves <;> rfl

theorem afterKind (s : Session) (inputs : List Input) : (s.after inputs).kind = s.kind :=
  afterKeeps (P := fun s' => s'.kind = s.kind) (fun moves same => (movesKind moves).trans same)
    rfl inputs

end SymbolHierarchy.Session
