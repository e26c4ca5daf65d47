/-! How alike two texts are: the characters in their longest common run, and in
the longest runs before and behind it, against their length. -/
namespace SymbolHierarchy.Text

def commonLead : List Char → List Char → Nat
  | a :: as, b :: bs => if a = b then commonLead as bs + 1 else 0
  | _, _ => 0

/-- The longest run that begins `a` and stands somewhere in `b`: its place in `b`
and its length. The first of equal ones counts. -/
def runIn (a : List Char) : Nat → List Char → Nat × Nat
  | j, [] => (j, 0)
  | j, b :: bs =>
    let k := commonLead a (b :: bs)
    let (i, l) := runIn a (j + 1) bs
    if l > k then (i, l) else (j, k)

def longestRun (b : List Char) : Nat → List Char → Nat × Nat × Nat
  | i, [] => (i, 0, 0)
  | i, a :: as =>
    let (j, k) := runIn (a :: as) 0 b
    let (i', j', k') := longestRun b (i + 1) as
    if k' > k then (i', j', k') else (i, j, k)

def matched : (fuel : Nat) → List Char → List Char → Nat
  | 0, _, _ => 0
  | fuel + 1, a, b =>
    let (i, j, k) := longestRun b 0 a
    if k = 0 then 0
    else matched fuel (a.take i) (b.take j) + k + matched fuel (a.drop (i + k)) (b.drop (j + k))

structure Likeness where
  common : Nat
  total : Nat

def likeness (a b : List Char) : Likeness :=
  ⟨2 * matched (a.length + 1) a b, a.length + b.length⟩

def Likeness.isClose (l : Likeness) : Bool := 5 * l.common ≥ 3 * l.total

def Likeness.less (l m : Likeness) : Bool := l.common * m.total < m.common * l.total

def closest (s : String) (known : List String) : List String :=
  let scored := (known.map fun k => (likeness k.toList s.toList, k)).filter fun p => p.1.isClose
  let best := scored.mergeSort fun p q =>
    q.1.less p.1 || (!p.1.less q.1 && decide (q.2 ≤ p.2))
  ((best.take 3).map Prod.snd).mergeSort fun a b => decide (a ≤ b)

end SymbolHierarchy.Text
