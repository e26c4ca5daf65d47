import SymbolHierarchy.Text.Width

/-! Clusters: characters that no line break parts. A character with cells of its own
opens a cluster; what takes none goes with the cluster before it, a joiner together
with the character behind it. Clusters lose nothing of the text. -/
namespace SymbolHierarchy.Text

structure Cluster where
  text : List Char
  cells : Nat
  deriving DecidableEq, Repr

def Cluster.opening (c : Char) : Cluster := ⟨[c], Text.cells c⟩

def Cluster.append (k : Cluster) (cs : List Char) (cells : Nat) : Cluster :=
  ⟨k.text ++ cs, k.cells + cells⟩

/-- The clusters from `k` on, which a mark would widen by `gain`. -/
def clustersFrom (k : Cluster) (gain : Nat) : List Char → List Cluster
  | [] => [k]
  | [c] =>
    if c = joiner then [k.append [c] 0]
    else if c = colourMark then [k.append [c] gain]
    else if cells c = 0 then [k.append [c] 0]
    else [k, .opening c]
  | c :: d :: rest =>
    if c = joiner then clustersFrom (k.append [c, d] 0) gain rest
    else if c = colourMark then clustersFrom (k.append [c] gain) 0 (d :: rest)
    else if cells c = 0 then clustersFrom (k.append [c] 0) gain (d :: rest)
    else k :: clustersFrom (.opening c) (colouring c) (d :: rest)

def clusters : List Char → List Cluster
  | [] => []
  | c :: rest => clustersFrom (.opening c) (colouring c) rest

theorem clustersFromText (k : Cluster) (gain : Nat) (cs : List Char) :
    (clustersFrom k gain cs).flatMap Cluster.text = k.text ++ cs := by
  fun_induction clustersFrom k gain cs <;> simp_all [Cluster.append, Cluster.opening]

theorem clustersText (cs : List Char) : (clusters cs).flatMap Cluster.text = cs := by
  cases cs with
  | nil => rfl
  | cons c rest => simp [clusters, clustersFromText, Cluster.opening]

def cropClusters : Nat → List Cluster → List Char
  | _, [] => []
  | most, k :: rest =>
    if most = 0 then []
    else if k.cells ≤ most then k.text ++ cropClusters (most - k.cells) rest
    else [' ']

def crop (most : Nat) (cs : List Char) : List Char :=
  if width cs ≤ most then cs else cropClusters most (clusters cs)

def chopFrom (most : Nat) (line : List Char) (taken : Nat) : List Cluster → List (List Char)
  | [] => [line]
  | k :: rest =>
    if taken + k.cells > most then line :: chopFrom most k.text k.cells rest
    else chopFrom most (line ++ k.text) (taken + k.cells) rest

def chop (most : Nat) (cs : List Char) : List (List Char) := chopFrom most [] 0 (clusters cs)

theorem chopFromText (most : Nat) (line : List Char) (taken : Nat) (ks : List Cluster) :
    (chopFrom most line taken ks).flatten = line ++ ks.flatMap Cluster.text := by
  induction ks generalizing line taken with
  | nil => simp [chopFrom]
  | cons k rest ih =>
    unfold chopFrom
    split <;> simp [ih]

theorem chopText (most : Nat) (cs : List Char) : (chop most cs).flatten = cs := by
  simp [chop, chopFromText, clustersText]

end SymbolHierarchy.Text
