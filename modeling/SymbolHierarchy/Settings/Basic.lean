import SymbolHierarchy.Data.Document
import SymbolHierarchy.Fault
import SymbolHierarchy.View.Item
import SymbolHierarchy.Path.Uri

/-! Settings of a workspace: how a server is launched and what it is told, which
methods it answers, how paths are exchanged with it, and how trees are shown. -/
namespace SymbolHierarchy

structure Launch where
  command : String := "ccls"
  arguments : List String := []
  forwarded : List String := ["ProgramData", "PATH", "CPATH", "LIBRARY_PATH"]
  deriving DecidableEq, Repr, Inhabited

structure Methods where
  call : String := "$ccls/call"
  inheritance : String := "$ccls/inheritance"
  info : String := "$ccls/info"
  reload : String := "$ccls/reload"
  deriving DecidableEq, Repr, Inhabited

structure Settings where
  launch : Launch := {}
  initialization : List (String × Document) := []
  clickWindow : Nat := 500
  rules : List (List (String × String)) := []
  methods : Methods := {}
  icons : IconTheme := ⟨some "▲", some "▼"⟩
  deriving Repr, Inhabited

def workspaceVariable : List Char := "$\x7bworkspaceFolder\x7d".toList

/-- Puts `root` for every occurrence of `mark`, from left to right; what is put in
is not looked at again. `skip` signs of an occurrence are still to be passed over. -/
def substitute {α : Type} [BEq α] (mark root : List α) : (skip : Nat) → List α → List α
  | _, [] => []
  | skip + 1, _ :: rest => substitute mark root skip rest
  | 0, c :: rest =>
    if mark.isPrefixOf (c :: rest) then root ++ substitute mark root (mark.length - 1) rest
    else c :: substitute mark root 0 rest

namespace Document

def pointsOf (cs : List Char) : List Nat := cs.map Char.toNat

mutual
/-- The value with the variable substituted in every text of its lists and mappings;
keys stay. A value that holds itself has no end. -/
def resolve (root : List Char) : Document → Except Raised Document
  | .scalar (.text s) => .ok (.text (String.ofList (substitute workspaceVariable root 0 s.toList)))
  | .garbled points =>
    .ok (.garbled (substitute (pointsOf workspaceVariable) (pointsOf root) 0 points))
  | .list items => do .ok (.list (← resolveItems root items))
  | .mapping entries => do .ok (.mapping (← resolveEntries root entries))
  | .endless => .error .endless
  | .scalar s => .ok (.scalar s)
  | .bytes bs => .ok (.bytes bs)
  | .time m => .ok (.time m)
  | .pair first second => .ok (.pair first second)
  | .set items => .ok (.set items)
def resolveItems (root : List Char) : List Document → Except Raised (List Document)
  | [] => .ok []
  | v :: rest => do .ok ((← resolve root v) :: (← resolveItems root rest))
def resolveEntries (root : List Char) :
    List (Document × Document) → Except Raised (List (Document × Document))
  | [] => .ok []
  | (k, v) :: rest => do .ok ((k, ← resolve root v) :: (← resolveEntries root rest))
end

end Document

namespace Settings

def defaultOptions : List (String × Document) := [("cacheDirectory", .text ".ccls-cache")]

def overlaid (s : Settings) : List (String × Document) :=
  s.initialization.foldl (fun es e => Entries.put (· == ·) e.1 e.2 es) defaultOptions

def options (s : Settings) (root : Path) : Except Raised (List (String × Document)) :=
  s.overlaid.mapM fun o => do .ok (o.1, ← o.2.resolve root.chars)

def environment (s : Settings) (e : Surroundings) : List (String × String) :=
  s.launch.forwarded.foldl (fun found name =>
    match e.valueOf? name with
    | some v => if found.any fun f => f.1 = name then found else found ++ [(name, v)]
    | none => found) []

end Settings
end SymbolHierarchy
