import SymbolHierarchy.Text.Split

/-! Slash-separated paths in normal form: a root and the components below it.
Repeated slashes and single dots are dropped; double dots stay. Two leading
slashes, and not more, make a root of their own. -/
namespace SymbolHierarchy

structure Path where
  root : List Char
  parts : List (List Char)
  deriving DecidableEq, Repr, Inhabited

namespace Path

def rootOf : List Char → List Char
  | ['/', '/'] => ['/', '/']
  | '/' :: '/' :: c :: _ => if c = '/' then ['/'] else ['/', '/']
  | '/' :: _ => ['/']
  | _ => []

def isComponent (p : List Char) : Bool := !p.isEmpty && p != ['.']

def ofChars (cs : List Char) : Path :=
  ⟨rootOf cs, (Text.pieces '/' cs).filter isComponent⟩

def ofString (s : String) : Path := ofChars s.toList

def isAbsolute (p : Path) : Bool := !p.root.isEmpty

def slashed : List (List Char) → List Char
  | [] => []
  | [p] => p
  | p :: q :: rest => p ++ '/' :: slashed (q :: rest)

def chars (p : Path) : List Char :=
  if p.root.isEmpty && p.parts.isEmpty then ['.'] else p.root ++ slashed p.parts

theorem slashedCons (c : Char) (p : List Char) (ps : List (List Char)) :
    slashed ((c :: p) :: ps) = c :: slashed (p :: ps) := by
  cases ps <;> rfl

theorem slashedPieces (cs : List Char) : slashed (Text.pieces '/' cs) = cs := by
  induction cs with
  | nil => rfl
  | cons c rest ih =>
    cases hp : Text.pieces '/' rest with
    | nil => exact absurd hp (Text.piecesNonempty '/' rest)
    | cons p ps =>
      rw [hp] at ih
      by_cases h : c = '/'
      · simp [Text.pieces, h, hp, slashed, ih]
      · simp [Text.pieces, h, hp, slashedCons, ih]

def text (p : Path) : String := String.ofList p.chars

def join (p q : Path) : Path :=
  if q.isAbsolute then q else ⟨p.root, p.parts ++ q.parts⟩

def name (p : Path) : List Char := p.parts.getLast?.getD []

def parent (p : Path) : Path := ⟨p.root, p.parts.dropLast⟩

def suffix (p : Path) : List Char :=
  let rev := p.name.reverse
  let ext := rev.takeWhile (· ≠ '.')
  if ext.length = rev.length || ext.isEmpty || ext.length + 1 = rev.length then []
  else '.' :: ext.reverse

end Path
end SymbolHierarchy
