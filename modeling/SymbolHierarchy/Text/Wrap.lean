import SymbolHierarchy.Text.Cluster
import SymbolHierarchy.Text.Blank
import SymbolHierarchy.Text.Split

/-! Filling lines of a given width. A line breaks before a word that does not fit;
a word wider than a whole line is cut into pieces. Blanks after a word stand with
it, and are dropped where they would go over the end of the line. -/
namespace SymbolHierarchy.Text

/-- Words with the blanks behind them, the first one also with those before it;
`fuel` bounds their number. -/
def words : (fuel : Nat) → List Char → List (List Char)
  | 0, _ => []
  | fuel + 1, cs =>
    let lead := cs.takeWhile isBlank
    let rest := cs.drop lead.length
    let body := rest.takeWhile fun c => !isBlank c
    if body.isEmpty then []
    else
      let rest := rest.drop body.length
      let trail := rest.takeWhile isBlank
      (lead ++ body ++ trail) :: words fuel (rest.drop trail.length)

def withoutTrailing (cs : List Char) : List Char := (cs.reverse.dropWhile isBlank).reverse

def fill (most : Nat) (line : List Char) (taken : Nat) : List (List Char) → List (List Char)
  | [] => [line]
  | w :: rest =>
    let size := width (withoutTrailing w)
    if taken + size ≤ most then fill most (line ++ w) (taken + width w) rest
    else if size > most then
      let pieces := chop most w
      let before :=
        if line.isEmpty then pieces.dropLast.filter (!·.isEmpty) else line :: pieces.dropLast
      let last := pieces.getLast?.getD []
      before ++ fill most last (width last) rest
    else line :: fill most w (width w) rest

def trimEnd (most : Nat) (line : List Char) : List Char :=
  let blanks := line.length - (withoutTrailing line).length
  line.take (line.length - min blanks (line.length - most))

def expandTabs (column : Nat) : List (List Char) → List Char
  | [] => []
  | [part] => part
  | part :: rest =>
    let part := part ++ [' ']
    let column := column + width part
    let fill := (8 - column % 8) % 8
    part ++ List.replicate fill ' ' ++ expandTabs (column + fill) rest

def isControlMove (c : Char) : Bool := [7, 8, 11, 12, 13].contains c.toNat

def wrap (most : Nat) (cs : List Char) : List (List Char) :=
  if most = 0 then []
  else
    (pieces '\n' (cs.filter fun c => !isControlMove c)).flatMap fun line =>
      let line := expandTabs 0 (pieces '\t' line)
      let lines := match words line.length line with
        | [] => [line]
        | ws => fill most [] 0 ws
      lines.map fun l => crop most (trimEnd most l)

end SymbolHierarchy.Text
