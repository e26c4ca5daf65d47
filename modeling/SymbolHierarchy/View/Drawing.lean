import SymbolHierarchy.View.Outline
import SymbolHierarchy.Text.Wrap

/-! Drawings for a terminal without colours. A tree has guide lines from each
node to those below it; a long label goes on under its own guide. A panel has a
frame with a title in its upper edge. -/
namespace SymbolHierarchy

def terminalWidth : Nat := 80

def behind (first later : List Char) : List (List Char) → List (List Char)
  | [] => []
  | l :: ls => (first ++ l) :: ls.map (later ++ ·)

def labelLines (depth : Nat) (label : String) : Except Raised (List (List Char)) := do
  .ok (Text.wrap (terminalWidth - 4 * depth) (← Markup.shown label.toList))

namespace Outline

mutual
def drawBelow (depth : Nat) (lead : List Char) (last : Bool) :
    Outline → Except Raised (List (List Char))
  | .branch label below => do
    let lines ← labelLines depth label
    let next := lead ++ (if last then "    " else "│   ").toList
    let more ← drawAll (depth + 1) next below
    .ok (behind (lead ++ (if last then "└── " else "├── ").toList) next lines ++ more)
def drawAll (depth : Nat) (lead : List Char) : List Outline → Except Raised (List (List Char))
  | [] => .ok []
  | o :: rest => do
    let lines ← drawBelow depth lead rest.isEmpty o
    .ok (lines ++ (← drawAll depth lead rest))
end

def draw : Outline → Except Raised (List (List Char))
  | .branch label below => do
    let lines ← labelLines 0 label
    .ok (lines ++ (← drawAll 1 [] below))

end Outline

def padTo (size : Nat) (cs : List Char) : List Char :=
  cs ++ List.replicate (size - Text.width cs) ' '

def panelTop (title : String) : List Char :=
  let room := terminalWidth - 4
  let text := Text.crop room (' ' :: title.toList ++ [' '])
  let free := room - Text.width text
  "╭─".toList ++ List.replicate (free / 2) '─' ++ text ++
    List.replicate (free - free / 2) '─' ++ "─╮".toList

def panel (title body : String) : List (List Char) :=
  let room := terminalWidth - 4
  panelTop title ::
    (Text.wrap room body.toList).map (fun l => "│ ".toList ++ padTo room l ++ " │".toList) ++
    ["╰".toList ++ List.replicate (terminalWidth - 2) '─' ++ "╯".toList]

def linesText (ls : List (List Char)) : String :=
  String.ofList (ls.flatMap fun l => l ++ ['\n'])

end SymbolHierarchy
