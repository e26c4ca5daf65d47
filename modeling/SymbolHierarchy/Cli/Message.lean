import SymbolHierarchy.Node.Basic

/-! Lines for a terminal that shows no colours: control sequences are taken out,
those inside a message included. -/
namespace SymbolHierarchy.Cli

def isParameter (c : Char) : Bool := '0' ≤ c && c ≤ '?'

def isIntermediate (c : Char) : Bool := ' ' ≤ c && c ≤ '/'

def isFinal (c : Char) : Bool := '@' ≤ c && c ≤ '~'

def afterControl : List Char → Option (List Char)
  | '\x1b' :: '[' :: rest =>
    match (rest.dropWhile isParameter).dropWhile isIntermediate with
    | c :: rest => if isFinal c then some rest else none
    | [] => none
  | _ => none

/-- The text without control sequences; `fuel` bounds its length. -/
def withoutControls : (fuel : Nat) → List Char → List Char
  | 0, _ => []
  | _, [] => []
  | fuel + 1, c :: rest =>
    match afterControl (c :: rest) with
    | some rest => withoutControls fuel rest
    | none => c :: withoutControls fuel rest

def line (s : String) : String :=
  String.ofList (withoutControls s.toList.length s.toList ++ ['\n'])

def errorLine (message : String) : String := line ("❌ " ++ message)

def warningLine (message : String) : String := line ("⚠️  " ++ message)

def locationLine (l : Location) : String :=
  line (l.uri ++ ":" ++ toString (l.range.start.line + 1) ++ ":" ++
    toString (l.range.start.character + 1))

end SymbolHierarchy.Cli
