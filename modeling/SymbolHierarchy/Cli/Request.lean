import SymbolHierarchy.Cli.Arguments
import SymbolHierarchy.Files
import SymbolHierarchy.Query.Basic

/-! What arguments ask for. Options are checked in the order they came, then the
place in the file, then that nothing is left over; help comes before all checks. -/
namespace SymbolHierarchy.Cli

structure Site where
  root : String := "."
  settings : Option String := none
  deriving DecidableEq, Repr

structure Choices where
  site : Site := {}
  depth : Nat := 2
  json : Bool := false
  deriving DecidableEq, Repr

structure Place where
  file : String
  line : Int
  column : Int
  deriving DecidableEq, Repr

inductive Request
  | help (scope : Scope)
  | version
  | explore (kind : Kind) (place : Place) (choices : Choices)
  | statistics (site : Site)
  | reload (site : Site)
  deriving Repr

def numberFrom (low : Nat) (hint text : String) : Except Flaw Int :=
  match Schema.wholePart (.text text) with
  | none => .error (.notNumber hint text)
  | some n => if n < low then .error (.tooSmall hint n low) else .ok n

section
variable (f : Files) (e : Surroundings)

def lookUp (name : String) : Except Flaw (Option Entry) :=
  if holdsNul name.toList then .error .unspeakable else .ok (f.named? e name)

def standingFile (hint name : String) : Except Flaw String := do
  match ← lookUp f e name with
  | some (.file _) => .ok name
  | some .directory => .error (.wrongSort hint .file name)
  | none => .error (.absent hint .file name)

def standingDirectory (hint name : String) : Except Flaw String := do
  match ← lookUp f e name with
  | some .directory => .ok name
  | some (.file _) => .error (.wrongSort hint .directory name)
  | none => .error (.absent hint .directory name)

def possibleFile (hint name : String) : Except Flaw (Option String) := do
  match ← lookUp f e name with
  | some .directory => .error (.wrongSort hint .file name)
  | _ => .ok (if name.isEmpty then none else some name)

def Choices.set (c : Choices) (s : Setting) : Except Flaw Choices :=
  let hint := s.switch.hint
  match s.switch.slot with
  | .root => (standingDirectory f e hint s.operand).map fun r => { c with site.root := r }
  | .settings => (possibleFile f e hint s.operand).map fun p => { c with site.settings := p }
  | .depth => (numberFrom 0 hint s.operand).map fun n => { c with depth := n.toNat }
  | .json => .ok { c with json := true }
  | .verbose | .version | .help => .ok c

def next (name : String) : List String → Except Flaw (String × List String)
  | [] => .error (.missingArgument name)
  | a :: rest => .ok (a, rest)

def Place.ofArguments (arguments : List String) : Except Flaw (Place × List String) := do
  let (file, rest) ← next "FILE" arguments
  let file ← standingFile f e "'FILE'" file
  let (line, rest) ← next "LINE" rest
  let line ← numberFrom 1 "'LINE'" line
  let (column, rest) ← next "COLUMN" rest
  let column ← numberFrom 1 "'COLUMN'" column
  .ok (⟨file, line, column⟩, rest)

def allTaken : List String → Except Flaw Unit
  | [] => .ok ()
  | rest => .error (.extra rest)

def Given.about? (s : Scope) (g : Given) : Option Request :=
  g.settings.findSome? fun x =>
    match x.switch.slot with
    | .help => some (.help s)
    | .version => some .version
    | _ => none

def exploration (kind : Kind) (c : Choices) (rest : List String) : Except Flaw Request := do
  let (place, rest) ← Place.ofArguments f e rest
  allTaken rest
  .ok (.explore kind place c)

def Request.ofGiven (c : Command) (g : Given) : Except Flaw Request :=
  match g.about? (.command c) with
  | some r => .ok r
  | none => do
    let choices ← (effective g.settings).foldlM (Choices.set f e) {}
    match c with
    | .calls => exploration f e .call choices g.rest
    | .inheritance => exploration f e .inheritance choices g.rest
    | .info => allTaken g.rest; .ok (.statistics choices.site)
    | .reload => allTaken g.rest; .ok (.reload choices.site)

def within {α : Type} (s : Scope) : Except Flaw α → Except Misuse α
  | .ok a => .ok a
  | .error flaw => .error ⟨s, flaw⟩

def looksLikeOption (name : String) : Bool :=
  match name.toList with
  | [] => false
  | c :: _ => !c.isAlphanum

def strayName (name : String) (rest : List String) : Except Misuse Request := do
  let told ← if looksLikeOption name then
      (within .program (Given.ofArguments .program (name :: rest))).map (Given.about? .program)
    else .ok none
  match told with
  | some r => .ok r
  | none => .error ⟨.program, .unknownCommand name⟩

def Request.ofArguments (arguments : List String) : Except Misuse Request := do
  if arguments.isEmpty then .error ⟨.program, .nothing⟩
  let g ← within .program (Given.ofArguments .program arguments)
  match g.about? .program, g.rest with
  | some r, _ => .ok r
  | none, [] => .error ⟨.program, .missingCommand⟩
  | none, name :: rest =>
    match Command.ofName? name with
    | none => strayName name rest
    | some c =>
      within (.command c) (Given.ofArguments (.command c) rest >>= Request.ofGiven f e c)

end
end SymbolHierarchy.Cli
