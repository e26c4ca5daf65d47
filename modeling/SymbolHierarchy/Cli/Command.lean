
/-! The commands and their options, and the pages that tell about them. -/
namespace SymbolHierarchy.Cli

def programName : String := "symtree"

inductive Command
  | calls
  | info
  | inheritance
  | reload
  deriving DecidableEq, Repr

def Command.name : Command → String
  | .calls => "calls"
  | .info => "info"
  | .inheritance => "inheritance"
  | .reload => "reload"

def Command.all : List Command := [.calls, .info, .inheritance, .reload]

def Command.ofName? (s : String) : Option Command := Command.all.find? fun c => c.name = s

theorem Command.ofName (c : Command) : Command.ofName? c.name = some c := by
  cases c <;> rfl

def Command.explores : Command → Bool
  | .calls | .inheritance => true
  | .info | .reload => false

inductive Scope
  | program
  | command (c : Command)
  deriving DecidableEq, Repr

inductive Slot
  | root
  | settings
  | depth
  | json
  | verbose
  | version
  | help
  deriving DecidableEq, Repr

structure Switch where
  slot : Slot
  long : String
  short : Option Char
  operand : Option String
  about : String
  deriving Repr

namespace Switch

def takesOperand (w : Switch) : Bool := w.operand.isSome

def hint (w : Switch) : String :=
  "'" ++ w.long ++ "'" ++ match w.short with
    | some c => " / '" ++ String.ofList ['-', c] ++ "'"
    | none => ""

def synopsis (w : Switch) : String :=
  (match w.short with
    | some c => String.ofList ['-', c] ++ ", "
    | none => "") ++ w.long ++ match w.operand with
    | some word => " " ++ word
    | none => ""

def help : Switch := ⟨.help, "--help", none, none, "Show this message and exit."⟩

def ofProgram : List Switch := [
  ⟨.version, "--version", none, none, "Show the version and exit."⟩,
  ⟨.verbose, "--verbose", some 'v', none, "Log backend traffic to stderr"⟩,
  help]

def ofWorkspace : List Switch := [
  ⟨.root, "--root", some 'r', some "DIRECTORY", "Workspace root indexed by the backend"⟩,
  ⟨.settings, "--config", none, some "FILE",
    "Configuration file (default: .symtree/config.yaml)"⟩]

def ofExploration : List Switch := [
  ⟨.depth, "--depth", some 'd', some "INTEGER RANGE",
    "Levels to expand below the root  [default: 2; x>=0]"⟩,
  ⟨.json, "--json", none, none, "Print the expanded tree as JSON"⟩]

end Switch

namespace Scope

def switches : Scope → List Switch
  | .program => Switch.ofProgram
  | .command c =>
    Switch.ofWorkspace ++ (if c.explores then Switch.ofExploration else []) ++ [Switch.help]

def long? (s : Scope) (name : String) : Option Switch := s.switches.find? fun w => w.long = name

def short? (s : Scope) (c : Char) : Option Switch := s.switches.find? fun w => w.short = some c

def call : Scope → String
  | .program => programName
  | .command c => programName ++ " " ++ c.name

def usage (s : Scope) : String :=
  "Usage: " ++ s.call ++ " [OPTIONS]" ++ match s with
    | .program => " COMMAND [ARGS]..."
    | .command c => if c.explores then " FILE LINE COLUMN" else ""

def about : Scope → List String
  | .program => [
    "symtree: Explore call and inheritance hierarchies.",
    "",
    "Queries a code-intelligence server and expands the hierarchy lazily, one level",
    "per request.",
    "",
    "Quick Start:",
    "  symtree calls src/main.cpp 42 7",
    "  symtree inheritance src/shape.h 10 7 --depth 3",
    "  symtree info"]
  | .command .calls => ["Show who calls the symbol at FILE:LINE:COLUMN."]
  | .command .inheritance => [
    "Show subtypes and supertypes of the type at FILE:LINE:COLUMN.",
    "",
    "Supertypes are grouped under a [[Base]] node."]
  | .command .info => ["Show index statistics reported by the backend."]
  | .command .reload => ["Ask the backend to reload the project and re-index."]

end Scope

def indented (s : String) : String := if s.isEmpty then s else "  " ++ s

def columns (rows : List (String × String)) : List String :=
  let size := (rows.map fun r => r.1.length).foldl max 0 + 2
  rows.map fun r => indented (r.1 ++ String.ofList (List.replicate (size - r.1.length) ' ') ++ r.2)

def summary (c : Command) : String × String := (c.name, (Scope.command c).about.headD "")

def Scope.page (s : Scope) : String :=
  let options := "" :: "Options:" :: columns (s.switches.map fun w => (w.synopsis, w.about))
  let commands := match s with
    | .program => "" :: "Commands:" :: columns (Command.all.map summary)
    | .command _ => []
  String.join ((s.usage :: "" :: s.about.map indented ++ options ++ commands).map (· ++ "\n"))

end SymbolHierarchy.Cli
