import SymbolHierarchy.Cli.Command
import SymbolHierarchy.Cli.Message
import SymbolHierarchy.Fault
import SymbolHierarchy.Text.Similar
import SymbolHierarchy.Text.Quoted

/-! Arguments that ask for nothing the program does, by what is wrong with them. -/
namespace SymbolHierarchy.Cli

inductive EntrySort
  | file
  | directory
  deriving DecidableEq, Repr

inductive Flaw
  | nothing
  | missingCommand
  | unknownCommand (name : String)
  | unknownOption (name : String) (similar : List String)
  | needlessOperand (option : String)
  | missingOperand (option : String)
  | missingArgument (name : String)
  | notNumber (hint text : String)
  | tooSmall (hint : String) (value : Int) (low : Nat)
  | absent (hint : String) (sort : EntrySort) (name : String)
  | wrongSort (hint : String) (sort : EntrySort) (name : String)
  | notFile (text : String)
  | unspeakable
  | extra (arguments : List String)
  deriving DecidableEq, Repr

structure Misuse where
  scope : Scope
  flaw : Flaw
  deriving DecidableEq, Repr

def listed (names : List String) : String := ", ".intercalate (names.map quote)

def suggestion : List String → String
  | [] => ""
  | [name] => " Did you mean " ++ quote name ++ "?"
  | names => " (Did you mean one of: " ++ listed names ++ "?)"

def EntrySort.word : EntrySort → String
  | .file => "File"
  | .directory => "Directory"

def EntrySort.contrary : EntrySort → String
  | .file => "is a directory."
  | .directory => "is a file."

namespace Flaw

def badValue (hint text : String) : String := "Invalid value for " ++ hint ++ ": " ++ text

def message : Flaw → String
  | .nothing => ""
  | .missingCommand => "Missing command."
  | .unknownCommand name =>
    "No such command " ++ quote name ++ "." ++
      suggestion (Text.closest name (Command.all.map Command.name))
  | .unknownOption name similar => "No such option " ++ quote name ++ "." ++ suggestion similar
  | .needlessOperand option => "Option " ++ quote option ++ " does not take a value."
  | .missingOperand option => "Option " ++ quote option ++ " requires an argument."
  | .missingArgument name => "Missing argument '" ++ name ++ "'."
  | .notNumber hint text => badValue hint (quote text ++ " is not a valid integer range.")
  | .tooSmall hint value low =>
    badValue hint (toString value ++ " is not in the range x>=" ++ toString low ++ ".")
  | .absent hint sort name =>
    badValue hint (sort.word ++ " " ++ quote name ++ " does not exist.")
  | .wrongSort hint sort name =>
    badValue hint (sort.word ++ " " ++ quote name ++ " " ++ sort.contrary)
  | .notFile text => badValue "FILE" text
  | .unspeakable => Raised.nulByte.message
  | .extra arguments =>
    "Got unexpected extra argument" ++ (if arguments.length = 1 then "" else "s") ++ " (" ++
      " ".intercalate arguments ++ ")"

def tellsUsage : Flaw → Bool
  | .needlessOperand _ | .missingOperand _ => false
  | _ => true

end Flaw

def Misuse.text (m : Misuse) : String :=
  match m.flaw with
  | .nothing => m.scope.page
  | f =>
    (if f.tellsUsage then
      m.scope.usage ++ "\nTry '" ++ m.scope.call ++ " --help' for help.\n\n" else "") ++
      line ("Error: " ++ f.message)

end SymbolHierarchy.Cli
