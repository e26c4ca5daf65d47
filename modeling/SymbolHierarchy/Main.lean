import SymbolHierarchy.Cli.Run
import SymbolHierarchy.Data.Reader

/-! The program. Its arguments are a command line. From the standard input it reads
one object about the place where it runs: the working `directory`, the `variables`,
the `files` with their texts (null for a directory), and the `replies` that the
server will give. -/
namespace SymbolHierarchy.Place

def textOf : Json → String
  | .scalar (.text s) => s
  | _ => ""

def membersOf (j : Json) (name : String) : List (String × Json) :=
  match j.get? name with
  | some (.object ms) => ms
  | _ => []

def entryOf : Json → Entry
  | .scalar (.text s) => .file (Text.encodeUtf8 s.toList)
  | _ => .directory

def directoryOf (j : Json) : Path := Path.ofString (((j.get? "directory").map textOf).getD "/")

def surroundingsOf (j : Json) : Surroundings :=
  { directory := directoryOf j
    environment := (membersOf j "variables").map fun (k, v) => (k, textOf v) }

def filesOf (j : Json) : Files :=
  let here := directoryOf j
  ⟨(here.parts, .directory) :: (membersOf j "files").map fun (k, v) =>
    ((here.join (Path.ofString k)).parts, entryOf v)⟩

def repliesOf (j : Json) : List (Except Raised Server.Value) :=
  match j.get? "replies" with
  | some (.list rs) => rs.map fun r => .ok (Server.Value.ofJson r)
  | _ => []

end SymbolHierarchy.Place

open SymbolHierarchy in
def main (arguments : List String) : IO UInt32 := do
  let told ← (← IO.getStdin).readToEnd
  let place := (Json.read? told).getD (.object [])
  let script : Server.Script := { replies := Place.repliesOf place }
  let (ending, _) := Cli.run Server.Script.client (Place.filesOf place)
    (Place.surroundingsOf place) arguments script
  IO.print ending.out
  IO.eprint ending.err
  match ending.escaped with
  | some r => IO.eprintln r.message
  | none => pure ()
  return UInt32.ofNat ending.code
