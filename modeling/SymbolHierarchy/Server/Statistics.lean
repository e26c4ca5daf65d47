import SymbolHierarchy.Fault

/-! Statistics that a server reports about its index. Its three sections may be
absent or empty; a section of another sort is not looked into. -/
namespace SymbolHierarchy.Server
open Schema (Checked)

structure Statistics where
  files : Int := 0
  functions : Int := 0
  types : Int := 0
  values : Int := 0
  entries : Int := 0
  pending : Int := 0
  deriving DecidableEq, Repr

namespace Statistics

def sectionOf (name : String) (v : Json) : Except Fault (List (String × Json)) :=
  match v.get? name with
  | none => .ok []
  | some v =>
    if v.isEmpty then .ok []
    else match v with
      | .object members => .ok members
      | _ => .error (.raised .noSuchMember)

def countOf (members : List (String × Json)) (name told : String) : Checked Int :=
  match Json.member name members with
  | none => .ok 0
  | some v => (Node.scalarField Schema.int v).under (.field told)

def pendingOf (members : List (String × Json)) : Checked Int :=
  match Json.member "pendingIndexRequests" members with
  | none => .ok 0
  | some v =>
    if v.isEmpty then .ok 0
    else (Node.scalarField Schema.int v).under (.field "pending_index_requests")

def ofWire (v : Json) : Except Fault Statistics :=
  match v with
  | .object _ => do
    let index ← sectionOf "db" v
    let project ← sectionOf "project" v
    let pipeline ← sectionOf "pipeline" v
    let files := countOf index "files" "files"
    let functions := countOf index "funcs" "funcs"
    let types := countOf index "types" "types"
    let values := countOf index "vars" "vars"
    let entries := countOf project "entries" "entries"
    let pending := pendingOf pipeline
    match files, functions, types, values, entries, pending with
    | .ok files, .ok functions, .ok types, .ok values, .ok entries, .ok pending =>
      .ok ⟨files, functions, types, values, entries, pending⟩
    | _, _, _, _, _, _ =>
      .error (.malformed (.schema ⟨"ServerInfo", files.details ++ functions.details ++
        types.details ++ values.details ++ entries.details ++ pending.details⟩))
  | _ => .error (.malformed (.notObject v.sortName))

def status (s : Statistics) : String := toString s.pending ++ " jobs"

def lines (s : Statistics) : List String :=
  ["Statistics:",
   "  " ++ toString s.files ++ " files,",
   "  " ++ toString s.functions ++ " functions,",
   "  " ++ toString s.types ++ " types,",
   "  " ++ toString s.values ++ " variables,",
   "  " ++ toString s.entries ++ " entries in project.",
   "",
   "  " ++ toString s.pending ++ " pending index requests"]

def tooltip (s : Statistics) : String := "\n".intercalate s.lines

end Statistics
end SymbolHierarchy.Server
