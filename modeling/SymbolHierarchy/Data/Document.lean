import SymbolHierarchy.Data.Literal
import SymbolHierarchy.Data.Moment
import SymbolHierarchy.Number.Reading
import SymbolHierarchy.Number.Shortest
import SymbolHierarchy.Text.Utf8

/-! Values of a settings document. They go beyond the values exchanged with a
server: keys need not be text, and there are bytes, points in time, pairs, sets and
texts that are no texts of characters. -/
namespace SymbolHierarchy

inductive Document
  | scalar (s : Scalar)
  /-- A text some of whose code points are no characters. -/
  | garbled (points : List Nat)
  | bytes (bs : List UInt8)
  | time (moment : Moment)
  | list (items : List Document)
  | pair (first second : Document)
  | mapping (entries : List (Document × Document))
  | set (items : List Document)
  /-- A collection that holds itself, where it is met once more. -/
  | endless
  deriving Repr, Inhabited

def Scalar.size : Scalar → Option Reading
  | .int n => some (.exact n)
  | .bool b => some (.exact (if b then 1 else 0))
  | .float .nan => none
  | .float x => some (.double x)
  | _ => none

def Scalar.sameKey (a b : Scalar) : Bool :=
  match a, b with
  | .text s, .text t => s = t
  | .null, .null => true
  | _, _ => match a.size, b.size with
    | some x, some y => !x.less y && !y.less x
    | _, _ => false

namespace Document

abbrev null : Document := .scalar .null
abbrev text (s : String) : Document := .scalar (.text s)

def sameKey : Document → Document → Bool
  | .scalar a, .scalar b => a.sameKey b
  | .garbled a, .garbled b => a = b
  | .bytes a, .bytes b => a = b
  | .time a, .time b => a.same b
  | _, _ => false

def entry (name : String) (entries : List (Document × Document)) : Option Document :=
  (entries.find? fun e => e.1.sameKey (.text name)).map Prod.snd

def isEmpty : Document → Bool
  | .scalar .null | .scalar (.bool false) | .scalar (.int 0) | .scalar (.text "") => true
  | .scalar (.float (.finite _ 0 _)) => true
  | .bytes bs => bs.isEmpty
  | .list items => items.isEmpty
  | .mapping entries => entries.isEmpty
  | .set items => items.isEmpty
  | _ => false

end Document
end SymbolHierarchy
