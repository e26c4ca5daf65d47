import SymbolHierarchy.Data.Entries
import SymbolHierarchy.Number.Binary64

/-! Values exchanged with a language server. A whole number and a fractional one
are different scalars even where they are equal in size. An object keeps its
members in order; a reader sees the first member of a name. -/
namespace SymbolHierarchy

inductive Scalar
  | null
  | bool (b : Bool)
  | int (n : Int)
  | float (x : Binary64)
  | text (s : String)
  deriving DecidableEq, Repr, Inhabited

inductive Json
  | scalar (s : Scalar)
  | list (items : List Json)
  | object (members : List (String × Json))
  deriving Repr, Inhabited

namespace Json

abbrev null : Json := .scalar .null
abbrev bool (b : Bool) : Json := .scalar (.bool b)
abbrev int (n : Int) : Json := .scalar (.int n)
abbrev float (x : Binary64) : Json := .scalar (.float x)
abbrev text (s : String) : Json := .scalar (.text s)

theorem induct {P : Json → Prop} (scalar : ∀ s, P (.scalar s))
    (list : ∀ items, (∀ v ∈ items, P v) → P (.list items))
    (object : ∀ members, (∀ v ∈ members.map Prod.snd, P v) → P (.object members)) (v : Json) :
    P v := by
  refine @Json.rec P (fun items => ∀ v ∈ items, P v)
    (fun members => ∀ v ∈ members.map Prod.snd, P v) (fun m => P m.2) scalar list object
    ?noItem ?item ?noMember ?member ?pair v
  case noItem => simp
  case item => exact fun v rest own others => List.forall_mem_cons.mpr ⟨own, others⟩
  case noMember => simp
  case member => exact fun m rest own others => List.forall_mem_cons.mpr ⟨own, others⟩
  case pair => exact fun _ _ own => own

def isNull : Json → Bool
  | .scalar .null => true
  | _ => false

def isEmpty : Json → Bool
  | .scalar .null | .scalar (.bool false) | .scalar (.int 0) | .scalar (.text "") => true
  | .scalar (.float (.finite _ 0 _)) => true
  | .list items => items.isEmpty
  | .object members => members.isEmpty
  | _ => false

def member (name : String) : List (String × Json) → Option Json
  | [] => none
  | (k, v) :: rest => if k = name then some v else member name rest

def get? (name : String) : Json → Option Json
  | .object members => member name members
  | _ => none

def put (name : String) (v : Json) (members : List (String × Json)) : List (String × Json) :=
  Entries.put (· == ·) name v members

def present (members : List (String × Json)) : List (String × Json) :=
  members.filter fun m => !m.2.isNull

mutual
def same : Json → Json → Bool
  | .scalar a, .scalar b => a == b
  | .list as, .list bs => sameList as bs
  | .object as, .object bs => sameMembers as bs
  | _, _ => false
def sameList : List Json → List Json → Bool
  | [], [] => true
  | a :: as, b :: bs => same a b && sameList as bs
  | _, _ => false
def sameMembers : List (String × Json) → List (String × Json) → Bool
  | [], [] => true
  | (k, a) :: as, (l, b) :: bs => k == l && same a b && sameMembers as bs
  | _, _ => false
end

end Json
end SymbolHierarchy
