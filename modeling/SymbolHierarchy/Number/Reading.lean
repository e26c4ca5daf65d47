import SymbolHierarchy.Number.Binary64

/-! Clock readings and time spans: whole numbers held exactly, or doubles. Two
whole numbers are subtracted exactly; otherwise the difference is a double, and there
is none where a whole number lies beyond all doubles. -/
namespace SymbolHierarchy

inductive Reading
  | exact (n : Int)
  | double (x : Binary64)
  deriving DecidableEq, Repr

namespace Reading

def toDouble? : Reading → Option Binary64
  | .exact n => some (.ofInt n) |>.filter Binary64.isFinite
  | .double x => some x

def sub? : Reading → Reading → Option Reading
  | .exact m, .exact n => some (.exact (m - n))
  | a, b => do some (.double ((← a.toDouble?).sub (← b.toDouble?)))

def less : Reading → Reading → Bool
  | .exact m, .exact n => m < n
  | .double x, .double y => x.less y
  | .double x, .exact n => x.lessInt n
  | .exact m, .double y => y.negate.lessInt (-m)

end Reading
end SymbolHierarchy
