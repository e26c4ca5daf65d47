/-! What can be wrong with YAML text. Text that breaks the grammar is malformed;
the other flaws lie in the content of a scalar that its tag does not allow. -/
namespace SymbolHierarchy.Yaml

inductive Flaw
  | malformed
  | codePoint
  | hugeEscape
  | noDigits
  | digits (text : String) (base : Nat)
  | decimal (text : String)
  | word (text : String)
  | date (reason : String)
  | notTimestamp
  | tooManyDigits (count : Nat)
  | hugeUnit
  | notText
  | endless
  deriving DecidableEq, Repr

abbrev Scan := Except Flaw

def refuse {α : Type} : Scan α := .error .malformed

def demand {α : Type} : Option α → Scan α
  | some a => .ok a
  | none => refuse

end SymbolHierarchy.Yaml
