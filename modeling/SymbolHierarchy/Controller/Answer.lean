import SymbolHierarchy.Fault

/-! A result told as a value: what was asked for, or why it is not there. -/
namespace SymbolHierarchy

inductive Answer (α ε : Type)
  | ok (value : α)
  | err (error : ε)
  deriving Repr

namespace Answer

variable {α ε : Type}

def isOk : Answer α ε → Bool
  | ok _ => true
  | err _ => false

def isErr : Answer α ε → Bool
  | ok _ => false
  | err _ => true

def unwrap (text : ε → String) : Answer α ε → Except Raised α
  | ok v => .ok v
  | err e => .error (.failedUnwrap (text e))

def contain : Except Fault α → Except Raised (Answer α Fault)
  | .ok v => .ok (.ok v)
  | .error (.raised r) => .error r
  | .error f => .ok (.err f)

end Answer
end SymbolHierarchy
