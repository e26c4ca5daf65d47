import SymbolHierarchy.Schema.Violation
import SymbolHierarchy.Data.Json
import SymbolHierarchy.Number.Numeral
import SymbolHierarchy.Text.Blank
import SymbolHierarchy.Text.DecimalDigit

/-! Lenient reading of scalars. A field takes a value of its own sort as it is;
a number field also takes truth values, whole fractional numbers and numerals,
and a truth field takes 0, 1 and a few words. A value that is no scalar is
`none` here. -/
namespace SymbolHierarchy.Schema

def digitRun (digit : Char → Option Nat) : Bool → Nat → List Char → Option Nat
  | fresh, n, [] => if fresh then none else some n
  | fresh, n, c :: rest =>
    if c = '_' then if fresh then none else digitRun digit true n rest
    else match digit c with
      | some d => digitRun digit false (n * 10 + d) rest
      | none => none

def asciiDigit (c : Char) : Option Nat :=
  if c.isDigit then some (c.toNat - '0'.toNat) else none

def signedRun (digit : Char → Option Nat) : List Char → Option Int
  | '-' :: rest => (digitRun digit true 0 rest).map fun n => -(n : Int)
  | '+' :: rest => (digitRun digit true 0 rest).map fun n => (n : Int)
  | rest => (digitRun digit true 0 rest).map fun n => (n : Int)

def withoutZeroFraction (cs : List Char) : List Char :=
  match cs.dropWhile (· ≠ '.') with
  | _ :: zeros => if zeros.all (· = '0') then cs.takeWhile (· ≠ '.') else cs
  | [] => cs

def opensNumeral (c : Char) : Bool := ('1' ≤ c && c ≤ '9') || c = '-'

/-- What stands behind leading zeros, which may have any number of underscores
among them and a sign after them. The last one stays where nothing follows or a
point does. -/
def afterZeros (last : Char) : List Char → Option (List Char)
  | [] => some [last]
  | c :: rest =>
    if c = '0' ∨ c = '_' then afterZeros c rest
    else if opensNumeral c then some (c :: rest)
    else if c = '.' then some (last :: c :: rest)
    else none

def withoutLeadingZeros : List Char → Option (List Char)
  | [] => none
  | c :: rest =>
    if c = '0' then afterZeros c rest
    else if opensNumeral c then some (c :: rest)
    else none

def withoutSeparators : Bool → List Char → Option (List Char)
  | fresh, [] => if fresh then none else some []
  | fresh, c :: rest =>
    if c = '_' then if fresh then none else withoutSeparators true rest
    else (withoutSeparators false rest).map (c :: ·)

/-- A numeral stripped of what does not count: blanks around it, a plus sign,
leading zeros, a zero fraction and separators. -/
def plainNumeral? (s : String) : Option (List Char) := do
  let cs := Text.trim Text.isSpace s.toList
  let body ← match cs with
    | '+' :: '-' :: _ => none
    | '+' :: rest => withoutLeadingZeros rest
    | _ => withoutLeadingZeros cs
  withoutSeparators true (withoutZeroFraction body)

def natural : List Char → Except Violation Nat
  | ['0'] => .ok 0
  | '0' :: _ => .error .intParsing
  | cs =>
    let run := cs.takeWhile Char.isDigit
    if Numeral.digitLimit < run.length then .error .intParsingSize
    else if run.length < cs.length then .error .intParsing
    else match digitRun asciiDigit true 0 cs with
      | some n => .ok n
      | none => .error .intParsing

def numeral (s : String) : Except Violation Int :=
  match plainNumeral? s with
  | none => .error .intParsing
  | some ('-' :: cs) => (natural cs).map fun n => -(n : Int)
  | some cs => (natural cs).map Int.ofNat

def wordMin : Int := -9223372036854775808
def wordMax : Int := 9223372036854775807

/-- A whole fractional number in the 64-bit range, of which the least number is
left out. -/
def wholeFloat (x : Binary64) : Except Violation Int :=
  if !x.isFinite then .error .finiteNumber
  else match x.toInt? with
    | none => .error .intFromFloat
    | some n =>
      if wordMin < n ∧ n ≤ wordMax + 1 then .ok (min n wordMax) else .error .intParsingSize

def int : Option Scalar → Except Violation Int
  | some (.int n) => .ok n
  | some (.bool b) => .ok (if b then 1 else 0)
  | some (.float x) => wholeFloat x
  | some (.text s) => numeral s
  | some .null | none => .error .intType

def intFrom (low : Int) (s : Option Scalar) : Except Violation Int := do
  let n ← int s
  if n < low then .error .tooSmall else .ok n

def text : Option Scalar → Except Violation String
  | some (.text s) => .ok s
  | _ => .error .stringType

def falseWords : List String := ["0", "off", "f", "false", "n", "no"]
def trueWords : List String := ["1", "on", "t", "true", "y", "yes"]

def truthOfInt (n : Int) : Except Violation Bool :=
  if n = 0 then .ok false else if n = 1 then .ok true else .error .boolParsing

def truth : Option Scalar → Except Violation Bool
  | some (.bool b) => .ok b
  | some (.int n) => if wordMin ≤ n ∧ n ≤ wordMax then truthOfInt n else .error .boolType
  | some (.float x) =>
    match wholeFloat x with
    | .ok n => truthOfInt n
    | .error _ => .error .boolType
  | some (.text s) =>
    let w := s.toLower
    if falseWords.contains w then .ok false
    else if trueWords.contains w then .ok true
    else .error .boolParsing
  | some .null | none => .error .boolType

def optional {α : Type} (read : Option Scalar → Except Violation α) :
    Option Scalar → Except Violation (Option α)
  | some .null => .ok none
  | s => (read s).map some

def generalNumeral (cs : List Char) : Option Int :=
  if cs.countP (fun c => (Text.decimalValue c).isSome) > Numeral.digitLimit then none
  else signedRun Text.decimalValue (Text.trim Text.isSpace cs)

def wholePart : Scalar → Option Int
  | .int n => some n
  | .bool b => some (if b then 1 else 0)
  | .float x => x.truncate
  | .text s => generalNumeral s.toList
  | .null => none

end SymbolHierarchy.Schema

def SymbolHierarchy.Json.scalar? : SymbolHierarchy.Json → Option SymbolHierarchy.Scalar
  | .scalar s => some s
  | _ => none
