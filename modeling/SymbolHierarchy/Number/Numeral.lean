import SymbolHierarchy.Number.Binary64
import SymbolHierarchy.Text.Blank
import SymbolHierarchy.Text.DecimalDigit

/-! Numbers from their written forms, in general use: blanks around them do not
count, and digits may be those of any script. -/
namespace SymbolHierarchy.Numeral

def digitOf (base : Nat) (c : Char) : Option Nat :=
  let v := match Text.decimalValue c with
    | some d => some d
    | none =>
      if 'a' ≤ c ∧ c ≤ 'z' then some (c.toNat - 87)
      else if 'A' ≤ c ∧ c ≤ 'Z' then some (c.toNat - 55)
      else none
  v.filter (· < base)

def withoutMark (base : Nat) : List Char → List Char
  | '0' :: m :: rest =>
    if (base = 2 && m.toLower = 'b') || (base = 8 && m.toLower = 'o') ||
      (base = 16 && m.toLower = 'x') then rest else '0' :: m :: rest
  | cs => cs

def digitLimit : Nat := 4300

def signed : List Char → Bool × List Char
  | '-' :: rest => (true, rest)
  | '+' :: rest => (false, rest)
  | cs => (false, cs)

def whole (base : Nat) (cs : List Char) : Option Int := do
  let (negative, cs) := signed (Text.trim Text.isSpace cs)
  let ds ← (withoutMark base cs).mapM (digitOf base)
  if ds.isEmpty then none
  else some (Binary64.signed negative (ds.foldl (fun n d => n * base + d) 0))

def decimalRun (cs : List Char) : List Nat × List Char :=
  let run := cs.takeWhile fun c => (Text.decimalValue c).isSome
  (run.filterMap Text.decimalValue, cs.drop run.length)

def natural (ds : List Nat) : Nat := ds.foldl (fun n d => n * 10 + d) 0

def fractional (cs : List Char) : Option Binary64 := do
  let (negative, cs) := signed (Text.trim Text.isSpace cs)
  let word := String.ofList (cs.map Char.toLower)
  if word = "inf" || word = "infinity" then some (.infinite negative)
  else if word = "nan" then some .nan
  else
    let (ws, cs) := decimalRun cs
    let (fs, cs) := match cs with
      | '.' :: rest => decimalRun rest
      | _ => ([], cs)
    if ws.isEmpty && fs.isEmpty then none
    let power ← match cs with
      | [] => some (0 : Int)
      | e :: rest =>
        if e ≠ 'e' ∧ e ≠ 'E' then none
        else
          let (down, rest) := signed rest
          let (xs, rest) := decimalRun rest
          if xs.isEmpty || !rest.isEmpty then none else some (Binary64.signed down (natural xs))
    some (.ofDecimal negative (natural (ws ++ fs)) (power - (fs.length : Int)))

end SymbolHierarchy.Numeral
