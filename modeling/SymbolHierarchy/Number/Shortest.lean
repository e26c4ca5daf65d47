import SymbolHierarchy.Number.Binary64

/-! The fewest decimal digits that read back to a double, and their layout:
positional from 10^-4 up to below 10^16, else with a signed exponent of two
digits or more. Only the search is exact arithmetic; minimality is not proved. -/
namespace SymbolHierarchy.Binary64

structure Decimal where
  digits : Nat
  power : Int
  deriving DecidableEq, Repr

def compareScaled (a : Nat) (i : Int) (n : Nat) (j : Int) : Ordering :=
  compare (a * tenTo i.toNat * twoTo (-j).toNat) (n * twoTo j.toNat * tenTo (-i).toNat)

/-- The decimal rounds to `m * 2 ^ e`: it lies between the midpoints to the two
neighbours, the ends counting when `m` is even. -/
def readsBack (m : Nat) (e : Int) (d : Decimal) : Bool :=
  let low := if m = twoTo 52 ∧ e > -1074 then 4 * m - 1 else 4 * m - 2
  let ends := m % 2 == 0
  let l := compareScaled d.digits d.power low (e - 2)
  let h := compareScaled d.digits d.power (4 * m + 2) (e - 2)
  (l == .gt || (ends && l == .eq)) && (h == .lt || (ends && h == .eq))

def scale (m : Nat) (e : Int) : Int :=
  let guess : Int := ((m.log2 : Int) + e) * 30103 / 100000 - 1
  let below (k : Int) : Bool := compareScaled 1 k m e == .gt
  if below guess then guess
  else if below (guess + 1) then guess + 1
  else if below (guess + 2) then guess + 2
  else guess + 3

def onGrid (m : Nat) (e : Int) (power : Int) : Option Decimal :=
  let num := m * twoTo e.toNat * tenTo (-power).toNat
  let den := twoTo (-e).toNat * tenTo power.toNat
  let q := num / den
  let r := num % den
  let low : Decimal := ⟨q, power⟩
  let high : Decimal := ⟨q + 1, power⟩
  match readsBack m e low, readsBack m e high with
  | true, true =>
    some (if 2 * r < den then low else if 2 * r > den then high
      else if q % 2 = 0 then low else high)
  | true, false => some low
  | false, true => some high
  | false, false => none

def stripZeros : Nat → Decimal → Decimal
  | 0, d => d
  | n + 1, d =>
    if d.digits ≠ 0 ∧ d.digits % 10 = 0 then stripZeros n ⟨d.digits / 10, d.power + 1⟩ else d

def shortest (m : Nat) (e : Int) : Decimal :=
  let k := scale m e
  match (List.range 17).findSome? fun (n : Nat) => onGrid m e (k - (n + 1 : Nat)) with
  | some d => stripZeros 20 d
  | none => ⟨m * twoTo e.toNat * Nat.pow 5 (-e).toNat, -((-e).toNat : Int)⟩

def digitText (n : Nat) : List Char := Nat.toDigits 10 n

def layout (d : Decimal) : List Char :=
  let ds := digitText d.digits
  let lead : Int := (ds.length : Int) + d.power
  if -3 ≤ lead ∧ lead ≤ 16 then
    if d.power ≥ 0 then ds ++ List.replicate d.power.toNat '0' ++ ['.', '0']
    else if lead > 0 then ds.take lead.toNat ++ '.' :: ds.drop lead.toNat
    else '0' :: '.' :: List.replicate (-lead).toNat '0' ++ ds
  else
    let x := lead - 1
    let xs := digitText x.natAbs
    let frac := match ds.drop 1 with
      | [] => []
      | rest => '.' :: rest
    ds.take 1 ++ frac ++ ['e', if x < 0 then '-' else '+'] ++
      (if xs.length < 2 then '0' :: xs else xs)

def text : Binary64 → String
  | .nan => "nan"
  | .infinite s => if s then "-inf" else "inf"
  | .finite s m e =>
    let body := if m = 0 then ['0', '.', '0'] else layout (shortest m e)
    String.ofList (if s then '-' :: body else body)

end SymbolHierarchy.Binary64
