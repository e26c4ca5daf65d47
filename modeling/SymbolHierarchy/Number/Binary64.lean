/-! Double-precision numbers held exactly: a sign, a mantissa and a power of two.
Rounding is to the nearest value, ties to the even mantissa. No claim is made
about signalling values or rounding modes. -/
namespace SymbolHierarchy

/-- The value `m * 2 ^ e`, negated when the sign is set, or what is not finite. -/
inductive Binary64
  | finite (negative : Bool) (mantissa : Nat) (exponent : Int)
  | infinite (negative : Bool)
  | nan
  deriving DecidableEq, Repr, Inhabited

namespace Binary64

def twoTo (k : Nat) : Nat := Nat.pow 2 k

def tenTo (k : Nat) : Nat := Nat.pow 10 k

def zero : Binary64 := .finite false 0 (-1074)

def nearest (num den : Nat) : Nat :=
  let q := num / den
  let r := num % den
  if 2 * r > den || (2 * r == den && q % 2 == 1) then q + 1 else q

def ofRatio (negative : Bool) (num den : Nat) : Binary64 :=
  if num = 0 then .finite negative 0 (-1074)
  else
    let at_ (e : Int) : Nat × Nat := (num * twoTo (-e).toNat, den * twoTo e.toNat)
    let low : Int := (num.log2 : Int) - (den.log2 : Int) - 53
    let (a, b) := at_ low
    let e := max (-1074) (if a / b ≥ twoTo 53 then low + 1 else low)
    let (a, b) := at_ e
    let q := nearest a b
    let (m, e) := if q = twoTo 53 then (twoTo 52, e + 1) else (q, e)
    if e > 971 then .infinite negative else .finite negative m e

def ofScaled (zeroNegative : Bool) (m e : Int) : Binary64 :=
  if m = 0 then .finite zeroNegative 0 (-1074)
  else ofRatio (m < 0) (m.natAbs * twoTo e.toNat) (twoTo (-e).toNat)

def ofInt (n : Int) : Binary64 := ofScaled false n 0

def ofDecimal (negative : Bool) (digits : Nat) (power : Int) : Binary64 :=
  if digits = 0 then .finite negative 0 (-1074)
  else
    let size : Int := (digits.log2 : Int) * 3 / 10 + power
    if size > 400 then .infinite negative
    else if size < -800 - (digits.log2 : Int) then .finite negative 0 (-1074)
    else ofRatio negative (digits * tenTo power.toNat) (tenTo (-power).toNat)

def signed (negative : Bool) (m : Nat) : Int := if negative then -(m : Int) else m

def negate : Binary64 → Binary64
  | .finite s m e => .finite (!s) m e
  | .infinite s => .infinite (!s)
  | .nan => .nan

def add : Binary64 → Binary64 → Binary64
  | .nan, _ | _, .nan => .nan
  | .infinite s, .infinite t => if s = t then .infinite s else .nan
  | .infinite s, _ => .infinite s
  | _, .infinite t => .infinite t
  | .finite s m e, .finite t n f =>
    let g := min e f
    ofScaled (s && t)
      (signed s m * twoTo (e - g).toNat + signed t n * twoTo (f - g).toNat) g

def sub (x y : Binary64) : Binary64 := add x y.negate

def mul : Binary64 → Binary64 → Binary64
  | .nan, _ | _, .nan => .nan
  | .infinite s, .finite t m _ | .finite t m _, .infinite s =>
    if m = 0 then .nan else .infinite (s != t)
  | .infinite s, .infinite t => .infinite (s != t)
  | .finite s m e, .finite t n f => ofScaled (s != t) (signed (s != t) (m * n)) (e + f)

def less : Binary64 → Binary64 → Bool
  | .nan, _ | _, .nan => false
  | .infinite s, .infinite t => s && !t
  | .infinite s, .finite .. => s
  | .finite .., .infinite t => !t
  | .finite s m e, .finite t n f =>
    let g := min e f
    signed s m * twoTo (e - g).toNat < signed t n * twoTo (f - g).toNat

def lessInt : Binary64 → Int → Bool
  | .nan, _ => false
  | .infinite s, _ => s
  | .finite s m e, n => signed s m * twoTo e.toNat < n * twoTo (-e).toNat

def truncate : Binary64 → Option Int
  | .finite s m e => some (signed s (m * twoTo e.toNat / twoTo (-e).toNat))
  | _ => none

def toInt? : Binary64 → Option Int
  | .finite s m e =>
    if m * twoTo e.toNat % twoTo (-e).toNat = 0 then
      some (signed s (m * twoTo e.toNat / twoTo (-e).toNat))
    else none
  | _ => none

def isFinite : Binary64 → Bool
  | .finite .. => true
  | _ => false

end Binary64
end SymbolHierarchy
