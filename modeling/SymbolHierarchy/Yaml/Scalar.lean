import SymbolHierarchy.Yaml.Flaw
import SymbolHierarchy.Yaml.Timestamp
import SymbolHierarchy.Text.Split
import SymbolHierarchy.Text.Lower
import SymbolHierarchy.Number.Numeral

/-! What the text of a scalar stands for under its tag: whole and fractional numbers,
truth values and bytes. -/
namespace SymbolHierarchy.Yaml

def sixties (parts : List Int) : Int := parts.foldl (fun n p => n * 60 + p) 0

def based (base : Nat) (cs : List Char) : Scan Int :=
  match Numeral.whole base cs with
  | some n => .ok n
  | none => .error (.digits (String.ofList cs) base)

def decimalPart (cs : List Char) : Scan Int :=
  let run := (Numeral.decimalRun (Numeral.signed (Text.trim Text.isSpace cs)).2).1
  if Numeral.digitLimit < run.length then .error (.tooManyDigits run.length) else based 10 cs

def wholeBody (cs : List Char) : Scan Int :=
  match cs with
  | [] => .error .noDigits
  | ['0'] => .ok 0
  | '0' :: 'b' :: ds => based 2 ds
  | '0' :: 'x' :: ds => based 16 ds
  | '0' :: _ => based 8 cs
  | _ => if cs.contains ':' then sixties <$> (Text.pieces ':' cs).mapM decimalPart else decimalPart cs

def wholeOf (text : String) : Scan Int :=
  match text.toList.filter (· ≠ '_') with
  | [] => .error .noDigits
  | '-' :: rest => (fun n => -n) <$> wholeBody rest
  | '+' :: rest => wholeBody rest
  | cs => wholeBody cs

def decimalOf (cs : List Char) : Scan Binary64 :=
  match Numeral.fractional cs with
  | some x => .ok x
  | none => .error (.decimal (String.ofList cs))

def sixtiesOf : List Binary64 → Int → Binary64 → Scan Binary64
  | [], _, sum => .ok sum
  | p :: rest, unit, sum =>
    let size := Binary64.ofInt unit
    if size.isFinite then sixtiesOf rest (unit * 60) (sum.add (p.mul size))
    else .error .hugeUnit

def fractionBody (cs : List Char) : Scan Binary64 :=
  if cs = ".inf".toList then .ok (.infinite false)
  else if cs = ".nan".toList then .ok .nan
  else if cs.contains ':' then do
    let parts ← (Text.pieces ':' cs).mapM decimalOf
    sixtiesOf parts.reverse 1 .zero
  else decimalOf cs

def fractionOf (text : String) : Scan Binary64 :=
  match Text.lower (text.toList.filter (· ≠ '_')) with
  | [] => .error .noDigits
  | '-' :: rest => Binary64.negate <$> fractionBody rest
  | '+' :: rest => fractionBody rest
  | cs => fractionBody cs

def truthOf (text : String) : Scan Bool :=
  let w := String.ofList (Text.lower text.toList)
  if ["yes", "true", "on"].contains w then .ok true
  else if ["no", "false", "off"].contains w then .ok false
  else .error (.word w)

/-! Bytes, six bits to a character. Other characters do not count; padding ends
the bytes once it fills up a group of four. -/

def sixBits (c : Char) : Option Nat :=
  if 'A' ≤ c ∧ c ≤ 'Z' then some (c.toNat - 65)
  else if 'a' ≤ c ∧ c ≤ 'z' then some (c.toNat - 71)
  else if c.isDigit then some (c.toNat + 4)
  else if c = '+' then some 62
  else if c = '/' then some 63
  else none

/-- The bytes of a group: `held` are the bits not yet given out, `place` its characters so far. -/
def bytesFrom : List Char → (place pads held : Nat) → Scan (List UInt8)
  | [], place, _, _ => if place = 0 then .ok [] else refuse
  | c :: rest, place, pads, held =>
    if c = '=' then
      if place ≥ 2 && place + pads + 1 ≥ 4 then .ok []
      else bytesFrom rest place (if place ≥ 2 then pads + 1 else pads) held
    else match sixBits c with
      | none => bytesFrom rest place pads held
      | some v =>
        if place = 0 then bytesFrom rest 1 0 v
        else do
          let bits := held * 64 + v
          let unit := Nat.pow 4 (3 - place)
          let more ← bytesFrom rest ((place + 1) % 4) 0 (bits % unit)
          .ok (UInt8.ofNat (bits / unit) :: more)

def bytesOf (text : String) : Scan (List UInt8) :=
  if text.toList.all fun c => c.toNat < 128 then bytesFrom text.toList 0 0 0 else refuse

end SymbolHierarchy.Yaml
