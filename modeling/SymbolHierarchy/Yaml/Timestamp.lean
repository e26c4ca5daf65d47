import SymbolHierarchy.Data.Moment
import SymbolHierarchy.Yaml.Flaw

/-! Written dates and times. The look of one is a matter of its digits and signs; only
then is it held against the calendar. -/
namespace SymbolHierarchy.Yaml

def withoutLastBreak (cs : List Char) : List Char :=
  if cs.getLast? = some '\n' then cs.dropLast else cs

namespace Timestamp

def upTo (least most : Nat) (cs : List Char) : Option (Nat × Nat × List Char) :=
  let ds := (cs.take most).takeWhile Char.isDigit
  if ds.length < least then none
  else some (ds.foldl (fun n d => n * 10 + (d.toNat - 48)) 0, ds.length, cs.drop ds.length)

def expect (c : Char) : List Char → Option (List Char)
  | d :: rest => if d = c then some rest else none
  | [] => none

def isGap (c : Char) : Bool := c = ' ' || c = '\t'

def distance (cs : List Char) : Option Nat := do
  let (hours, _, rest) ← upTo 1 2 cs
  match rest with
  | [] => some (hours * 60)
  | ':' :: rest =>
    let (minutes, _, rest) ← upTo 2 2 rest
    if rest.isEmpty then some (hours * 60 + minutes) else none
  | _ => none

def zone (cs : List Char) : Option (Option Int) :=
  if cs.isEmpty then some none
  else match cs.dropWhile isGap with
    | ['Z'] => some (some 0)
    | '+' :: rest => (distance rest).map fun n => some (n : Int)
    | '-' :: rest => (distance rest).map fun n => some (-(n : Int))
    | _ => none

def microsOf (ds : List Char) : Nat :=
  ((ds ++ List.replicate 6 '0').take 6).foldl (fun n d => n * 10 + (d.toNat - 48)) 0

def clockOf (cs : List Char) : Option Clock := do
  let (hour, _, cs) ← upTo 1 2 cs
  let (minute, _, cs) ← upTo 2 2 (← expect ':' cs)
  let (second, _, cs) ← upTo 2 2 (← expect ':' cs)
  let (fraction, cs) := match cs with
    | '.' :: rest => (rest.takeWhile Char.isDigit, rest.dropWhile Char.isDigit)
    | rest => ([], rest)
  some ⟨hour, minute, second, microsOf fraction, ← zone cs⟩

def ofChars (cs : List Char) : Option (Moment × Bool) := do
  let (year, _, cs) ← upTo 4 4 cs
  let (month, m, cs) ← upTo 1 2 (← expect '-' cs)
  let (day, d, cs) ← upTo 1 2 (← expect '-' cs)
  let padded := m = 2 && d = 2
  match cs with
  | [] => some (⟨year, month, day, none⟩, padded)
  | c :: rest =>
    let rest ← if c = 'T' || c = 't' then some rest
      else if isGap c then some (rest.dropWhile isGap) else none
    some (⟨year, month, day, some (← clockOf rest)⟩, padded)

def looks (cs : List Char) : Bool :=
  match ofChars cs with
  | some (m, padded) => m.clock.isSome || padded
  | none => false

def checkZone (m : Moment) : Scan Unit :=
  match m.clock.bind Clock.offset with
  | some o =>
    if o.natAbs < 24 * 60 then .ok ()
    else .error (.date ("offset must be a timedelta strictly between -timedelta(hours=24) and " ++
      "timedelta(hours=24), not " ++ Moment.spanLiteral (o * 60) ++ "."))
  | none => .ok ()

def check (m : Moment) : Scan Moment := do
  checkZone m
  if m.year = 0 then .error (.date "year 0 is out of range")
  else if m.month = 0 || m.month > 12 then .error (.date "month must be in 1..12")
  else if m.day = 0 || m.day > Moment.daysIn m.year m.month then
    .error (.date "day is out of range for month")
  else match m.clock with
    | none => .ok m
    | some c =>
      if c.hour > 23 then .error (.date "hour must be in 0..23")
      else if c.minute > 59 then .error (.date "minute must be in 0..59")
      else if c.second > 59 then .error (.date "second must be in 0..59")
      else .ok m

def read (cs : List Char) : Scan Moment :=
  match ofChars (withoutLastBreak cs) with
  | some (m, _) => check m
  | none => .error .notTimestamp

end Timestamp
end SymbolHierarchy.Yaml
