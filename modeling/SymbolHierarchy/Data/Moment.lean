/-! Dates and points in time. A clock may tell how far it is ahead of the universal
one; two points whose clocks tell so are the same where they name one instant. -/
namespace SymbolHierarchy

structure Clock where
  hour : Nat
  minute : Nat
  second : Nat
  micro : Nat
  offset : Option Int
  deriving DecidableEq, Repr

structure Moment where
  year : Nat
  month : Nat
  day : Nat
  clock : Option Clock
  deriving DecidableEq, Repr

namespace Moment

def isLeap (year : Nat) : Bool := year % 4 = 0 && (year % 100 != 0 || year % 400 = 0)

def daysIn (year month : Nat) : Nat :=
  if month = 2 then if isLeap year then 29 else 28
  else if [4, 6, 9, 11].contains month then 30 else 31

def dayNumber (m : Moment) : Nat :=
  let years := m.year - 1
  let before := years * 365 + years / 4 - years / 100 + years / 400
  (List.range (m.month - 1)).foldl (fun n k => n + daysIn m.year (k + 1)) before + (m.day - 1)

def instant (m : Moment) (c : Clock) (offset : Int) : Int :=
  let minutes : Int := (m.dayNumber * 24 + c.hour) * 60 + c.minute - offset
  (minutes * 60 + c.second) * 1000000 + c.micro

def same (a b : Moment) : Bool :=
  match a.clock, b.clock with
  | some c, some d =>
    match c.offset, d.offset with
    | some x, some y => a.instant c x = b.instant d y
    | none, none => a = b
    | _, _ => false
  | none, none => a = b
  | _, _ => false

def spanLiteral (seconds : Int) : String :=
  let days := Int.fdiv seconds 86400
  let rest := Int.fmod seconds 86400
  let parts := (if days = 0 then [] else ["days=" ++ toString days]) ++
    (if rest = 0 then [] else ["seconds=" ++ toString rest])
  "datetime.timedelta(" ++ (if parts.isEmpty then "0" else ", ".intercalate parts) ++ ")"

def zoneLiteral (offset : Int) : String :=
  if offset = 0 then "datetime.timezone.utc"
  else "datetime.timezone(" ++ spanLiteral (offset * 60) ++ ")"

def clockParts (c : Clock) : List String :=
  [toString c.hour, toString c.minute] ++
    (if c.second = 0 ∧ c.micro = 0 then [] else [toString c.second]) ++
    (if c.micro = 0 then [] else [toString c.micro]) ++
    (match c.offset with
      | some o => ["tzinfo=" ++ zoneLiteral o]
      | none => [])

def literal (m : Moment) : String :=
  let date := [toString m.year, toString m.month, toString m.day]
  match m.clock with
  | none => "datetime.date(" ++ ", ".intercalate date ++ ")"
  | some c => "datetime.datetime(" ++ ", ".intercalate (date ++ clockParts c) ++ ")"

end Moment
end SymbolHierarchy
