import SymbolHierarchy.Text.Split
import SymbolHierarchy.Uri.Percent

/-! Network addresses in writing. A short one is four decimal octets; a long one is
eight groups of hexadecimal digits, of which one run of zeros may be left out and
the last two may be a short address. A long address may name a scope. -/
namespace SymbolHierarchy.Uri

def decimalValue (p : List Char) : Nat := p.foldl (fun n c => n * 10 + (c.toNat - 48)) 0

def isOctet (p : List Char) : Bool :=
  !p.isEmpty && p.all Char.isDigit && p.length ≤ 3 && (p = ['0'] || p.head? != some '0') &&
    decimalValue p ≤ 255

def isShortAddress (cs : List Char) : Bool :=
  let octets := Text.pieces '.' cs
  octets.length = 4 && octets.all isOctet

def isGroup (p : List Char) : Bool :=
  !p.isEmpty && p.length ≤ 4 && p.all fun c => (hexValue c).isSome

def sideCount (side : List (List Char)) : Option Nat :=
  if side = [[]] then some 0
  else if side.all isGroup then some side.length
  else none

def aroundGap (front : List (List Char)) :
    List (List Char) → Option (List (List Char) × List (List Char))
  | p :: q :: rest =>
    if p.isEmpty && !front.isEmpty then some (front.reverse, q :: rest)
    else aroundGap (p :: front) (q :: rest)
  | _ => none

def withoutOctets (ps : List (List Char)) : Option (List (List Char)) :=
  match ps.getLast? with
  | some p =>
    if p.contains '.' then
      if isShortAddress p then some (ps.dropLast ++ [['0'], ['0']]) else none
    else some ps
  | none => none

def isGroups (ps : List (List Char)) : Bool :=
  match aroundGap [] ps with
  | some (front, back) =>
    match sideCount front, sideCount back with
    | some a, some b => a + b ≤ 7
    | _, _ => false
  | none => ps.length = 8 && ps.all isGroup

def isScope : List Char → Bool
  | [] => true
  | _ :: scope => !scope.isEmpty && !scope.contains '%'

def isLongAddress (cs : List Char) : Bool :=
  isScope (cs.dropWhile (· ≠ '%')) &&
    ((withoutOctets (Text.pieces ':' (cs.takeWhile (· ≠ '%')))).any isGroups)

def isFutureAddress : List Char → Bool
  | 'v' :: rest =>
    !(rest.takeWhile fun c => (hexValue c).isSome).isEmpty &&
      match rest.dropWhile fun c => (hexValue c).isSome with
      | '.' :: _ :: _ => true
      | _ => false
  | _ => false

end SymbolHierarchy.Uri
