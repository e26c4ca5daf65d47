import SymbolHierarchy.Fault
import SymbolHierarchy.Path.Basic
import SymbolHierarchy.Uri.Address
import SymbolHierarchy.Uri.Percent

/-! The path of a URI and the name it ends in. Controls and spaces in front are
dropped first, then tabs and line ends; a scheme, an authority, a fragment and a
query are cut off in this order, and parameters of the last segment where the
scheme has them. -/
namespace SymbolHierarchy.Uri

def isSchemeChar (c : Char) : Bool :=
  c.isAlphanum || c = '+' || c = '-' || c = '.'

def parameterSchemes : List String :=
  ["", "ftp", "hdl", "prospero", "http", "imap", "https", "shttp", "rtsp", "rtsps", "rtspu",
    "sip", "sips", "mms", "sftp", "tel"]

def splitScheme (cs : List Char) : String × List Char :=
  let front := cs.takeWhile (· ≠ ':')
  match cs.dropWhile (· ≠ ':'), front with
  | ':' :: rest, c :: _ =>
    if c.isAlpha && front.all isSchemeChar then ((String.ofList front).toLower, rest)
    else ("", cs)
  | _, _ => ("", cs)

def endsAuthority (c : Char) : Bool := c = '/' || c = '?' || c = '#'

def delimiterLike : List Nat :=
  [0x2047, 0x2048, 0x2049, 0x2100, 0x2101, 0x2105, 0x2106, 0x2A74, 0xFE13, 0xFE16, 0xFE55,
    0xFE56, 0xFE5F, 0xFE6B, 0xFF03, 0xFF0F, 0xFF1A, 0xFF1F, 0xFF20]

def checkBracketed (host : List Char) : Except Raised Unit :=
  if host.head? = some 'v' then
    if isFutureAddress host then .ok () else .error .futureAddress
  else if isShortAddress host then .error .shortAddress
  else if isLongAddress host then .ok ()
  else .error (.notAddress (String.ofList host))

def withoutUser (authority : List Char) : List Char :=
  (authority.reverse.takeWhile (· ≠ '@')).reverse

def checkAuthority (authority : List Char) : Except Raised Unit :=
  if authority.contains '[' != authority.contains ']' then .error .misplacedBracket
  else if !authority.contains '[' then .ok ()
  else
    let place := withoutUser authority
    match place with
    | '[' :: inner =>
      match inner.dropWhile (· ≠ ']') with
      | [] | [_] | _ :: ':' :: _ => checkBracketed (inner.takeWhile (· ≠ ']'))
      | _ => .error .misplacedBracket
    | _ =>
      if place.contains '[' then .error .misplacedBracket
      else checkBracketed (place.takeWhile (· ≠ ':'))

def splitAuthority (cs : List Char) : Except Raised (List Char × List Char) :=
  match cs with
  | '/' :: '/' :: rest => do
    let authority := rest.takeWhile (!endsAuthority ·)
    checkAuthority authority
    .ok (authority, rest.dropWhile (!endsAuthority ·))
  | _ => .ok ([], cs)

def withoutParameters : List Char → List Char
  | cs =>
    let last := (cs.reverse.takeWhile (· ≠ '/')).reverse
    cs.take (cs.length - last.length) ++ last.takeWhile (· ≠ ';')

def isLeading (c : Char) : Bool := c.toNat ≤ 0x20

def isDropped (c : Char) : Bool := c = '\t' || c = '\r' || c = '\n'

def pathChars (uri : String) : Except Raised (List Char) := do
  let (scheme, rest) := splitScheme ((uri.toList.dropWhile isLeading).filter (!isDropped ·))
  let (host, rest) ← splitAuthority rest
  let path := (rest.takeWhile (· ≠ '#')).takeWhile (· ≠ '?')
  if host.any fun c => delimiterLike.contains c.toNat then
    .error (.compatibleHost (String.ofList host))
  .ok (if parameterSchemes.contains scheme then withoutParameters path else path)

def basename (uri : String) : Except Raised String := do
  let path ← pathChars uri
  .ok (String.ofList (Path.ofChars (percentDecode path)).name)

end SymbolHierarchy.Uri
