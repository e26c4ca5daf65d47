import SymbolHierarchy.Node.Decode
import SymbolHierarchy.Yaml.Flaw

/-! Everything that can go wrong, by cause. A hierarchy fault belongs to a
request, a payload or the settings and is contained where hierarchies are
opened; what is raised by surrounding code passes through. -/
namespace SymbolHierarchy

inductive Raised
  | runtime (text : String)
  | lookup (text : String)
  | coordinate (field value : String)
  | misplacedBracket
  | notAddress (host : String)
  | shortAddress
  | futureAddress
  | compatibleHost (host : String)
  | unknownKind (text : String)
  | failedUnwrap (text : String)
  | noHome
  | missingKey (key : String)
  | invalid (report : Schema.Report)
  | badArgument (text : String)
  | noSuchFile (path : String)
  | isDirectory (path : String)
  | notDirectory (path : String)
  | nameTooLong (path : String)
  | nulByte
  | unmatchedTag (tag : String) (position : Nat)
  | undecodable
  | content (flaw : Yaml.Flaw)
  | notDouble
  /-- A value that holds itself was followed to its end. -/
  | endless
  | noSuchMember
  | wrongSort
  deriving DecidableEq, Repr

inductive SettingsFault
  | unreadable (path detail : String)
  | notMapping (path : String)
  | invalid (path : String) (report : Schema.Report)
  | other (text : String)
  deriving DecidableEq, Repr

inductive Fault
  | hierarchy (text : String)
  | backend (method : String) (cause : Option Raised)
  | notStarted (method : String)
  | malformed (reason : Node.Malformed)
  | settings (reason : SettingsFault)
  | raised (cause : Raised)
  deriving DecidableEq, Repr

def Fault.isHierarchy : Fault → Bool
  | .raised _ => false
  | _ => true

def Yaml.Flaw.message : Yaml.Flaw → String
  | .malformed => "the text is malformed"
  | .codePoint => "chr() arg not in range(0x110000)"
  | .hugeEscape => "Python int too large to convert to C int"
  | .noDigits => "string index out of range"
  | .digits text base =>
    "invalid literal for int() with base " ++ toString base ++ ": " ++
      String.ofList ((Text.quoted text.toList).take 200)
  | .decimal text => "could not convert string to float: " ++ quote text
  | .word text => quote text
  | .date reason => reason
  | .notTimestamp => "the text is no timestamp"
  | .tooManyDigits count =>
    "Exceeds the limit (4300 digits) for integer string conversion: value has " ++ toString count ++
      " digits; use sys.set_int_max_str_digits() to increase the limit"
  | .hugeUnit => "int too large to convert to float"
  | .notText => "the value is no text"
  | .endless => "maximum recursion depth exceeded"

def Raised.message : Raised → String
  | .runtime text => text
  | .lookup text => text
  | .coordinate field value =>
    field ++ " should be in range [0:2147483647], but was " ++ value ++ "."
  | .misplacedBracket => "Invalid IPv6 URL"
  | .notAddress host => quote host ++ " does not appear to be an IPv4 or IPv6 address"
  | .shortAddress => "An IPv4 address cannot be in brackets"
  | .futureAddress => "IPvFuture address is invalid"
  | .compatibleHost host =>
    "netloc '" ++ host ++ "' contains invalid characters under NFKC normalization"
  | .unknownKind text => quote text ++ " is not a valid HierarchyKind"
  | .failedUnwrap text => "Called unwrap on Err: " ++ text
  | .noHome => "Could not determine home directory."
  | .missingKey key => quote key
  | .invalid report => report.headline
  | .badArgument text => text
  | .noSuchFile path => "[Errno 2] No such file or directory: " ++ quote path
  | .isDirectory path => "[Errno 21] Is a directory: " ++ quote path
  | .notDirectory path => "[Errno 20] Not a directory: " ++ quote path
  | .nameTooLong path => "[Errno 36] File name too long: " ++ quote path
  | .nulByte => "embedded null byte"
  | .unmatchedTag tag position =>
    "closing tag '" ++ tag ++ "' at position " ++ toString position ++
      (if tag = "[/]" then " has nothing to close" else " doesn't match any open tag")
  | .undecodable => "the bytes are not UTF-8"
  | .content flaw => flaw.message
  | .notDouble => "int too large to convert to float"
  | .endless => "maximum recursion depth exceeded"
  | .noSuchMember => "the value has no members"
  | .wrongSort => "the value is of the wrong sort"

def Node.Malformed.message : Node.Malformed → String
  | .notObject sort => "expected an object, got " ++ sort
  | .schema report => report.headline
  | .unmaterialized name count =>
    "derived view of " ++ quote name ++ " reports " ++ toString count ++
      " children but none were materialized"
  | .other text => text

def SettingsFault.message : SettingsFault → String
  | .unreadable path detail => "Cannot read " ++ path ++ ": " ++ detail
  | .notMapping path => path ++ " must contain a mapping at the top level"
  | .invalid path report => "Invalid configuration in " ++ path ++ ": " ++ report.headline
  | .other text => text

def Fault.message : Fault → String
  | .hierarchy text => text
  | .backend method none => "Request '" ++ method ++ "' failed"
  | .backend method (some cause) => "Request '" ++ method ++ "' failed: " ++ cause.message
  | .notStarted method => "Backend not started; cannot send '" ++ method ++ "'"
  | .malformed reason => reason.message
  | .settings reason => reason.message
  | .raised cause => cause.message

end SymbolHierarchy
