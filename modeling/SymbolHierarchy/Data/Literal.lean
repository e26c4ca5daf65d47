import SymbolHierarchy.Data.Json
import SymbolHierarchy.Number.Shortest
import SymbolHierarchy.Text.Quoted

/-! The literal text of a value: words with a capital letter for null and the
truth values, quoted text, brackets and braces. A text standing alone is its own
plain text. -/
namespace SymbolHierarchy

def Scalar.literal : Scalar → String
  | .null => "None"
  | .bool b => if b then "True" else "False"
  | .int n => toString n
  | .float x => x.text
  | .text s => quote s

namespace Json

def commas : List (List Char) → List Char
  | [] => []
  | [x] => x
  | x :: y :: rest => x ++ ',' :: ' ' :: commas (y :: rest)

mutual
def literalText : Json → List Char
  | .scalar s => s.literal.toList
  | .list items => '[' :: commas (literalTexts items) ++ [']']
  | .object members => '{' :: commas (memberTexts members) ++ ['}']
def literalTexts : List Json → List (List Char)
  | [] => []
  | v :: rest => literalText v :: literalTexts rest
def memberTexts : List (String × Json) → List (List Char)
  | [] => []
  | (k, v) :: rest => (Text.quoted k.toList ++ ':' :: ' ' :: literalText v) :: memberTexts rest
end

def plainText : Json → String
  | .scalar (.text s) => s
  | v => String.ofList (literalText v)

def sortName : Json → String
  | .scalar .null => "NoneType"
  | .scalar (.bool _) => "bool"
  | .scalar (.int _) => "int"
  | .scalar (.float _) => "float"
  | .scalar (.text _) => "str"
  | .list _ => "list"
  | .object _ => "dict"

end Json
end SymbolHierarchy
