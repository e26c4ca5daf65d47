/-! What a value can get wrong against a schema, and where. A report names the
outermost model and lists every violation in field order. -/
namespace SymbolHierarchy.Schema

inductive Step
  | field (name : String)
  | index (n : Int)
  deriving DecidableEq, Repr

inductive Violation
  | missing
  | intType
  | intParsing
  | intParsingSize
  | intFromFloat
  | finiteNumber
  | tooSmall
  | stringType
  | stringUnicode
  | boolType
  | boolParsing
  | listType
  | dictType
  | modelType
  | enumMember
  | tooDeep
  | rule (reason : String)
  deriving DecidableEq, Repr

def Violation.code : Violation → String
  | .missing => "missing"
  | .intType => "int_type"
  | .intParsing => "int_parsing"
  | .intParsingSize => "int_parsing_size"
  | .intFromFloat => "int_from_float"
  | .finiteNumber => "finite_number"
  | .tooSmall => "greater_than_equal"
  | .stringType => "string_type"
  | .stringUnicode => "string_unicode"
  | .boolType => "bool_type"
  | .boolParsing => "bool_parsing"
  | .listType => "list_type"
  | .dictType => "dict_type"
  | .modelType => "model_type"
  | .enumMember => "enum"
  | .tooDeep => "recursion_depth_exceeded"
  | .rule _ => "value_error"

structure Detail where
  place : List Step
  violation : Violation
  deriving DecidableEq, Repr

def Detail.under (s : Step) (d : Detail) : Detail := { d with place := s :: d.place }

structure Report where
  model : String
  details : List Detail
  deriving DecidableEq, Repr

/-- The first line of what is told of a report; a line on each detail would follow it. -/
def Report.headline (r : Report) : String :=
  let n := r.details.length
  toString n ++ " validation error" ++ (if n = 1 then "" else "s") ++ " for " ++ r.model

abbrev Checked (α : Type) := Except (List Detail) α

def fault {α : Type} (v : Violation) : Checked α := .error [⟨[], v⟩]

def Checked.under {α : Type} (s : Step) : Checked α → Checked α
  | .ok a => .ok a
  | .error ds => .error (ds.map (Detail.under s))

def Checked.details {α : Type} : Checked α → List Detail
  | .ok _ => []
  | .error ds => ds

def ofViolation {α : Type} : Except Violation α → Checked α
  | .ok a => .ok a
  | .error v => fault v

end SymbolHierarchy.Schema
