import SymbolHierarchy.Settings.Basic
import SymbolHierarchy.Data.Document

/-! Reading settings from a document. Absent entries take their defaults and
unknown ones are skipped; all that is wrong is told in the order of the entries. -/
namespace SymbolHierarchy
open Schema (Checked Step Violation)

namespace Document

def step : Document → Step
  | .scalar (.int n) =>
    if Schema.wordMin ≤ n ∧ n ≤ Schema.wordMax then .index n else .field (toString n)
  | .scalar (.bool b) => .index (if b then 1 else 0)
  | .scalar (.text s) => .field s
  | .scalar s => .field s.literal
  | .bytes bs => .field (String.ofList (Text.quotedBytes bs))
  | .time m => .field m.literal
  | .garbled points => .field (Text.ofPoints points)
  | _ => .field ""

def textField : Document → Checked String
  | .scalar s => Schema.ofViolation (Schema.text (some s))
  | .garbled _ => Schema.fault .stringUnicode
  | .bytes bs => match Text.decodeUtf8? bs with
    | some cs => .ok (String.ofList cs)
    | none => Schema.fault .stringUnicode
  | _ => Schema.fault .stringType

def optionalText : Document → Checked (Option String)
  | .scalar .null => .ok none
  | v => v.textField.map some

def countField : Document → Checked Nat
  | .scalar s => (Schema.ofViolation (Schema.intFrom 0 (some s))).map Int.toNat
  | .bytes bs => match Text.decodeUtf8? bs with
    | some cs => (Schema.ofViolation (Schema.intFrom 0 (some (.text (String.ofList cs))))).map Int.toNat
    | none => Schema.fault .intParsing
  | .garbled _ => Schema.fault .stringUnicode
  | _ => Schema.fault .intType

def itemsFrom {α : Type} (read : Document → Checked α) (i : Nat) : List Document → Checked (List α)
  | [] => .ok []
  | v :: rest =>
    match (read v).under (.index i), itemsFrom read (i + 1) rest with
    | .ok a, .ok more => .ok (a :: more)
    | a, more => .error (a.details ++ more.details)

def listField {α : Type} (read : Document → Checked α) : Document → Checked (List α)
  | .list items | .set items => itemsFrom read 0 items
  | .pair first second => itemsFrom read 0 [first, second]
  | _ => Schema.fault .listType

def keyField (k : Document) : Checked String := k.textField.under (.field "[key]")

def entriesField {α : Type} (read : Document → Checked α) :
    List (Document × Document) → Checked (List (String × α))
  | [] => .ok []
  | (k, v) :: rest =>
    match k.keyField.under k.step, (read v).under k.step, entriesField read rest with
    | .ok name, .ok a, .ok more => .ok ((name, a) :: more)
    | name, a, more => .error (name.details ++ a.details ++ more.details)

/-- A mapping with text keys; bytes may name a key that a text names too. -/
def mappingField {α : Type} (read : Document → Checked α) : Document → Checked (List (String × α))
  | .mapping entries => (entriesField read entries).map (Entries.collect (· == ·))
  | _ => Schema.fault .dictType

def field {α : Type} (entries : List (Document × Document)) (name : String) (absent : α)
    (read : Document → Checked α) : Checked α :=
  match entry name entries with
  | some v => (read v).under (.field name)
  | none => .ok absent

end Document

def Launch.check : Document → Checked Launch
  | .mapping entries =>
    let standard : Launch := {}
    let command := Document.field entries "command" standard.command Document.textField
    let arguments :=
      Document.field entries "args" standard.arguments (Document.listField Document.textField)
    let forwarded :=
      Document.field entries "forward_env" standard.forwarded
        (Document.listField Document.textField)
    match command, arguments, forwarded with
    | .ok command, .ok arguments, .ok forwarded => .ok ⟨command, arguments, forwarded⟩
    | _, _, _ => .error (command.details ++ arguments.details ++ forwarded.details)
  | _ => Schema.fault .modelType

def Methods.check : Document → Checked Methods
  | .mapping entries =>
    let standard : Methods := {}
    let call := Document.field entries "call" standard.call Document.textField
    let inheritance := Document.field entries "inheritance" standard.inheritance Document.textField
    let info := Document.field entries "info" standard.info Document.textField
    let reload := Document.field entries "reload" standard.reload Document.textField
    match call, inheritance, info, reload with
    | .ok call, .ok inheritance, .ok info, .ok reload => .ok ⟨call, inheritance, info, reload⟩
    | _, _, _, _ =>
      .error (call.details ++ inheritance.details ++ info.details ++ reload.details)
  | _ => Schema.fault .modelType

def IconTheme.check : Document → Checked IconTheme
  | .mapping entries =>
    let base := Document.field entries "base" none Document.optionalText
    let derived := Document.field entries "derived" none Document.optionalText
    match base, derived with
    | .ok base, .ok derived => .ok ⟨base, derived⟩
    | _, _ => .error (base.details ++ derived.details)
  | _ => Schema.fault .modelType

namespace Settings

def treeViews : Document → Checked Nat
  | .mapping entries =>
    Document.field entries "double_click_timeout_ms" ({} : Settings).clickWindow Document.countField
  | _ => Schema.fault .modelType

def checkEntries (entries : List (Document × Document)) : Checked Settings :=
  let standard : Settings := {}
  let launch := Document.field entries "launch" standard.launch Launch.check
  let initialization := Document.field entries "initialization_options" standard.initialization
    (Document.mappingField .ok)
  let clickWindow := Document.field entries "tree_views" standard.clickWindow treeViews
  let rules := Document.field entries "path_conversion_rules" standard.rules
    (Document.listField (Document.mappingField Document.textField))
  let methods := Document.field entries "methods" standard.methods Methods.check
  let icons := Document.field entries "icons" standard.icons IconTheme.check
  match launch, initialization, clickWindow, rules, methods, icons with
  | .ok launch, .ok initialization, .ok clickWindow, .ok rules, .ok methods, .ok icons =>
    .ok ⟨launch, initialization, clickWindow, rules, methods, icons⟩
  | _, _, _, _, _, _ =>
    .error (launch.details ++ initialization.details ++ clickWindow.details ++ rules.details ++
      methods.details ++ icons.details)

def check (d : Document) : Except Schema.Report Settings :=
  let checked := match d with
    | .mapping entries => checkEntries entries
    | _ => Schema.fault .modelType
  match checked with
  | .ok s => .ok s
  | .error ds => .error ⟨"SymtreeConfig", ds⟩

end Settings
end SymbolHierarchy
