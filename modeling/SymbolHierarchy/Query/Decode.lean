import SymbolHierarchy.Query.Basic

/-! Reading a query from its fields. Every field may be absent; each is read
leniently, and all that is wrong is told in field order. -/
namespace SymbolHierarchy
open Schema (Checked)

def objectField (v : Json) : Checked (Option Json) :=
  match v with
  | .scalar .null => .ok none
  | .object m => .ok (some (.object m))
  | _ => Schema.fault .dictType

def CallQuery.ofFields (members : List (String × Json)) : Except Schema.Report CallQuery :=
  let field {α : Type} (wire plain : String) (absent : α) (read : Json → Checked α) : Checked α :=
    Node.field members wire plain (.ok absent) read
  let document := field "textDocument" "text_document" none objectField
  let position := field "position" "position" none objectField
  let id := field "id" "id" none Node.idField
  let callee := field "callee" "callee" false (Node.scalarField Schema.truth)
  let callType := field "callType" "call_type" .all Node.callTypeField
  let qualified := field "qualified" "qualified" false (Node.scalarField Schema.truth)
  let levels := field "levels" "levels" 1 (Node.scalarField Schema.int)
  let hierarchy := field "hierarchy" "hierarchy" true (Node.scalarField Schema.truth)
  match document, position, id, callee, callType, qualified, levels, hierarchy with
  | .ok document, .ok position, .ok id, .ok callee, .ok callType, .ok qualified, .ok levels,
      .ok hierarchy =>
    .ok ⟨document, position, id, callee, callType, qualified, levels, hierarchy⟩
  | _, _, _, _, _, _, _, _ =>
    .error ⟨"CallRequest", document.details ++ position.details ++ id.details ++ callee.details ++
      callType.details ++ qualified.details ++ levels.details ++ hierarchy.details⟩

def InheritanceQuery.ofFields (members : List (String × Json)) :
    Except Schema.Report InheritanceQuery :=
  let field {α : Type} (wire plain : String) (absent : α) (read : Json → Checked α) : Checked α :=
    Node.field members wire plain (.ok absent) read
  let document := field "textDocument" "text_document" none objectField
  let position := field "position" "position" none objectField
  let id := field "id" "id" none Node.idField
  let kind := field "kind" "kind" none (Node.scalarField (Schema.optional Schema.int))
  let derived := field "derived" "derived" true (Node.scalarField Schema.truth)
  let qualified := field "qualified" "qualified" false (Node.scalarField Schema.truth)
  let levels := field "levels" "levels" 1 (Node.scalarField Schema.int)
  let hierarchy := field "hierarchy" "hierarchy" true (Node.scalarField Schema.truth)
  match document, position, id, kind, derived, qualified, levels, hierarchy with
  | .ok document, .ok position, .ok id, .ok kind, .ok derived, .ok qualified, .ok levels,
      .ok hierarchy =>
    .ok ⟨document, position, id, kind, derived, qualified, levels, hierarchy⟩
  | _, _, _, _, _, _, _, _ =>
    .error ⟨"InheritanceRequest", document.details ++ position.details ++ id.details ++
      kind.details ++ derived.details ++ qualified.details ++ levels.details ++ hierarchy.details⟩

end SymbolHierarchy
