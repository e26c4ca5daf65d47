import SymbolHierarchy.Proofs.Node.Payload
import SymbolHierarchy.Proofs.Node.Strangers

/-! What the reader of payloads takes and what it makes of them, for values of any sort and for
payloads of the declared sorts. The last level that is read is part of the answer: no count tells
of it. -/
namespace SymbolHierarchy.Node

structure Boundary (m : Model) : Prop where
  sound : ∀ v n, ofWire m v = .ok n → n.Everywhere (Bounded m)
  exact : ∀ v, Typed m 0 v → ((∃ n, ofWire m v = .ok n) ↔
    ∀ x ∈ v.vertices 0, Fits x.members ∧ x.depth < levelLimit)
  told : ∀ v n, Typed m 0 v → ofWire m v = .ok n → List.Forall₂ Tells (v.vertices 0) n.preorder
  strangers : ∀ v, ofWire m (v.trimmed m) = ofWire m v

theorem wireBoundary (m : Model) : Boundary m where
  sound _ _ read := readsBounded (wireReads read)
  exact _ typed := wireExact typed
  told _ _ typed read := readsTells typed (wireReads read)
  strangers v := wireTrimmed m v

section Chain

def link (k : Nat) (below : List Json) : List (String × Json) :=
  [("id", .int k), ("name", .text "f"), ("numChildren", .int below.length),
    ("children", .list below)]

def chain : Nat → Json
  | 0 => .object (link 0 [])
  | k + 1 => .object (link (k + 1) [chain k])

variable {k : Nat} {below : List Json}

theorem chainObject (k : Nat) : ∃ members, chain k = .object members := by
  cases k <;> exact ⟨_, rfl⟩

theorem linkCarried : Carried (link k below) below := .inr rfl

theorem linkDeclared (objects : ∀ v ∈ below, ∃ inner, v = .object inner) :
    Declared .call (link k below) where
  id := ⟨some (.int k), rfl⟩
  name := ⟨"f", rfl⟩
  kind v there := by cases there
  location v there := by cases there
  count := ⟨below.length, rfl⟩
  children := ⟨below, linkCarried, objects⟩
  callType _ v there := by cases there
  client key client := by
    simp only [Model.clientNames, List.mem_cons, List.not_mem_nil, or_false] at client
    rcases client with rfl | rfl <;> rfl

theorem linkFits : Fits (link k below) :=
  ⟨below.length, below, rfl, linkCarried, by omega, .inr rfl⟩

theorem chainVertices {depth : Nat} {x : Vertex} (mem : x ∈ (chain k).vertices depth) :
    Declared .call x.members ∧ Fits x.members := by
  induction k generalizing depth with
  | zero =>
    rcases (vertexCases linkCarried).mp mem with rfl | ⟨v, item, _⟩
    · exact ⟨linkDeclared (by simp), linkFits⟩
    · simp at item
  | succ k ih =>
    rcases (vertexCases linkCarried).mp mem with rfl | ⟨v, item, inside⟩
    · exact ⟨linkDeclared (by simpa using chainObject k), linkFits⟩
    · obtain rfl := List.mem_singleton.mp item
      exact ih inside

theorem chainTyped (k depth : Nat) : Typed .call depth (chain k) where
  object := chainObject k
  declared _ mem := (chainVertices mem).1

theorem chainDeepest (k depth : Nat) : ∃ x ∈ (chain k).vertices depth, x.depth = depth + k := by
  induction k generalizing depth with
  | zero => exact ⟨⟨depth, link 0 []⟩, (vertexCases linkCarried).mpr (.inl rfl), rfl⟩
  | succ k ih =>
    obtain ⟨x, mem, low⟩ := ih (depth + 1)
    exact ⟨x, (vertexCases linkCarried).mpr (.inr ⟨chain k, by simp, mem⟩), by omega⟩

/- One vertex beneath the last level that is read: all counts fit, and the payload is refused. -/
theorem deepRefused : Typed .call 0 (chain 255) ∧
    (∀ x ∈ (chain 255).vertices 0, Fits x.members) ∧ ¬ ∃ n, ofWire .call (chain 255) = .ok n := by
  refine ⟨chainTyped 255 0, fun x mem => (chainVertices mem).2, fun taken => ?_⟩
  obtain ⟨x, mem, low⟩ := chainDeepest 255 0
  have limit : x.depth < 255 := ((wireExact (chainTyped 255 0)).mp taken x mem).2
  omega

end Chain

end SymbolHierarchy.Node
