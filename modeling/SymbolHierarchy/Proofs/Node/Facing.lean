import SymbolHierarchy.Proofs.Node.Reads

/-! Trees that expand in one direction throughout, and what makes them so. A reply may say
anything of its nodes' directions; a copy is tagged alike at every depth. -/
namespace SymbolHierarchy

namespace Node

def Directed (n : Node) : Prop := ∃ d, n.facet = .inheritance d

def Faces (d : Bool) (n : Node) : Prop := n.Everywhere fun x => x.facet = .inheritance d

theorem assembledDirected {members n} (own : Assembled .inheritance members n) :
    n.Directed := by
  have facet := own.facet
  simp only [facetField] at facet
  cases said : field members "wants_derived" "wants_derived" (.ok true)
      (scalarField Schema.truth) with
  | ok d =>
    rw [said] at facet
    exact ⟨d, (Except.ok.inj facet).symm⟩
  | error ds =>
    rw [said] at facet
    simp [Except.map] at facet

theorem readsDirected {levels v n} (reads : Reads .inheritance levels v n) :
    n.Everywhere Directed :=
  readsEverywhere (fun _ _ own => assembledDirected own) reads

theorem copyFaces {n : Node} (directed : n.Everywhere Directed) (d : Bool) :
    (n.withDirection d).Faces d := by
  refine copyEverywhere ?_ directed
  rintro x ⟨said, facet⟩
  simp [facet, Facet.tagged]

theorem facesDirected {d : Bool} {n : Node} (faces : n.Faces d) : n.Everywhere Directed :=
  fun x mem => ⟨d, faces x mem⟩

theorem groupFaces {ns : List Node} (directed : ∀ n ∈ ns, n.Everywhere Directed) :
    (baseGroup ns).Faces false :=
  groupEverywhere rfl fun n mem => copyFaces (directed n mem) false

end Node

end SymbolHierarchy
