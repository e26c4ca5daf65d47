import SymbolHierarchy.Proofs.Node.Reads

/-! All or nothing: a node holds no child or as many as it reports. What is read from a
payload is whole at every depth, and tagging and grouping keep it so. -/
namespace SymbolHierarchy.Node

def Whole (n : Node) : Prop :=
  0 ≤ n.numChildren ∧ (n.children.length = 0 ∨ (n.children.length : Int) = n.numChildren)

theorem countReads {members n}
    (ok : field members "numChildren" "num_children" (Schema.fault .missing)
      (scalarField (Schema.intFrom 0)) = .ok n) : 0 ≤ n := by
  rcases fieldOk.mp ok with ⟨v, _, read⟩ | ⟨_, absent⟩
  · cases number : Schema.int v.scalar? with
    | error e => simp [scalarField, Schema.intFrom, number, bind, Except.bind, Schema.ofViolation,
        Schema.fault] at read
    | ok k =>
      simp only [scalarField, Schema.intFrom, number, bind, Except.bind] at read
      split at read
      · simp [Schema.ofViolation, Schema.fault] at read
      · rename_i low
        have same : k = n := by simpa [Schema.ofViolation] using read
        omega
  · simp [Schema.fault] at absent

theorem assembledWhole {m members n} (own : Assembled m members n) : n.Whole := by
  refine ⟨countReads own.count, ?_⟩
  rcases own.whole with none | all
  · exact .inl (by simp [none])
  · exact .inr all

theorem readsWhole {m levels v n} (reads : Reads m levels v n) : n.Everywhere Whole :=
  readsEverywhere (fun _ _ own => assembledWhole own) reads

theorem copyWhole {n : Node} (d : Bool) (whole : n.Everywhere Whole) :
    (n.withDirection d).Everywhere Whole :=
  copyEverywhere (fun x own => by simpa [Whole] using own) whole

theorem groupWhole {ns : List Node} (whole : ∀ n ∈ ns, n.Everywhere Whole) :
    (baseGroup ns).Everywhere Whole := by
  refine groupEverywhere ⟨?_, .inr ?_⟩ fun n mem => copyWhole false (whole n mem)
  · simp
  · simp

theorem mergeWhole {entry base n : Node} (whole : entry.Everywhere Whole)
    (other : base.Everywhere Whole) (ok : entry.merge base = .ok n) : n.Everywhere Whole := by
  by_cases leaf : base.numChildren = 0
  · exact mergeLeaf leaf ok ▸ whole
  · obtain ⟨full, rfl⟩ := mergeGroup leaf ok
    have held := groupWhole fun b mem => other.child mem
    have low := whole.self.1
    have count : (entry.children.length : Int) = entry.numChildren := by
      simpa [isMaterialized] using full
    refine withGroupEverywhere ⟨?_, .inr ?_⟩ held whole
    · rw [withGroupCount]
      omega
    · rw [withGroupChildren, withGroupCount, List.length_cons]
      omega

end SymbolHierarchy.Node
