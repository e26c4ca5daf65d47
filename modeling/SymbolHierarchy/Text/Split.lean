/-! Cutting a text at a separator. There is always one piece more than there are
separators. -/
namespace SymbolHierarchy.Text

def pieces (sep : Char) : List Char → List (List Char)
  | [] => [[]]
  | c :: rest =>
    if c = sep then [] :: pieces sep rest
    else match pieces sep rest with
      | p :: ps => (c :: p) :: ps
      | [] => [[c]]

theorem piecesNonempty (sep : Char) (cs : List Char) : pieces sep cs ≠ [] := by
  cases cs with
  | nil => simp [pieces]
  | cons c rest =>
    unfold pieces
    split
    · simp
    · split <;> simp

theorem piecesCount (sep : Char) (cs : List Char) :
    (pieces sep cs).length = cs.count sep + 1 := by
  induction cs with
  | nil => rfl
  | cons c rest ih =>
    by_cases h : c = sep
    · simp [pieces, h, ih]
    · cases hp : pieces sep rest with
      | nil => exact absurd hp (piecesNonempty sep rest)
      | cons p ps => simpa [pieces, h, hp, List.count_cons] using ih

end SymbolHierarchy.Text
