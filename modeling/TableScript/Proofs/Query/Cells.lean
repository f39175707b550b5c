import TableScript.Proofs.Value.Law
import TableScript.Query.Basic

set_option autoImplicit false

namespace TableScript

namespace Query

theorem names_cells (columns : List String) (row : List Scalar) : (cells columns row).map Prod.fst = columns := by
  induction columns generalizing row with
  | nil => rfl
  | cons column rest ih => cases row <;> exact congrArg (column :: ·) (ih _)

/-- The cell of a column is the one at its place, and null where the row is too short. -/
theorem cells_split (front : List String) (name : String) (back : List String) (row : List Scalar) :
    ∃ before, cells (front ++ name :: back) row =
      before ++ (name, (row[front.length]?.map Scalar.toValue).getD .null) ::
        cells back (row.drop (front.length + 1)) := by
  induction front generalizing row with
  | nil => cases row <;> exact ⟨[], rfl⟩
  | cons column rest ih =>
    cases row with
    | nil =>
      obtain ⟨before, same⟩ := ih []
      refine ⟨(column, .null) :: before, ?_⟩
      change (column, .null) :: cells (rest ++ name :: back) [] = _
      rw [same, List.drop_nil, List.drop_nil]
      rfl
    | cons cell others =>
      obtain ⟨before, same⟩ := ih others
      exact ⟨(column, cell.toValue) :: before, congrArg ((column, cell.toValue) :: ·) same⟩

theorem get?_row_of_last {front back : List String} {name : String} (last : name ∉ back) (cellsOfRow : List Scalar) :
    (row (front ++ name :: back) cellsOfRow).get? name =
      some ((cellsOfRow[front.length]?.map Scalar.toValue).getD .null) := by
  obtain ⟨before, same⟩ := cells_split front name back cellsOfRow
  rw [row, same]
  exact Dictionary.get?_ofList_of_last before _ ((names_cells back _).symm ▸ last)

theorem get?_row_of_absent {columns : List String} {name : String} (absent : name ∉ columns)
    (cellsOfRow : List Scalar) : (row columns cellsOfRow).get? name = none :=
  Dictionary.get?_ofList_of_absent ((names_cells columns cellsOfRow).symm ▸ absent)

/-- The cells of a row are scalars. -/
theorem row_scalar (columns : List String) (cellsOfRow : List Scalar) :
    (row columns cellsOfRow).All Value.Scalar := by
  have each : ∀ pair ∈ cells columns cellsOfRow, pair.2.Scalar := by
    induction columns generalizing cellsOfRow with
    | nil => exact fun pair none => nomatch none
    | cons column rest ih =>
      cases cellsOfRow with
      | nil => exact List.forall_mem_cons.mpr ⟨.null, ih []⟩
      | cons cell others =>
        have first : cell.toValue.Scalar := by cases cell <;> simp [Scalar.toValue]
        exact List.forall_mem_cons.mpr ⟨first, ih others⟩
  exact Dictionary.All.ofList each

end Query

end TableScript
