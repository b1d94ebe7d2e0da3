import Mathlib
import SqlInsert.Proofs.Escaping
import SqlInsert.Console.Report
/-!
# Blocks that break on a tag

A report ends early because of a tag only if one of its blocks does. What tells the rows never does: the lines
about rows in the compact report read no tags, and the table about the rows reads its heads and its cells behind
an escape.
-/

namespace SqlInsert.Console

/-- A block that cannot be shown because of a tag in it. -/
def BreaksOnTag (block : Block) : Prop :=
  ∃ error, block = .error (.markup error)

/-- A block that came to its lines broke on no tag. -/
theorem not_breaksOnTag_ok (lines : List (List Char)) : ¬BreaksOnTag (.ok lines) := by
  rintro ⟨error, h⟩
  cases h

/-- The layout of parts that were found breaks on no tag. -/
theorem not_breaksOnTag_map {α : Type} {parts : Except ReportError α} (layout : α → List (List Char)) {found : α}
    (h : parts = .ok found) : ¬BreaksOnTag (parts.map layout) := by
  rw [h]
  exact not_breaksOnTag_ok _

/-- A text that is shown breaks on no tag in a block, whether there is room for it or not. -/
theorem not_breaksOnTag_shownIn (cells : Nat) (layout : List Char → List (List Char)) {text : String}
    {chars : List Char} (h : shown text = .ok chars) : ¬BreaksOnTag ((shownIn cells text).map layout) := by
  unfold shownIn
  split_ifs
  · exact not_breaksOnTag_ok _
  · exact not_breaksOnTag_map layout h

/-- A report ends early because of a tag only if one of its blocks does. -/
theorem print_failure_ne_markup (columns : Nat) {blocks : List Block} (h : ∀ block ∈ blocks, ¬BreaksOnTag block)
    (error : MarkupError) : (print columns blocks).failure ≠ some (.markup error) := by
  induction blocks with
  | nil => exact Option.some_ne_none _ ∘ Eq.symm
  | cons block rest ih =>
    obtain ⟨hblock, hrest⟩ := List.forall_mem_cons.mp h
    cases block with
    | ok lines => exact ih hrest
    | error failure =>
      intro hfailure
      exact hblock ⟨error, congrArg _ (Option.some.inj hfailure)⟩

/-! ## Rows -/

/-- The number of values in the longest row. -/
def rowWidth (result : Recognition) : Nat :=
  (result.rows.map (·.length)).foldl max 0

/-- A row is displayed or too long a number is in it; tags do not matter. -/
theorem displayRow_ne_markup (row : Row) (error : MarkupError) : displayRow row ≠ .error (.markup error) := by
  intro h
  obtain ⟨_, _, hwriting⟩ := mapError_eq_error_iff.mp h
  cases hwriting

/-- A row of the compact report is told without markup, so it breaks on no tag. -/
theorem not_breaksOnTag_compactRow (columns : Nat) (row : Row) : ¬BreaksOnTag (compactRow columns row) := by
  rintro ⟨error, h⟩
  rcases bind_eq_error_iff.mp h with hvalues | ⟨values, _, hline⟩
  · exact displayRow_ne_markup row error hvalues
  · cases hline

/-- The table about the rows breaks on no tag, since its heads and its cells are escaped. -/
theorem not_breaksOnTag_rowsTable (columns : Nat) (result : Recognition) : ¬BreaksOnTag (rowsTable columns result) := by
  rintro ⟨error, h⟩
  rcases bind_eq_error_iff.mp h with hrows | ⟨values, _, htable⟩
  · obtain ⟨row, _, hrow⟩ := mapM_eq_error_iff.mp hrows
    exact displayRow_ne_markup row error hrow
  · rcases bind_eq_error_iff.mp htable with hcolumns | ⟨cells, _, hlines⟩
    · obtain ⟨head, _, hcolumn⟩ := mapM_eq_error_iff.mp hcolumns
      obtain ⟨cell, _, hcell⟩ := mapM_eq_error_iff.mp hcolumn
      obtain ⟨chars, hchars⟩ := exists_shownMarkup_escapeMarkup cell.toList
      rw [hchars] at hcell
      cases hcell
    · cases hlines

/-- What the full report says about the rows breaks on no tag. -/
theorem not_breaksOnTag_rowsBlock (columns : Nat) (result : Recognition) :
    ¬BreaksOnTag (rowsBlock columns result) := by
  unfold rowsBlock
  split_ifs
  · have hmark : shown "  [dim]No rows found[/dim]" = .ok _ := rfl
    exact not_breaksOnTag_map _ hmark
  · exact not_breaksOnTag_rowsTable columns result

end SqlInsert.Console
