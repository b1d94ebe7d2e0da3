import SqlInsert.Proofs.Digits
import SqlInsert.Proofs.StyledText
import SqlInsert.Proofs.ReportBlocks
/-!
# The data in a report

The header, the errors, the target and the line about the statement hold data as it is, so that tags in the
data are read as well: they show the data unchanged exactly if it is free of markup. The heads and the cells
of the rows are escaped, and ask for nothing of the kind.
-/

namespace SqlInsert.Console

/-! ## Texts with tags, and what they are to show -/

section

variable (result : Recognition)

/-- The text with tags in the panel about the statement. -/
def headerMarkup : String :=
  "[bold]Statement:[/bold] " ++ statementStart result.sql ++ "\n" ++
    "[bold]Dialect:[/bold] " ++ result.dialect ++ "\n" ++
    "[bold]Type:[/bold] " ++ result.sqlType

/-- What the panel about the statement is to show. -/
def headerText : String :=
  "Statement: " ++ statementStart result.sql ++ "\n" ++ "Dialect: " ++ result.dialect ++ "\n" ++
    "Type: " ++ result.sqlType

/-- What the panel about the errors is to show. It is read with the tags that are in it. -/
def errorsText : String :=
  "\n".intercalate (result.errors.map ("• " ++ ·))

/-- The errors in the compact report. -/
def errorsData : String :=
  "; ".intercalate result.errors

/-- The line about the errors in the compact report. -/
def errorsLineMarkup : String :=
  "[red]Error:[/red] " ++ errorsData result

/-- What the line about the errors is to show. -/
def errorsLineText : String :=
  "Error: " ++ errorsData result

/-- The table and the columns in the compact report. -/
def tableData : String :=
  result.tableName.getD "None" ++
    match result.columns with
    | some names => " (" ++ ", ".intercalate names ++ ")"
    | none => ""

/-- The line about the statement in the compact report. -/
def tableLineMarkup : String :=
  "[bold]" ++ result.sqlType ++ "[/bold] " ++ tableData result

/-- What the line about the statement is to show. -/
def tableLineText : String :=
  result.sqlType ++ " " ++ tableData result

/-- The header is a panel around its lines. -/
theorem headerBlock_eq (columns : Nat) :
    headerBlock columns result =
      (shownIn (panelRoom columns) (headerMarkup result)).map
        (panel .fit columns "SQL Recognition Results".toList) := by
  unfold headerBlock headerMarkup
  cases shownIn _ _ <;> rfl

/-- The errors stand in a panel of their own. -/
theorem errorsBlock_eq (columns : Nat) :
    errorsBlock columns result =
      (shownIn (panelRoom columns) (errorsText result)).map (panel .full columns "Errors".toList) := by
  unfold errorsBlock errorsText
  cases shownIn _ _ <;> rfl

/-- With errors the compact report is their line alone. -/
theorem compactBlocks_of_errors (columns : Nat) (h : result.hasErrors = true) :
    compactBlocks columns result = [markupBlock columns (errorsLineMarkup result)] := by
  unfold compactBlocks
  rw [if_pos h]
  rfl

/-- Without errors the compact report is the line of the table and one line for each row. -/
theorem compactBlocks_of_no_errors (columns : Nat) (h : result.hasErrors = false) :
    compactBlocks columns result =
      markupBlock columns (tableLineMarkup result) :: result.rows.map (compactRow columns) := by
  unfold compactBlocks tableLineMarkup tableData
  rw [if_neg (by rw [h]; exact Bool.false_ne_true)]
  cases result.columns <;> simp only [String.append_assoc]

end

/-! ## Data behind labels -/

/-- A text is shown as its characters are. -/
theorem shown_eq_ok_iff {text : String} {chars : List Char} :
    shown text = .ok chars ↔ shownMarkup text.toList = .ok chars := by
  rw [shown, mapError_eq_ok_iff]

/-- A text is shown without a change exactly if it is free of markup. -/
theorem shown_eq_self_iff {text : String} : shown text = .ok text.toList ↔ AsIs text.toList := by
  rw [shown_eq_ok_iff, shownMarkup_eq_self_iff]

/-- `bold` is a style word. -/
theorem isStyleWord_bold : IsStyleWord "bold".toList :=
  ⟨rfl, by decide⟩

/-- `dim` is a style word. -/
theorem isStyleWord_dim : IsStyleWord "dim".toList :=
  ⟨rfl, by decide⟩

/-- `red` is a style word. -/
theorem isStyleWord_red : IsStyleWord "red".toList :=
  ⟨rfl, by decide⟩

/-- The categories of statements hold no special character. -/
theorem asIs_of_mem_statementTypes {name : String} (h : name ∈ statementTypes) : AsIs name.toList := by
  have hnames : ∀ name ∈ statementTypes, name.toList.any isSpecial = false := by decide
  exact asIs_of_not_special (hnames name h)

/-- The panel about the statement shows its data exactly if the statement and the dialect are free of markup. -/
theorem shown_headerMarkup_iff {result : Recognition} (h : result.sqlType ∈ statementTypes) :
    shown (headerMarkup result) = .ok (headerText result).toList ↔
      AsIs (statementStart result.sql).toList ∧ AsIs result.dialect.toList := by
  have hplain : ∀ name ∈ ["Statement", "Dialect", "Type"], name.toList.any isSpecial = false := by decide
  have htype : AsIs (' ' :: result.sqlType.toList) ↔ True :=
    iff_true_intro ((asIs_cons_iff rfl).mpr (asIs_of_mem_statementTypes h))
  have hlast := ((ShownIff.data _).congr htype).labelled isStyleWord_bold
    (asIs_concat_colon (hplain "Type" (by decide))) (by decide)
  have hdialect := hlast.line isStyleWord_bold (hplain "Dialect" (by decide)) result.dialect.toList
  have hsql := hdialect.line isStyleWord_bold (hplain "Statement" (by decide)) (statementStart result.sql).toList
  have hlabels : "[bold]Statement:[/bold] ".toList = styled "bold".toList ("Statement".toList ++ [':']) [' '] ∧
      "[bold]Dialect:[/bold] ".toList = styled "bold".toList ("Dialect".toList ++ [':']) [' '] ∧
      "[bold]Type:[/bold] ".toList = styled "bold".toList ("Type".toList ++ [':']) [' '] := ⟨rfl, rfl, rfl⟩
  have hnames : "Statement: ".toList = "Statement".toList ++ [':', ' '] ∧
      "Dialect: ".toList = "Dialect".toList ++ [':', ' '] ∧ "Type: ".toList = "Type".toList ++ [':', ' '] ∧
      "\n".toList = ['\n'] := ⟨rfl, rfl, rfl, rfl⟩
  rw [and_true] at hsql
  rw [shown_eq_ok_iff, ← hsql.shownMarkup_eq_ok_iff]
  unfold headerMarkup headerText
  simp only [String.toList_append, hlabels, hnames, styled_append, List.append_assoc, List.cons_append, List.nil_append]

/-- The line of the errors is shown whole exactly where its data are shown as they are. -/
theorem shown_errorsLineMarkup_iff {result : Recognition} :
    shown (errorsLineMarkup result) = .ok (errorsLineText result).toList ↔ AsIs (errorsData result).toList := by
  have hplain : "Error".toList.any isSpecial = false := rfl
  have hdata := (ShownIff.data (' ' :: (errorsData result).toList)).congr (asIs_cons_iff rfl)
  have hline := hdata.labelled isStyleWord_red (asIs_concat_colon hplain) (by decide)
  have hlabel : "[red]Error:[/red] ".toList = styled "red".toList ("Error".toList ++ [':']) [' '] := rfl
  have hname : "Error: ".toList = "Error".toList ++ [':', ' '] := rfl
  rw [shown_eq_ok_iff, ← hline.shownMarkup_eq_ok_iff]
  unfold errorsLineMarkup errorsLineText
  simp only [String.toList_append, hlabel, hname, styled_append, List.append_assoc, List.cons_append, List.nil_append]

/-- The line of the table is shown whole exactly where its data are shown as they are. -/
theorem shown_tableLineMarkup_iff {result : Recognition} (h : result.sqlType ∈ statementTypes) :
    shown (tableLineMarkup result) = .ok (tableLineText result).toList ↔ AsIs (tableData result).toList := by
  have hlast : ∀ name ∈ statementTypes, name.toList.getLast? ≠ some '\\' := by decide
  have hdata := (ShownIff.data (' ' :: (tableData result).toList)).congr (asIs_cons_iff rfl)
  have hline := hdata.labelled isStyleWord_bold (asIs_of_mem_statementTypes h) (hlast _ h)
  have hopen : "[bold]".toList = '[' :: "bold".toList ++ [']'] := rfl
  have hclose : "[/bold] ".toList = '[' :: '/' :: "bold".toList ++ [']', ' '] := rfl
  have hblank : " ".toList = [' '] := rfl
  rw [shown_eq_ok_iff, ← hline.shownMarkup_eq_ok_iff]
  unfold tableLineMarkup tableLineText
  simp only [String.toList_append, hopen, hclose, hblank, styled, List.append_assoc, List.cons_append, List.nil_append]

/-! ## The target -/

/-- The properties of the target, with a text for the columns where the statement has no column list. -/
def targetTexts (allColumns : String) (result : Recognition) : List (String × String) :=
  [("Table", orMissing (result.tableName.getD "")),
    ("Alias", orMissing (result.tableAlias.getD "")),
    ("Columns", (result.columns.map (", ".intercalate ·)).getD allColumns),
    ("Primary key positions", orMissing (", ".intercalate (result.keyPositions.map Number.integerText)))] ++
    (result.duplicateKeyUpdate.map fun columns => ("On duplicate key update", ", ".intercalate columns)).toList

/-- The properties of the target that hold data of the statement. -/
def targetData (result : Recognition) : List String :=
  [orMissing (result.tableName.getD ""), orMissing (result.tableAlias.getD "")] ++
    (result.columns.toList ++ result.duplicateKeyUpdate.toList).map (", ".intercalate ·)

/-- A property in plain text, as a row of the table. -/
def plainRow (property : String × String) : List (List Char) :=
  [property.1.toList, property.2.toList]

/-- The properties are the texts of the target, with a style around the words for all columns. -/
theorem targetProperties_eq (result : Recognition) :
    targetProperties result = targetTexts "[dim](all columns)[/dim]" result := by
  unfold targetProperties targetTexts
  cases result.columns <;> cases result.duplicateKeyUpdate <;> rfl

/-- The target is a table of two columns over its properties. -/
theorem targetBlock_eq (columns : Nat) (result : Recognition) :
    targetBlock columns result =
      ((targetProperties result).mapM (targetRow (targetRoom columns))).map fun rows =>
        Table.lines columns ⟨"Target".toList, targetHeads, rows⟩ := by
  unfold targetBlock
  cases (targetProperties result).mapM (targetRow (targetRoom columns)) <;> rfl

/-- A property is laid out plainly exactly where its value is shown as the text. -/
theorem targetRow_eq_ok_iff {cells : Nat} (hcells : cells ≠ 0) {name value text : String} :
    targetRow cells (name, value) = .ok (plainRow (name, text)) ↔ shown value = .ok text.toList := by
  unfold targetRow plainRow shownIn
  rw [if_neg hcells]
  cases shown value <;> simp [pure, Except.pure]

/-- No digit is special. -/
theorem isSpecial_eq_false_of_isDigit {c : Char} (h : c.isDigit = true) : isSpecial c = false := by
  have hlow : 48 ≤ c.toNat := (Char.isDigit_iff_toNat.mp h).1
  have hcontrol : isControl c = false := by
    simp only [isControl, List.contains_eq_mem, List.mem_cons, List.not_mem_nil, or_false, decide_eq_false_iff_not]
    omega
  have hne : ∀ other : Char, other.isDigit = false → decide (c = other) = false := by
    intro other hother
    refine decide_eq_false fun hsame => ?_
    rw [← hsame, h] at hother
    cases hother
  rw [isSpecial, hcontrol, hne '[' rfl, hne '\\' rfl, hne ':' rfl]
  rfl

/-- An integer is written without special characters. -/
theorem isSpecial_of_mem_integerText {n : Int} {c : Char} (h : c ∈ (Number.integerText n).toList) :
    isSpecial c = false := by
  rcases Number.eq_minus_or_isDigit_of_mem_integerText h with rfl | hdigit
  · rfl
  · exact isSpecial_eq_false_of_isDigit hdigit

/-- The positions of keys, or what is shown instead, hold no special character. -/
theorem asIs_keyPositions (positions : List Int) :
    AsIs (orMissing (", ".intercalate (positions.map Number.integerText))).toList := by
  unfold orMissing
  split_ifs
  · exact asIs_of_not_special rfl
  · refine asIs_of_not_special (List.any_eq_false.mpr fun c hc => (Bool.not_eq_true _).mpr ?_)
    rw [String.toList_intercalate] at hc
    rcases Text.mem_of_mem_intercalate hc with hbetween | ⟨part, hpart, hmem⟩
    · have hplain : ", ".toList.any isSpecial = false := rfl
      exact (Bool.not_eq_true _).mp (List.any_eq_false.mp hplain c hbetween)
    · obtain ⟨text, htext, rfl⟩ := List.mem_map.mp hpart
      obtain ⟨n, _, rfl⟩ := List.mem_map.mp htext
      exact isSpecial_of_mem_integerText hmem

/-- The mark that a statement has no column list is shown without its tags. -/
theorem shown_allColumns : shown "[dim](all columns)[/dim]" = .ok "(all columns)".toList := by
  have hplain : AsIs "(all columns)".toList := asIs_of_not_special rfl
  have hmark := (ShownIff.data []).labelled isStyleWord_dim hplain (by decide)
  exact shown_eq_ok_iff.mpr (hmark.shownMarkup_eq_ok_iff.mpr asIs_nil)

/-- The table about the target shows its data exactly if it is free of markup. -/
theorem targetRows_iff {cells : Nat} (hcells : cells ≠ 0) {result : Recognition} :
    (targetProperties result).mapM (targetRow cells) = .ok ((targetTexts "(all columns)" result).map plainRow) ↔
      ∀ text ∈ targetData result, AsIs text.toList := by
  have hkeys := asIs_keyPositions result.keyPositions
  rw [targetProperties_eq, mapM_eq_ok_iff, List.forall₂_map_right_iff]
  unfold targetTexts targetData
  -- There may be a column list or not, and a clause for keys that exist already or not.
  cases result.columns <;> cases result.duplicateKeyUpdate <;>
    simp only [Option.map_none, Option.map_some, Option.getD_none, Option.getD_some, Option.toList_none,
      Option.toList_some, List.map_nil, List.map_cons, List.append_nil, List.nil_append, List.cons_append,
      List.forall₂_cons, List.forall₂_nil_left_iff, List.forall_mem_cons, List.not_mem_nil, false_implies,
      implies_true, targetRow_eq_ok_iff hcells, shown_eq_self_iff, shown_allColumns, hkeys, true_and, and_true]

/-- The heads of the rows are the names of the columns, or numbers. -/
theorem asIs_of_mem_rowHeads {result : Recognition} (h : ∀ text ∈ targetData result, AsIs text.toList) {count : Nat}
    {head : String} (hhead : head ∈ rowHeads result count) : AsIs head.toList := by
  have hnumbers : ∀ head ∈ (List.range count).map (fun (index : Nat) => "#" ++ Number.integerText index),
      AsIs head.toList := by
    intro head hhead
    obtain ⟨index, _, rfl⟩ := List.mem_map.mp hhead
    refine asIs_of_not_special (List.any_eq_false.mpr fun c hc => (Bool.not_eq_true _).mpr ?_)
    rw [String.toList_append] at hc
    rcases List.mem_append.mp hc with hnumber | hdigits
    · rw [List.mem_singleton.mp hnumber]
      rfl
    · exact isSpecial_of_mem_integerText hdigits
  unfold rowHeads at hhead
  simp only at hhead
  split at hhead
  · rename_i names hnames
    split_ifs at hhead with hcount
    · have hall := h (", ".intercalate names) (by simp [targetData, hnames])
      rw [String.toList_intercalate] at hall
      exact hall.of_intercalate head.toList (List.mem_map_of_mem hhead)
    · exact hnumbers head hhead
  · exact hnumbers head hhead

/-! ## Data in the report -/

/-- Reports take data for data: they break on no tag, and show the data of the statement as it is. -/
structure ShowsData (result : Recognition) : Prop where
  /-- No report ends early because of a tag. -/
  completes : ∀ style columns error, (report style columns result).failure ≠ some (.markup error)
  /-- The panel about the statement shows its start and its dialect. -/
  header : shown (headerMarkup result) = .ok (headerText result).toList
  /-- The panel and the line about the errors show them. -/
  errors : result.hasErrors = true →
    shown (errorsText result) = .ok (errorsText result).toList ∧
      shown (errorsLineMarkup result) = .ok (errorsLineText result).toList
  /-- The table about the target shows its name, its alias and its columns, if there is any room for them. -/
  target : result.hasErrors = false → ∀ cells, cells ≠ 0 →
    (targetProperties result).mapM (targetRow cells) = .ok ((targetTexts "(all columns)" result).map plainRow)
  /-- The heads of the rows show the names of the columns. -/
  heads : result.hasErrors = false → ∀ head ∈ rowHeads result (rowWidth result), EscapedKeeps head
  /-- The line about the statement shows the name of the table and the columns. -/
  table : result.hasErrors = false → shown (tableLineMarkup result) = .ok (tableLineText result).toList

/-- Data that no markup is in, wherever it is not escaped. -/
structure FreeOfMarkup (result : Recognition) : Prop where
  sql : AsIs (statementStart result.sql).toList
  dialect : AsIs result.dialect.toList
  errors : result.hasErrors = true → AsIs (errorsText result).toList ∧ AsIs (errorsData result).toList
  target : result.hasErrors = false → ∀ text ∈ targetData result, AsIs text.toList
  table : result.hasErrors = false → AsIs (tableData result).toList

/-- With errors the full report is its header and the errors. -/
theorem fullBlocks_of_errors {result : Recognition} (columns : Nat) (h : result.hasErrors = true) :
    fullBlocks columns result = [.ok [[]], headerBlock columns result, errorsBlock columns result] := by
  unfold fullBlocks
  rw [if_pos h]

/-- Without errors the full report is its header, the target and the rows. -/
theorem fullBlocks_of_no_errors {result : Recognition} (columns : Nat) (h : result.hasErrors = false) :
    fullBlocks columns result =
      [.ok [[]], headerBlock columns result, targetBlock columns result, rowsBlock columns result] := by
  unfold fullBlocks
  rw [if_neg (by rw [h]; exact Bool.false_ne_true)]

namespace FreeOfMarkup

variable {result : Recognition}

/-- Where the data hold no markup, the table about the target breaks on no tag. -/
theorem not_breaksOnTag_targetBlock (hfree : FreeOfMarkup result) (herrors : result.hasErrors = false) (columns : Nat) :
    ¬BreaksOnTag (targetBlock columns result) := by
  rw [targetBlock_eq]
  have hrows : ∃ rows, (targetProperties result).mapM (targetRow (targetRoom columns)) = .ok rows := by
    by_cases hcells : targetRoom columns = 0
    · rw [hcells]
      exact exists_mapM_iff.mpr fun property _ => ⟨[property.1.toList, []], rfl⟩
    · exact ⟨_, (targetRows_iff hcells).mpr (hfree.target herrors)⟩
  obtain ⟨rows, hrows⟩ := hrows
  exact not_breaksOnTag_map _ hrows

/-- Where the data hold no markup, no block of the full report breaks on a tag. -/
theorem not_breaksOnTag_fullBlocks (hfree : FreeOfMarkup result) (h : result.sqlType ∈ statementTypes) (columns : Nat) :
    ∀ block ∈ fullBlocks columns result, ¬BreaksOnTag block := by
  have hheader := not_breaksOnTag_shownIn (panelRoom columns) (panel .fit columns "SQL Recognition Results".toList)
    ((shown_headerMarkup_iff h).mpr ⟨hfree.sql, hfree.dialect⟩)
  cases herrors : result.hasErrors with
  | true =>
    have herror := not_breaksOnTag_shownIn (panelRoom columns) (panel .full columns "Errors".toList)
      (shown_eq_self_iff.mpr (hfree.errors herrors).1)
    rw [fullBlocks_of_errors columns herrors, headerBlock_eq, errorsBlock_eq]
    simp only [List.forall_mem_cons, not_breaksOnTag_ok, hheader, herror, not_false_eq_true, List.not_mem_nil,
      false_implies, implies_true, and_self]
  | false =>
    have htarget := hfree.not_breaksOnTag_targetBlock herrors columns
    have hrows := not_breaksOnTag_rowsBlock columns result
    rw [fullBlocks_of_no_errors columns herrors, headerBlock_eq]
    simp only [List.forall_mem_cons, not_breaksOnTag_ok, hheader, htarget, hrows, not_false_eq_true, List.not_mem_nil,
      false_implies, implies_true, and_self]

/-- Where the data hold no markup, no block of the compact report breaks on a tag. -/
theorem not_breaksOnTag_compactBlocks (hfree : FreeOfMarkup result) (h : result.sqlType ∈ statementTypes)
    (columns : Nat) : ∀ block ∈ compactBlocks columns result, ¬BreaksOnTag block := by
  cases herrors : result.hasErrors with
  | true =>
    rw [compactBlocks_of_errors result columns herrors]
    have hline := shown_errorsLineMarkup_iff.mpr (hfree.errors herrors).2
    exact List.forall_mem_singleton.mpr (not_breaksOnTag_map _ hline)
  | false =>
    rw [compactBlocks_of_no_errors result columns herrors]
    refine List.forall_mem_cons.mpr ⟨?_, List.forall_mem_map.mpr fun row _ => not_breaksOnTag_compactRow columns row⟩
    exact not_breaksOnTag_map _ ((shown_tableLineMarkup_iff h).mpr (hfree.table herrors))

end FreeOfMarkup

/-- Reports take data for data exactly if it is free of markup. -/
theorem showsData_iff_freeOfMarkup {result : Recognition} (h : result.sqlType ∈ statementTypes) :
    ShowsData result ↔ FreeOfMarkup result := by
  constructor
  · intro hshows
    have hheader := (shown_headerMarkup_iff h).mp hshows.header
    refine ⟨hheader.1, hheader.2, fun herrors => ?_, fun herrors => ?_, fun herrors => ?_⟩
    · exact ⟨shown_eq_self_iff.mp (hshows.errors herrors).1, shown_errorsLineMarkup_iff.mp (hshows.errors herrors).2⟩
    · exact (targetRows_iff Nat.one_ne_zero).mp (hshows.target herrors 1 Nat.one_ne_zero)
    · exact (shown_tableLineMarkup_iff h).mp (hshows.table herrors)
  · intro hfree
    have hheader := (shown_headerMarkup_iff h).mpr ⟨hfree.sql, hfree.dialect⟩
    refine ⟨fun style columns error => print_failure_ne_markup columns ?_ error, hheader, fun herrors => ?_,
      fun herrors cells hcells => ?_, fun herrors head hhead => ?_, fun herrors => ?_⟩
    · cases style with
      | full => exact hfree.not_breaksOnTag_fullBlocks h columns
      | compact => exact hfree.not_breaksOnTag_compactBlocks h columns
    · exact ⟨shown_eq_self_iff.mpr (hfree.errors herrors).1, shown_errorsLineMarkup_iff.mpr (hfree.errors herrors).2⟩
    · exact (targetRows_iff hcells).mpr (hfree.target herrors)
    · exact (asIs_of_mem_rowHeads (hfree.target herrors) hhead).escapedKeeps
    · exact (shown_tableLineMarkup_iff h).mpr (hfree.table herrors)

/-- An insertion of a text with a tag in it, far behind the start of the statement. -/
def taggedNote : Recognition where
  sql := "/* Remarks on the margins of the third volume, as they were first printed */ INSERT INTO notes VALUES ('[b]')"
  dialect := "mysql"
  sqlType := insertType
  tableName := some "notes"
  tableAlias := none
  columns := none
  rows := [[.literal (.text "[b]")]]
  keyPositions := []
  duplicateKeyUpdate := none
  errors := []

/-- The text is escaped among the rows, and there is no other markup in what is shown. -/
theorem showsData_taggedNote : taggedNote.sqlType ∈ statementTypes ∧ ShowsData taggedNote := by
  have htype : taggedNote.sqlType ∈ statementTypes := by decide
  have htarget : ∀ text ∈ targetData taggedNote, text.toList.any isSpecial = false := by decide
  refine ⟨htype, (showsData_iff_freeOfMarkup htype).mpr ⟨?_, ?_, ?_, ?_, ?_⟩⟩
  · rw [statementStart, String.toList_append, String.toList_ofList]
    exact asIs_of_not_special (by decide +kernel)
  · exact asIs_of_not_special rfl
  · exact fun herrors => absurd herrors (by decide)
  · exact fun _ text htext => asIs_of_not_special (htarget text htext)
  · exact fun _ => asIs_of_not_special rfl

/-- An insertion into a table whose name looks like a closing tag. -/
def closingTable : Recognition where
  sql := "INSERT INTO `[/b]` VALUES (1)"
  dialect := "mysql"
  sqlType := insertType
  tableName := some "`[/b]`"
  tableAlias := none
  columns := none
  rows := [[.literal (.int 1)]]
  keyPositions := []
  duplicateKeyUpdate := none
  errors := []

/-- Neither report on it is finished, since the tag closes nothing; only a console of four columns or fewer has no room
for the panel about the statement. -/
theorem not_showsData_closingTable :
    (∀ columns, 4 < columns →
      (report .full columns closingTable).failure = some (.markup (.unmatched "/b" 37))) ∧
      (∀ columns, (report .compact columns closingTable).failure = some (.markup (.unmatched "/b" 21))) ∧
      ¬ShowsData closingTable := by
  have hfull : ∀ columns, 4 < columns →
      (report .full columns closingTable).failure = some (.markup (.unmatched "/b" 37)) := by
    intro columns hcolumns
    have hroom : panelRoom columns ≠ 0 := by
      rw [panelRoom, cellsInside]
      omega
    have hheader : headerBlock columns closingTable = .error (.markup (.unmatched "/b" 37)) := by
      rw [headerBlock_eq, shownIn, if_neg hroom]
      rfl
    rw [report, fullBlocks_of_no_errors columns rfl, hheader]
    rfl
  have hcompact : ∀ columns, (report .compact columns closingTable).failure = some (.markup (.unmatched "/b" 21)) :=
    fun columns => rfl
  exact ⟨hfull, hcompact, fun h => h.completes _ _ _ (hcompact 80)⟩

end SqlInsert.Console
