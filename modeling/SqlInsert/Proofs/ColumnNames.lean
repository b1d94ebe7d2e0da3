import SqlInsert.Proofs.Unquoting
/-!
# The column list without quotes

An identifier is written as its name is, between quotes if it was given with quotes or needs them. So the
names of a column list come back from the text of the list: those that were given without quotes always, and
a quoted one exactly if it has whole pieces.
-/

namespace SqlInsert

/-! ## Written names -/

namespace Render

/-- The part of a slot is rendered from what the slot holds. -/
theorem lookup_slotParts (grammar : Grammar) (slots : List (String × Tree)) (name : String) :
    (slotParts grammar slots).lookup name = (slots.lookup name).map (part grammar) := by
  induction slots with
  | nil => rfl
  | cons slot slots ih =>
    obtain ⟨key, content⟩ := slot
    rw [slotParts, List.lookup_cons, List.lookup_cons, ih]
    cases name == key <;> rfl

variable {grammar : Grammar} {slots : List (String × Tree)} {name : String}

/-- A text in a slot is written as it is. -/
theorem text_slotParts {content : String} (h : (slots.lookup name).getD .null = .text content) :
    Parts.text (slotParts grammar slots) name = content := by
  unfold Parts.text Parts.get?
  rw [lookup_slotParts]
  cases hslot : slots.lookup name with
  | none =>
    rw [hslot] at h
    cases h
  | some tree =>
    rw [hslot, Option.getD_some] at h
    subst h
    rfl

/-- A part is given exactly where its slot is. -/
theorem isGiven_slotParts :
    Parts.isGiven (slotParts grammar slots) name = ((slots.lookup name).getD .null).isGiven := by
  unfold Parts.isGiven Parts.get?
  rw [lookup_slotParts]
  cases slots.lookup name with
  | none => rfl
  | some tree => cases tree <;> rfl

end Render

/-- An identifier is written as its name is, with its comments behind. -/
theorem Tree.sql_of_identifier {grammar : Grammar} {tree : Tree} {name : String} (hform : tree.isA .identifier = true)
    (hnamed : tree.slot "this" = .text name) :
    tree.sql grammar = Text.trim (Render.commentsBehind tree.comments
      (String.ofList (Render.nameChars grammar (tree.slot "quoted").isGiven name))) := by
  cases tree with
  | node kind slots comments =>
    obtain rfl : kind = .identifier := Option.some.inj (eq_of_beq hform)
    have hname : Parts.text (Render.slotParts grammar slots) "this" = name := Render.text_slotParts hnamed
    have hquoted : Parts.isGiven (Render.slotParts grammar slots) "quoted" =
        ((Tree.node .identifier slots comments).slot "quoted").isGiven := Render.isGiven_slotParts
    unfold Tree.sql
    rw [← hname, ← hquoted]
    rfl
  | _ => cases hform

/-- An identifier without comments. -/
structure Tree.IsIdentifier (tree : Tree) (name : String) (quoted : Bool) : Prop where
  form : tree.isA .identifier = true
  bare : tree.comments = []
  named : tree.slot "this" = .text name
  quotes : (tree.slot "quoted").isGiven = quoted

/-- An identifier without comments is written as its name is. -/
theorem Tree.IsIdentifier.sql_eq {grammar : Grammar} {tree : Tree} {name : String} {quoted : Bool}
    (h : tree.IsIdentifier name quoted) :
    tree.sql grammar = Text.trim (String.ofList (Render.nameChars grammar quoted name)) := by
  rw [Tree.sql_of_identifier h.form h.named, h.bare, h.quotes]
  rfl

/-- Nothing is trimmed from a text without blanks at its ends. -/
theorem Text.trim_eq_self {text : List Char} (hfirst : ∀ c ∈ text.head?, isBlank c = false)
    (hlast : ∀ c ∈ text.getLast?, isBlank c = false) : trim (String.ofList text) = String.ofList text := by
  have hfront : text.dropWhile isBlank = text := by
    cases text with
    | nil => rfl
    | cons c text => rw [List.dropWhile_cons_of_neg (Bool.eq_false_iff.mp (hfirst c rfl))]
  unfold trim trimWhile
  rw [String.toList_ofList, hfront, dropEndWhile_eq_self hlast]

/-- The quote of a grammar is no blank and no point. -/
theorem Grammar.nameQuote_ne (grammar : Grammar) :
    grammar.nameQuote ≠ '.' ∧ Text.isBlank grammar.nameQuote = false := by
  cases grammar <;> decide

/-- Enclosing quotes shield the blanks of a name from the trimming. -/
theorem Text.trim_enclosed (grammar : Grammar) (text : List Char) :
    trim (String.ofList (Render.enclosed grammar.nameQuote text)) =
      String.ofList (Render.enclosed grammar.nameQuote text) := by
  obtain ⟨_, hblank⟩ := grammar.nameQuote_ne
  refine trim_eq_self (fun c hc => ?_) (fun c hc => ?_)
  · cases hc
    exact hblank
  · unfold Render.enclosed at hc
    rw [List.getLast?_concat] at hc
    cases hc
    exact hblank

/-- An identifier comes back exactly if it was given without quotes or has whole pieces. -/
theorem Tree.IsIdentifier.unescapedName_sql_iff {grammar : Grammar} {tree : Tree} {name : String} {quoted : Bool}
    (h : tree.IsIdentifier name quoted)
    (hplain : quoted = false → IsPlainName grammar.nameQuote name) :
    unescapedName [grammar.nameQuote] (tree.sql grammar) = name ↔
      (quoted = true → HasWholePieces grammar.nameQuote name) := by
  obtain ⟨hpoint, hblank⟩ := grammar.nameQuote_ne
  rw [h.sql_eq]
  unfold Render.nameChars
  cases quoted with
  | true =>
    rw [Bool.true_or, if_pos rfl, Text.trim_enclosed, unescapedName_enclosed_iff hpoint]
    exact ⟨fun h _ => h, fun h => h rfl⟩
  | false =>
    have hname := hplain rfl
    obtain ⟨hpoints, hquotes⟩ := hname.not_mem
    refine iff_of_true ?_ nofun
    rw [Bool.false_or]
    split
    · rw [Text.trim_enclosed, unescapedName_enclosed_iff hpoint]
      exact hasWholePieces_of_not_mem hpoint hpoints hquotes
    · have hbare : Text.trim (String.ofList name.toList) = String.ofList name.toList :=
        Text.trim_eq_self (fun c hc => (hname c (List.mem_of_mem_head? hc)).2.2)
          (fun c hc => (hname c (List.mem_of_mem_getLast? hc)).2.2)
      rw [Render.doubled_of_not_mem hquotes, hbare, String.ofList_toList]
      exact unescapedName_of_isPlainName hname

/-! ## Column lists -/

namespace Statement

/-- An insertion has a column list behind its target or behind the alias of its table. -/
inductive HasColumnList (statement : Statement) (nodes : List Tree) : Prop
  | behindTarget (root : statement.tree.isA .insert = true)
      (schema : (statement.tree.slot "this").isA .schema = true)
      (entries : (statement.tree.slot "this").itemsAt "expressions" = nodes)
  | behindAlias (root : statement.tree.isA .insert = true) (table : (statement.tree.slot "this").isA .table = true)
      (given : ((statement.tree.slot "this").slot "alias").isA .tableAlias = true)
      (entries : ((statement.tree.slot "this").slot "alias").itemsAt "columns" = nodes)

/-- A statement with a column list answers with the nodes of that list. -/
theorem HasColumnList.columnNodes_eq {statement : Statement} {nodes : List Tree}
    (h : statement.HasColumnList nodes) : statement.columnNodes = .ok nodes := by
  have hroot : statement.tree.isA .insert = true := by cases h <;> assumption
  rw [Statement.columnNodes_eq hroot]
  unfold takesColumns columnList
  cases h with
  | behindTarget root schema entries => simp only [schema, Bool.true_or, if_true, entries]
  | behindAlias root table given entries =>
    have hschema : (statement.tree.slot "this").isA .schema = false := by
      unfold Tree.isA
      rw [eq_of_beq table]
      rfl
    simp only [table, hschema, Bool.or_true, given, Bool.false_eq_true, if_false, if_true, entries]

/-- The names of identifiers are answered as they are written, without their quotes. -/
theorem outcome_unescapedColumns {statement : Statement} {nodes : List Tree} (h : statement.HasColumnList nodes)
    (hnil : nodes ≠ []) (hnodes : ∀ node ∈ nodes, isReference node = true) :
    statement.unescapedColumns.outcome =
      .ok (some (nodes.map fun node =>
        unescapedName [statement.grammar.nameQuote] (node.sql statement.grammar))) := by
  have hcolumns : statement.columns.outcome = .ok (some (nodes.map (·.sql statement.grammar))) := by
    rw [outcome_columns_of_nodes h.columnNodes_eq, names_eq_of_references hnodes, List.isEmpty_eq_false_iff.mpr hnil]
    rfl
  unfold unescapedColumns
  rw [Logged.outcome_bind, hcolumns, ok_bind, Logged.outcome_pure, Option.map_some, List.map_map]
  rfl

/-- A column of a list: its own name, and whether it is quoted. -/
structure Column where
  name : String
  quoted : Bool

/-- Every column comes back by itself. -/
theorem forall₂_unescapedName {grammar : Grammar} {nodes : List Tree} {columns : List Column}
    (hnodes : List.Forall₂ (fun node column => node.IsIdentifier column.name column.quoted) nodes columns)
    (hplain : ∀ column ∈ columns, column.quoted = false → IsPlainName grammar.nameQuote column.name) :
    List.Forall₂ (fun column text => text = column.name ↔
        (column.quoted = true → HasWholePieces grammar.nameQuote column.name))
      columns (nodes.map fun node => unescapedName [grammar.nameQuote] (node.sql grammar)) := by
  induction hnodes with
  | nil => exact .nil
  | cons hnode _ ih =>
    obtain ⟨hname, hothers⟩ := List.forall_mem_cons.mp hplain
    exact .cons (hnode.unescapedName_sql_iff hname) (ih hothers)

/-- The names of a column list of identifiers, without their quotes, come back one for each column: a name that
was given without quotes always, and a quoted one exactly if it has whole pieces. -/
theorem unescapedColumns_eq_names_iff {statement : Statement} {nodes : List Tree} {columns : List Column}
    (hlist : statement.HasColumnList nodes) (hnil : nodes ≠ [])
    (hnodes : List.Forall₂ (fun node column => node.IsIdentifier column.name column.quoted) nodes columns)
    (hplain : ∀ column ∈ columns, column.quoted = false → IsPlainName statement.grammar.nameQuote column.name) :
    ∃ texts, statement.unescapedColumns.outcome = .ok (some texts) ∧
      List.Forall₂ (fun column text => text = column.name ↔
        (column.quoted = true → HasWholePieces statement.grammar.nameQuote column.name)) columns texts ∧
      (texts = columns.map (·.name) ↔
        ∀ column ∈ columns, column.quoted = true → HasWholePieces statement.grammar.nameQuote column.name) := by
  have hreferences : ∀ node ∈ nodes, isReference node = true := by
    intro node hnode
    obtain ⟨column, _, hidentifier⟩ := exists_answer_of_mem hnodes hnode
    unfold isReference
    rw [eq_of_beq hidentifier.form]
    rfl
  have hentries := forall₂_unescapedName hnodes hplain
  exact ⟨_, outcome_unescapedColumns hlist hnil hreferences, hentries, eq_map_iff_of_forall₂ hentries⟩

/-- The entries of a column list. -/
def columnEntries (columns : List Column) : List Tree :=
  columns.map fun column => .identifier column.name column.quoted

/-- An insertion into columns of a table. -/
def columnInsertion (dialect : Dialect) (columns : List Column) : Statement where
  dialect := dialect
  sql := ""
  tree := .bare .insert [("this", .bare .schema [("this", .bare .table [("this", .identifier "t" false)]),
    ("expressions", .list (columnEntries columns))])]

/-- The insertion into given columns has them as its column list. -/
theorem hasColumnList_columnInsertion (dialect : Dialect) (columns : List Column) :
    (columnInsertion dialect columns).HasColumnList (columnEntries columns) :=
  .behindTarget rfl rfl rfl

/-- Its entries are identifiers with the names and the quoting given. -/
theorem forall₂_columnEntries (columns : List Column) :
    List.Forall₂ (fun node column => Tree.IsIdentifier node column.name column.quoted) (columnEntries columns)
      columns :=
  List.forall₂_map_left_iff.mpr (List.forall₂_same.mpr fun _ _ => ⟨rfl, rfl, rfl, rfl⟩)

/-- A reserved word, a name with a blank, and two names with quotes in them. -/
def mixedColumns : List Column :=
  [⟨"as", false⟩, ⟨"two words", true⟩, ⟨"a`.`b", true⟩, ⟨"a`b", true⟩]

/-- Of the names with quotes, that one comes back whose quotes enclose its point. -/
theorem unescapedColumns_eq_names_iff_mixed :
    (columnInsertion .mysql mixedColumns).HasColumnList (columnEntries mixedColumns) ∧
      columnEntries mixedColumns ≠ [] ∧
      List.Forall₂ (fun node column => Tree.IsIdentifier node column.name column.quoted)
        (columnEntries mixedColumns) mixedColumns ∧
      (∀ column ∈ mixedColumns, column.quoted = false → IsPlainName (Char.ofNat 96) column.name) ∧
      ∃ texts, (columnInsertion .mysql mixedColumns).unescapedColumns.outcome = .ok (some texts) ∧
        List.Forall₂ (fun column text => text = column.name ↔
          (column.quoted = true → HasWholePieces (Char.ofNat 96) column.name)) mixedColumns texts ∧
        (texts = mixedColumns.map (·.name) ↔
          ∀ column ∈ mixedColumns, column.quoted = true → HasWholePieces (Char.ofNat 96) column.name) := by
  have hlist := hasColumnList_columnInsertion .mysql mixedColumns
  have hnil : columnEntries mixedColumns ≠ [] := List.cons_ne_nil _ _
  have hnodes := forall₂_columnEntries mixedColumns
  have hword : IsPlainName (Char.ofNat 96) "as" :=
    List.forall_mem_cons.mpr
      ⟨⟨by decide, by decide, rfl⟩, List.forall_mem_singleton.mpr ⟨by decide, by decide, rfl⟩⟩
  have hplain : ∀ column ∈ mixedColumns, column.quoted = false → IsPlainName (Char.ofNat 96) column.name :=
    List.forall_mem_cons.mpr ⟨fun _ => hword, by simp⟩
  exact ⟨hlist, hnil, hnodes, hplain, unescapedColumns_eq_names_iff hlist hnil hnodes hplain⟩

/-- A quoted name with a point keeps its quotes. -/
theorem not_unescapedColumns_eq_names_point :
    ¬∀ (statement : Statement) (nodes : List Tree) (columns : List Column),
      statement.HasColumnList nodes → nodes ≠ [] →
        List.Forall₂ (fun node column => Tree.IsIdentifier node column.name column.quoted) nodes columns →
        (∀ column ∈ columns, column.quoted = true → column.name ≠ "") →
        (∀ column ∈ columns, column.quoted = false → IsPlainName statement.grammar.nameQuote column.name) →
          statement.unescapedColumns.outcome = .ok (some (columns.map (·.name))) := by
  intro h
  have hlist := hasColumnList_columnInsertion .mysql [⟨"a.b", true⟩]
  have hnil : columnEntries [⟨"a.b", true⟩] ≠ [] := List.cons_ne_nil _ _
  have hpoint := h _ _ _ hlist hnil (forall₂_columnEntries _) (by simp) (by simp)
  rw [outcome_unescapedColumns hlist hnil (List.forall_mem_singleton.mpr rfl)] at hpoint
  have hidentifier : (Tree.identifier "a.b" true).IsIdentifier "a.b" true := ⟨rfl, rfl, rfl, rfl⟩
  have hname : unescapedName [Grammar.mysql.nameQuote] ((Tree.identifier "a.b" true).sql .mysql) = "a.b" :=
    (List.cons.inj (Option.some.inj (Except.ok.inj hpoint))).1
  have hshown : HasWholePieces Grammar.mysql.nameQuote "a.b" :=
    (hidentifier.unescapedName_sql_iff (by simp)).mp hname rfl
  exact absurd hshown (by decide +kernel)

end Statement

end SqlInsert
