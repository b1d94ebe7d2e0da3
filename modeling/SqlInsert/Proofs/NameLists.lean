import SqlInsert.Proofs.Names
/-!
# Names answered as a whole

The names of the columns, and those of what is assigned where a key exists already, are answered all together or
not at all: the first entry that is no plain reference is refused, and nothing else is. A statement without such a
list is told from one with it; an alias is there only with a text in it.
-/

namespace SqlInsert

namespace Tree

/-- What an alias is given by: the name in a table alias, or what stands in its place. -/
def aliasContent (tree : Tree) : Tree :=
  let given := tree.slot "alias"
  if given.isA .tableAlias then given.slot "this" else given

/-- The text that the content of an alias stands for: a node as it is written, an item as it is shown. Nothing
stands for the empty text. -/
def aliasContentText (grammar : Grammar) : Tree → String
  | .null => ""
  | .node kind slots comments => (Tree.node kind slots comments).sql grammar
  | .text value => value
  | item => item.outline

/-- The text that stands for the alias of a node. -/
def aliasShown (grammar : Grammar) (tree : Tree) : String :=
  aliasContentText grammar tree.aliasContent

/-- The alias of a node is the text that stands for it, unless that is empty. -/
theorem alias?_eq (grammar : Grammar) (tree : Tree) : tree.alias? grammar = nonempty? (tree.aliasShown grammar) := by
  have hcontent : ∀ content : Tree, aliasText? grammar content = nonempty? (aliasContentText grammar content) := by
    intro content
    cases content <;> rfl
  unfold alias? aliasShown aliasContent
  dsimp only
  rw [hcontent, hcontent]
  split <;> rfl

end Tree

namespace Statement

/-! ## Lists of names -/

/-- An answer about a list of names: all of them as they are written, or the first node that is no plain reference
is refused. -/
inductive NamedOrRefused (grammar : Grammar) (position : Position) (nodes : List Tree) :
    Except Failure (Option (List String)) → Prop
  | named (references : ∀ node ∈ nodes, isReference node = true) :
      NamedOrRefused grammar position nodes (.ok (some (nodes.map (·.sql grammar))))
  | refused {node : Tree} (first : IsFirst (fun node => isReference node = true) nodes node) :
      NamedOrRefused grammar position nodes (.error (.recognition (.unrecognized node position)))

variable {grammar : Grammar} {position : Position} {nodes : List Tree}

/-- The names of nodes are all given or the first that has none is refused. -/
theorem namedOrRefused_names (grammar : Grammar) (position : Position) (nodes : List Tree) :
    NamedOrRefused grammar position nodes ((names grammar position nodes).outcome.map some) := by
  rcases all_or_isFirst (fun node => isReference node = true) nodes with hall | ⟨node, hfirst⟩
  · rw [names_eq_of_references hall]
    exact .named hall
  · rw [names_eq_error_iff.mpr ⟨node, hfirst, rfl⟩]
    exact .refused hfirst

/-- A list that is named or refused is never missing. -/
theorem NamedOrRefused.ne_none {answer : Except Failure (Option (List String))}
    (h : NamedOrRefused grammar position nodes answer) : answer ≠ .ok none := by
  cases h <;> exact nofun

/-- A list that is answered has as many names as there are nodes. -/
theorem NamedOrRefused.length_eq {texts : List String}
    (h : NamedOrRefused grammar position nodes (.ok (some texts))) : texts.length = nodes.length := by
  cases h with
  | named => rw [List.length_map]

variable {statement : Statement}

/-- The columns are missing exactly where the column list is empty. -/
theorem outcome_columns_eq_none_iff (h : statement.columnNodes = .ok nodes) :
    statement.columns.outcome = .ok none ↔ nodes = [] := by
  rw [outcome_columns_of_nodes h]
  cases nodes with
  | nil => exact iff_of_true rfl rfl
  | cons node rest =>
    have hanswer := namedOrRefused_names statement.grammar .columnList (node :: rest)
    exact iff_of_false hanswer.ne_none (List.cons_ne_nil _ _)

/-- The columns of a list that is not empty are all named or refused. -/
theorem namedOrRefused_columns (h : statement.columnNodes = .ok nodes) (hnil : nodes ≠ []) :
    NamedOrRefused statement.grammar .columnList nodes statement.columns.outcome := by
  rw [outcome_columns_of_nodes h, List.isEmpty_eq_false_iff.mpr hnil]
  exact namedOrRefused_names statement.grammar .columnList nodes

/-- Where a target takes no columns, both questions about them are refused. -/
theorem columns_refused (hroot : statement.tree.isA .insert = true) (htarget : statement.takesColumns = false) :
    statement.hasNoColumns = .error (.unrecognized (statement.tree.slot "this") .target) ∧
      statement.columns.outcome = .error (.recognition (.unrecognized (statement.tree.slot "this") .target)) := by
  unfold hasNoColumns columns
  rw [columnNodes_eq hroot, htarget]
  exact ⟨rfl, rfl⟩

/-- Without a clause about duplicates no update is answered. -/
theorem outcome_duplicateKeyUpdate_of_false (hroot : statement.tree.isA .insert = true)
    (h : statement.updatesDuplicates = false) : statement.duplicateKeyUpdate.outcome = .ok none := by
  rw [outcome_duplicateKeyUpdate hroot]
  unfold assignedNodes
  rw [h]
  rfl

/-- The columns that a clause assigns are all named or refused. -/
theorem namedOrRefused_duplicateKeyUpdate (hroot : statement.tree.isA .insert = true)
    (h : statement.updatesDuplicates = true) :
    NamedOrRefused statement.grammar .duplicateKeyUpdate statement.assignedNodes
      statement.duplicateKeyUpdate.outcome := by
  rw [outcome_duplicateKeyUpdate hroot, h]
  exact namedOrRefused_names statement.grammar .duplicateKeyUpdate statement.assignedNodes

/-! ## The alias -/

/-- Where the alias of an insertion comes from: from the statement itself, or else from its table, which has to be
one. -/
inductive AliasDecision (statement : Statement) : Except RecognitionError (Option String) → Prop
  | own (shown : statement.tree.aliasShown statement.grammar ≠ "") :
      AliasDecision statement (.ok (some (statement.tree.aliasShown statement.grammar)))
  | ofTable (noOwn : statement.tree.aliasShown statement.grammar = "")
      (table : statement.targetTable.isA .table = true)
      (shown : statement.targetTable.aliasShown statement.grammar ≠ "") :
      AliasDecision statement (.ok (some (statement.targetTable.aliasShown statement.grammar)))
  | missing (noOwn : statement.tree.aliasShown statement.grammar = "")
      (table : statement.targetTable.isA .table = true)
      (notShown : statement.targetTable.aliasShown statement.grammar = "") : AliasDecision statement (.ok none)
  | refused (noOwn : statement.tree.aliasShown statement.grammar = "")
      (noTable : statement.targetTable.isA .table = false) :
      AliasDecision statement (.error (.unrecognized statement.targetTable .target))

/-- The alias asked for is the one the statement decides. -/
theorem aliasDecision_tableAlias (hroot : statement.tree.isA .insert = true) :
    AliasDecision statement statement.tableAlias := by
  unfold tableAlias root
  rw [if_pos hroot, ok_bind, Tree.alias?_eq, table_eq, if_pos hroot]
  by_cases hown : statement.tree.aliasShown statement.grammar = ""
  · rw [Tree.nonempty?, if_pos hown]
    cases htable : statement.targetTable.isA .table with
    | false => exact .refused hown htable
    | true =>
      simp only [if_true, ok_bind, Tree.alias?_eq]
      by_cases hshown : statement.targetTable.aliasShown statement.grammar = ""
      · rw [Tree.nonempty?, if_pos hshown]
        exact .missing hown htable hshown
      · rw [Tree.nonempty?, if_neg hshown]
        exact .ofTable hown htable hshown
  · rw [Tree.nonempty?, if_neg hown]
    exact .own hown

/-- An alias that is answered is not empty. -/
theorem AliasDecision.ne_empty {answer : Except RecognitionError (Option String)}
    (h : AliasDecision statement answer) : answer ≠ .ok (some "") := by
  intro hanswer
  cases h with
  | own hshown => exact hshown (Option.some.inj (Except.ok.inj hanswer))
  | ofTable _ _ hshown => exact hshown (Option.some.inj (Except.ok.inj hanswer))
  | missing => cases hanswer
  | refused => cases hanswer

/-! ## All questions for names -/

/-- An insertion answers each question for names as a whole. -/
structure AnswersWhole (statement : Statement) : Prop where
  /-- A target that takes no columns is refused, by both questions about columns alike. -/
  noTarget : statement.takesColumns = false →
    statement.hasNoColumns = .error (.unrecognized (statement.tree.slot "this") .target) ∧
      statement.columns.outcome = .error (.recognition (.unrecognized (statement.tree.slot "this") .target))
  /-- There are no columns exactly if the column list is empty, and both questions say so. -/
  noColumns : statement.takesColumns = true →
    statement.hasNoColumns = .ok statement.columnList.isEmpty ∧
      (statement.columns.outcome = .ok none ↔ statement.hasNoColumns = .ok true)
  columns : statement.takesColumns = true → statement.columnList ≠ [] →
    NamedOrRefused statement.grammar .columnList statement.columnList statement.columns.outcome
  columnsNotEmpty : ∀ texts, statement.columns.outcome = .ok (some texts) → texts ≠ []
  noAssigned : statement.duplicateKeyUpdate.outcome = .ok none ↔ statement.updatesDuplicates = false
  /-- What is assigned obeys the same law; but a clause that assigns nothing has an empty list of names. -/
  assigned : statement.updatesDuplicates = true →
    NamedOrRefused statement.grammar .duplicateKeyUpdate statement.assignedNodes statement.duplicateKeyUpdate.outcome
  aliasDecided : AliasDecision statement statement.tableAlias
  aliasNotEmpty : statement.tableAlias ≠ .ok (some "")

/-- Every insertion answers each question for names as a whole, whatever stands in its slots. -/
theorem answersWhole_of_insertion (statement : Statement) (hroot : statement.tree.isA .insert = true) :
    statement.AnswersWhole := by
  have hnodes : statement.takesColumns = true → statement.columnNodes = .ok statement.columnList :=
    fun htakes => by rw [columnNodes_eq hroot, if_pos htakes]
  constructor
  case noTarget => exact columns_refused hroot
  case noColumns =>
    intro htakes
    have hempty : statement.hasNoColumns = .ok statement.columnList.isEmpty := by
      rw [hasNoColumns, hnodes htakes]
      rfl
    refine ⟨hempty, ?_⟩
    rw [outcome_columns_eq_none_iff (hnodes htakes), hempty, Except.ok.injEq, List.isEmpty_iff]
  case columns => exact fun htakes => namedOrRefused_columns (hnodes htakes)
  case columnsNotEmpty =>
    intro texts htexts
    cases htakes : statement.takesColumns with
    | false =>
      rw [(columns_refused hroot htakes).2] at htexts
      cases htexts
    | true =>
      have hnil : statement.columnList ≠ [] := by
        intro hnil
        rw [(outcome_columns_eq_none_iff (hnodes htakes)).mpr hnil] at htexts
        cases htexts
      have hanswer := namedOrRefused_columns (hnodes htakes) hnil
      rw [htexts] at hanswer
      exact List.ne_nil_of_length_pos (hanswer.length_eq ▸ List.length_pos_of_ne_nil hnil)
  case noAssigned =>
    refine ⟨fun hnone => ?_, outcome_duplicateKeyUpdate_of_false hroot⟩
    rw [← Bool.not_eq_true]
    exact fun h => (namedOrRefused_duplicateKeyUpdate hroot h).ne_none hnone
  case assigned => exact namedOrRefused_duplicateKeyUpdate hroot
  case aliasDecided => exact aliasDecision_tableAlias hroot
  case aliasNotEmpty => exact (aliasDecision_tableAlias hroot).ne_empty

/-- An insertion with a column list behind its target and another one behind the alias of its table. It assigns
to a column and to a number. -/
def doubleListInsertion : Statement where
  dialect := .mysql
  sql := ""
  tree := .bare .insert [
    ("this", .bare .schema [
      ("this", .bare .table [("this", .identifier "t" false), ("alias", .bare .tableAlias [
        ("this", .identifier "x" false), ("columns", .list [.identifier "c" false])])]),
      ("expressions", .list [.identifier "a" false, .column (.identifier "b" true)])]),
    ("alias", .text ""),
    ("conflict", .bare .onConflict [("duplicate", .flag true), ("expressions", .list [
      .bare (.binary .equal) [("this", .column (.identifier "a" false)), ("expression", .numberLiteral "1")],
      .numberLiteral "2"])])]

/-- The list behind the target counts, and a number is the first that is assigned without a name. -/
theorem answersWhole_of_insertion_doubleList :
    doubleListInsertion.tree.isA .insert = true ∧ doubleListInsertion.AnswersWhole ∧
      doubleListInsertion.columnList = [.identifier "a" false, .column (.identifier "b" true)] ∧
      doubleListInsertion.updatesDuplicates = true ∧
      IsFirst (fun node => isReference node = true) doubleListInsertion.assignedNodes (.numberLiteral "2") :=
  ⟨rfl, answersWhole_of_insertion doubleListInsertion rfl, rfl, rfl, [.column (.identifier "a" false)], [], rfl,
    List.forall_mem_singleton.mpr rfl, nofun⟩

/-- A clause that assigns nothing has a list of names that is empty. -/
theorem not_assigned_nonempty_bareClause :
    ¬∀ statement : Statement, statement.tree.isA .insert = true →
      ∀ texts, statement.duplicateKeyUpdate.outcome = .ok (some texts) → texts ≠ [] := by
  intro h
  let statement : Statement :=
    ⟨.postgresql, "", .bare .insert [("conflict", .bare .onConflict [("duplicate", .flag true), ("expressions", .list [])])]⟩
  exact h statement rfl [] rfl rfl

end Statement

end SqlInsert
