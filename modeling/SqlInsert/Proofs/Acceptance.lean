import SqlInsert.CommandLine.Recognize
import SqlInsert.Proofs.Outcome
/-!
# Texts that hold one statement

A text is accepted if all but one of its pieces are empty, wherever the one stands; it is read only if its
first piece is not empty. The two agree on every accepted text that begins with its statement, and on no
other: an empty piece in front of the statement is passed over by the one and taken for the statement by
the other. A text with more than one statement is never accepted.
-/

namespace SqlInsert

namespace Sql

/-! ## Pieces -/

/-- The pieces of a row of tokens that are not empty. A row without semicolons has one unless it is empty, and
every semicolon divides a row. -/
def heldPieces (row : List Lexeme) : List (List Lexeme) :=
  (pieces row).filter (!·.isEmpty)

/-- What a semicolon leaves: a piece of its own if comments belong to it. -/
def stopPieces (comments : List String) : List (List Lexeme) :=
  if comments.isEmpty then [] else [[⟨.stop, comments⟩]]

/-- One step at a semicolon: it closes the current piece, and without anything behind it the row ends. -/
theorem piecesFrom_stop (done : List (List Lexeme)) (current rest : List Lexeme) (comments : List String) :
    piecesFrom done current (⟨.stop, comments⟩ :: rest) =
      if rest.isEmpty then ((stopPieces comments).reverse ++ current.reverse :: done).reverse
      else piecesFrom ((stopPieces comments).reverse ++ current.reverse :: done) [] rest := by
  rw [piecesFrom, stopPieces]
  cases comments <;> rfl

/-- One step at any other token: it belongs to the current piece. -/
theorem piecesFrom_token (done : List (List Lexeme)) (current rest : List Lexeme) {lexeme : Lexeme}
    (h : lexeme.token ≠ .stop) :
    piecesFrom done current (lexeme :: rest) = piecesFrom done (lexeme :: current) rest := by
  rw [piecesFrom]
  rintro comments rfl
  exact h rfl

/-- The pieces read so far stay in front. -/
theorem piecesFrom_eq_append (done : List (List Lexeme)) (current row : List Lexeme) :
    piecesFrom done current row = done.reverse ++ piecesFrom [] current row := by
  induction row generalizing done current with
  | nil => rw [piecesFrom, piecesFrom, List.reverse_cons, List.reverse_singleton]
  | cons lexeme rest ih =>
    by_cases hstop : lexeme.token = .stop
    · obtain ⟨token, comments⟩ := lexeme
      cases hstop
      rw [piecesFrom_stop, piecesFrom_stop]
      split_ifs with hrest
      · simp only [List.reverse_append, List.reverse_cons, List.append_assoc, List.reverse_nil, List.nil_append]
      · rw [ih, ih (_ ++ [_])]
        simp only [List.reverse_append, List.reverse_cons, List.append_assoc, List.reverse_nil, List.nil_append]
    · rw [piecesFrom_token done current rest hstop, piecesFrom_token [] current rest hstop]
      exact ih done (lexeme :: current)

/-- A row without semicolons is one piece. -/
theorem pieces_of_no_stop {row : List Lexeme} (h : ∀ lexeme ∈ row, lexeme.token ≠ .stop) : pieces row = [row] := by
  have hpieces : ∀ current, piecesFrom [] current row = [current.reverse ++ row] := by
    induction row with
    | nil => exact fun current => by rw [piecesFrom, List.append_nil, List.reverse_singleton]
    | cons lexeme rest ih =>
      obtain ⟨hlexeme, hrest⟩ := List.forall_mem_cons.mp h
      intro current
      rw [piecesFrom_token [] current rest hlexeme, ih hrest, List.reverse_cons, List.append_assoc,
        List.singleton_append]
  exact hpieces []

/-- The piece that the comments of a semicolon make is not empty. -/
theorem filter_stopPieces (comments : List String) :
    (stopPieces comments).filter (!·.isEmpty) = stopPieces comments := by
  cases comments <;> rfl

/-- Whether or not anything is behind a semicolon makes no difference to the pieces that are not empty. -/
theorem filter_piecesFrom_stop (current rest : List Lexeme) (comments : List String) :
    (piecesFrom [] current (⟨.stop, comments⟩ :: rest)).filter (!·.isEmpty) =
      [current.reverse].filter (!·.isEmpty) ++ stopPieces comments ++ heldPieces rest := by
  rw [piecesFrom_stop]
  split_ifs with hrest
  · have hempty : heldPieces rest = [] := by
      rw [List.isEmpty_iff.mp hrest]
      rfl
    rw [hempty, List.append_nil, List.reverse_append, List.reverse_reverse, List.reverse_singleton,
      List.filter_append, filter_stopPieces]
  · rw [piecesFrom_eq_append, List.reverse_append, List.reverse_reverse, List.reverse_singleton,
      List.filter_append, List.filter_append, filter_stopPieces, heldPieces, pieces]

/-- A semicolon ends the piece in front of it, so the pieces on both sides are found apart. -/
theorem filter_piecesFrom_append_stop (current front back : List Lexeme) (comments : List String) :
    (piecesFrom [] current (front ++ ⟨.stop, comments⟩ :: back)).filter (!·.isEmpty) =
      (piecesFrom [] current front).filter (!·.isEmpty) ++ stopPieces comments ++ heldPieces back := by
  -- The piece that is being read varies; a semicolon in the front starts a new one.
  induction front generalizing current with
  | nil => rw [List.nil_append, filter_piecesFrom_stop, piecesFrom, List.reverse_singleton]
  | cons lexeme rest ih =>
    rw [List.cons_append]
    by_cases hstop : lexeme.token = .stop
    · obtain ⟨token, own⟩ := lexeme
      cases hstop
      have hrest : heldPieces (rest ++ ⟨.stop, comments⟩ :: back) =
          heldPieces rest ++ stopPieces comments ++ heldPieces back := ih []
      rw [filter_piecesFrom_stop, filter_piecesFrom_stop, hrest]
      simp only [List.append_assoc]
    · rw [piecesFrom_token [] current _ hstop, piecesFrom_token [] current rest hstop]
      exact ih (lexeme :: current)

/-- A semicolon divides a row: the pieces in front of it and those behind it are pieces of the whole. -/
theorem heldPieces_append_stop (front back : List Lexeme) (comments : List String) :
    heldPieces (front ++ ⟨.stop, comments⟩ :: back) = heldPieces front ++ stopPieces comments ++ heldPieces back :=
  filter_piecesFrom_append_stop [] front back comments

/-- Pieces that are not empty on both sides of a semicolon are more than one. -/
theorem length_heldPieces_ne_one {front back : List Lexeme} {comments : List String} (hfront : heldPieces front ≠ [])
    (hback : heldPieces back ≠ []) : (heldPieces (front ++ ⟨.stop, comments⟩ :: back)).length ≠ 1 := by
  have hfirst := List.length_pos_iff.mpr hfront
  have hsecond := List.length_pos_iff.mpr hback
  rw [heldPieces_append_stop, List.length_append, List.length_append]
  omega

/-! ## Entries -/

/-- A piece gives an entry without a statement only if it is empty. -/
theorem readStatement_eq_none_iff {grammar : Grammar} (piece : List Lexeme) :
    readStatement grammar piece = .ok none ↔ piece = [] := by
  constructor
  · intro h
    unfold readStatement at h
    split_ifs at h with hempty
    · exact List.isEmpty_iff.mp hempty
    · dsimp only at h
      split at h
      · cases h
      · split_ifs at h
        split at h <;> cases h
  · rintro rfl
    rfl

section

variable {read : PieceReader} {grammar : Grammar} {text : String} {row : List Lexeme}

/-- The entries of a text are those of its pieces. -/
theorem entriesBy_eq_ok_iff {entries : List (Option Tree)} :
    entriesBy read grammar text = .ok entries ↔
      ∃ row, tokens grammar text = .ok row ∧
        List.Forall₂ (fun piece entry => read piece = .ok entry) (pieces row) entries := by
  unfold entriesBy
  cases tokens grammar text with
  | error error => simp only [reduceCtorEq, false_and, exists_false]
  | ok row => simp only [mapM_eq_ok_iff, Except.ok.injEq, exists_eq_left']

/-- There are as many statements as pieces that are not empty, if a reader finds nothing in the empty piece
alone. -/
theorem count_entriesBy (hread : ∀ piece, read piece = .ok none ↔ piece = []) {entries : List (Option Tree)}
    (hrow : tokens grammar text = .ok row) (hentries : entriesBy read grammar text = .ok entries) :
    (entries.filter Option.isSome).length = (heldPieces row).length := by
  obtain ⟨_, hfound, hpieces⟩ := entriesBy_eq_ok_iff.mp hentries
  cases hrow.symm.trans hfound
  refine (List.rel_filter ?_ hpieces).length_eq.symm
  intro piece entry hentry
  cases entry with
  | none => simp only [(hread piece).mp hentry, List.isEmpty_nil, Bool.not_true, Option.isSome_none]
  | some tree =>
    have hheld : piece ≠ [] := fun hempty => by
      rw [(hread piece).mpr hempty] at hentry
      cases hentry
    simp only [Option.isSome_some, Bool.not_eq_true', List.isEmpty_eq_false_iff, ne_eq, hheld, not_false_eq_true]

end

/-- The entries hold one statement, which stands behind so many empty ones; all entries behind it are empty. -/
def HoldsOne (entries : Except ReadError (List (Option Tree))) (lead : Nat) (tree : Tree) : Prop :=
  ∃ trail, entries = .ok (List.replicate lead none ++ some tree :: List.replicate trail none)

/-- A text without semicolons holds the statement that is read of it. -/
theorem holdsOne_of_no_stop {read : PieceReader} {grammar : Grammar} {text : String} {row : List Lexeme} {tree : Tree}
    (hrow : tokens grammar text = .ok row) (hstop : ∀ lexeme ∈ row, lexeme.token ≠ .stop)
    (hread : read row = .ok (some tree)) : HoldsOne (entriesBy read grammar text) 0 tree := by
  refine ⟨0, entriesBy_eq_ok_iff.mpr ⟨row, hrow, ?_⟩⟩
  rw [pieces_of_no_stop hstop]
  exact .cons hread .nil

/-- How many empty pieces stand in front of the last one, if that is the one that holds a statement. -/
def leadOf? : List (Option Tree) → Option Nat
  | [] => none
  | none :: rest => (leadOf? rest).map (· + 1)
  | some _ :: rest => if rest.isEmpty then some 0 else none

/-- A lead is counted over empty entries only, and one statement follows them. -/
theorem exists_of_leadOf? {entries : List (Option Tree)} {lead : Nat} (h : leadOf? entries = some lead) :
    ∃ tree, entries = List.replicate lead none ++ [some tree] := by
  induction entries generalizing lead with
  | nil => cases h
  | cons entry rest ih =>
    cases entry with
    | none =>
      obtain ⟨fewer, hfewer, rfl⟩ := Option.map_eq_some_iff.mp h
      obtain ⟨tree, hrest⟩ := ih hfewer
      exact ⟨tree, by rw [hrest, List.replicate_succ, List.cons_append]⟩
    | some tree =>
      cases rest with
      | nil =>
        cases h
        exact ⟨tree, rfl⟩
      | cons next rest => cases h

/-- That there is one statement among entries can be found out. -/
theorem exists_holdsOne {entries : Except ReadError (List (Option Tree))} {lead : Nat}
    (h : entries.toOption.bind leadOf? = some lead) : ∃ tree, HoldsOne entries lead tree := by
  cases entries with
  | error error => cases h
  | ok entries =>
    obtain ⟨tree, rfl⟩ := exists_of_leadOf? h
    exact ⟨tree, 0, rfl⟩

end Sql

/-- One of some entries holds something exactly if the others in front of it and behind it hold nothing. -/
theorem length_filter_isSome_eq_one_iff {α : Type} {entries : List (Option α)} :
    (entries.filter Option.isSome).length = 1 ↔
      ∃ lead value trail, entries = List.replicate lead none ++ some value :: List.replicate trail none := by
  constructor
  · intro h
    -- Behind the entry that holds something nothing may be held, so the rest is all empty.
    induction entries with
    | nil => cases h
    | cons entry rest ih =>
      cases entry with
      | none =>
        obtain ⟨lead, value, trail, rfl⟩ := ih h
        exact ⟨lead + 1, value, trail, rfl⟩
      | some value =>
        refine ⟨0, value, rest.length, ?_⟩
        have hrest : ∀ entry ∈ rest, entry = none := by
          intro entry hentry
          have hnone := List.filter_eq_nil_iff.mp (List.length_eq_zero_iff.mp (Nat.succ.inj h)) entry hentry
          exact Option.not_isSome_iff_eq_none.mp hnone
        rw [List.replicate_zero, List.nil_append, List.eq_replicate_of_mem hrest, List.length_replicate]
  · rintro ⟨lead, value, trail, rfl⟩
    simp

/-! ## Acceptance and reading -/

section

variable {read : Sql.PieceReader} {grammar : Grammar} {text : String} {row : List Sql.Lexeme}

/-- A text is accepted if it is neither blank nor too long and holds one statement, wherever it stands. -/
theorem refusedTextBy?_eq_none_iff :
    refusedTextBy? read grammar text = none ↔
      text.all Text.isBlank = false ∧ text.length ≤ textLengthLimit ∧
        ∃ lead tree, Sql.HoldsOne (Sql.entriesBy read grammar text) lead tree := by
  unfold refusedTextBy? Sql.HoldsOne
  cases text.all Text.isBlank with
  | true => simp only [if_true, reduceCtorEq, Bool.true_eq_false, false_and]
  | false =>
    by_cases hlength : textLengthLimit < text.length
    · simp only [Bool.false_eq_true, if_false, hlength, if_true, reduceCtorEq, Nat.not_le.mpr hlength, false_and,
        and_false]
    · have hshort : text.length ≤ textLengthLimit := Nat.not_lt.mp hlength
      simp only [Bool.false_eq_true, if_false, hlength, hshort, true_and]
      cases Sql.entriesBy read grammar text with
      | error error => simp only [reduceCtorEq, exists_false]
      | ok entries =>
        simp only [ite_eq_left_iff, reduceCtorEq, imp_false, not_not, Except.ok.injEq,
          length_filter_isSome_eq_one_iff]

/-- A text with some number of statements other than one is refused with that number, or as it cannot be
read. -/
theorem refusedTextBy?_of_count (hread : ∀ piece, read piece = .ok none ↔ piece = [])
    (hblank : text.all Text.isBlank = false) (hlength : text.length ≤ textLengthLimit)
    (hrow : Sql.tokens grammar text = .ok row) (hcount : (Sql.heldPieces row).length ≠ 1) :
    refusedTextBy? read grammar text = some (.miscounted (Sql.heldPieces row).length) ∨
      ∃ error, refusedTextBy? read grammar text = some (.unreadable error) := by
  unfold refusedTextBy?
  simp only [hblank, Bool.false_eq_true, if_false, Nat.not_lt.mpr hlength]
  cases hentries : Sql.entriesBy read grammar text with
  | error error => exact .inr ⟨error, rfl⟩
  | ok entries =>
    have hsome := Sql.count_entriesBy hread hrow hentries
    simp only [hsome, hcount, if_false, true_or]

/-- What is read with a journal is the first entry of the text. -/
theorem outcome_readStatementBy (read : Sql.PieceReader) (grammar : Grammar) (text : String) :
    (readStatementBy read grammar text).outcome = Sql.firstBy read grammar text := by
  unfold readStatementBy
  simp only [Logged.outcome_bind, Logged.outcome_note, Logged.outcome_reporting, Logged.outcome_ofExcept, ok_bind]

/-- The one statement of a text is read where nothing is in front of it; an empty piece in front of it is
read instead, and holds nothing. -/
theorem readStatementBy_of_holdsOne {lead : Nat} {tree : Tree}
    (h : Sql.HoldsOne (Sql.entriesBy read grammar text) lead tree) :
    (readStatementBy read grammar text).outcome = if lead = 0 then .ok tree else .error .nothing := by
  obtain ⟨trail, hentries⟩ := h
  rw [outcome_readStatementBy, Sql.firstBy, hentries]
  cases lead <;> rfl

/-- The command goes on with a tree if the text is accepted and the tree, an insertion, is read from it. -/
theorem acceptedTreeBy_eq_ok_iff {columns : Nat} {dialect : Dialect} {tree : Tree} :
    (CommandLine.acceptedTreeBy read columns dialect text).outcome = .ok tree ↔
      refusedTextBy? read dialect.grammar text = none ∧ Sql.firstBy read dialect.grammar text = .ok tree ∧
        tree.isA .insert = true := by
  unfold CommandLine.acceptedTreeBy
  cases hrefused : refusedTextBy? read dialect.grammar text with
  | some refusal => simp only [CommandLine.refuse, reduceCtorEq, false_and]
  | none =>
    simp only [Logged.outcome_bind, Logged.mapError, outcome_readStatementBy, true_and]
    rw [bind_eq_ok_iff]
    simp only [mapError_eq_ok_iff]
    constructor
    · rintro ⟨found, hfound, haccepted⟩
      unfold refusedStatement? at haccepted
      cases hinsert : found.isA .insert with
      | false =>
        rw [hinsert] at haccepted
        cases haccepted
      | true =>
        rw [hinsert] at haccepted
        cases haccepted
        exact ⟨hfound, hinsert⟩
    · rintro ⟨hfound, hinsert⟩
      refine ⟨tree, hfound, ?_⟩
      unfold refusedStatement?
      rw [if_pos hinsert]
      rfl

end

/-- What is accepted against what is read, with any reader that finds nothing in the empty piece alone. A text
with one statement is accepted wherever the statement stands, but read only if no empty piece is in front of it;
a text without semicolons has nothing in front. A text with several statements is accepted nowhere, and there are
several if pieces that are not empty stand on both sides of a semicolon. So what the command goes on with is all
that the text holds. -/
theorem accepted_against_read (read : Sql.PieceReader) (hread : ∀ piece, read piece = .ok none ↔ piece = [])
    (dialect : Dialect) (text : String) :
    (refusedTextBy? read dialect.grammar text = none ↔
      text.all Text.isBlank = false ∧ text.length ≤ textLengthLimit ∧
        ∃ lead tree, Sql.HoldsOne (Sql.entriesBy read dialect.grammar text) lead tree) ∧
    (∀ lead tree, Sql.HoldsOne (Sql.entriesBy read dialect.grammar text) lead tree →
      (readStatementBy read dialect.grammar text).outcome = if lead = 0 then .ok tree else .error .nothing) ∧
    (∀ row tree, Sql.tokens dialect.grammar text = .ok row → (∀ lexeme ∈ row, lexeme.token ≠ .stop) →
      read row = .ok (some tree) → Sql.HoldsOne (Sql.entriesBy read dialect.grammar text) 0 tree) ∧
    (∀ row, text.all Text.isBlank = false → text.length ≤ textLengthLimit →
      Sql.tokens dialect.grammar text = .ok row → 1 < (Sql.heldPieces row).length →
        refusedTextBy? read dialect.grammar text = some (.miscounted (Sql.heldPieces row).length) ∨
          ∃ error, refusedTextBy? read dialect.grammar text = some (.unreadable error)) ∧
    (∀ front comments back, Sql.tokens dialect.grammar text = .ok (front ++ ⟨.stop, comments⟩ :: back) →
      Sql.heldPieces front ≠ [] → Sql.heldPieces back ≠ [] → refusedTextBy? read dialect.grammar text ≠ none) ∧
    ∀ columns tree, (CommandLine.acceptedTreeBy read columns dialect text).outcome = .ok tree →
      Sql.HoldsOne (Sql.entriesBy read dialect.grammar text) 0 tree := by
  refine ⟨refusedTextBy?_eq_none_iff, fun _ _ h => readStatementBy_of_holdsOne h,
    fun _ _ hrow hstop htree => Sql.holdsOne_of_no_stop hrow hstop htree, ?_, ?_, ?_⟩
  · intro row hblank hlength hrow hseveral
    exact refusedTextBy?_of_count hread hblank hlength hrow (Nat.ne_of_gt hseveral)
  · intro front comments back hrow hfront hback haccepted
    obtain ⟨hblank, hlength, _⟩ := refusedTextBy?_eq_none_iff.mp haccepted
    rcases refusedTextBy?_of_count hread hblank hlength hrow (Sql.length_heldPieces_ne_one hfront hback) with
      h | ⟨error, h⟩ <;> cases haccepted.symm.trans h
  · intro columns tree h
    obtain ⟨haccepted, hfound, _⟩ := acceptedTreeBy_eq_ok_iff.mp h
    -- An empty piece in front would have been read instead, so there is none.
    obtain ⟨_, _, lead, held, hone⟩ := refusedTextBy?_eq_none_iff.mp haccepted
    have houtcome := readStatementBy_of_holdsOne hone
    rw [outcome_readStatementBy, hfound] at houtcome
    split_ifs at houtcome with hlead
    cases houtcome
    exact hlead ▸ hone

/-- A closing semicolon leaves one statement, while a statement on each side of one is refused. -/
theorem accepted_against_read_semicolons :
    (∃ tree, refusedText? Dialect.mysql.grammar "INSERT INTO t VALUES (1);" = none ∧
      (readStatement Dialect.mysql.grammar "INSERT INTO t VALUES (1);").outcome = .ok tree) ∧
      refusedText? Dialect.mysql.grammar "DELETE FROM t; INSERT INTO t VALUES (1)" ≠ none := by
  constructor
  · obtain ⟨tree, hone⟩ : ∃ tree, Sql.HoldsOne (Sql.statements .mysql "INSERT INTO t VALUES (1);") 0 tree :=
      Sql.exists_holdsOne (by decide +kernel)
    have hblank : "INSERT INTO t VALUES (1);".all Text.isBlank = false := by
      rw [String.all_bool_eq]
      decide +kernel
    obtain ⟨haccepted, hread, _⟩ :=
      accepted_against_read (Sql.readStatement .mysql) Sql.readStatement_eq_none_iff .mysql "INSERT INTO t VALUES (1);"
    exact ⟨tree, haccepted.mpr ⟨hblank, by decide +kernel, 0, tree, hone⟩, hread 0 tree hone⟩
  · have hseveral : ((Sql.tokens Dialect.mysql.grammar "DELETE FROM t; INSERT INTO t VALUES (1)").toOption.any
        fun row => decide (1 < (Sql.heldPieces row).length)) = true := by
      decide +kernel
    have hblank : "DELETE FROM t; INSERT INTO t VALUES (1)".all Text.isBlank = false := by
      rw [String.all_bool_eq]
      decide +kernel
    cases hrow : Sql.tokens Dialect.mysql.grammar "DELETE FROM t; INSERT INTO t VALUES (1)" with
    | error error =>
      rw [hrow] at hseveral
      cases hseveral
    | ok row =>
      rw [hrow] at hseveral
      obtain ⟨_, _, _, hrefused, _⟩ := accepted_against_read (Sql.readStatement .mysql) Sql.readStatement_eq_none_iff
        .mysql "DELETE FROM t; INSERT INTO t VALUES (1)"
      intro hnone
      rcases hrefused row hblank (by decide +kernel) hrow (of_decide_eq_true hseveral) with h | ⟨error, h⟩ <;>
        cases h.symm.trans hnone

/-- An insertion behind an empty piece. -/
def emptyPieceFirst : String := "; INSERT INTO t VALUES (1)"

/-- The text holds one statement, behind one piece that holds none. -/
theorem holdsOne_emptyPieceFirst :
    ∃ tree, Sql.HoldsOne (Sql.statements Dialect.mysql.grammar emptyPieceFirst) 1 tree :=
  Sql.exists_holdsOne (by decide +kernel)

/-- A statement behind an empty piece passes the acceptance and is then not found by the reading. -/
theorem not_read_emptyPieceFirst :
    refusedText? Dialect.mysql.grammar emptyPieceFirst = none ∧
      (readStatement Dialect.mysql.grammar emptyPieceFirst).outcome = .error .nothing ∧
      ¬∀ (dialect : Dialect) (text : String), refusedText? dialect.grammar text = none →
        ∃ tree, (readStatement dialect.grammar text).outcome = .ok tree := by
  obtain ⟨tree, hone⟩ := holdsOne_emptyPieceFirst
  have hblank : emptyPieceFirst.all Text.isBlank = false := by
    rw [String.all_bool_eq]
    decide +kernel
  have hlength : emptyPieceFirst.length ≤ textLengthLimit := by decide +kernel
  have haccepted : refusedText? Dialect.mysql.grammar emptyPieceFirst = none :=
    refusedTextBy?_eq_none_iff.mpr ⟨hblank, hlength, 1, tree, hone⟩
  have hread : (readStatement Dialect.mysql.grammar emptyPieceFirst).outcome = .error .nothing :=
    readStatementBy_of_holdsOne hone
  refine ⟨haccepted, hread, fun h => ?_⟩
  obtain ⟨other, hother⟩ := h .mysql emptyPieceFirst haccepted
  rw [hread] at hother
  cases hother

end SqlInsert
