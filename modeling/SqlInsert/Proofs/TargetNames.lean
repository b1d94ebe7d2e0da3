import SqlInsert.Proofs.ColumnNames
import SqlInsert.Proofs.Delimiting
/-!
# What the name of a target tells

The name of a target is made of the names of its parts as they are written, with their comments, between points.
A name between quotes ends at its last quote, any other at a point or at the blank in front of a comment, and a
comment ends at its own mark. So the name tells the parts of the target, and it depends on nothing else.
-/

namespace SqlInsert

namespace Render

/-! ## Comments behind a text -/

/-- Nowhere in a text does one character stand in front of the other. -/
def IsApart (first second : Char) : List Char → Prop :=
  List.IsChain fun c d => ¬(c = first ∧ d = second)

/-- Taking two characters apart keeps the first character. -/
theorem head?_takenApart (first second : Char) (text : List Char) :
    (takenApart first second text).head? = text.head? := by
  fun_cases takenApart first second text <;> rfl

variable {first second : Char}

/-- Two characters that are taken apart stand side by side no more. -/
theorem isApart_takenApart (hfirst : first ≠ ' ') (hsecond : second ≠ ' ') (hne : first ≠ second)
    (text : List Char) : IsApart first second (takenApart first second text) := by
  unfold IsApart
  fun_induction takenApart first second text with
  | case1 => exact .nil
  | case2 c => exact .singleton c
  | case3 c d rest hpair ih =>
    -- A pair is parted by a blank, which is neither of the two.
    obtain ⟨rfl, rfl⟩ := hpair
    refine .cons_cons (fun h => hsecond h.2.symm) (.cons_cons (fun h => hfirst h.1.symm) ?_)
    exact List.isChain_cons.mpr ⟨fun _ _ h => hne h.1.symm, ih⟩
  | case4 c d rest hpair ih =>
    refine List.isChain_cons.mpr ⟨fun next hnext => ?_, ih⟩
    rw [head?_takenApart] at hnext
    cases hnext
    exact hpair

/-- Blanks between other characters do not bring two characters together. -/
theorem IsApart.takenApart {text : List Char} (h : IsApart first second text) (hfirst : first ≠ ' ')
    (hsecond : second ≠ ' ') (other other' : Char) : IsApart first second (takenApart other other' text) := by
  unfold IsApart at h ⊢
  fun_induction Render.takenApart other other' text with
  | case1 => exact .nil
  | case2 c => exact .singleton c
  | case3 c d rest hpair ih =>
    obtain ⟨_, hrest⟩ := List.isChain_cons_cons.mp h
    obtain ⟨hnext, hbehind⟩ := List.isChain_cons.mp hrest
    refine .cons_cons (fun h => hsecond h.2.symm) (.cons_cons (fun h => hfirst h.1.symm) ?_)
    rw [← head?_takenApart other other'] at hnext
    exact List.isChain_cons.mpr ⟨hnext, ih hbehind⟩
  | case4 c d rest hpair ih =>
    obtain ⟨hnext, hrest⟩ := List.isChain_cons.mp h
    rw [← head?_takenApart other other'] at hnext
    exact List.isChain_cons.mpr ⟨hnext, ih hrest⟩

/-- Two characters that stand nowhere else side by side tell what stands behind them. -/
theorem IsApart.append_injective {text text' rest rest' : List Char} (hne : first ≠ second)
    (h : IsApart first second text) (h' : IsApart first second text')
    (heq : text ++ first :: second :: rest = text' ++ first :: second :: rest') : rest = rest' := by
  -- If one text were longer, the pair behind the shorter one would lie inside of it.
  have hnil : ∀ {front between behind behind' : List Char}, IsApart first second (front ++ between) →
      first :: second :: behind = between ++ first :: second :: behind' → between = [] := by
    intro front between behind behind' hapart hsame
    match between with
    | [] => rfl
    | [c] =>
      obtain ⟨_, hsecond⟩ := List.cons.inj hsame
      exact absurd (List.cons.inj hsecond).1.symm hne
    | c :: d :: between =>
      obtain ⟨rfl, hsecond⟩ := List.cons.inj hsame
      obtain ⟨rfl, _⟩ := List.cons.inj hsecond
      have hinfix := (List.isChain_append.mp hapart).2.1
      exact absurd ⟨rfl, rfl⟩ (List.isChain_cons_cons.mp hinfix).1
  rcases List.append_eq_append_iff.mp heq with ⟨between, rfl, hrest⟩ | ⟨between, rfl, hrest⟩
  · rw [hnil h' hrest] at hrest
    exact (List.cons.inj (List.cons.inj hrest).2).2
  · rw [hnil h hrest] at hrest
    exact (List.cons.inj (List.cons.inj hrest).2).2.symm

/-- A comment with its marks. -/
def commentChars (comment : String) : List Char :=
  '/' :: '*' :: (commentContent comment ++ ['*', '/'])

/-- Comments behind a text, each behind a blank. -/
def noteChars (comments : List String) : List Char :=
  Text.behind [' '] ((comments.filter (· != "")).map commentChars)

/-- Comments stand behind the text as notes. -/
theorem toList_commentsBehind (comments : List String) (text : String) :
    (commentsBehind comments text).toList = text.toList ++ noteChars comments := by
  have hnotes : (commentsText comments).toList =
      [' '].intercalate ((comments.filter (· != "")).map commentChars) := by
    have hblocks : (comments.filter (· != "")).map
        (String.toList ∘ fun comment => "/*" ++ String.ofList (commentContent comment) ++ "*/") =
          (comments.filter (· != "")).map commentChars :=
      List.map_congr_left fun comment _ => by simp [commentChars]
    rw [commentsText, String.toList_intercalate, List.map_map, hblocks]
    rfl
  unfold commentsBehind noteChars
  cases hblocks : (comments.filter (· != "")).map commentChars with
  | nil =>
    rw [hblocks] at hnotes
    have hnone : commentsText comments = "" := String.toList_inj.mp hnotes
    simp only [hnone, if_true, Text.behind, List.append_nil]
  | cons block blocks =>
    rw [hblocks] at hnotes
    have hstart : block ≠ [] := by
      have hblock : block ∈ (comments.filter (· != "")).map commentChars := by
        rw [hblocks]
        exact List.mem_cons_self
      obtain ⟨comment, _, rfl⟩ := List.mem_map.mp hblock
      exact List.cons_ne_nil _ _
    have hsome : commentsText comments ≠ "" := by
      intro hnone
      rw [hnone, Text.intercalate_cons_eq] at hnotes
      exact hstart (List.append_eq_nil_iff.mp hnotes.symm).1
    simp only [hsome, if_false, String.toList_append, hnotes, Text.behind, List.append_assoc]
    rfl

/-- Comments are told apart from what follows, unless that starts with a blank. -/
theorem noteChars_append_injective {comments comments' : List String} {rest rest' : List Char}
    (hrest : rest.head? ≠ some ' ') (hrest' : rest'.head? ≠ some ' ')
    (h : noteChars comments ++ rest = noteChars comments' ++ rest') : rest = rest' := by
  have hcontent : ∀ comment, IsApart '*' '/' (commentContent comment) := fun comment =>
    (isApart_takenApart (by decide) (by decide) (by decide) _).takenApart (by decide) (by decide) '/' '*'
  unfold noteChars at h
  generalize comments.filter (· != "") = kept at h
  generalize comments'.filter (· != "") = kept' at h
  -- A comment ends at the first end mark, because it holds none itself.
  induction kept generalizing kept' with
  | nil =>
    cases kept' with
    | nil => exact h
    | cons comment' kept' => exact absurd (congrArg List.head? h) hrest
  | cons comment kept ih =>
    cases kept' with
    | nil => exact absurd (congrArg List.head? h).symm hrest'
    | cons comment' kept' =>
      simp only [List.map_cons, Text.behind_cons, commentChars, List.cons_append, List.append_assoc,
        List.nil_append, List.cons.injEq, true_and] at h
      exact ih _ ((hcontent comment).append_injective (by decide) (hcontent comment') h)

/-- Behind a name comes the blank of a note or what follows the notes. -/
theorem head?_noteChars_append {comments : List String} {rest : List Char} {c : Char}
    (h : c ∈ (noteChars comments ++ rest).head?) : c = ' ' ∨ c ∈ rest.head? := by
  unfold noteChars at h
  cases hblocks : (comments.filter (· != "")).map commentChars with
  | nil =>
    rw [hblocks] at h
    exact .inr h
  | cons block blocks =>
    rw [hblocks] at h
    cases h
    exact .inl rfl

/-- A note ends with a slash. -/
theorem eq_slash_of_mem_getLast?_noteChars {comments : List String} {c : Char}
    (h : c ∈ (noteChars comments).getLast?) : c = '/' := by
  unfold noteChars at h
  generalize comments.filter (· != "") = kept at h
  induction kept with
  | nil => cases h
  | cons comment kept ih =>
    rw [List.map_cons, Text.behind_cons, List.getLast?_append, List.getLast?_append] at h
    cases hrest : (Text.behind [' '] (kept.map commentChars)).getLast? with
    | some last =>
      rw [hrest] at h ih
      exact ih h
    | none =>
      have hlast : (commentChars comment).getLast? = some '/' := by
        unfold commentChars
        rw [← List.cons_append, ← List.cons_append, List.append_cons, List.getLast?_concat]
      rw [hrest, hlast] at h
      cases h
      rfl

/-! ## Names of parts -/

/-- How the name of a part is written: between quotes, or as it is. -/
inductive IsWritten (quote : Char) (name : String) : List Char → Prop
  | quoted : IsWritten quote name (enclosed quote name.toList)
  | plain (some : name ≠ "") (free : IsPlainName quote name) : IsWritten quote name name.toList

/-- A name is written in quotes, or plainly where it may be. -/
theorem isWritten_nameChars {grammar : Grammar} {quoted : Bool} {name : String}
    (h : quoted = false → name ≠ "" ∧ IsPlainName grammar.nameQuote name) :
    IsWritten grammar.nameQuote name (nameChars grammar quoted name) := by
  unfold nameChars
  split
  · exact .quoted
  · rename_i hbare
    obtain ⟨hquoted, _⟩ := Bool.or_eq_false_iff.mp (Bool.eq_false_of_not_eq_true hbare)
    obtain ⟨hsome, hfree⟩ := h hquoted
    rw [doubled_of_not_mem hfree.not_mem.2]
    exact .plain hsome hfree

variable {quote : Char} {name name' : String} {chars chars' : List Char}

/-- A written name is never empty. -/
theorem IsWritten.ne_nil (h : IsWritten quote name chars) : chars ≠ [] := by
  cases h with
  | quoted => exact List.cons_ne_nil _ _
  | plain hsome _ => exact fun hnil => hsome (String.toList_inj.mp hnil)

/-- A written name has no blank at its ends. -/
theorem IsWritten.ends (hquote : Text.isBlank quote = false) (h : IsWritten quote name chars) :
    (∀ c ∈ chars.head?, Text.isBlank c = false) ∧ ∀ c ∈ chars.getLast?, Text.isBlank c = false := by
  cases h with
  | quoted =>
    unfold enclosed
    rw [List.getLast?_concat]
    exact ⟨fun c hc => by cases hc; exact hquote, fun c hc => by cases hc; exact hquote⟩
  | plain _ hfree =>
    exact ⟨fun c hc => (hfree c (List.mem_of_mem_head? hc)).2.2, fun c hc => (hfree c (List.mem_of_mem_getLast? hc)).2.2⟩

/-- A plain name has no quote, not even in front. -/
theorem enclosed_append_ne {text rest rest' : List Char} (hsome : name ≠ "") (hfree : IsPlainName quote name) :
    enclosed quote text ++ rest ≠ name.toList ++ rest' := by
  intro h
  cases hname : name.toList with
  | nil => exact hsome (String.toList_inj.mp hname)
  | cons c others =>
    rw [hname] at h
    have hc : quote = c := (List.cons.inj h).1
    exact (hfree c (hname ▸ List.mem_cons_self)).2.1 hc.symm

/-- A plain name ends at a point or a blank. -/
theorem plainName_append_injective {rest rest' : List Char} (h : IsPlainName quote name)
    (h' : IsPlainName quote name') (hrest : ∀ c ∈ rest.head?, c = ' ' ∨ c = '.')
    (hrest' : ∀ c ∈ rest'.head?, c = ' ' ∨ c = '.') (heq : name.toList ++ rest = name'.toList ++ rest') :
    name = name' ∧ rest = rest' := by
  let inName (c : Char) : Bool := !(c == ' ' || c == '.')
  have hname : ∀ {name : String}, IsPlainName quote name → ∀ c ∈ name.toList, inName c = true := by
    intro name hfree c hc
    obtain ⟨hpoint, _, hblank⟩ := hfree c hc
    have hspace : c ≠ ' ' := by
      rintro rfl
      cases hblank
    simp [inName, hpoint, hspace]
  have hend : ∀ {rest : List Char}, (∀ c ∈ rest.head?, c = ' ' ∨ c = '.') → ∀ c ∈ rest.head?, inName c = false := by
    intro rest hrest c hc
    rcases hrest c hc with rfl | rfl <;> rfl
  exact (Text.run_append_injective (hname h) (hname h') (hend hrest) (hend hrest') heq).imp_left String.toList_inj.mp

/-- A written name is told apart from a point or a blank behind it. -/
theorem IsWritten.append_injective {rest rest' : List Char} (hpoint : quote ≠ '.') (hblank : quote ≠ ' ')
    (h : IsWritten quote name chars) (h' : IsWritten quote name' chars')
    (hrest : ∀ c ∈ rest.head?, c = ' ' ∨ c = '.') (hrest' : ∀ c ∈ rest'.head?, c = ' ' ∨ c = '.')
    (heq : chars ++ rest = chars' ++ rest') : name = name' ∧ rest = rest' := by
  have hend : ∀ {rest : List Char}, (∀ c ∈ rest.head?, c = ' ' ∨ c = '.') → rest.head? ≠ some quote := by
    intro rest hrest hquote
    rcases hrest quote hquote with hsame | hsame
    · exact hblank hsame
    · exact hpoint hsame
  -- Names of one form are told by their text, and no plain name is written like a quoted one.
  cases h with
  | quoted =>
    cases h' with
    | quoted => exact (enclosed_append_injective (hend hrest) (hend hrest') heq).imp_left String.toList_inj.mp
    | plain hsome hfree => exact absurd heq (enclosed_append_ne hsome hfree)
  | plain hsome hfree =>
    cases h' with
    | quoted => exact absurd heq.symm (enclosed_append_ne hsome hfree)
    | plain _ hfree' => exact plainName_append_injective hfree hfree' hrest hrest' heq

end Render

/-! ## Parts of a name -/

namespace Tree

/-- A part of a name is an identifier. Without quotes, its name is there and is plain. -/
structure IsNamePart (grammar : Grammar) (tree : Tree) (name : String) : Prop where
  form : tree.isA .identifier = true
  named : tree.slot "this" = .text name
  plain : (tree.slot "quoted").isGiven = false → name ≠ "" ∧ IsPlainName grammar.nameQuote name

/-- The parts of a table's name that are there. -/
def nameParts (table : Tree) : List Tree :=
  (["catalog", "db", "this"].map table.slot).filter (·.isGiven)

/-- The name of a table is its parts with points between them. -/
theorem tableName_eq (grammar : Grammar) (table : Tree) :
    table.tableName grammar = ".".intercalate (table.nameParts.map (·.sql grammar)) := rfl

variable {grammar : Grammar} {part part' : Tree} {name name' : String}

/-- A part is written as its name with its comments behind it. -/
theorem IsNamePart.exists_sql_eq (h : part.IsNamePart grammar name) :
    ∃ chars, Render.IsWritten grammar.nameQuote name chars ∧
      (part.sql grammar).toList = chars ++ Render.noteChars part.comments := by
  have hwritten := Render.isWritten_nameChars h.plain
  refine ⟨_, hwritten, ?_⟩
  rw [sql_of_identifier h.form h.named, ← String.ofList_toList (s := Render.commentsBehind _ _),
    Render.toList_commentsBehind, String.toList_ofList]
  generalize Render.nameChars grammar (part.slot "quoted").isGiven name = chars at hwritten
  obtain ⟨hfirst, hlast⟩ := hwritten.ends grammar.nameQuote_ne.2
  -- There is no blank at the ends that would be trimmed.
  rw [Text.trim_eq_self, String.toList_ofList]
  · obtain ⟨first, others, rfl⟩ := List.exists_cons_of_ne_nil hwritten.ne_nil
    exact hfirst
  · intro c hc
    rw [List.getLast?_append] at hc
    cases hnote : (Render.noteChars part.comments).getLast? with
    | none =>
      rw [hnote] at hc
      exact hlast c hc
    | some last =>
      rw [hnote] at hc
      cases hc
      rw [Render.eq_slash_of_mem_getLast?_noteChars hnote]
      rfl

/-- The text of a part is never empty. -/
theorem IsNamePart.sql_ne_nil (h : part.IsNamePart grammar name) : (part.sql grammar).toList ≠ [] := by
  obtain ⟨chars, hwritten, hsql⟩ := h.exists_sql_eq
  rw [hsql]
  exact List.append_ne_nil_of_left_ne_nil hwritten.ne_nil _

/-- A part is told apart from a point behind it, and its text tells its name. -/
theorem IsNamePart.sql_append_injective {rest rest' : List Char} (h : part.IsNamePart grammar name)
    (h' : part'.IsNamePart grammar name') (hrest : Text.IsBehind ['.'] rest) (hrest' : Text.IsBehind ['.'] rest')
    (heq : (part.sql grammar).toList ++ rest = (part'.sql grammar).toList ++ rest') : name = name' ∧ rest = rest' := by
  have hpoint : ∀ {rest : List Char}, Text.IsBehind ['.'] rest → ∀ c ∈ rest.head?, c = '.' := by
    rintro rest (rfl | ⟨others, rfl⟩) c hc
    · cases hc
    · cases hc
      rfl
  have hnoblank : ∀ {rest : List Char}, Text.IsBehind ['.'] rest → rest.head? ≠ some ' ' :=
    fun hrest hblank => absurd (hpoint hrest ' ' hblank) (by decide)
  have hquote : grammar.nameQuote ≠ ' ' := fun hblank => absurd grammar.nameQuote_ne.2 (by rw [hblank]; decide)
  obtain ⟨chars, hwritten, hsql⟩ := h.exists_sql_eq
  obtain ⟨chars', hwritten', hsql'⟩ := h'.exists_sql_eq
  rw [hsql, hsql', List.append_assoc, List.append_assoc] at heq
  obtain ⟨hname, hbehind⟩ := hwritten.append_injective grammar.nameQuote_ne.1 hquote hwritten'
    (fun c hc => (Render.head?_noteChars_append hc).imp_right (hpoint hrest c))
    (fun c hc => (Render.head?_noteChars_append hc).imp_right (hpoint hrest' c)) heq
  exact ⟨hname, Render.noteChars_append_injective (hnoblank hrest) (hnoblank hrest') hbehind⟩

/-- The parts hold the names they stand for. -/
theorem map_slot_of_nameParts {parts : List Tree} {names : List String}
    (h : List.Forall₂ (IsNamePart grammar) parts names) : parts.map (·.slot "this") = names.map Tree.text := by
  rw [← List.forall₂_eq_eq_eq, List.forall₂_map_left_iff, List.forall₂_map_right_iff]
  exact h.imp fun _ _ hpart => hpart.named

/-- Tables of one name have parts of the same names in the same order. -/
theorem names_eq_of_tableName_eq {table table' : Tree} {names names' : List String}
    (h : List.Forall₂ (IsNamePart grammar) table.nameParts names)
    (h' : List.Forall₂ (IsNamePart grammar) table'.nameParts names')
    (heq : table.tableName grammar = table'.tableName grammar) : names = names' := by
  have hchars := congrArg String.toList heq
  rw [tableName_eq, tableName_eq, String.toList_intercalate, String.toList_intercalate, List.map_map,
    List.map_map] at hchars
  have hparts : List.Forall₂ (fun part part' => part.slot "this" = part'.slot "this") table.nameParts
      table'.nameParts := by
    -- A part ends where a point or a note starts, so the parts are taken apart from the front.
    refine Text.forall₂_of_intercalate_eq (List.cons_ne_nil '.' []) ?_ ?_ ?_ hchars
    · intro part hpart
      obtain ⟨_, _, hname⟩ := exists_answer_of_mem h hpart
      exact hname.sql_ne_nil
    · intro part hpart
      obtain ⟨_, _, hname⟩ := exists_answer_of_mem h' hpart
      exact hname.sql_ne_nil
    · intro part hpart part' hpart' rest rest' hrest hrest' hsame
      obtain ⟨name, _, hname⟩ := exists_answer_of_mem h hpart
      obtain ⟨name', _, hname'⟩ := exists_answer_of_mem h' hpart'
      obtain ⟨rfl, hbehind⟩ := hname.sql_append_injective hname' hrest hrest' hsame
      exact ⟨hname.named.trans hname'.named.symm, hbehind⟩
  have htexts : names.map Tree.text = names'.map Tree.text := by
    rw [← map_slot_of_nameParts h, ← map_slot_of_nameParts h', ← List.forall₂_eq_eq_eq, List.forall₂_map_left_iff,
      List.forall₂_map_right_iff]
    exact hparts
  exact List.map_injective_iff.mpr (fun _ _ => Tree.text.inj) htexts

end Tree

/-! ## Targets -/

namespace Statement

/-- An insertion into a table, behind a column list or not, whose name has parts of these names. -/
structure HasTarget (statement : Statement) (names : List String) : Prop where
  root : statement.tree.isA .insert = true
  table : statement.targetTable.isA .table = true
  parts : List.Forall₂ (Tree.IsNamePart statement.grammar) statement.targetTable.nameParts names

/-- A statement with a target answers with the name of that target. -/
theorem HasTarget.tableName_eq {statement : Statement} {names : List String} (h : statement.HasTarget names) :
    statement.tableName = .ok (statement.targetTable.tableName statement.grammar) := by
  unfold tableName
  rw [table_eq, if_pos h.root, if_pos h.table]
  rfl

/-- The name of a target is always there. Targets of one name have as many parts, with the same names in the same
order; and targets with the same parts have one name, whatever aliases and columns the statements have. -/
theorem tableName_tells_parts {left right : Statement} {names names' : List String}
    (hgrammar : left.grammar = right.grammar) (hleft : left.HasTarget names) (hright : right.HasTarget names') :
    (∃ text text', left.tableName = .ok text ∧ right.tableName = .ok text') ∧
      (left.tableName = right.tableName → names = names') ∧
      (left.targetTable.nameParts = right.targetTable.nameParts → left.tableName = right.tableName) := by
  refine ⟨⟨_, _, hleft.tableName_eq, hright.tableName_eq⟩, fun h => ?_, fun h => ?_⟩
  · rw [hleft.tableName_eq, hright.tableName_eq, ← hgrammar] at h
    exact Tree.names_eq_of_tableName_eq hleft.parts (hgrammar ▸ hright.parts) (Except.ok.inj h)
  · rw [hleft.tableName_eq, hright.tableName_eq, Tree.tableName_eq, Tree.tableName_eq, h, hgrammar]

/-- A table whose database has a point in its name; the table has a reserved word for a name. -/
def reservedTable (quoted : Bool) (others : List (String × Tree)) : Tree :=
  .bare .table ([("this", .identifier "as" quoted), ("db", .identifier "a.b" true)] ++ others)

/-- An insertion into a target. -/
def insertionInto (target : Tree) : Statement where
  dialect := .mysql
  sql := ""
  tree := .bare .insert [("this", target)]

/-- A table with an alias, and the same table, its name without quotes, in front of a list of columns. -/
theorem tableName_tells_parts_reserved :
    let left := insertionInto (reservedTable true [("alias", .bare .tableAlias [("this", .identifier "x" false)])])
    let right := insertionInto (.bare .schema [("this", reservedTable false []),
      ("expressions", .list [.identifier "c" false])])
    left.grammar = right.grammar ∧ left.HasTarget ["a.b", "as"] ∧ right.HasTarget ["a.b", "as"] ∧
      left.tableName = right.tableName ∧ ["a.b", "as"] = ["a.b", "as"] := by
  intro left right
  have hword : "as" ≠ "" ∧ IsPlainName (Char.ofNat 96) "as" :=
    ⟨by decide, List.forall_mem_cons.mpr
      ⟨⟨by decide, by decide, rfl⟩, List.forall_mem_singleton.mpr ⟨by decide, by decide, rfl⟩⟩⟩
  have hleft : left.HasTarget ["a.b", "as"] :=
    ⟨rfl, rfl, .cons ⟨rfl, rfl, nofun⟩ (.cons ⟨rfl, rfl, nofun⟩ .nil)⟩
  have hright : right.HasTarget ["a.b", "as"] :=
    ⟨rfl, rfl, .cons ⟨rfl, rfl, nofun⟩ (.cons ⟨rfl, rfl, fun _ => hword⟩ .nil)⟩
  have hquotes : Render.needsQuotes .mysql "as" = true := by decide +kernel
  have hsame : (Tree.identifier "as" true).sql .mysql = (Tree.identifier "as" false).sql .mysql := by
    rw [Tree.sql_of_identifier rfl rfl, Tree.sql_of_identifier rfl rfl]
    unfold Render.nameChars
    rw [hquotes, Bool.or_true, Bool.or_true]
    rfl
  have hparts : left.targetTable.nameParts = [.identifier "a.b" true, .identifier "as" true] := rfl
  have hparts' : right.targetTable.nameParts = [.identifier "a.b" true, .identifier "as" false] := rfl
  have hname : left.tableName = right.tableName := by
    have hleftGrammar : left.grammar = .mysql := rfl
    have hrightGrammar : right.grammar = .mysql := rfl
    rw [hleft.tableName_eq, hright.tableName_eq, Tree.tableName_eq, Tree.tableName_eq, hparts, hparts',
      hleftGrammar, hrightGrammar]
    simp only [List.map_cons, List.map_nil, hsame]
  have hgrammar : left.grammar = right.grammar := rfl
  exact ⟨hgrammar, hleft, hright, hname, (tableName_tells_parts hgrammar hleft hright).2.1 hname⟩

end Statement

end SqlInsert
