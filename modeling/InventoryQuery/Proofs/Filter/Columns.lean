import InventoryQuery.Proofs.Filter.Parsed
import InventoryQuery.Proofs.Filter.RoundTrip

/-! Canonical texts of comparisons with columns. A column name is printed without
quotes, so it must be plain. Otherwise no reading of the canonical text gives the same
names: a text has a quote character for each in its names and two more for every
quoted value, so the same names leave no room for a quoted value. -/
namespace InventoryQuery.Filter

open Text (Span)

variable {σ : Type}

theorem countP_eq_zero_of_class {p : Char → Bool} {cs : List Char}
    (inside : ∀ c ∈ cs, p c = true) (single : p '\'' = false) (double : p '"' = false) :
    cs.countP isQuote = 0 := by
  refine List.countP_eq_zero.2 fun c member quote => ?_
  have here := inside c member
  rcases isQuote_iff.1 quote with rfl | rfl <;> simp_all

namespace Quoted

theorem countP_unescape (delimiter : Char) (cs : List Char) :
    (unescape delimiter cs).countP isQuote = cs.countP isQuote := by
  have backslash : isQuote '\\' = false := by decide
  fun_induction unescape delimiter cs with
  | case1 c cs special ih => simp [List.countP_cons, backslash, ih]
  | case2 c cs special ih => simp [List.countP_cons, backslash, ih]
  | case3 => rfl
  | case4 c cs other ih => simp [List.countP_cons, ih]

end Quoted

namespace Value

def isQuoted : Value → Bool
  | quoted _ _ _ _ => true
  | word _ _ => false

theorem countP_text (v : Value) :
    v.text.countP isQuote = v.content.countP isQuote + 2 * v.isQuoted.toNat := by
  cases v with
  | quoted delimiter content quote inside =>
    simp [text, Value.content, isQuoted, Quoted.countP_unescape, quote]
  | word run unquoted => rfl

theorem isPlainName_content {v : Value} (unquoted : v.isQuoted = false) :
    isPlainName v.content = true := by
  cases v with
  | quoted delimiter content quote inside => simp [isQuoted] at unquoted
  | word run start => exact isPlainName_iff.2 ⟨run.nonempty, run.inside, start⟩

end Value

theorem Clause.countP_text (k : Clause) :
    k.text.countP isQuote = k.value.text.countP isQuote := by
  have column := countP_eq_zero_of_class k.column.inside rfl rfl
  have gap := countP_eq_zero_of_class k.gap.inside rfl rfl
  have operator := countP_eq_zero_of_class k.operator.inside (by decide) (by decide)
  have valueGap := countP_eq_zero_of_class k.valueGap.inside rfl rfl
  have form : k.form.text.countP isQuote = 0 := by
    cases k.form with
    | plain => rfl
    | column gap_ | color gap_ =>
      simp only [Form.text, List.countP_append, countP_eq_zero_of_class gap_.inside rfl rfl]
      rfl
  simp only [text, beforeValue, beforeOperator, List.countP_append, column, gap, form, operator,
    valueGap, Nat.zero_add]

mutual

def Sentence.clauses : Sentence → List Clause
  | .group _ _ _ members _ => members.clauses
  | .comparison clause => [clause]

def Members.clauses : Members → List Clause
  | .one sentence => sentence.clauses
  | .more sentence _ _ rest => sentence.clauses ++ rest.clauses

end

theorem countP_opening (connective : Connective) (beforeParen afterParen : Blanks) :
    (opening connective beforeParen afterParen).countP isQuote = 0 := by
  have before := countP_eq_zero_of_class beforeParen.inside rfl rfl
  have after := countP_eq_zero_of_class afterParen.inside rfl rfl
  have paren : isQuote '(' = false := by decide
  cases connective <;>
    simp [opening, Connective.keyword, before, after, paren, List.countP_cons] <;> decide

mutual

theorem Sentence.countP_text : (s : Sentence) → s.text.countP isQuote =
    (s.clauses.flatMap (·.value.content)).countP isQuote + 2 * s.clauses.countP (·.value.isQuoted)
  | .group connective beforeParen afterParen members beforeClose => by
    have close := countP_eq_zero_of_class beforeClose.inside rfl rfl
    have paren : [')'].countP isQuote = 0 := by decide
    simp only [Sentence.text, Sentence.clauses, List.countP_append, countP_opening, close, paren,
      members.countP_text, Nat.zero_add, Nat.add_zero]
  | .comparison clause => by
    rw [Sentence.text, clause.countP_text, clause.value.countP_text, Sentence.clauses]
    cases quoted : clause.value.isQuoted <;> simp [quoted]

theorem Members.countP_text : (m : Members) → m.text.countP isQuote =
    (m.clauses.flatMap (·.value.content)).countP isQuote + 2 * m.clauses.countP (·.value.isQuoted)
  | .one sentence => sentence.countP_text
  | .more sentence beforeComma afterComma rest => by
    have before := countP_eq_zero_of_class beforeComma.inside rfl rfl
    have after := countP_eq_zero_of_class afterComma.inside rfl rfl
    have comma : isQuote ',' = false := by decide
    simp only [Members.text, Members.clauses, List.countP_append, List.countP_cons, comma, before,
      after, sentence.countP_text, rest.countP_text, List.flatMap_append]
    simp only [Nat.zero_add, Bool.false_eq_true, if_false, Nat.mul_add]
    omega

end

mutual

theorem Sentence.operands_tree : (s : Sentence) → (offset : Nat) →
    (s.tree offset).comparisons.map (·.operand) =
      s.clauses.map fun k => k.value.operand k.form.mode
  | .group _ _ _ members _, offset => by
    rw [Sentence.tree, Tree.comparisons, members.operands_trees, Sentence.clauses]
  | .comparison clause, offset => rfl

theorem Members.operands_trees : (m : Members) → (offset : Nat) →
    (Tree.comparisonsOf (m.trees offset)).map (·.operand) =
      m.clauses.map fun k => k.value.operand k.form.mode
  | .one sentence, offset => by
    rw [Members.trees, Tree.comparisonsOf, Tree.comparisonsOf, List.append_nil,
      sentence.operands_tree, Members.clauses]
  | .more sentence _ _ rest, offset => by
    rw [Members.trees, Tree.comparisonsOf, List.map_append, sentence.operands_tree,
      rest.operands_trees, Members.clauses, List.map_append]

end

namespace Tree

mutual

theorem countP_canonical : (t : Tree σ) →
    (∀ c ∈ t.comparisons, c.canonical.countP isQuote = c.operand.canonical.countP isQuote) →
    t.canonical.countP isQuote = (t.comparisons.flatMap (·.operand.canonical)).countP isQuote
  | group connective members _, each => by
    have opens : isQuote '(' = false := by decide
    have blank : isQuote ' ' = false := by decide
    have closes : [')'].countP isQuote = 0 := by decide
    have keyword : connective.keyword.toList.countP isQuote = 0 := by cases connective <;> decide
    rw [canonical, comparisons, List.countP_append, List.countP_cons, List.countP_cons,
      List.countP_append, countP_canonicalMembers members each]
    simp [opens, blank, closes, keyword]
  | comparison content, each => by
    rw [canonical, comparisons, List.flatMap_singleton]
    exact each content (by simp [comparisons])

theorem countP_canonicalMembers : (ts : List (Tree σ)) →
    (∀ c ∈ comparisonsOf ts, c.canonical.countP isQuote = c.operand.canonical.countP isQuote) →
    (canonicalMembers ts).countP isQuote =
      ((comparisonsOf ts).flatMap (·.operand.canonical)).countP isQuote
  | [], _ => rfl
  | [member], each => by
    rw [comparisonsOf, comparisonsOf, List.append_nil] at each ⊢
    rw [canonicalMembers, countP_canonical member each]
  | member :: second :: rest, each => by
    have comma : isQuote ',' = false := by decide
    have blank : isQuote ' ' = false := by decide
    rw [comparisonsOf] at each ⊢
    rw [canonicalMembers, List.countP_append, List.countP_cons, List.countP_cons,
      countP_canonical member fun c inside => each c (List.mem_append_left _ inside),
      countP_canonicalMembers (second :: rest) fun c inside =>
        each c (List.mem_append_right _ inside),
      List.flatMap_append, List.countP_append]
    · simp [comma, blank]
    · simp

end

end Tree

theorem countP_canonical_of_parse {source : String} {t : Tree Span} (read : parse source = .ok t)
    {c : Comparison Span} (member : c ∈ t.comparisons) :
    c.canonical.countP isQuote = c.operand.canonical.countP isQuote := by
  obtain ⟨k, left, right, -, rfl⟩ := exists_clause_of_parse read member
  have column := countP_eq_zero_of_class k.column.inside rfl rfl
  have operator := countP_eq_zero_of_class k.operator.inside (by decide) (by decide)
  have blank : isQuote ' ' = false := by decide
  have keyword (mode : Mode) : mode.name.toList.countP isQuote = 0 := by cases mode <;> decide
  cases mode : k.form.mode <;>
    simp [Comparison.canonical, Comparison.map, Clause.comparison, Clause.placed, mode, column,
      operator, blank, keyword]

def Operand.isColumn : Operand → Bool
  | .column _ => true
  | .literal _ => false

theorem Comparison.Fits.isColumn {c : Comparison σ} (fits : c.Fits) (mode : c.mode = .column) :
    c.operand.isColumn = true := by
  rw [Comparison.Fits] at fits
  cases right : c.operand with
  | column name => rfl
  | literal l => simp [right, mode] at fits

/-- Whether an operand is a column whose name can stand without quotes. -/
def Operand.isPlainColumn : Operand → Bool
  | .column name => isPlainName name.toList
  | .literal _ => false

theorem Clause.operand_eq_column {k : Clause}
    (isColumn : (k.value.operand k.form.mode).isColumn = true) :
    k.value.operand k.form.mode = .column (String.ofList k.value.content) := by
  cases mode : k.form.mode with
  | column => rfl
  | plain | color => simp [mode, Value.operand, Operand.isColumn] at isColumn

section Columns

variable {source : String} {t : Tree Span}

theorem unquoted_of_count {s : Sentence} (count : s.text.countP isQuote =
    (s.clauses.flatMap (·.value.content)).countP isQuote) {k : Clause} (inside : k ∈ s.clauses) :
    k.value.isQuoted = false := by
  rw [s.countP_text] at count
  -- Each quoted value would add the two characters around it.
  have none : s.clauses.countP (·.value.isQuoted) = 0 := by omega
  simpa using List.countP_eq_zero.1 none k inside

theorem isPlainColumn_of_reading (read : parse source = .ok t)
    (columns : ∀ c ∈ t.comparisons, c.mode = .column) {again : Tree Span}
    (reread : parse t.canonicalText = .ok again)
    (same : again.comparisons.map (·.operand) = t.comparisons.map (·.operand)) :
    ∀ c ∈ t.comparisons, c.operand.isPlainColumn = true := by
  obtain ⟨before, after, s, whole, rfl⟩ := parse_eq_ok_iff.1 reread
  have operands : t.comparisons.map (·.operand) =
      s.clauses.map fun k => k.value.operand k.form.mode := by
    rw [← same, Tree.comparisons_map, List.map_map, ← s.operands_tree]
    rfl
  have names (k : Clause) (inside : k ∈ s.clauses) :
      k.value.operand k.form.mode = .column (String.ofList k.value.content) := by
    have here := List.mem_map_of_mem (f := fun k => k.value.operand k.form.mode) inside
    rw [← operands] at here
    obtain ⟨c, member, same⟩ := List.mem_map.1 here
    have isColumn := (fits_of_parse read member).isColumn (columns c member)
    exact Clause.operand_eq_column (same ▸ isColumn)
  have contents : t.comparisons.flatMap (·.operand.canonical) =
      s.clauses.flatMap (·.value.content) := by
    rw [← List.flatMap_map, operands, List.flatMap_map]
    exact List.flatMap_congr fun k inside => by
      rw [names k inside, Operand.canonical, String.toList_ofList]
  -- The text is counted as it was printed and as it was read.
  have count : t.canonical.countP isQuote = s.text.countP isQuote := by
    have text : t.canonical = before.text ++ (s.text ++ after.text) := by
      rw [← whole, Tree.canonicalText, String.toList_ofList]
    simp [text, countP_eq_zero_of_class before.inside rfl rfl,
      countP_eq_zero_of_class after.inside rfl rfl]
  rw [t.countP_canonical fun c => countP_canonical_of_parse read, contents] at count
  intro c member
  have here := List.mem_map_of_mem (f := (·.operand)) member
  rw [operands] at here
  obtain ⟨k, inside, same⟩ := List.mem_map.1 here
  rw [← same, names k inside, Operand.isPlainColumn, String.toList_ofList]
  exact Value.isPlainName_content (unquoted_of_count count.symm inside)

theorem legible_of_plainColumns (read : parse source = .ok t)
    (columns : ∀ c ∈ t.comparisons, c.mode = .column)
    (plain : ∀ c ∈ t.comparisons, c.operand.isPlainColumn = true) : t.Legible := by
  refine legible_of_parse read fun c member => ?_
  have mode := columns c member
  refine comparison_legible_of_parse read member (fun other => ?_) ?_
  · simp [mode] at other
  · have name := plain c member
    cases right : c.operand with
    | column name_ => exact ⟨mode, by simpa [right, Operand.isPlainColumn] using name⟩
    | literal l => simp [right, Operand.isPlainColumn] at name

theorem Operand.reread_of_isPlainColumn {o : Operand} (plain : o.isPlainColumn = true) :
    o.reread = o := by
  cases o with
  | column name => rfl
  | literal l => simp [isPlainColumn] at plain

theorem Comparison.operand_of_alike {c c' : Comparison Span} (isColumn : c.operand.isColumn = true)
    (mode : c.mode = .column) (alike : c.Alike c') : c'.operand = c.operand := by
  obtain ⟨-, modes, -, right⟩ := alike
  have mode' : c'.mode = .column := by rw [← modes, mode]
  simp only [rightSide, mode, mode'] at right
  cases left : c.operand with
  | literal l => simp [left, Operand.isColumn] at isColumn
  | column name =>
    cases other : c'.operand with
    | column name' => simpa [left, other, Operand.toDocument] using right.symm
    | literal l =>
      simp only [left, other, Operand.toDocument] at right
      exact absurd right.symm (toDocument_ne_entry _ _ _)

theorem operands_of_alike {u : Tree Span} (columns : ∀ c ∈ t.comparisons,
    c.operand.isColumn = true ∧ c.mode = .column) (alike : t.Alike u) :
    u.comparisons.map (·.operand) = t.comparisons.map (·.operand) := by
  have pairs := (List.forall₂_and_left _ _).2 ⟨columns, Tree.comparisons_of_alike t u alike⟩
  rw [← List.forall₂_eq_eq_eq, List.forall₂_map_left_iff, List.forall₂_map_right_iff]
  exact (pairs.imp fun c c' ⟨⟨isColumn, mode⟩, alike⟩ =>
    Comparison.operand_of_alike isColumn mode alike).flip

theorem isPlainColumn_of_compile (read : parse source = .ok t)
    (columns : ∀ c ∈ t.comparisons, c.mode = .column) {d : Document}
    (ok : t.compile.result = .ok d) (compiled : (compileText t.canonicalText).result = .ok d) :
    ∀ c ∈ t.comparisons, c.operand.isPlainColumn = true := by
  cases reread : parse t.canonicalText with
  | error cause => simp [compileText, reread, Noted.lift] at compiled
  | ok again =>
    rw [compileText_of_parse reread] at compiled
    have alike := Tree.alike_of_compile t again (fun c => fits_of_parse read)
      (fun c => fits_of_parse reread) d ok compiled
    have operands := operands_of_alike (fun c member =>
      ⟨(fits_of_parse read member).isColumn (columns c member), columns c member⟩) alike
    exact isPlainColumn_of_reading read columns reread operands

/-- The canonical text of comparisons with columns gives the same columns again, and
compiles as they do, just when all their names are plain. -/
theorem canonicalText_keeps_columns_iff (read : parse source = .ok t)
    (columns : ∀ c ∈ t.comparisons, c.mode = .column) :
    ((∃ again, parse t.canonicalText = .ok again ∧
        again.comparisons.map (·.operand) = t.comparisons.map (·.operand) ∧
        again.compile.mapError FilterError.unplaced = t.compile.mapError FilterError.unplaced) ↔
      ∀ c ∈ t.comparisons, c.operand.isPlainColumn = true) ∧
    ∀ d, t.compile.result = .ok d → ((compileText t.canonicalText).result = .ok d ↔
      ∀ c ∈ t.comparisons, c.operand.isPlainColumn = true) := by
  have complete (plain : ∀ c ∈ t.comparisons, c.operand.isPlainColumn = true) :
      ∃ again, parse t.canonicalText = .ok again ∧ again.bare = t.bare := by
    obtain ⟨again, reread, meaning⟩ :=
      Tree.parse_canonicalText (legible_of_plainColumns read columns plain)
    rw [t.reread_of_operands fun c member => Operand.reread_of_isPlainColumn (plain c member)]
      at meaning
    exact ⟨again, reread, meaning⟩
  refine ⟨⟨?_, ?_⟩, fun d ok => ⟨?_, ?_⟩⟩
  · rintro ⟨again, reread, same, -⟩
    exact isPlainColumn_of_reading read columns reread same
  · intro plain
    obtain ⟨again, reread, same⟩ := complete plain
    refine ⟨again, reread, ?_, Tree.compile_of_bare same⟩
    have operands (u : Tree Span) : u.bare.comparisons.map (·.operand) =
        u.comparisons.map (·.operand) := by
      rw [Tree.bare, Tree.comparisons_map, List.map_map]
      rfl
    rw [← operands, same, operands]
  · exact isPlainColumn_of_compile read columns ok
  · intro plain
    obtain ⟨again, reread, same⟩ := complete plain
    rw [compileText_of_parse reread]
    exact (Tree.compile_result_of_bare same d).2 ok

def quotedName (name : List Char) : Value :=
  .quoted '\'' (Quoted.escape '\'' name) rfl (Quoted.inside_escape '\'' name)

theorem canonicalText_keeps_columns_pair :
    ∃ t, parse "or (a column = 'b', a column = c.d)" = .ok t ∧
      t.canonicalText = "or (a column = b, a column = c.d)" ∧
      ∃ again, parse t.canonicalText = .ok again ∧
        again.comparisons.map (·.operand) = t.comparisons.map (·.operand) ∧
        again.compile.mapError FilterError.unplaced = t.compile.mapError FilterError.unplaced := by
  let s : Sentence := .group .or Tree.oneBlank Tree.noBlanks
    (.more (.comparison (.equal .column (quotedName ['b']))) Tree.noBlanks Tree.oneBlank
      (.one (.comparison (.equal .column (.ofPlain ['c', '.', 'd'] (by decide)))))) Tree.noBlanks
  have read := parse_eq_ok_iff.2 ⟨Tree.noBlanks, Tree.noBlanks, s,
    show "or (a column = 'b', a column = c.d)".toList = _ by decide, rfl⟩
  refine ⟨_, read, by decide, ((canonicalText_keeps_columns_iff read ?_).1).2 ?_⟩
  · decide
  · decide

/-- A name with a blank is lost: the canonical text of its comparison does not parse. -/
theorem canonicalText_loses_blank_in_column :
    ∃ t d, parse "a column = 'x y'" = .ok t ∧ (∀ c ∈ t.comparisons, c.mode = .column) ∧
      t.canonicalText = "a column = x y" ∧ t.compile.result = .ok d ∧
      (compileText t.canonicalText).result ≠ .ok d := by
  have read := parse_eq_ok_iff.2 ⟨Tree.noBlanks, Tree.noBlanks,
    .comparison (.equal .column (quotedName ['x', ' ', 'y'])),
    show "a column = 'x y'".toList = _ by decide, rfl⟩
  refine ⟨_, _, read, by decide, by decide, rfl, fun compiled => ?_⟩
  have plain := isPlainColumn_of_compile read (by decide) rfl compiled
  exact absurd plain (by decide)

end Columns

end InventoryQuery.Filter
