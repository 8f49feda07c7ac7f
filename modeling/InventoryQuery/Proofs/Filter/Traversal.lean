import InventoryQuery.Filter.Compile
import InventoryQuery.Proofs.Noted

/-! Compiling goes through the comparisons of a tree from left to right and stops at the
first that cannot be compiled. What groups add is only the shape of the result, so the
error and the events of a tree are those of its comparisons one after another. -/
namespace InventoryQuery

namespace Noted

variable {ε α β : Type}

/-- A computation without its value. -/
def outline (m : Noted ε α) : Noted ε Unit := ⟨m.events, m.result.map fun _ => ()⟩

theorem outline_result_eq_ok {m : Noted ε α} :
    m.outline.result = .ok () ↔ ∃ value, m.result = .ok value := by
  obtain ⟨events, result⟩ := m
  cases result <;> simp [outline, Except.map]

theorem outline_result_eq_error {m : Noted ε α} {error : ε} :
    m.outline.result = .error error ↔ m.result = .error error := by
  obtain ⟨events, result⟩ := m
  cases result <;> simp [outline, Except.map]

theorem outline_bind (m : Noted ε α) {next : α → Noted ε β} {rest : Noted ε Unit}
    (same : ∀ value, (next value).outline = rest) :
    (m >>= next).outline = m.outline >>= fun _ => rest := by
  obtain ⟨events, result⟩ := m
  cases result with
  | error error => rfl
  | ok value => rw [← same value]; rfl

theorem outline_bind_pure (m : Noted ε α) (f : α → β) :
    (m >>= fun value => pure (f value)).outline = m.outline := by
  obtain ⟨events, result⟩ := m
  cases result with
  | error error => rfl
  | ok value => simp [outline, Except.map]

end Noted

namespace Filter

open Text (Span)

namespace Opcode

theorem ofOperator?_eq_none_iff {operator : String} {mode : Mode} :
    ofOperator? operator mode = none ↔ operator ∉ (table mode).map Prod.fst := by
  rw [ofOperator?, List.lookup_eq_none_iff]
  constructor
  · intro differ listed
    obtain ⟨entry, member, rfl⟩ := List.mem_map.1 listed
    simpa using differ entry member
  · intro missing entry member
    simp only [bne_iff_ne]
    rintro rfl
    exact missing (List.mem_map_of_mem member)

theorem mem_of_ofOperator? {operator : String} {mode : Mode} {opcode : Opcode}
    (known : ofOperator? operator mode = some opcode) : (operator, opcode) ∈ table mode := by
  obtain ⟨before, after, split, -⟩ := List.lookup_eq_some_iff.1 known
  simp [split]

def orderings : List String := ["<", "<=", ">", ">="]

theorem isOrdering_iff {operator : String} {mode : Mode} {opcode : Opcode}
    (known : ofOperator? operator mode = some opcode) :
    opcode.isOrdering = true ↔ operator ∈ orderings := by
  have each : ∀ entry ∈ table mode, entry.2.isOrdering = true ↔ entry.1 ∈ orderings := by
    cases mode <;> decide
  exact each _ (mem_of_ofOperator? known)

theorem eq_cidr_iff {operator : String} {opcode : Opcode}
    (known : ofOperator? operator .plain = some opcode) : opcode = .cidr ↔ operator = "net" := by
  have each : ∀ entry ∈ table .plain, entry.2 = .cidr ↔ entry.1 = "net" := by decide
  exact each _ (mem_of_ofOperator? known)

theorem mem_table_of_mem_orderings {operator : String} (ordering : operator ∈ orderings)
    (mode : Mode) : operator ∈ (table mode).map Prod.fst := by
  have each : ∀ o ∈ orderings, o ∈ (table mode).map Prod.fst := by cases mode <;> decide
  exact each operator ordering

end Opcode

namespace Comparison

/-- What a comparison needs to be compiled: its mode knows the operator, and a literal
to be taken as a network is one. -/
structure Compiles (c : Comparison Span) : Prop where
  known : c.operator ∈ (Opcode.table c.mode).map Prod.fst
  network : c.mode = .plain → c.operator = "net" → ∀ l, c.operand = .literal l →
    ∃ network, networkLiteral l.networkText = .ok network

/-- The error of a comparison that cannot be compiled. -/
inductive Fails (c : Comparison Span) : FilterError → Prop
  | unknownOperator (missing : c.operator ∉ (Opcode.table c.mode).map Prod.fst) :
    Fails c (.unknownOperator c.operator c.mode c.operatorPlace.start)
  | invalidNetwork {l : Literal} {cause : Network.BlockError} (plain : c.mode = .plain)
    (net : c.operator = "net") (right : c.operand = .literal l)
    (refused : networkLiteral l.networkText = .error cause) :
    Fails c (.invalidNetwork l.networkText c.valuePlace.start cause.message)

/-- The event of a plain comparison that orders a literal other than a number. -/
def orderedText? (c : Comparison Span) : Option Event :=
  match c.operand with
  | .literal l =>
    if c.mode = .plain ∧ c.operator ∈ Opcode.orderings ∧ l.isNumber = false then
      some (.orderedText c.operator l c.column)
    else none
  | .column _ => none

theorem orderedText?_eq_none {c : Comparison Span} (other : c.mode ≠ .plain) :
    c.orderedText? = none := by
  rw [orderedText?]
  split <;> simp [other]

theorem compiles_of_orderedText? {c : Comparison Span} {event : Event}
    (noted : c.orderedText? = some event) : c.Compiles := by
  rw [orderedText?] at noted
  split at noted
  · split at noted
    next ordered =>
      refine ⟨Opcode.mem_table_of_mem_orderings ordered.2.1 c.mode, fun _ net => ?_⟩
      exact absurd (net ▸ ordered.2.1) (by decide)
    · simp at noted
  · simp at noted

theorem Fails.not_compiles {c : Comparison Span} {e : FilterError} (fails : c.Fails e) :
    ¬ c.Compiles := by
  intro compiles
  cases fails with
  | unknownOperator missing => exact missing compiles.known
  | invalidNetwork plain net right refused =>
    obtain ⟨network, accepted⟩ := compiles.network plain net _ right
    rw [refused] at accepted
    cases accepted

theorem plainOperand_cases {c : Comparison Span} {opcode : Opcode} (plain : c.mode = .plain)
    (known : Opcode.ofOperator? c.operator .plain = some opcode) :
    (∃ d, c.plainOperand opcode = ⟨c.orderedText?.toList, .ok d⟩ ∧ c.Compiles) ∨
      ∃ e, c.plainOperand opcode = ⟨[], .error e⟩ ∧ c.Fails e := by
  have listed : c.operator ∈ (Opcode.table c.mode).map Prod.fst := by
    rw [plain]
    exact List.mem_map_of_mem (Opcode.mem_of_ofOperator? known)
  have ordering := Opcode.isOrdering_iff known
  rw [plainOperand, orderedText?]
  cases right : c.operand with
  | column name => exact .inl ⟨_, rfl, listed, fun _ _ l literal => by simp [right] at literal⟩
  | literal l =>
    by_cases net : c.operator = "net"
    · obtain rfl := (Opcode.eq_cidr_iff known).2 net
      have unordered : c.operator ∉ Opcode.orderings := by rw [net]; decide
      simp only [unordered, if_true, and_false, false_and, if_false, Option.toList]
      cases checked : networkLiteral l.networkText with
      | ok network =>
        refine .inl ⟨_, rfl, listed, fun _ _ l' literal => ⟨network, ?_⟩⟩
        obtain rfl := Operand.literal.inj (right.symm.trans literal)
        exact checked
      | error cause => exact .inr ⟨_, rfl, .invalidNetwork plain net right checked⟩
    · have other : opcode ≠ .cidr := fun cidr => net ((Opcode.eq_cidr_iff known).1 cidr)
      have compiles : c.Compiles := ⟨listed, fun _ asked => absurd asked net⟩
      simp only [other, if_false, plain, true_and, ← ordering]
      refine .inl ⟨l.toDocument, ?_, compiles⟩
      cases opcode.isOrdering <;> cases l.isNumber <;> rfl

theorem compile_cases (c : Comparison Span) :
    (∃ d, c.compile = ⟨c.orderedText?.toList, .ok d⟩ ∧ c.Compiles) ∨
      ∃ e, c.compile = ⟨[], .error e⟩ ∧ c.Fails e := by
  rw [compile]
  cases known : Opcode.ofOperator? c.operator c.mode with
  | none => exact .inr ⟨_, rfl, .unknownOperator (Opcode.ofOperator?_eq_none_iff.1 known)⟩
  | some opcode =>
    cases mode : c.mode with
    | plain =>
      simp only [criteria, mode]
      obtain ⟨d, run, compiles⟩ | ⟨e, run, fails⟩ := plainOperand_cases mode (mode ▸ known)
      · exact .inl ⟨.entry c.column (.array [.string opcode.code, d]), by simp [run], compiles⟩
      · exact .inr ⟨e, by simp [run], fails⟩
    -- In these modes nothing is noted, and no right side is refused.
    | column | color =>
      have listed := List.mem_map_of_mem (f := Prod.fst) (Opcode.mem_of_ofOperator? known)
      have compiles : c.Compiles := ⟨listed, fun plain => by simp [mode] at plain⟩
      rw [orderedText?_eq_none (by simp [mode])]
      simp only [criteria, mode]
      exact .inl ⟨_, rfl, compiles⟩

theorem compile_eq_ok_iff {c : Comparison Span} :
    (∃ d, c.compile.result = .ok d) ↔ c.Compiles := by
  obtain ⟨d, run, compiles⟩ | ⟨e, run, fails⟩ := compile_cases c
  · simp [run, compiles]
  · simp [run, fails.not_compiles]

instance (c : Comparison Span) : Decidable c.Compiles :=
  decidable_of_iff (c.compile.result.isOk = true) (by
    rw [← compile_eq_ok_iff]
    cases c.compile.result <;> simp [Except.isOk, Except.toBool])

theorem Fails.compile {c : Comparison Span} {e : FilterError} (fails : c.Fails e) :
    c.compile = ⟨[], .error e⟩ := by
  rw [Comparison.compile]
  cases fails with
  | unknownOperator missing => rw [Opcode.ofOperator?_eq_none_iff.2 missing]; rfl
  | invalidNetwork plain net right refused =>
    have known : Opcode.ofOperator? c.operator c.mode = some .cidr := by rw [plain, net]; decide
    rw [known]
    simp only [criteria, plain, plainOperand, right, if_true, refused]
    rfl

end Comparison

/-- One comparison after another, up to the first that cannot be compiled. -/
def visit : List (Comparison Span) → Noted FilterError Unit
  | [] => pure ()
  | c :: rest => c.compile.outline >>= fun _ => visit rest

theorem visit_append (before after : List (Comparison Span)) :
    visit (before ++ after) = visit before >>= fun _ => visit after := by
  induction before with
  | nil => rfl
  | cons c rest ih => rw [List.cons_append, visit, visit, bind_assoc, ih]

theorem visit_cons_of_compiles {c : Comparison Span} (compiles : c.Compiles)
    (rest : List (Comparison Span)) :
    visit (c :: rest) = ⟨c.orderedText?.toList ++ (visit rest).events, (visit rest).result⟩ := by
  obtain ⟨d, run, -⟩ | ⟨e, -, fails⟩ := c.compile_cases
  · rw [visit, run]; rfl
  · exact absurd compiles fails.not_compiles

theorem visit_cons_of_fails {c : Comparison Span} {e : FilterError} (fails : c.Fails e)
    (rest : List (Comparison Span)) : visit (c :: rest) = ⟨[], .error e⟩ := by
  rw [visit, fails.compile]
  rfl

theorem visit_result_eq_ok_iff {cs : List (Comparison Span)} :
    (visit cs).result = .ok () ↔ ∀ c ∈ cs, c.Compiles := by
  induction cs with
  | nil => simp [visit]
  | cons c rest ih =>
    obtain ⟨d, -, compiles⟩ | ⟨e, -, fails⟩ := c.compile_cases
    · simp [visit_cons_of_compiles compiles, ih, compiles]
    · simp [visit_cons_of_fails fails, fails.not_compiles]

theorem visit_result_eq_error_iff {cs : List (Comparison Span)} {e : FilterError} :
    (visit cs).result = .error e ↔ ∃ before c after, cs = before ++ c :: after ∧
      (∀ b ∈ before, b.Compiles) ∧ c.Fails e := by
  constructor
  · intro refused
    induction cs with
    | nil => simp [visit] at refused
    | cons c rest ih =>
      obtain ⟨d, -, compiles⟩ | ⟨e', -, fails⟩ := c.compile_cases
      · rw [visit_cons_of_compiles compiles] at refused
        obtain ⟨before, bad, after, split, good, fails⟩ := ih refused
        exact ⟨c :: before, bad, after, by rw [split, List.cons_append],
          List.forall_mem_cons.2 ⟨compiles, good⟩, fails⟩
      · rw [visit_cons_of_fails fails] at refused
        obtain rfl := Except.error.inj refused
        exact ⟨[], c, rest, rfl, by simp, fails⟩
  · rintro ⟨before, c, after, rfl, good, fails⟩
    have reached := visit_result_eq_ok_iff.2 good
    rw [visit_append, visit_cons_of_fails fails]
    generalize visit before = first at reached
    obtain ⟨events, result⟩ := first
    obtain rfl : result = .ok () := reached
    rfl

theorem visit_events (cs : List (Comparison Span)) : (visit cs).events =
    (cs.takeWhile fun c => c.Compiles).filterMap Comparison.orderedText? := by
  induction cs with
  | nil => rfl
  | cons c rest ih =>
    obtain ⟨d, -, compiles⟩ | ⟨e, -, fails⟩ := c.compile_cases
    · rw [visit_cons_of_compiles compiles, List.takeWhile_cons_of_pos (by simpa using compiles),
        ih, List.filterMap_cons]
      cases c.orderedText? <;> rfl
    · rw [visit_cons_of_fails fails,
        List.takeWhile_cons_of_neg (by simpa using fails.not_compiles)]
      rfl

namespace Tree

mutual

theorem outline_compile : (t : Tree Span) → t.compile.outline = visit t.comparisons
  | group connective members _ => by
    rw [compile, Noted.outline_bind_pure, comparisons, outline_compileMembers members]
  | comparison content => by
    rw [compile, comparisons, visit, visit]
    exact (bind_pure content.compile.outline).symm

theorem outline_compileMembers : (ts : List (Tree Span)) →
    (compileMembers ts).outline = visit (comparisonsOf ts)
  | [] => rfl
  | t :: ts => by
    rw [compileMembers, comparisonsOf, visit_append, ← outline_compile t,
      ← outline_compileMembers ts]
    exact Noted.outline_bind _ fun first => Noted.outline_bind_pure (compileMembers ts) (first :: ·)

end

theorem compiles_of_compile {t : Tree Span} {d : Document} (ok : t.compile.result = .ok d) :
    ∀ c ∈ t.comparisons, c.Compiles := by
  rw [← visit_result_eq_ok_iff, ← outline_compile, Noted.outline_result_eq_ok]
  exact ⟨d, ok⟩

/-- A tree is compiled just when each of its comparisons can be. The error is that of the
first comparison in source order that cannot, and each comparison before it that orders a
text is noted, in source order. Such a comparison is never refused, and those with another
column or a severity note nothing. -/
theorem compile_traverses (t : Tree Span) :
    ((∃ d, t.compile.result = .ok d) ↔ ∀ c ∈ t.comparisons, c.Compiles) ∧
    (∀ e, t.compile.result = .error e ↔ ∃ before c after,
      t.comparisons = before ++ c :: after ∧ (∀ b ∈ before, b.Compiles) ∧ c.Fails e) ∧
    t.compile.events =
      (t.comparisons.takeWhile fun c => c.Compiles).filterMap Comparison.orderedText? ∧
    (∀ c : Comparison Span, c.orderedText? ≠ none → c.Compiles) ∧
    ∀ c : Comparison Span, c.mode ≠ .plain → c.compile.events = [] := by
  refine ⟨?_, fun e => ?_, ?_, fun c ordered => ?_, fun c other => ?_⟩
  · rw [← Noted.outline_result_eq_ok, outline_compile, visit_result_eq_ok_iff]
  · rw [← Noted.outline_result_eq_error, outline_compile, visit_result_eq_error_iff]
  · rw [← visit_events, ← outline_compile]
    rfl
  · obtain ⟨event, noted⟩ := Option.ne_none_iff_exists'.1 ordered
    exact Comparison.compiles_of_orderedText? noted
  · obtain ⟨d, run, -⟩ | ⟨e, run, -⟩ := c.compile_cases
    · rw [run, Comparison.orderedText?_eq_none other]
      rfl
    · rw [run]

/-- The middle one in `and(a > x, or(b net y, c color ~ z))`. -/
def refusedNetwork : Comparison Span :=
  ⟨"b", "net", .literal (.string "y"), .plain,
    ⟨⟨14, 21⟩, ⟨1, 15⟩⟩, ⟨⟨16, 19⟩, ⟨1, 17⟩⟩, ⟨⟨20, 21⟩, ⟨1, 21⟩⟩⟩

/-- The tree of `and(a > x, or(b net y, c color ~ z))`. -/
def twoFaults : Tree Span :=
  .group .and
    [.comparison ⟨"a", ">", .literal (.string "x"), .plain,
        ⟨⟨4, 9⟩, ⟨1, 5⟩⟩, ⟨⟨6, 7⟩, ⟨1, 7⟩⟩, ⟨⟨8, 9⟩, ⟨1, 9⟩⟩⟩,
      .group .or
        [.comparison refusedNetwork,
          .comparison ⟨"c", "~", .literal (.string "z"), .color,
            ⟨⟨23, 34⟩, ⟨1, 24⟩⟩, ⟨⟨31, 32⟩, ⟨1, 32⟩⟩, ⟨⟨33, 34⟩, ⟨1, 34⟩⟩⟩]
        ⟨⟨11, 35⟩, ⟨1, 12⟩⟩]
    ⟨⟨0, 36⟩, ⟨1, 1⟩⟩

theorem compile_traverses_two_faults :
    twoFaults.compile.result = .error (.invalidNetwork "y" 20 "missing prefix length") ∧
      twoFaults.compile.events = [.orderedText ">" (.string "x") "a"] := by
  obtain ⟨-, faults, notes, -, -⟩ := compile_traverses twoFaults
  have refused : networkLiteral (Literal.networkText (.string "y")) = .error .missingLength := rfl
  have fails := Comparison.Fails.invalidNetwork (c := refusedNetwork) rfl rfl rfl refused
  -- The network is refused first, and the text that is ordered before it is noted.
  refine ⟨(faults _).2 ⟨[_], refusedNetwork, [_], rfl, fun before inside => ?_, fails⟩,
    notes.trans rfl⟩
  obtain rfl := List.mem_singleton.1 inside
  exact Comparison.compiles_of_orderedText? rfl

end Tree

end Filter

end InventoryQuery
