import InventoryQuery.Filter.Compile
import InventoryQuery.Proofs.Decimal.NumberText
import InventoryQuery.Proofs.Json.Comparing
import InventoryQuery.Proofs.Noted
import Mathlib.Data.List.Forall2

/-! Trees that compile to one condition are alike: they have the same groups, and their
comparisons the same columns, modes, opcodes and right sides. An array of a group
begins with an object and that of a comparison with a text, so not even a column
with the name of a connective confuses the two. Conditions and right sides are compared
up to what is taken for the same number. -/
namespace InventoryQuery

namespace Document

theorem string_ne_number (s : String) (n : Number) : string s ≠ number n := by
  intro same
  simpa [string, number] using congrArg value same

end Document

namespace Network

theorem slash_of_checkBlock {cs : List Char} (valid : checkBlock cs = .ok ()) : '/' ∈ cs := by
  refine Decidable.byContradiction fun missing => ?_
  have none : splitLastSlash? cs = none := by
    rw [splitLastSlash?, List.dropWhile_eq_nil_iff.2]
    intro c member
    simp only [List.mem_reverse] at member
    simp only [bne_iff_ne, ne_eq]
    rintro rfl
    exact missing member
  rw [checkBlock, none] at valid
  simp at valid

end Network

namespace Filter

open Text (Span)

theorem Opcode.code_inj {a b : Opcode} : a.code = b.code ↔ a = b := by
  cases a <;> cases b <;> decide

theorem Connective.keyword_inj {a b : Connective} : a.keyword = b.keyword ↔ a = b := by
  cases a <;> cases b <;> decide

theorem networkLiteral_eq_ok {text : String} {l : Literal} (accepted : networkLiteral text = .ok l) :
    Network.checkBlock text.toList = .ok () ∧ l = .network text := by
  rw [networkLiteral] at accepted
  split at accepted
  next valid => exact ⟨valid, (Except.ok.inj accepted).symm⟩
  · simp at accepted

namespace Comparison

variable {σ τ : Type}

def rightSide (c : Comparison σ) : Document :=
  match c.mode with
  | .plain | .column => c.operand.toDocument
  | .color => c.operand.severity

def items (mode : Mode) (opcode : Opcode) (right : Document) : List Document :=
  match mode with
  | .plain | .column => [.string opcode.code, right]
  | .color => [.string "color", .string opcode.code, right]

def Alike (c : Comparison σ) (c' : Comparison τ) : Prop :=
  c.column = c'.column ∧ c.mode = c'.mode ∧
    Opcode.ofOperator? c.operator c.mode = Opcode.ofOperator? c'.operator c'.mode ∧
    c.rightSide = c'.rightSide

/-- Alike, with the numbers compared as `f` takes them. -/
def AlikeUpTo (f : Number → Number) (c : Comparison σ) (c' : Comparison τ) : Prop :=
  c.column = c'.column ∧ c.mode = c'.mode ∧
    Opcode.ofOperator? c.operator c.mode = Opcode.ofOperator? c'.operator c'.mode ∧
    c.rightSide.upTo f = c'.rightSide.upTo f

theorem alikeUpTo_id : AlikeUpTo id = Alike (σ := σ) (τ := τ) := by
  funext c c'
  rw [AlikeUpTo, Alike, Document.upTo_id_inj]

theorem toDocument_of_slash {l : Literal} (slash : '/' ∈ l.networkText.toList) :
    l.toDocument = .string l.networkText := by
  cases l with
  | string text => rfl
  | network text => rfl
  | number n =>
    simp only [Literal.networkText, Literal.canonical, String.toList_ofList] at slash
    exact absurd (List.all_eq_true.1 n.all_text _ slash) (by decide)
  | boolean value => cases value <;> exact absurd slash (by decide)

theorem plainOperand_eq_ok {c : Comparison Span} {opcode : Opcode} {d : Document}
    (ok : (c.plainOperand opcode).result = .ok d) : d = c.operand.toDocument := by
  rw [plainOperand] at ok
  cases right : c.operand with
  | column name => simpa [right] using ok.symm
  | literal l =>
    simp only [right] at ok
    split at ok
    · cases checked : networkLiteral l.networkText with
      | error cause => simp [checked, Noted.fail] at ok
      | ok network =>
        obtain ⟨valid, rfl⟩ := networkLiteral_eq_ok checked
        rw [Operand.toDocument, toDocument_of_slash (Network.slash_of_checkBlock valid)]
        simpa [checked, Literal.toDocument] using ok.symm
    · split at ok
      · obtain ⟨_, -, ok⟩ := Noted.bind_eq_ok.1 ok
        simpa [Operand.toDocument] using ok.symm
      · simpa [Operand.toDocument] using ok.symm

theorem compile_eq_ok {c : Comparison Span} {d : Document} (ok : c.compile.result = .ok d) :
    ∃ opcode, Opcode.ofOperator? c.operator c.mode = some opcode ∧
      d = .entry c.column (.array (items c.mode opcode c.rightSide)) := by
  rw [compile] at ok
  split at ok
  · simp [Noted.fail] at ok
  next opcode known =>
    obtain ⟨taken, criteria, ok⟩ := Noted.bind_eq_ok.1 ok
    refine ⟨opcode, known, ?_⟩
    have same : taken = items c.mode opcode c.rightSide := by
      rw [Comparison.criteria] at criteria
      rw [rightSide]
      cases mode : c.mode with
      | plain =>
        simp only [mode] at criteria
        obtain ⟨operand, plain, criteria⟩ := Noted.bind_eq_ok.1 criteria
        simpa [items, plainOperand_eq_ok plain] using criteria.symm
      | column | color => simpa [mode, items] using criteria.symm
    simpa [same] using ok.symm

/-- Whether the right side is a column just when the mode says so. -/
def Fits (c : Comparison σ) : Prop :=
  match c.operand with
  | .column _ => c.mode = .column
  | .literal _ => c.mode ≠ .column

theorem toDocument_upTo_ne_object (f : Number → Number) (l : Literal)
    (members : List (String × Json)) : l.toDocument.upTo f ≠ .object members := by
  cases l <;> simp [Literal.toDocument, Document.upTo, Document.string, Document.number,
    Document.boolean, Json.mapNumbers]

theorem toDocument_ne_entry (l : Literal) (key : String) (d : Document) :
    l.toDocument ≠ .entry key d := by
  intro same
  have seen := congrArg (Document.upTo id) same
  rw [Document.upTo_entry] at seen
  exact toDocument_upTo_ne_object id l _ seen

theorem severity_upTo_ne_object (f : Number → Number) (l : Literal)
    (members : List (String × Json)) : (Operand.literal l).severity.upTo f ≠ .object members := by
  unfold Operand.severity
  split
  · split
    next ordinal known => exact toDocument_upTo_ne_object f (.number ordinal) members
    · exact toDocument_upTo_ne_object f (.string _) members
  · exact toDocument_upTo_ne_object f l members

theorem Fits.mode_eq_column_iff {c : Comparison σ} (fits : c.Fits) (f : Number → Number) :
    c.mode = .column ↔ ∃ name, c.rightSide.upTo f = .object [("column", .string name)] := by
  rw [Fits] at fits
  rw [rightSide]
  cases right : c.operand with
  | column name =>
    have mode : c.mode = .column := by simpa [right] using fits
    simp [mode, Operand.toDocument]
  | literal l =>
    have other : c.mode ≠ .column := by simpa [right] using fits
    cases mode : c.mode with
    | column => exact absurd mode other
    | plain => simp [Operand.toDocument, toDocument_upTo_ne_object]
    | color => simp [severity_upTo_ne_object]

theorem items_inj {f : Number → Number} {mode mode' : Mode} {opcode opcode' : Opcode}
    {right right' : Document}
    (same : (items mode opcode right).map (Document.upTo f) =
      (items mode' opcode' right').map (Document.upTo f)) :
    opcode = opcode' ∧ right.upTo f = right'.upTo f ∧ (mode = .color ↔ mode' = .color) := by
  cases mode <;> cases mode' <;>
    simp only [items, List.map_cons, List.map_nil, Document.upTo_string, List.cons.injEq,
      Json.string.injEq, Opcode.code_inj, and_true, true_and, reduceCtorEq, and_false,
      iff_self] at same ⊢ <;> exact same

theorem alikeUpTo_of_compile {f : Number → Number} {c c' : Comparison Span} {d d' : Document}
    (fits : c.Fits) (fits' : c'.Fits) (ok : c.compile.result = .ok d)
    (ok' : c'.compile.result = .ok d') (same : d.upTo f = d'.upTo f) : c.AlikeUpTo f c' := by
  obtain ⟨opcode, known, rfl⟩ := compile_eq_ok ok
  obtain ⟨opcode', known', rfl⟩ := compile_eq_ok ok'
  obtain ⟨column, items⟩ := Document.upTo_entry_array_inj.1 same
  obtain ⟨rfl, right, color⟩ := items_inj items
  have columnMode : c.mode = .column ↔ c'.mode = .column := by
    rw [fits.mode_eq_column_iff f, fits'.mode_eq_column_iff f, right]
  have mode : c.mode = c'.mode := by
    cases left : c.mode <;> cases other : c'.mode <;> simp_all
  exact ⟨column, mode, known.trans known'.symm, right⟩

end Comparison

namespace Tree

variable {σ τ : Type}

mutual

/-- Trees of one shape whose comparisons stand in a relation, each with the one in its
place. -/
def Related (r : Comparison σ → Comparison τ → Prop) : Tree σ → Tree τ → Prop
  | group connective members _, group connective' members' _ =>
    connective = connective' ∧ RelatedMembers r members members'
  | comparison content, comparison content' => r content content'
  | _, _ => False

def RelatedMembers (r : Comparison σ → Comparison τ → Prop) :
    List (Tree σ) → List (Tree τ) → Prop
  | [], [] => True
  | member :: rest, member' :: rest' => Related r member member' ∧ RelatedMembers r rest rest'
  | _, _ => False

end

def Alike : Tree σ → Tree τ → Prop := Related Comparison.Alike

mutual

theorem comparisons_of_related {r : Comparison σ → Comparison τ → Prop} :
    (t : Tree σ) → (u : Tree τ) → t.Related r u → List.Forall₂ r t.comparisons u.comparisons
  | group _ members _, group _ members' _, related => by
    rw [Related] at related
    exact comparisonsOf_of_related members members' related.2
  | group _ _ _, comparison _, related => by simp [Related] at related
  | comparison _, group _ _ _, related => by simp [Related] at related
  | comparison _, comparison _, related => by
    rw [Related] at related
    exact .cons related .nil

theorem comparisonsOf_of_related {r : Comparison σ → Comparison τ → Prop} :
    (ts : List (Tree σ)) → (us : List (Tree τ)) → RelatedMembers r ts us →
    List.Forall₂ r (comparisonsOf ts) (comparisonsOf us)
  | [], [], _ => .nil
  | [], _ :: _, related => by simp [RelatedMembers] at related
  | _ :: _, [], related => by simp [RelatedMembers] at related
  | t :: ts, u :: us, related => by
    rw [RelatedMembers] at related
    exact List.rel_append (comparisons_of_related t u related.1)
      (comparisonsOf_of_related ts us related.2)

end

theorem comparisons_of_alike (t : Tree σ) (u : Tree τ) (alike : t.Alike u) :
    List.Forall₂ Comparison.Alike t.comparisons u.comparisons :=
  comparisons_of_related t u alike

theorem compileMembers_eq_ok {t : Tree Span} {ts : List (Tree Span)} {ds : List Document} :
    (compileMembers (t :: ts)).result = .ok ds ↔ ∃ d es, ds = d :: es ∧
      t.compile.result = .ok d ∧ (compileMembers ts).result = .ok es := by
  rw [compileMembers, Noted.bind_eq_ok]
  simp only [Noted.bind_eq_ok]
  constructor
  · rintro ⟨d, ok, es, oks, same⟩
    exact ⟨d, es, by simpa using same.symm, ok, oks⟩
  · rintro ⟨d, es, rfl, ok, oks⟩
    exact ⟨d, ok, es, oks, rfl⟩

theorem compile_group_eq_ok {connective : Connective} {members : List (Tree Span)} {place : Span}
    {d : Document} : (group connective members place).compile.result = .ok d ↔
      ∃ ds, d = .entry connective.keyword (.array ds) ∧
        (compileMembers members).result = .ok ds := by
  rw [compile, Noted.bind_eq_ok]
  constructor
  · rintro ⟨ds, oks, same⟩
    exact ⟨ds, by simpa using same.symm, oks⟩
  · rintro ⟨ds, rfl, oks⟩
    exact ⟨ds, oks, rfl⟩

theorem exists_entry_of_compile {t : Tree Span} {d : Document} (ok : t.compile.result = .ok d) :
    ∃ key content, d = .entry key content := by
  cases t with
  | group connective members place =>
    obtain ⟨ds, rfl, -⟩ := compile_group_eq_ok.1 ok
    exact ⟨_, _, rfl⟩
  | comparison content =>
    obtain ⟨opcode, -, rfl⟩ := Comparison.compile_eq_ok ok
    exact ⟨_, _, rfl⟩

variable {f : Number → Number}

theorem compileMembers_ne_items {ts : List (Tree Span)} {ds : List Document} {mode : Mode}
    {opcode : Opcode} {right : Document} (oks : (compileMembers ts).result = .ok ds) :
    ds.map (Document.upTo f) ≠ (Comparison.items mode opcode right).map (Document.upTo f) := by
  intro same
  cases ts with
  | nil =>
    obtain rfl : [] = ds := by simpa [compileMembers] using oks
    cases mode <;> simp [Comparison.items] at same
  | cons t ts =>
    obtain ⟨d, es, rfl, ok, -⟩ := compileMembers_eq_ok.1 oks
    obtain ⟨key, content, rfl⟩ := exists_entry_of_compile ok
    cases mode <;> simp [Comparison.items] at same

theorem compile_group_ne_comparison {connective : Connective} {members : List (Tree Span)}
    {place : Span} {content : Comparison Span} {d d' : Document}
    (ok : (group connective members place).compile.result = .ok d)
    (ok' : content.compile.result = .ok d') : d.upTo f ≠ d'.upTo f := by
  intro same
  obtain ⟨ds, rfl, oks⟩ := compile_group_eq_ok.1 ok
  obtain ⟨opcode, -, rfl⟩ := Comparison.compile_eq_ok ok'
  exact compileMembers_ne_items oks (Document.upTo_entry_array_inj.1 same).2

mutual

theorem related_of_compile : (t u : Tree Span) → (∀ c ∈ t.comparisons, c.Fits) →
    (∀ c ∈ u.comparisons, c.Fits) → (d d' : Document) → t.compile.result = .ok d →
    u.compile.result = .ok d' → d.upTo f = d'.upTo f → t.Related (Comparison.AlikeUpTo f) u
  | group connective members place, group connective' members' place', fits, fits', d, d',
      ok, ok', same => by
    obtain ⟨ds, rfl, oks⟩ := compile_group_eq_ok.1 ok
    obtain ⟨ds', rfl, oks'⟩ := compile_group_eq_ok.1 ok'
    obtain ⟨keyword, items⟩ := Document.upTo_entry_array_inj.1 same
    exact ⟨Connective.keyword_inj.1 keyword,
      relatedMembers_of_compile members members' fits fits' ds ds' oks oks' items⟩
  -- A group never compiles to what a comparison does.
  | group _ _ _, comparison _, _, _, _, _, ok, ok', same =>
    (compile_group_ne_comparison ok ok' same).elim
  | comparison _, group _ _ _, _, _, _, _, ok, ok', same =>
    (compile_group_ne_comparison ok' ok same.symm).elim
  | comparison content, comparison content', fits, fits', d, d', ok, ok', same =>
    Comparison.alikeUpTo_of_compile (fits content (by simp [comparisons]))
      (fits' content' (by simp [comparisons])) ok ok' same

theorem relatedMembers_of_compile : (ts us : List (Tree Span)) →
    (∀ c ∈ comparisonsOf ts, c.Fits) → (∀ c ∈ comparisonsOf us, c.Fits) →
    (ds ds' : List Document) → (compileMembers ts).result = .ok ds →
    (compileMembers us).result = .ok ds' →
    ds.map (Document.upTo f) = ds'.map (Document.upTo f) →
    RelatedMembers (Comparison.AlikeUpTo f) ts us
  | [], [], _, _, _, _, _, _, _ => trivial
  | [], u :: us, _, _, ds, ds', oks, oks', same => by
    obtain ⟨d, es, rfl, -⟩ := compileMembers_eq_ok.1 oks'
    obtain rfl : [] = ds := by simpa [compileMembers] using oks
    simp at same
  | t :: ts, [], _, _, ds, ds', oks, oks', same => by
    obtain ⟨d, es, rfl, -⟩ := compileMembers_eq_ok.1 oks
    obtain rfl : [] = ds' := by simpa [compileMembers] using oks'
    simp at same
  | t :: ts, u :: us, fits, fits', ds, ds', oks, oks', same => by
    obtain ⟨d, es, rfl, ok, oks⟩ := compileMembers_eq_ok.1 oks
    obtain ⟨d', es', rfl, ok', oks'⟩ := compileMembers_eq_ok.1 oks'
    rw [List.map_cons, List.map_cons, List.cons.injEq] at same
    rw [comparisonsOf] at fits fits'
    exact ⟨related_of_compile t u (fun c inside => fits c (List.mem_append_left _ inside))
        (fun c inside => fits' c (List.mem_append_left _ inside)) d d' ok ok' same.1,
      relatedMembers_of_compile ts us (fun c inside => fits c (List.mem_append_right _ inside))
        (fun c inside => fits' c (List.mem_append_right _ inside)) es es' oks oks' same.2⟩

end

theorem alike_of_compile (t u : Tree Span) (fits : ∀ c ∈ t.comparisons, c.Fits)
    (fits' : ∀ c ∈ u.comparisons, c.Fits) (d : Document) (ok : t.compile.result = .ok d)
    (ok' : u.compile.result = .ok d) : t.Alike u := by
  rw [Alike, ← Comparison.alikeUpTo_id]
  exact related_of_compile t u fits fits' d d ok ok' rfl

end Tree

end Filter

end InventoryQuery
