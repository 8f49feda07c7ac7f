import Mathlib
import InventoryQuery.Proofs.Filter.Parsed
import InventoryQuery.Proofs.Filter.Places
import InventoryQuery.Proofs.Filter.Traversal
import InventoryQuery.Proofs.Network.Blocks

/-! Networks in conditions. A network comparison passes its text on as it was written, so a
condition holds what the check of a block lets pass. That is a network as the grammar
classes it, but for a plus that may stand before the length. -/
namespace InventoryQuery

/-- A condition that stands in another one, at any depth. -/
inductive Document.Within (part : Document) : Document → Prop
  | here : Within part part
  | inside {key : String} {items : List Document} {item : Document} (member : item ∈ items)
      (deeper : Within part item) : Within part (.entry key (.array items))

namespace Network

theorem IsAddressText.isTerminator {cs : List Char} (address : IsAddressText cs) :
    ∀ c ∈ cs, Filter.isTerminator c = false := by
  intro c member
  refine Bool.eq_false_iff.2 fun ends => ?_
  simpa [address c member] using Filter.isAddressChar_terminator ends

theorem IsAddressText.plus_notMem {cs : List Char} (address : IsAddressText cs) : '+' ∉ cs :=
  fun member => absurd (address _ member) (by decide)

end Network

namespace Filter

open Text (Span)

namespace Tree

mutual

theorem exists_within : (t : Tree Span) → {d : Document} → t.compile.result = .ok d →
    ∀ c ∈ t.comparisons, ∃ part, c.compile.result = .ok part ∧ part.Within d
  | group connective members place, d, ok, c, member => by
    obtain ⟨items, rfl, oks⟩ := compile_group_eq_ok.1 ok
    rw [comparisons] at member
    obtain ⟨part, compiled, item, inside, deeper⟩ := exists_within_members members oks c member
    exact ⟨part, compiled, .inside inside deeper⟩
  | comparison content, d, ok, c, member => by
    rw [comparisons, List.mem_singleton] at member
    subst member
    exact ⟨d, ok, .here⟩

theorem exists_within_members : (ts : List (Tree Span)) → {items : List Document} →
    (compileMembers ts).result = .ok items → ∀ c ∈ comparisonsOf ts,
      ∃ part, c.compile.result = .ok part ∧ ∃ item ∈ items, part.Within item
  | [], _, _, _, nowhere => by simp [comparisonsOf] at nowhere
  | t :: ts, _, oks, c, member => by
    obtain ⟨first, others, rfl, ok, oks⟩ := compileMembers_eq_ok.1 oks
    rw [comparisonsOf, List.mem_append] at member
    rcases member with member | member
    · obtain ⟨part, compiled, within⟩ := exists_within t ok c member
      exact ⟨part, compiled, first, by simp, within⟩
    · obtain ⟨part, compiled, item, inside, within⟩ := exists_within_members ts oks c member
      exact ⟨part, compiled, item, by simp [inside], within⟩

end

end Tree

/-- What a network comparison of a column sends. -/
def networkPart (column text : String) : Document :=
  .entry column (.array [.string Opcode.cidr.code, .string text])

theorem Comparison.compile_network {c : Comparison Span} {d : Document} (fits : c.Fits)
    (plain : c.mode = .plain) (net : c.operator = "net") (ok : c.compile.result = .ok d) :
    ∃ text : String, Network.checkBlock text.toList = .ok () ∧ d = networkPart c.column text := by
  have compiles := compile_eq_ok_iff.1 ⟨d, ok⟩
  obtain ⟨opcode, known, rfl⟩ := compile_eq_ok ok
  have cidr : opcode = .cidr := (Opcode.eq_cidr_iff (plain ▸ known)).2 net
  cases right : c.operand with
  | column name => simp [Comparison.Fits, right, plain] at fits
  | literal l =>
    obtain ⟨network, accepted⟩ := compiles.network plain net l right
    obtain ⟨valid, -⟩ := networkLiteral_eq_ok accepted
    refine ⟨l.networkText, valid, ?_⟩
    simp [networkPart, items, rightSide, plain, right, cidr, Operand.toDocument,
      toDocument_of_slash (Network.slash_of_checkBlock valid)]

theorem plus_notMem_of_isNetworkText {cs : List Char} (shape : isNetworkText cs = true) :
    '+' ∉ cs := by
  obtain ⟨address, digits, rfl, -, inside, isDigits⟩ := isNetworkText_iff.1 shape
  have address := Network.IsAddressText.plus_notMem inside
  have length := (Network.IsAddressText.of_digits isDigits).plus_notMem
  simp [address, length]

theorem network_of_checkBlock {cs : List Char} (valid : Network.checkBlock cs = .ok ()) :
    Lexeme.network cs = some (cs, []) ↔ '+' ∉ cs := by
  obtain ⟨address, digits, nonempty, inside, isDigits, shape⟩ := Network.checkBlock_eq_ok valid
  have word : ∀ c ∈ cs, isTerminator c = false := by
    have slash : isTerminator '/' = false := by decide
    have plus : isTerminator '+' = false := by decide
    have length := (Network.IsAddressText.of_digits isDigits).isTerminator
    rcases shape with rfl | rfl
    · exact List.forall_mem_append.2 ⟨inside.isTerminator, List.forall_mem_cons.2 ⟨slash, length⟩⟩
    · exact List.forall_mem_append.2 ⟨inside.isTerminator, List.forall_mem_cons.2
        ⟨slash, List.forall_mem_cons.2 ⟨plus, length⟩⟩⟩
  have read := Lexeme.network_append word (show atTerminator [] = true from rfl)
  rw [List.append_nil] at read
  have found : Lexeme.network cs = some (cs, []) ↔ isNetworkText cs = true := by
    rw [read, Option.ite_none_right_eq_some]
    exact and_iff_left rfl
  rw [found]
  refine ⟨plus_notMem_of_isNetworkText, fun plain => ?_⟩
  obtain rfl : cs = address ++ '/' :: digits :=
    shape.resolve_right fun same => plain (by simp [same])
  exact isNetworkText_iff.2 ⟨address, digits, rfl, nonempty, inside, isDigits⟩

/-- In an accepted filter, every network comparison at any depth sends a valid block, which
is a network as the grammar classes it just when no plus stands in it. -/
theorem compileText_sends_networks_iff {source : String} {d : Document}
    (accepted : (compileText source).result = .ok d) :
    ∃ t, parse source = .ok t ∧ ∀ c ∈ t.comparisons, c.mode = .plain → c.operator = "net" →
      ∃ text : String, c.compile.result = .ok (networkPart c.column text) ∧
        (networkPart c.column text).Within d ∧
        (Lexeme.network text.toList = some (text.toList, []) ↔ '+' ∉ text.toList) := by
  obtain ⟨t, read, ok⟩ := compileText_eq_ok_iff.1 accepted
  refine ⟨t, read, fun c member plain net => ?_⟩
  obtain ⟨part, compiled, within⟩ := t.exists_within ok c member
  obtain ⟨text, valid, rfl⟩ := Comparison.compile_network (fits_of_parse read member) plain net
    compiled
  exact ⟨text, compiled, within, network_of_checkBlock valid⟩

theorem compileText_sends_networks_nested :
    ∃ d t c, (compileText "or(a net 10.0.0.0/8, and(b net 'fe80::/10'))").result = .ok d ∧
      parse "or(a net 10.0.0.0/8, and(b net 'fe80::/10'))" = .ok t ∧ c ∈ t.comparisons ∧
      c.column = "b" ∧ c.mode = .plain ∧ c.operator = "net" ∧
      ∃ text : String, (networkPart "b" text).Within d ∧
        (Lexeme.network text.toList = some (text.toList, []) ↔ '+' ∉ text.toList) := by
  have accepted : (compileText "or(a net 10.0.0.0/8, and(b net 'fe80::/10'))").result =
      .ok (.entry "or" (.array [networkPart "a" "10.0.0.0/8",
        .entry "and" (.array [networkPart "b" "fe80::/10"])])) := by cbv
  have listed : (parse "or(a net 10.0.0.0/8, and(b net 'fe80::/10'))").map
      (fun t => t.comparisons.map fun c => (c.column, c.mode, c.operator)) =
        .ok [("a", .plain, "net"), ("b", .plain, "net")] := by cbv
  obtain ⟨t, read, each⟩ := compileText_sends_networks_iff accepted
  obtain ⟨c, member, same⟩ := exists_comparison_of_map read listed
    (show ("b", Mode.plain, "net") ∈ _ by simp)
  obtain ⟨column, mode, operator⟩ : c.column = "b" ∧ c.mode = .plain ∧ c.operator = "net" := by
    simpa using same
  obtain ⟨text, -, within, network⟩ := each c member mode operator
  exact ⟨_, t, c, accepted, read, member, column, mode, operator, text, column ▸ within, network⟩

/-- A plus before the length is sent, and no network of the grammar has one. -/
theorem compileText_sends_plus :
    (compileText "a net 10.0.0.0/+8").result = .ok (networkPart "a" "10.0.0.0/+8") ∧
      Lexeme.network "10.0.0.0/+8".toList ≠
        some ("10.0.0.0/+8".toList, []) := by
  have sent : (compileText "a net 10.0.0.0/+8").result =
      .ok (networkPart "a" "10.0.0.0/+8") := by cbv
  exact ⟨sent, by decide⟩

end Filter

end InventoryQuery
