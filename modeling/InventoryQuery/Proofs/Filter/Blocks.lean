import InventoryQuery.Proofs.Filter.Integers
import InventoryQuery.Proofs.Filter.Operators
import InventoryQuery.Proofs.Network.Addresses

/-! Network comparisons with an address that leaves nothing out. The token is a network of the
grammar, so the text reaches the check as it is written, and from there either the condition
or the error. -/
namespace InventoryQuery

namespace Network

theorem FullAddress.isNetworkText {version : Version} {address digits : List Char}
    (full : FullAddress version address) (isDigits : Decimal.isDigits digits = true) :
    Filter.isNetworkText (address ++ '/' :: digits) = true :=
  have ⟨nonempty, inside⟩ := version?_eq_some (version?_of_full full)
  Filter.isNetworkText_iff.2 ⟨address, digits, rfl, nonempty, inside, isDigits⟩

end Network

namespace Filter

open Decimal (digitValue)
open Network (FullAddress Version BlockError)
open Text (byteLength Span)

theorem Comparison.compile_result_of_network {c : Comparison Span} {l : Literal} (plain : c.mode = .plain)
    (net : c.operator = "net") (right : c.operand = .literal l) :
    c.compile.result = match Network.checkBlock l.networkText.toList with
      | .ok () => .ok (networkPart c.column l.networkText)
      | .error cause =>
        .error (.invalidNetwork l.networkText c.valuePlace.start cause.message) := by
  cases checked : Network.checkBlock l.networkText.toList with
  | ok _ =>
    have known : Opcode.ofOperator? c.operator c.mode = some .cidr := by rw [plain, net]; decide
    rw [compile, known]
    simp [criteria, plain, plainOperand, right, networkLiteral, checked, networkPart,
      Literal.toDocument]
  | error cause =>
    have refused : networkLiteral l.networkText = .error cause := by rw [networkLiteral, checked]
    rw [(Fails.invalidNetwork plain net right refused).compile]

theorem compileText_network (name : Run isColumnChar) {block : List Char}
    (shape : isNetworkText block = true) :
    (compileText (String.ofList name.text ++ " net " ++ String.ofList block)).result =
      match Network.checkBlock block with
      | .ok () => .ok (networkPart (String.ofList name.text) (String.ofList block))
      | .error cause => .error (.invalidNetwork (String.ofList block)
          (byteLength (String.ofList name.text ++ " net ").toList) cause.message) := by
  let op : Run isOperatorChar := .ofText ['n', 'e', 't'] rfl
  let v : Value := .ofPlain block (Literal.isPlainName_network shape)
  have free : ¬TakenForForm op v := fun taken => absurd taken.1 (by decide)
  have literal : v.literal = .network (String.ofList block) := if_pos shape
  have written : plainText name op v = String.ofList name.text ++ " net " ++ String.ofList block := by
    rw [← String.toList_inj]
    simp [plainText, op, v, Value.ofPlain, Value.text, Run.ofText]
  obtain ⟨c, read, column, plain, net, right, -, start, -⟩ := parse_plainText name free
  rw [literal] at right
  rw [← written, compileText_of_parse read, Tree.compile, c.compile_result_of_network plain net right,
    column, start]
  simp [Literal.networkText, op, Run.ofText]

/-- A full address and a number in digits behind it are sent as they are written where the
number is at most that of the bits of the address. Any larger number is an error that quotes
both and is located at the address. -/
theorem compileText_network_length (name : Run isColumnChar) {version : Version}
    {address digits : List Char} (full : FullAddress version address)
    (isDigits : Decimal.isDigits digits = true) :
    let column := String.ofList name.text
    let text := String.ofList (address ++ '/' :: digits)
    let length := Nat.ofDigits 10 (digits.reverse.map digitValue)
    let bits := if version = .four then 32 else 128
    (length ≤ bits → (compileText (column ++ " net " ++ text)).result =
      .ok (.entry column (.array [.string "cidr", .string text]))) ∧
    (bits < length → (compileText (column ++ " net " ++ text)).result =
      .error (.invalidNetwork text (byteLength (column ++ " net ").toList)
        (if length ≤ 255 then BlockError.range length version
          else BlockError.length .tooLarge).message)) := by
  intro column text length bits
  have value : Decimal.valueOfDigits digits = length := Decimal.valueOfDigits_eq_ofDigits digits
  have most : version.longestLength = bits := by cases version <;> rfl
  have checked := Network.checkBlock_of_full full isDigits
  have result := compileText_network name (full.isNetworkText isDigits)
  rw [checked, value, most] at result
  constructor
  · intro fits
    rw [if_pos fits] at result
    exact result
  · intro long
    rw [if_neg (Nat.not_le.2 long)] at result
    exact result

theorem compileText_network_length_hosts :
    FullAddress .four "10.1.2.3".toList ∧ FullAddress .six "A:b:0:12:0:0:0:f09c".toList ∧
      (compileText "a net 10.1.2.3/024").result =
        .ok (.entry "a" (.array [.string "cidr", .string "10.1.2.3/024"])) ∧
      (compileText "a net A:b:0:12:0:0:0:f09c/200").result =
        .error (.invalidNetwork "A:b:0:12:0:0:0:f09c/200" 6
          (BlockError.range 200 .six).message) := by
  let name : Run isColumnChar := .ofText ['a'] rfl
  have four : FullAddress .four "10.1.2.3".toList :=
    FullAddress.four [10, 1, 2, 3] rfl (by decide)
  have groups : ∀ g ∈ [['A'], ['b'], ['0'], ['1', '2'], ['0'], ['0'], ['0'], ['f', '0', '9', 'c']],
      1 ≤ g.length ∧ g.length ≤ 4 ∧ ∀ c ∈ g, Network.isHexDigit c = true := by
    simp [Network.isHexDigit, Decimal.isDigit]
  have six : FullAddress .six "A:b:0:12:0:0:0:f09c".toList := FullAddress.six _ rfl groups
  have short : Decimal.isDigits "024".toList = true := by decide
  have long : Decimal.isDigits "200".toList = true := by decide
  have length : Nat.ofDigits 10 ("200".toList.reverse.map digitValue) = 200 := by decide
  have sent := (compileText_network_length name four short).1 (by decide)
  have refused := (compileText_network_length name six long).2 (by rw [length]; decide)
  have text : String.ofList ("A:b:0:12:0:0:0:f09c".toList ++ '/' :: "200".toList) =
      "A:b:0:12:0:0:0:f09c/200" := by decide
  have source : String.ofList name.text ++ " net " ++
      String.ofList ("A:b:0:12:0:0:0:f09c".toList ++ '/' :: "200".toList) =
        "a net A:b:0:12:0:0:0:f09c/200" := by decide
  have offset : byteLength (String.ofList name.text ++ " net ").toList = 6 := by decide
  rw [length, source, text, offset, if_pos (by decide)] at refused
  exact ⟨four, six, sent, refused⟩

end Filter

end InventoryQuery
