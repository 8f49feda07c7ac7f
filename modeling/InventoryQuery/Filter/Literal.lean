import InventoryQuery.Json.Document
import InventoryQuery.Network.Block
import InventoryQuery.Text.Blank
import InventoryQuery.Filter.Lexeme
import InventoryQuery.Filter.Quoted

/-! Literals on the right side of a comparison. A token is a value as the grammar
classes it; an unquoted token is a number if it has the form of one and can be
represented, then a boolean, and text otherwise. -/
namespace InventoryQuery.Filter

/-- A value token. The text of a quoted one is already without its escapes. -/
inductive Token
  | quoted (text : String)
  | network (text : String)
  | number (text : String)
  | boolean (text : String)
  | word (text : String)
deriving DecidableEq

def Token.text : Token → String
  | .quoted text => text
  | .network text => text
  | .number text => text
  | .boolean text => text
  | .word text => text

inductive Literal
  | string (text : String)
  | number (value : Number)
  | boolean (value : Bool)
  | network (text : String)
deriving DecidableEq

namespace Literal

def ofUnquoted (text : String) : Literal :=
  match Number.ofText? text.toList with
  | some value => .number value
  | none =>
    if text = "true" then .boolean true
    else if text = "false" then .boolean false
    else .string text

def ofToken : Token → Literal
  | .quoted text => .string text
  | .network text => .network text
  | .number text => ofUnquoted text
  | .boolean text => ofUnquoted text
  | .word text => ofUnquoted text

def kind : Literal → String
  | .string _ => "string"
  | .number _ => "number"
  | .boolean _ => "boolean"
  | .network _ => "cidr"

def toDocument : Literal → Document
  | .string text => .string text
  | .number value => .number value
  | .boolean value => .boolean value
  | .network text => .string text

def toJson (l : Literal) : Json :=
  .object [("type", .string l.kind), ("value", l.toDocument.value)]

def isNumber : Literal → Bool
  | .number _ => true
  | _ => false

/-- Whether a text must be quoted to read back as the same text. -/
def needsQuotes (text : List Char) : Bool :=
  text.isEmpty || text.head?.any isQuote ||
    text.any (fun c => Text.isBlank c || c == ',' || c == '(' || c == ')' || c == '/') ||
    text == ['t', 'r', 'u', 'e'] || text == ['f', 'a', 'l', 's', 'e'] ||
    Decimal.isNumberLike text

def canonical : Literal → List Char
  | .string text =>
    if needsQuotes text.toList then '\'' :: (Quoted.escape '\'' text.toList ++ ['\''])
    else text.toList
  | .number value => value.text
  | .boolean value => (Json.booleanText value).toList
  | .network text => text.toList

def networkText : Literal → String
  | .string text => text
  | .network text => text
  | other => String.ofList other.canonical

end Literal

/-- A text in network notation, kept as written. -/
def networkLiteral (text : String) : Except Network.BlockError Literal :=
  match Network.checkBlock text.toList with
  | .ok () => .ok (.network text)
  | .error cause => .error cause

def severities : List (String × Int) :=
  [("green", 0), ("blue", 10), ("yellow", 20), ("red", 30)]

/-- The ordinal of a severity, whose name may be in any case. -/
def severityOrdinal? (name : String) : Option Int :=
  severities.lookup (String.ofList (name.toList.map Decimal.lowerAscii))

end InventoryQuery.Filter
