import InventoryQuery.Json.Basic

/-! The text of a JSON value, compact or with two blanks of indentation a level.
Strings escape the quote, the backslash and the control characters below a
blank; every other character stands for itself. An empty array or object stays
on one line. -/
namespace InventoryQuery.Json

def hexDigit (n : Nat) : Char := Nat.digitChar n

def escapeChar (c : Char) : List Char :=
  if c = '"' then ['\\', '"']
  else if c = '\\' then ['\\', '\\']
  else if c = '\n' then ['\\', 'n']
  else if c = '\r' then ['\\', 'r']
  else if c = '\t' then ['\\', 't']
  else if c.toNat = 8 then ['\\', 'b']
  else if c.toNat = 12 then ['\\', 'f']
  else if c.toNat < 32 then
    ['\\', 'u', '0', '0', hexDigit (c.toNat / 16), hexDigit (c.toNat % 16)]
  else [c]

def quote (text : String) : String :=
  String.ofList ('"' :: (text.toList.flatMap escapeChar ++ ['"']))

def booleanText (value : Bool) : String := if value then "true" else "false"

mutual

def compact : Json → String
  | .array elements => "[" ++ ",".intercalate (compactElements elements) ++ "]"
  | .object members => "\x7b" ++ ",".intercalate (compactMembers members) ++ "\x7d"
  | .null => "null"
  | .boolean value => booleanText value
  | .number value => String.ofList value.text
  | .string value => quote value

def compactElements : List Json → List String
  | [] => []
  | element :: rest => compact element :: compactElements rest

def compactMembers : List (String × Json) → List String
  | [] => []
  | (key, value) :: rest => (quote key ++ ":" ++ compact value) :: compactMembers rest

end

def indentation (depth : Nat) : String := String.ofList (List.replicate (2 * depth) ' ')

/-- Items on lines of their own between two brackets. -/
def block (opening closing : String) (depth : Nat) (items : List String) : String :=
  if items.isEmpty then opening ++ closing
  else
    let separator := ",\n" ++ indentation (depth + 1)
    opening ++ "\n" ++ indentation (depth + 1) ++ separator.intercalate items ++
      "\n" ++ indentation depth ++ closing

mutual

def prettyAt (depth : Nat) : Json → String
  | .array elements => block "[" "]" depth (prettyElements (depth + 1) elements)
  | .object members => block "\x7b" "\x7d" depth (prettyMembers (depth + 1) members)
  | .null => "null"
  | .boolean value => booleanText value
  | .number value => String.ofList value.text
  | .string value => quote value

def prettyElements (depth : Nat) : List Json → List String
  | [] => []
  | element :: rest => prettyAt depth element :: prettyElements depth rest

def prettyMembers (depth : Nat) : List (String × Json) → List String
  | [] => []
  | (key, value) :: rest =>
    (quote key ++ ": " ++ prettyAt depth value) :: prettyMembers depth rest

end

def pretty (value : Json) : String := prettyAt 0 value

def render (indented : Bool) (value : Json) : String :=
  if indented then pretty value else compact value

end InventoryQuery.Json
