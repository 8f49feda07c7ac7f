import InventoryQuery.Network.Address

/-! The lexemes of filter expressions. A lexeme reader splits its text in front of
the input from the rest, or fails. The three unquoted classes with a shape of
their own, networks, numbers and booleans, must be followed by a terminator. -/
namespace InventoryQuery.Filter

abbrev Lexeme := List Char → Option (List Char × List Char)

def isSpace (c : Char) : Bool := c == ' ' || c == '\t' || c == '\r' || c == '\n'

def isTerminator (c : Char) : Bool := isSpace c || c == ',' || c == '(' || c == ')'

def isLetter (c : Char) : Bool := ('a' ≤ c && c ≤ 'z') || ('A' ≤ c && c ≤ 'Z')

def isColumnChar (c : Char) : Bool :=
  isLetter c || Decimal.isDigit c || c == '_' || c == '.'

def operatorSigns : List Char :=
  ['=', '!', '~', '?', '<', '>', '/', '&', '|', '^', '%', '*', '+', '@', '#', '$', ':', ';']

def isOperatorChar (c : Char) : Bool := isLetter c || operatorSigns.contains c

def isAddressChar (c : Char) : Bool := Network.isHexDigit c || c == ':' || c == '.'

def isQuote (c : Char) : Bool := c == '\'' || c == '"'

def atTerminator : List Char → Bool
  | [] => true
  | c :: _ => isTerminator c

namespace Lexeme

/-- The longest run of characters of a class, which must not be empty. -/
def run (p : Char → Bool) : Lexeme := fun cs =>
  if (cs.takeWhile p).isEmpty then none else some (cs.takeWhile p, cs.dropWhile p)

/-- The longest run of characters of a class, which may be empty. -/
def span (p : Char → Bool) : Lexeme := fun cs => some (cs.takeWhile p, cs.dropWhile p)

def char (p : Char → Bool) : Lexeme
  | [] => none
  | c :: cs => if p c then some ([c], cs) else none

def exact (text : List Char) : Lexeme := fun cs =>
  if text.isPrefixOf cs then some (text, cs.drop text.length) else none

def either (a b : Lexeme) : Lexeme := fun cs => (a cs).or (b cs)

def followedBy (a b : Lexeme) : Lexeme := fun cs =>
  (a cs).bind fun (before, middle) =>
    (b middle).map fun (after, rest) => (before ++ after, rest)

def optional (a : Lexeme) : Lexeme := fun cs => (a cs).or (some ([], cs))

def terminated (a : Lexeme) : Lexeme := fun cs =>
  (a cs).filter fun (_, rest) => atTerminator rest

def endOfInput : Lexeme
  | [] => some ([], [])
  | _ :: _ => none

def column : Lexeme := run isColumnChar

def operator : Lexeme := run isOperatorChar

def connective : Lexeme := either (exact ['a', 'n', 'd']) (exact ['o', 'r'])

def network : Lexeme :=
  terminated (followedBy (run isAddressChar) (followedBy (exact ['/']) (run Decimal.isDigit)))

def number : Lexeme :=
  terminated (followedBy (optional (exact ['-'])) (followedBy (run Decimal.isDigit)
    (optional (followedBy (exact ['.']) (run Decimal.isDigit)))))

def boolean : Lexeme :=
  terminated (either (exact ['t', 'r', 'u', 'e']) (exact ['f', 'a', 'l', 's', 'e']))

/-- Any run up to a terminator that does not begin with a quote. -/
def word : Lexeme
  | [] => none
  | c :: cs => if isQuote c then none else run (fun d => !isTerminator d) (c :: cs)

/-- The inside of a quoted text: pairs of a backslash and any character, and
single characters other than the delimiter and the backslash. -/
def quotedText (delimiter : Char) : List Char → List Char × List Char
  | '\\' :: c :: cs =>
    let (text, rest) := quotedText delimiter cs
    ('\\' :: c :: text, rest)
  | [] => ([], [])
  | c :: cs =>
    if c = delimiter ∨ c = '\\' then ([], c :: cs)
    else
      let (text, rest) := quotedText delimiter cs
      (c :: text, rest)

def inside (delimiter : Char) : Lexeme := fun cs => some (quotedText delimiter cs)

end Lexeme

end InventoryQuery.Filter
