import InventoryQuery.Decimal.Numeral

/-! The text of network addresses. A version 4 address is four decimal octets
without leading zeros. A version 6 address is eight groups of one to four
hexadecimal digits; a double colon stands for one or more groups, and the last
two groups may be written as a version 4 address. -/
namespace InventoryQuery.Network

inductive Version
  | four
  | six
deriving DecidableEq, Repr

namespace Version

def longestLength : Version → Nat
  | four => 32
  | six => 128

def name : Version → String
  | four => "Ipv4"
  | six => "Ipv6"

end Version

def isHexDigit (c : Char) : Bool :=
  Decimal.isDigit c || ('a' ≤ c && c ≤ 'f') || ('A' ≤ c && c ≤ 'F')

/-- The fields between the occurrences of a separator, one more than there are
separators. -/
def fields (separator : Char) : List Char → List (List Char)
  | [] => [[]]
  | c :: cs =>
    if c = separator then [] :: fields separator cs
    else
      match fields separator cs with
      | [] => [[c]]
      | field :: more => (c :: field) :: more

def isOctet (cs : List Char) : Bool :=
  Decimal.isDigits cs && cs.length ≤ 3 && Decimal.valueOfDigits cs ≤ 255 &&
    (cs.length = 1 || cs.head? != some '0')

def isFour (cs : List Char) : Bool :=
  let octets := fields '.' cs
  octets.length = 4 && octets.all isOctet

def isGroup (cs : List Char) : Bool :=
  !cs.isEmpty && cs.length ≤ 4 && cs.all isHexDigit

/-- How many groups a list of fields stands for, when its last field may be a
version 4 address. -/
def groupCount? : List (List Char) → Option Nat
  | [] => some 0
  | [last] => if isGroup last then some 1 else if isFour last then some 2 else none
  | field :: rest => if isGroup field then (groupCount? rest).map (· + 1) else none

/-- The groups written on one side of a double colon, where there may be none. -/
def sideCount? (cs : List Char) : Option Nat :=
  if cs.isEmpty then some 0 else groupCount? (fields ':' cs)

def splitDoubleColon? : List Char → Option (List Char × List Char)
  | ':' :: ':' :: rest => some ([], rest)
  | c :: rest => (splitDoubleColon? rest).map fun (before, after) => (c :: before, after)
  | [] => none

def isSix (cs : List Char) : Bool :=
  match splitDoubleColon? cs with
  | none => groupCount? (fields ':' cs) = some 8
  | some (before, after) =>
    before.all (· != '.') &&
      match sideCount? before, sideCount? after with
      | some left, some right => left + right ≤ 7
      | _, _ => false

def version? (cs : List Char) : Option Version :=
  if isFour cs then some .four else if isSix cs then some .six else none

end InventoryQuery.Network
