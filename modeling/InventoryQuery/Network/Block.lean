import InventoryQuery.Network.Address

/-! Address blocks, an address and the length of its network part after the last
slash. The address is checked first, then the length as a number of one byte,
then its range for the version of the address. -/
namespace InventoryQuery.Network

inductive LengthError
  | empty
  | invalidDigit
  | tooLarge
deriving DecidableEq, Repr

inductive BlockError
  | missingLength
  | address
  | length (cause : LengthError)
  | range (bits : Nat) (version : Version)
deriving DecidableEq, Repr

def LengthError.message : LengthError → String
  | .empty => "cannot parse integer from empty string"
  | .invalidDigit => "invalid digit found in string"
  | .tooLarge => "number too large to fit in target type"

def BlockError.message : BlockError → String
  | .missingLength => "missing prefix length"
  | .address => "couldn't parse address in network: invalid IP address syntax"
  | .length cause => "couldn't parse length in network: " ++ cause.message
  | .range bits version =>
    "invalid length for network: Network length " ++ toString bits ++ " is too long for " ++
      version.name ++ " (maximum: " ++ toString version.longestLength ++ ")"

/-- Reads digits from the left, and stops at the first that is none or that takes
the value beyond one byte. -/
def byteFrom (value : Nat) : List Char → Except LengthError Nat
  | [] => .ok value
  | c :: cs =>
    if Decimal.isDigit c then
      let next := 10 * value + Decimal.digitValue c
      if next ≤ 255 then byteFrom next cs else .error .tooLarge
    else .error .invalidDigit

/-- The length of a network, with an optional plus before its digits. -/
def lengthOf : List Char → Except LengthError Nat
  | [] => .error .empty
  | ['+'] => .error .invalidDigit
  | '+' :: cs => byteFrom 0 cs
  | cs => byteFrom 0 cs

def splitLastSlash? (cs : List Char) : Option (List Char × List Char) :=
  match cs.reverse.dropWhile (· != '/') with
  | [] => none
  | _ :: before => some (before.reverse, (cs.reverse.takeWhile (· != '/')).reverse)

def checkBlock (cs : List Char) : Except BlockError Unit :=
  match splitLastSlash? cs with
  | none => .error .missingLength
  | some (address, lengthText) =>
    match version? address with
    | none => .error .address
    | some version =>
      match lengthOf lengthText with
      | .error cause => .error (.length cause)
      | .ok length =>
        if length ≤ version.longestLength then .ok () else .error (.range length version)

end InventoryQuery.Network
