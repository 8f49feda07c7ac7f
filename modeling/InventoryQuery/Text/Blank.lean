/-! Blank characters, those with the Unicode property `White_Space`, and trimming
a text at both ends. A text is blank when trimming leaves nothing of it. -/
namespace InventoryQuery.Text

def isBlank (c : Char) : Bool :=
  let n := c.toNat
  (9 ≤ n && n ≤ 13) || n == 0x20 || n == 0x85 || n == 0xA0 || n == 0x1680 ||
    (0x2000 ≤ n && n ≤ 0x200A) || n == 0x2028 || n == 0x2029 || n == 0x202F ||
    n == 0x205F || n == 0x3000

def trimStart (cs : List Char) : List Char := cs.dropWhile isBlank

def trimEnd (cs : List Char) : List Char := (cs.reverse.dropWhile isBlank).reverse

def trimmed (cs : List Char) : List Char := trimEnd (trimStart cs)

def trim (text : String) : String := String.ofList (trimmed text.toList)

theorem trimStart_cons (c : Char) (cs : List Char) :
    trimStart (c :: cs) = if isBlank c then trimStart cs else c :: cs := by
  simp [trimStart, List.dropWhile_cons]

theorem toList_trim (text : String) : (trim text).toList = trimmed text.toList := by
  simp [trim]

def nonBlank? (text : String) : Option String :=
  let inside := trim text
  if inside.isEmpty then none else some inside

end InventoryQuery.Text
