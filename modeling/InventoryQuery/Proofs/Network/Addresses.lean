import InventoryQuery.Proofs.Decimal.Leading
import InventoryQuery.Proofs.Network.Blocks

/-! Addresses with all their parts, and blocks of them. The check of a block takes such an
address of either version, and of the number behind it only the value counts: it passes up to
the number of bits that the address has, whatever zeros stand in front of its digits. -/
namespace InventoryQuery.Network

/-- An address that leaves nothing out: four numbers of one byte, or eight groups of one to four
hexadecimal digits. -/
inductive FullAddress : Version → List Char → Prop
  | four (octets : List Nat) (count : octets.length = 4) (small : ∀ n ∈ octets, n ≤ 255) :
    FullAddress .four (['.'].intercalate (octets.map (Nat.toDigits 10)))
  | six (groups : List (List Char)) (count : groups.length = 8)
    (each : ∀ g ∈ groups, 1 ≤ g.length ∧ g.length ≤ 4 ∧ ∀ c ∈ g, isHexDigit c = true) :
    FullAddress .six ([':'].intercalate groups)

theorem fields_eq_splitOn (separator : Char) (cs : List Char) :
    fields separator cs = cs.splitOn separator := by
  induction cs with
  | nil => rw [fields, List.splitOn_nil]
  | cons c cs ih =>
    rw [fields, ih, List.splitOn_cons_eq_if_modifyHead]
    simp only [beq_iff_eq]
    cases split : cs.splitOn separator with
    | nil => exact absurd split (List.splitOn_ne_nil separator cs)
    | cons field more => rfl

theorem isOctet_toDigits {n : Nat} (small : n ≤ 255) : isOctet (Nat.toDigits 10 n) = true := by
  have short : (Nat.toDigits 10 n).length ≤ 3 :=
    (Nat.length_toDigits_le_iff (by decide) (by decide)).2 (by omega)
  have bare := Decimal.hasLeadingZero_toDigits n
  have nonempty := Nat.length_toDigits_pos (b := 10) (n := n)
  simp only [Decimal.hasLeadingZero, Bool.and_eq_false_iff, decide_eq_false_iff_not, not_lt] at bare
  simp only [isOctet, Decimal.isDigits_toDigits, Decimal.valueOfDigits_toDigits, small, short,
    decide_true, Bool.true_and, Bool.or_eq_true, decide_eq_true_eq]
  grind

theorem isFour_intercalate {octets : List Nat} (count : octets.length = 4)
    (small : ∀ n ∈ octets, n ≤ 255) :
    isFour (['.'].intercalate (octets.map (Nat.toDigits 10))) = true := by
  have free : ∀ field ∈ octets.map (Nat.toDigits 10), '.' ∉ field := by
    refine List.forall_mem_map.2 fun n _ member => ?_
    have digit := Decimal.isDigit_of_mem_toDigits member
    exact absurd digit (by decide)
  have nonempty : octets.map (Nat.toDigits 10) ≠ [] := by
    rw [List.map_eq_nil_iff.ne, ← List.length_pos_iff, count]
    decide
  have octet : ∀ field ∈ octets.map (Nat.toDigits 10), isOctet field = true :=
    List.forall_mem_map.2 fun n member => isOctet_toDigits (small n member)
  simp only [isFour, fields_eq_splitOn, List.splitOn_intercalate '.' free nonempty,
    List.length_map, count, decide_true, Bool.true_and]
  exact List.all_eq_true.2 octet

theorem groupCount?_eq_length {groups : List (List Char)}
    (each : ∀ g ∈ groups, isGroup g = true) : groupCount? groups = some groups.length := by
  induction groups using groupCount?.induct with
  | case1 => rfl
  | case2 last group => simp [groupCount?, group]
  | case3 last other | case4 last other => exact absurd (each last (by simp)) other
  | case5 field rest more group ih =>
    rw [groupCount?, if_pos group, ih (List.forall_mem_cons.1 each).2]
    · rfl
    · exact more
  | case6 field rest more other => exact absurd (each field (by simp)) other

theorem splitDoubleColon?_eq_none {cs : List Char} (full : [] ∉ cs.splitOn ':') :
    splitDoubleColon? cs = none := by
  cases split : splitDoubleColon? cs with
  | none => rfl
  | some parts =>
    refine absurd ?_ full
    rw [splitDoubleColon?_eq_some split, List.splitOn_append_cons_self]
    have empty := List.splitOn_append_cons_self (a := ':') [] parts.2
    rw [List.nil_append, List.splitOn_nil, List.singleton_append] at empty
    simp [empty]

theorem isSix_intercalate {groups : List (List Char)} (count : groups.length = 8)
    (each : ∀ g ∈ groups, isGroup g = true) : isSix ([':'].intercalate groups) = true := by
  have free : ∀ g ∈ groups, ':' ∉ g := fun g member colon => by
    have group := each g member
    simp only [isGroup, Bool.and_eq_true, List.all_eq_true] at group
    exact absurd (group.2 _ colon) (by decide)
  have nonempty : groups ≠ [] := by
    rw [← List.length_pos_iff, count]
    decide
  have split := List.splitOn_intercalate ':' free nonempty
  have full : [] ∉ ([':'].intercalate groups).splitOn ':' := by
    rw [split]
    exact fun member => absurd (each [] member) (by decide)
  rw [isSix, splitDoubleColon?_eq_none full, fields_eq_splitOn, split,
    groupCount?_eq_length each, count]
  rfl

theorem isFour_eq_false {cs : List Char} (whole : '.' ∉ cs) : isFour cs = false := by
  rw [isFour, fields_eq_splitOn, List.splitOn_eq_singleton whole]
  rfl

theorem notMem_intercalate {c separator : Char} {parts : List (List Char)} (other : c ≠ separator)
    (each : ∀ part ∈ parts, c ∉ part) : c ∉ [separator].intercalate parts := by
  induction parts with
  | nil => exact List.not_mem_nil
  | cons part parts ih =>
    obtain ⟨first, others⟩ := List.forall_mem_cons.1 each
    cases parts with
    | nil => rwa [List.intercalate_singleton]
    | cons next parts =>
      rw [List.intercalate_cons_cons]
      simpa [first, other] using ih others

theorem version?_of_full {version : Version} {address : List Char}
    (full : FullAddress version address) : version? address = some version := by
  cases full with
  | four octets count small => rw [version?, if_pos (isFour_intercalate count small)]
  | six groups count each =>
    have group : ∀ g ∈ groups, isGroup g = true := fun g member => by
      obtain ⟨nonempty, short, hex⟩ := each g member
      simpa [isGroup, short, List.ne_nil_of_length_pos nonempty] using hex
    have whole : '.' ∉ [':'].intercalate groups := by
      refine notMem_intercalate (by decide) fun g member point => ?_
      exact absurd ((each g member).2.2 _ point) (by decide)
    rw [version?, isFour_eq_false whole, if_neg Bool.false_ne_true,
      if_pos (isSix_intercalate count group)]

theorem splitLastSlash?_append {address digits : List Char} (bare : '/' ∉ digits) :
    splitLastSlash? (address ++ '/' :: digits) = some (address, digits) := by
  have other : ∀ c ∈ digits.reverse, (c != '/') = true := by
    intro c member
    rw [bne_iff_ne]
    rintro rfl
    exact bare (List.mem_reverse.1 member)
  have turned : (address ++ '/' :: digits).reverse = digits.reverse ++ '/' :: address.reverse := by
    simp
  rw [splitLastSlash?, turned, List.dropWhile_append_of_pos other,
    List.takeWhile_append_of_pos other]
  simp

theorem byteFrom_eq {count : Nat} {digits : List Char} (small : count ≤ 255)
    (each : ∀ c ∈ digits, Decimal.isDigit c = true) :
    byteFrom count digits =
      if Decimal.Width.extend count digits ≤ 255 then .ok (Decimal.Width.extend count digits)
      else .error .tooLarge := by
  induction digits generalizing count with
  | nil => simp [byteFrom, Decimal.Width.extend, small]
  | cons c digits ih =>
    obtain ⟨first, others⟩ := List.forall_mem_cons.1 each
    have grows := Decimal.Width.le_extend (10 * count + Decimal.digitValue c) digits
    rw [byteFrom, if_pos first, Decimal.Width.extend_cons]
    by_cases fits : 10 * count + Decimal.digitValue c ≤ 255
    · simp only [fits, if_true]
      exact ih fits others
    · simp only [fits, if_false]
      rw [if_neg (by omega)]

theorem lengthOf_eq {digits : List Char} (isDigits : Decimal.isDigits digits = true) :
    lengthOf digits = if Decimal.valueOfDigits digits ≤ 255 then
      .ok (Decimal.valueOfDigits digits) else .error .tooLarge := by
  obtain ⟨nonempty, each⟩ := Decimal.isDigits_iff.1 isDigits
  obtain ⟨c, cs, rfl⟩ := List.exists_cons_of_ne_nil nonempty
  have unsigned : c ≠ '+' := by
    rintro rfl
    exact absurd (each '+' (by simp)) (by decide)
  have read : lengthOf (c :: cs) = byteFrom 0 (c :: cs) := by
    rw [lengthOf.eq_def]
    split <;> simp_all
  rw [read, byteFrom_eq (Nat.zero_le _) each]
  rfl

theorem checkBlock_of_full {version : Version} {address digits : List Char}
    (full : FullAddress version address) (isDigits : Decimal.isDigits digits = true) :
    checkBlock (address ++ '/' :: digits) =
      if Decimal.valueOfDigits digits ≤ version.longestLength then .ok ()
      else .error (if Decimal.valueOfDigits digits ≤ 255 then
        .range (Decimal.valueOfDigits digits) version else .length .tooLarge) := by
  have bare : '/' ∉ digits := fun member =>
    absurd (IsAddressText.of_digits isDigits '/' member) (by decide)
  have byte : version.longestLength ≤ 255 := by cases version <;> decide
  rw [checkBlock, splitLastSlash?_append bare]
  simp only [version?_of_full full, lengthOf_eq isDigits]
  by_cases fits : Decimal.valueOfDigits digits ≤ 255
  · simp only [fits, if_true]
  · have long : ¬Decimal.valueOfDigits digits ≤ version.longestLength := by omega
    simp only [fits, long, if_false]

end InventoryQuery.Network
