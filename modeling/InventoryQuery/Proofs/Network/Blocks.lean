import InventoryQuery.Filter.Lexeme
import InventoryQuery.Network.Block
import InventoryQuery.Proofs.Decimal.Numerals

/-! The characters of a valid block. Its address has hexadecimal digits, colons and points
alone, and its length is decimal digits, which may have a plus in front. -/
namespace InventoryQuery.Network

open InventoryQuery.Filter (isAddressChar)

def IsAddressText (cs : List Char) : Prop := ∀ c ∈ cs, isAddressChar c = true

namespace IsAddressText

theorem nil : IsAddressText [] := by simp [IsAddressText]

theorem cons {c : Char} {cs : List Char} (first : isAddressChar c = true)
    (rest : IsAddressText cs) : IsAddressText (c :: cs) := List.forall_mem_cons.2 ⟨first, rest⟩

theorem append {cs ds : List Char} (left : IsAddressText cs) (right : IsAddressText ds) :
    IsAddressText (cs ++ ds) := List.forall_mem_append.2 ⟨left, right⟩

theorem of_digits {cs : List Char} (digits : Decimal.isDigits cs = true) : IsAddressText cs :=
  fun c member => by simp [isAddressChar, isHexDigit, (Decimal.isDigits_iff.1 digits).2 c member]

theorem of_isGroup {cs : List Char} (group : isGroup cs = true) : IsAddressText cs := by
  simp only [isGroup, Bool.and_eq_true, List.all_eq_true] at group
  exact fun c member => by simp [isAddressChar, group.2 c member]

theorem of_fields {separator : Char} (allowed : isAddressChar separator = true) {cs : List Char}
    (each : ∀ field ∈ fields separator cs, IsAddressText field) : IsAddressText cs := by
  induction cs with
  | nil => exact nil
  | cons c cs ih =>
    rw [fields] at each
    split at each
    next here => exact cons (here ▸ allowed) (ih (List.forall_mem_cons.1 each).2)
    · split at each
      next same =>
        have first := List.forall_mem_singleton.1 each
        exact cons (first c (by simp)) (ih (by simp [same]))
      next field more same =>
        obtain ⟨first, others⟩ := List.forall_mem_cons.1 each
        refine cons (first c (by simp)) (ih ?_)
        rw [same]
        exact List.forall_mem_cons.2 ⟨(List.forall_mem_cons.1 first).2, others⟩

theorem of_isFour {cs : List Char} (four : isFour cs = true) : IsAddressText cs := by
  simp only [isFour, Bool.and_eq_true, List.all_eq_true] at four
  refine of_fields (show isAddressChar '.' = true by decide) fun field member => of_digits ?_
  have octet := four.2 field member
  simp only [isOctet, Bool.and_eq_true] at octet
  exact octet.1.1.1

theorem of_groupCount? {groups : List (List Char)} {count : Nat}
    (counted : groupCount? groups = some count) : ∀ field ∈ groups, IsAddressText field := by
  induction groups using groupCount?.induct generalizing count with
  | case1 => simp
  | case2 last group => simpa using of_isGroup group
  | case3 last _ four => simpa using of_isFour four
  | case4 last noGroup noFour => simp [groupCount?, noGroup, noFour] at counted
  | case5 field rest more group ih =>
    rw [groupCount?, if_pos group, Option.map_eq_some_iff] at counted
    · obtain ⟨others, counted, -⟩ := counted
      exact List.forall_mem_cons.2 ⟨of_isGroup group, ih counted⟩
    · exact more
  | case6 field rest more noGroup => simp [groupCount?, noGroup] at counted

theorem of_sideCount? {cs : List Char} {count : Nat} (counted : sideCount? cs = some count) :
    IsAddressText cs := by
  rw [sideCount?] at counted
  split at counted
  next empty => exact List.isEmpty_iff.1 empty ▸ nil
  · exact of_fields (show isAddressChar ':' = true by decide) (of_groupCount? counted)

end IsAddressText

theorem splitDoubleColon?_eq_some {cs before after : List Char}
    (split : splitDoubleColon? cs = some (before, after)) : cs = before ++ ':' :: ':' :: after := by
  induction cs using splitDoubleColon?.induct generalizing before with
  | case1 rest =>
    obtain ⟨rfl, rfl⟩ : [] = before ∧ rest = after := by simpa [splitDoubleColon?] using split
    rfl
  | case2 c rest noColons ih =>
    rw [splitDoubleColon?, Option.map_eq_some_iff] at split
    · obtain ⟨⟨inner, _⟩, split, same⟩ := split
      obtain ⟨rfl, rfl⟩ := Prod.mk.inj same
      rw [ih split, List.cons_append]
    · exact noColons
  | case3 => simp [splitDoubleColon?] at split

theorem IsAddressText.of_isSix {cs : List Char} (six : isSix cs = true) : IsAddressText cs := by
  rw [isSix] at six
  split at six
  · have counted : groupCount? (fields ':' cs) = some 8 := by simpa using six
    exact of_fields (show isAddressChar ':' = true by decide) (of_groupCount? counted)
  next before after split =>
    rw [Bool.and_eq_true] at six
    obtain ⟨-, sides⟩ := six
    split at sides
    next left right =>
      rw [splitDoubleColon?_eq_some split]
      exact (of_sideCount? left).append (cons (by decide) (cons (by decide) (of_sideCount? right)))
    · simp at sides

theorem version?_eq_some {cs : List Char} {version : Version} (valid : version? cs = some version) :
    cs ≠ [] ∧ IsAddressText cs := by
  constructor
  · rintro rfl
    have refused : version? [] = none := by decide
    simp [refused] at valid
  · rw [version?] at valid
    split at valid
    next four => exact .of_isFour four
    · split at valid
      next six => exact .of_isSix six
      · simp at valid

theorem byteFrom_eq_ok {start value : Nat} {cs : List Char} (read : byteFrom start cs = .ok value) :
    ∀ c ∈ cs, Decimal.isDigit c = true := by
  induction cs generalizing start with
  | nil => simp
  | cons c cs ih =>
    rw [byteFrom] at read
    split at read
    next digit =>
      simp only at read
      split at read
      · exact List.forall_mem_cons.2 ⟨digit, ih read⟩
      · simp at read
    · simp at read

theorem lengthOf_eq_ok {cs : List Char} {length : Nat} (read : lengthOf cs = .ok length) :
    ∃ digits, Decimal.isDigits digits = true ∧ (cs = digits ∨ cs = '+' :: digits) := by
  rw [lengthOf.eq_def] at read
  split at read
  · simp at read
  · simp at read
  next digits other =>
    refine ⟨digits, Decimal.isDigits_iff.2 ⟨?_, byteFrom_eq_ok read⟩, .inr rfl⟩
    rintro rfl
    exact other rfl
  next empty _ _ =>
    exact ⟨cs, Decimal.isDigits_iff.2 ⟨empty, byteFrom_eq_ok read⟩, .inl rfl⟩

theorem splitLastSlash?_eq_some {cs before after : List Char}
    (split : splitLastSlash? cs = some (before, after)) : cs = before ++ '/' :: after := by
  rw [splitLastSlash?] at split
  split at split
  · simp at split
  next c reversed left =>
    obtain ⟨rfl, rfl⟩ := Prod.mk.inj (Option.some.inj split)
    have slash : c = '/' := by
      have stopped := List.head?_dropWhile_not (· != '/') cs.reverse
      simpa [left] using stopped
    have whole := List.takeWhile_append_dropWhile (p := (· != '/')) (l := cs.reverse)
    rw [left, slash] at whole
    have turned := congrArg List.reverse whole
    simpa using turned.symm

theorem checkBlock_eq_ok {cs : List Char} (valid : checkBlock cs = .ok ()) :
    ∃ address digits, address ≠ [] ∧ IsAddressText address ∧ Decimal.isDigits digits = true ∧
      (cs = address ++ '/' :: digits ∨ cs = address ++ '/' :: '+' :: digits) := by
  rw [checkBlock] at valid
  split at valid
  · simp at valid
  next address lengthText split =>
    split at valid
    · simp at valid
    next version known =>
      split at valid
      · simp at valid
      next length read =>
        obtain ⟨nonempty, inside⟩ := version?_eq_some known
        obtain ⟨digits, isDigits, shape⟩ := lengthOf_eq_ok read
        refine ⟨address, digits, nonempty, inside, isDigits, ?_⟩
        rw [splitLastSlash?_eq_some split]
        exact shape.imp (fun same => by rw [same]) fun same => by rw [same]

end InventoryQuery.Network
