import InventoryQuery.Filter.Literal
import InventoryQuery.Proofs.Filter.Runs

/-! The classes of an unquoted word. A word goes up to a terminator, so each class
with a shape of its own holds of the whole word or is not found at all. -/
namespace InventoryQuery.Filter

variable {p : Char → Bool}

theorem isSpace_iff {c : Char} : isSpace c = true ↔ c = ' ' ∨ c = '\t' ∨ c = '\r' ∨ c = '\n' := by
  simp [isSpace, or_assoc]

theorem isTerminator_iff {c : Char} : isTerminator c = true ↔
    c = ' ' ∨ c = '\t' ∨ c = '\r' ∨ c = '\n' ∨ c = ',' ∨ c = '(' ∨ c = ')' := by
  simp [isTerminator, isSpace, or_assoc]

theorem isQuote_iff {c : Char} : isQuote c = true ↔ c = '\'' ∨ c = '"' := by
  simp [isQuote]

theorem isTerminator_of_isSpace {c : Char} (space : isSpace c = true) : isTerminator c = true := by
  simp [isTerminator, space]

theorem isAddressChar_terminator {c : Char} (ends : isTerminator c = true) :
    isAddressChar c = false := by
  rcases isTerminator_iff.1 ends with rfl | rfl | rfl | rfl | rfl | rfl | rfl <;> decide

theorem isDigit_terminator {c : Char} (ends : isTerminator c = true) :
    Decimal.isDigit c = false := by
  rcases isTerminator_iff.1 ends with rfl | rfl | rfl | rfl | rfl | rfl | rfl <;> decide

theorem isLetter_of_isDigit {c : Char} (digit : Decimal.isDigit c = true) :
    isLetter c = false := by
  simp only [Decimal.isDigit, Bool.and_eq_true, decide_eq_true_eq, Char.le_def,
    UInt32.le_iff_toNat_le] at digit
  have high : c.val.toNat ≤ 57 := digit.2
  have small (d : Char) (above : 57 < d.val.toNat) : decide (d ≤ c) = false := by
    rw [decide_eq_false_iff_not, Char.le_def, UInt32.le_iff_toNat_le]
    omega
  simp [isLetter, small 'a' (by decide), small 'A' (by decide)]

theorem isOperatorChar_of_isDigit {c : Char} (digit : Decimal.isDigit c = true) :
    isOperatorChar c = false := by
  have signless : operatorSigns.all (!Decimal.isDigit ·) = true := by decide
  have sign : operatorSigns.contains c = false := by
    refine Bool.eq_false_iff.2 fun member => ?_
    simpa [digit] using List.all_eq_true.1 signless c (List.contains_iff_mem.1 member)
  rw [isOperatorChar, isLetter_of_isDigit digit, sign, Bool.false_or]
def isWordStart (c : Char) : Bool := !isTerminator c && !isQuote c

/-- The shape of a network: address characters, a slash, and digits. -/
def isNetworkText (cs : List Char) : Bool :=
  match cs.dropWhile isAddressChar with
  | '/' :: digits => !(cs.takeWhile isAddressChar).isEmpty && Decimal.isDigits digits
  | _ => false

theorem isNetworkText_iff {cs : List Char} : isNetworkText cs = true ↔
    ∃ address digits, cs = address ++ '/' :: digits ∧ address ≠ [] ∧
      (∀ c ∈ address, isAddressChar c = true) ∧ Decimal.isDigits digits = true := by
  constructor
  · intro shape
    unfold isNetworkText at shape
    split at shape
    next digits left =>
      simp only [Bool.and_eq_true, Bool.not_eq_true', List.isEmpty_eq_false_iff] at shape
      refine ⟨cs.takeWhile isAddressChar, digits, ?_, shape.1, mem_takeWhile, shape.2⟩
      rw [← left, List.takeWhile_append_dropWhile]
    · simp at shape
  · rintro ⟨address, digits, rfl, nonempty, inside, shape⟩
    have stop : stops isAddressChar ('/' :: digits) = true := by
      rw [stops_cons]; decide
    rw [isNetworkText, dropWhile_append_stops inside stop, takeWhile_append_stops inside stop]
    simp [nonempty, shape]

theorem isNetworkText_slash {cs : List Char} (shape : isNetworkText cs = true) : '/' ∈ cs := by
  obtain ⟨address, digits, rfl, -⟩ := isNetworkText_iff.1 shape
  simp

namespace Lexeme

theorem run_isDigit_eq_all {cs : List Char} :
    run Decimal.isDigit cs = some (cs, []) ↔ Decimal.isDigits cs = true := by
  rw [run_eq_some_iff, Decimal.isDigits]
  simp

theorem network_whole {word : List Char} :
    followedBy (run isAddressChar) (followedBy (exact ['/']) (run Decimal.isDigit)) word =
      some (word, []) ↔ isNetworkText word = true := by
  rw [isNetworkText_iff,
    followedBy_whole splits_run (splits_followedBy (splits_exact _) splits_run)]
  simp only [followedBy_whole (splits_exact _) splits_run]
  constructor
  · rintro ⟨address, _, left, slash, digits, middle, right⟩
    obtain ⟨rfl, nonempty, inside, -⟩ := run_eq_some_iff.1 left
    obtain ⟨-, rfl⟩ := exact_eq_some_iff.1 middle
    exact ⟨address, digits, rfl, nonempty, inside, run_isDigit_eq_all.1 right⟩
  · rintro ⟨address, digits, rfl, nonempty, inside, shape⟩
    have stop : stops isAddressChar ('/' :: digits) = true := by rw [stops_cons]; decide
    exact ⟨address, '/' :: digits, run_append nonempty inside stop, ['/'], digits,
      exact_append ['/'] digits, run_isDigit_eq_all.2 shape⟩

theorem network_append {word rest : List Char} (inside : ∀ c ∈ word, isTerminator c = false)
    (ends : atTerminator rest = true) :
    network (word ++ rest) = if isNetworkText word then some (word, rest) else none := by
  have splits := splits_followedBy (splits_run (p := isAddressChar))
    (splits_followedBy (splits_exact ['/']) (splits_run (p := Decimal.isDigit)))
  have here := local_followedBy (local_run fun _ => isAddressChar_terminator)
    (local_followedBy (local_exact ['/'] (by decide))
      (local_run fun _ => isDigit_terminator))
  rw [network, terminated_append splits here inside ends]
  simp only [network_whole]

theorem fraction_whole {cs : List Char} :
    optional (followedBy (exact ['.']) (run Decimal.isDigit)) cs = some (cs, []) ↔
      cs = [] ∨ ∃ fraction, cs = '.' :: fraction ∧ Decimal.isDigits fraction = true := by
  rw [optional, Option.or_eq_some_iff, followedBy_whole (splits_exact _) splits_run]
  constructor
  · rintro (⟨point, fraction, left, right⟩ | ⟨-, empty⟩)
    · obtain ⟨-, rfl⟩ := exact_eq_some_iff.1 left
      exact .inr ⟨fraction, rfl, run_isDigit_eq_all.1 right⟩
    · simp_all
  · rintro (rfl | ⟨fraction, rfl, shape⟩)
    · exact .inr ⟨rfl, rfl⟩
    · exact .inl ⟨['.'], fraction, exact_append ['.'] fraction, run_isDigit_eq_all.2 shape⟩

theorem splits_fraction : Splits (optional (followedBy (exact ['.']) (run Decimal.isDigit))) :=
  splits_optional (splits_followedBy (splits_exact _) splits_run)

theorem unsigned_whole {cs : List Char} (negative : Bool) :
    followedBy (run Decimal.isDigit)
        (optional (followedBy (exact ['.']) (run Decimal.isDigit))) cs = some (cs, []) ↔
      (Decimal.Numeral.unsigned? negative cs).isSome = true := by
  rw [followedBy_whole splits_run splits_fraction, Decimal.Numeral.unsigned?]
  by_cases empty : cs.takeWhile Decimal.isDigit = []
  · have missing : ∀ before middle, run Decimal.isDigit cs ≠ some (before, middle) := by
      simp [run, empty]
    simp only [empty, List.isEmpty_nil, if_true, missing, false_and, exists_false, false_iff]
    split <;> simp
  · have found : run Decimal.isDigit cs =
        some (cs.takeWhile Decimal.isDigit, cs.dropWhile Decimal.isDigit) := by
      simp [run, empty]
    simp only [found, Option.some.injEq, Prod.mk.injEq, fraction_whole, and_assoc,
      exists_and_left, exists_eq_left', List.isEmpty_iff, empty]
    split <;> simp_all

theorem number_whole {word : List Char} :
    followedBy (optional (exact ['-'])) (followedBy (run Decimal.isDigit)
        (optional (followedBy (exact ['.']) (run Decimal.isDigit)))) word = some (word, []) ↔
      (Decimal.Numeral.ofText? word).isSome = true := by
  rw [followedBy_whole (splits_optional (splits_exact _))
    (splits_followedBy splits_run splits_fraction)]
  unfold Decimal.Numeral.ofText?
  split
  next cs =>
    have sign : optional (exact ['-']) ('-' :: cs) = some (['-'], cs) := by
      rw [optional, show exact ['-'] ('-' :: cs) = some (['-'], cs) from exact_append ['-'] cs]
      rfl
    simp only [sign, ← unsigned_whole true, Option.some.injEq, Prod.mk.injEq, and_assoc,
      exists_and_left, exists_eq_left']
  next other =>
    have sign : optional (exact ['-']) word = some ([], word) := by
      rw [optional, exact_eq_none]
      · rfl
      · rintro ⟨cs, same⟩
        exact other cs same.symm
    simp only [sign, ← unsigned_whole false, Option.some.injEq, Prod.mk.injEq, and_assoc,
      exists_and_left, exists_eq_left']

theorem number_append {word rest : List Char} (inside : ∀ c ∈ word, isTerminator c = false)
    (ends : atTerminator rest = true) :
    number (word ++ rest) =
      if (Decimal.Numeral.ofText? word).isSome then some (word, rest) else none := by
  have splits := splits_followedBy (splits_optional (splits_exact ['-']))
    (splits_followedBy (splits_run (p := Decimal.isDigit)) (splits_optional
      (splits_followedBy (splits_exact ['.']) (splits_run (p := Decimal.isDigit)))))
  have digits := local_run (p := Decimal.isDigit) fun _ => isDigit_terminator
  have here := local_followedBy (local_optional (local_exact ['-'] (by decide)))
    (local_followedBy digits (local_optional
      (local_followedBy (local_exact ['.'] (by decide)) digits)))
  rw [number, terminated_append splits here inside ends]
  simp only [number_whole]

theorem boolean_append {word rest : List Char} (inside : ∀ c ∈ word, isTerminator c = false)
    (ends : atTerminator rest = true) :
    boolean (word ++ rest) =
      if word = ['t', 'r', 'u', 'e'] ∨ word = ['f', 'a', 'l', 's', 'e'] then some (word, rest)
      else none := by
  have splits := splits_either (splits_exact ['t', 'r', 'u', 'e'])
    (splits_exact ['f', 'a', 'l', 's', 'e'])
  have here := local_either (local_exact ['t', 'r', 'u', 'e'] (by decide))
    (local_exact ['f', 'a', 'l', 's', 'e'] (by decide))
  have whole : either (exact ['t', 'r', 'u', 'e']) (exact ['f', 'a', 'l', 's', 'e']) word =
      some (word, []) ↔ word = ['t', 'r', 'u', 'e'] ∨ word = ['f', 'a', 'l', 's', 'e'] := by
    rw [either, Option.or_eq_some_iff]
    constructor
    · rintro (found | ⟨-, found⟩)
      · exact .inl (exact_eq_some_iff.1 found).1
      · exact .inr (exact_eq_some_iff.1 found).1
    · rintro (rfl | rfl) <;> decide
  rw [boolean, terminated_append splits here inside ends]
  simp only [whole]

theorem word_append {text rest : List Char} (nonempty : text ≠ [])
    (inside : ∀ c ∈ text, isTerminator c = false) (unquoted : stops isQuote text = true)
    (ends : atTerminator rest = true) : word (text ++ rest) = some (text, rest) := by
  rw [atTerminator_eq_stops] at ends
  obtain ⟨c, cs, rfl⟩ := List.exists_cons_of_ne_nil nonempty
  have plain : isQuote c = false := by simpa using unquoted
  rw [List.cons_append, word, if_neg (by simp [plain]), ← List.cons_append]
  exact run_append nonempty (fun c member => by simp [inside c member]) ends

theorem stops_wordStart (narrower : ∀ c, p c = true → isWordStart c = true) {cs : List Char}
    (stop : stops isWordStart cs = true) : run p cs = none :=
  run_eq_none_iff.2 (stops_mono narrower stop)

theorem exact_wordStart {c : Char} {text cs : List Char} (start : isWordStart c = true)
    (stop : stops isWordStart cs = true) : exact (c :: text) cs = none := by
  refine exact_eq_none ?_
  rintro ⟨more, rfl⟩
  simp [start] at stop

theorem isWordStart_of_isAddressChar {c : Char} (address : isAddressChar c = true) :
    isWordStart c = true := by
  have continues : isTerminator c = false := by
    cases ends : isTerminator c with
    | false => rfl
    | true => simp [isAddressChar_terminator ends] at address
  have unquoted : isQuote c = false := by
    cases quote : isQuote c with
    | false => rfl
    | true =>
      rcases isQuote_iff.1 quote with rfl | rfl <;> exact absurd address (by decide)
  simp [isWordStart, continues, unquoted]

theorem isWordStart_of_isDigit {c : Char} (digit : Decimal.isDigit c = true) :
    isWordStart c = true :=
  isWordStart_of_isAddressChar (by simp [isAddressChar, Network.isHexDigit, digit])

theorem network_wordStart {cs : List Char} (stop : stops isWordStart cs = true) :
    network cs = none := by
  rw [network, terminated, followedBy, stops_wordStart (fun _ => isWordStart_of_isAddressChar) stop]
  rfl

theorem number_wordStart {cs : List Char} (stop : stops isWordStart cs = true) :
    number cs = none := by
  have sign : optional (exact ['-']) cs = some ([], cs) := by
    rw [optional, exact_wordStart (by decide) stop]
    rfl
  have digits : run Decimal.isDigit cs = none :=
    stops_wordStart (fun _ => isWordStart_of_isDigit) stop
  simp [number, terminated, followedBy, sign, digits]

theorem boolean_wordStart {cs : List Char} (stop : stops isWordStart cs = true) :
    boolean cs = none := by
  rw [boolean, terminated, either, exact_wordStart (by decide) stop,
    exact_wordStart (by decide) stop]
  rfl

theorem word_wordStart {cs : List Char} (stop : stops isWordStart cs = true) :
    word cs = none := by
  cases cs with
  | nil => rfl
  | cons c cs =>
    rw [word]
    split
    · rfl
    next unquoted =>
      refine run_eq_none_iff.2 ?_
      simp_all [isWordStart]

end Lexeme

end InventoryQuery.Filter
