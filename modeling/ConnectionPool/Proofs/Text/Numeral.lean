import ConnectionPool.Text.Blank
import ConnectionPool.Text.Numeral
import Mathlib.Data.List.DropRight
import Mathlib.Data.List.TakeWhile
import Mathlib.Data.Nat.Digits.Defs
import Mathlib.Tactic.FinCases
import Mathlib.Tactic.Linarith
import Mathlib.Tactic.Ring

/-!
# Numerals as a grammar

A numeral is an optional sign and one or more ASCII digits, and denotes a number however many zeros
it begins with. Reading goes digit by digit and stops as soon as the range is left. Since digits
take the value further away from zero or leave it there, the range is left on the way exactly if the
number is outside it in the end. So what is read is exactly the numerals whose number is in range.

Characters with the property White_Space may stand around a numeral. They are no part of it, and so
removing them from both ends leaves the numeral.

## Main definitions

* `decimal`: the number that digits denote.
* `Numeral`: a text is a numeral and denotes a number.
* `Spells`: a text is a numeral among blanks.

## Main results

* `readDigits_eq_ok_iff`: reading digits, away from zero upwards.
* `readInteger_eq_ok_iff`: reading accepts the numerals in range.
* `numeral_trimBlank_iff`: removing blanks leaves a numeral if there was one among blanks.
* `readInteger_trimBlank_iff`: both together.
-/

namespace ConnectionPool.Text

/-- The number that decimal digits denote, the highest first. -/
def decimal (digits : List Char) : Nat :=
  Nat.ofDigits 10 (digits.reverse.map fun c => c.toNat - '0'.toNat)

/-- `Numeral text value`: the text is an optional sign and one or more ASCII digits, and denotes
`value`. -/
inductive Numeral : List Char → Int → Prop
  /-- There is no sign. -/
  | unsigned {digits : List Char} (hsome : digits ≠ []) (hdigits : ∀ c ∈ digits, c.isDigit = true) :
      Numeral digits (decimal digits)
  /-- The sign is a plus. -/
  | plus {digits : List Char} (hsome : digits ≠ []) (hdigits : ∀ c ∈ digits, c.isDigit = true) :
      Numeral ('+' :: digits) (decimal digits)
  /-- The sign is a minus. -/
  | minus {digits : List Char} (hsome : digits ≠ []) (hdigits : ∀ c ∈ digits, c.isDigit = true) :
      Numeral ('-' :: digits) (-decimal digits)

/-- `Spells text value`: the text is a `Numeral` with blanks around it, and denotes `value`. -/
def Spells (text : List Char) (value : Int) : Prop :=
  ∃ before numeral after, text = before ++ numeral ++ after ∧
    (∀ c ∈ before, isBlank c = true) ∧ (∀ c ∈ after, isBlank c = true) ∧ Numeral numeral value

variable {lowest highest value result : Int} {digits text : List Char} {c : Char}

/-! ## Digits -/

/-- The first digit of a `decimal` counts as many tens as digits follow. -/
theorem decimal_cons (c : Char) (digits : List Char) :
    decimal (c :: digits) = (c.toNat - '0'.toNat) * 10 ^ digits.length + decimal digits := by
  rw [decimal, List.reverse_cons, List.map_append, Nat.ofDigits_append, decimal]
  simp [Nat.ofDigits_singleton, Nat.mul_comm, Nat.add_comm]

/-- `digitValue?` knows the ASCII digits. -/
theorem digitValue?_of_isDigit (h : c.isDigit = true) :
    digitValue? c = some (c.toNat - '0'.toNat) := by
  rw [Char.isDigit, Bool.and_eq_true, decide_eq_true_iff, decide_eq_true_iff] at h
  exact if_pos h

/-- `digitValue?` knows no other characters. -/
theorem digitValue?_of_not_isDigit (h : c.isDigit = false) : digitValue? c = none := by
  refine if_neg fun hdigit => ?_
  have htrue : c.isDigit = true := by
    rw [Char.isDigit, Bool.and_eq_true, decide_eq_true_iff, decide_eq_true_iff]
    exact hdigit
  rw [htrue] at h
  cases h

/-- `readDigits`, going upwards from a value in range, succeeds exactly if all are digits and the
number they continue is in range. -/
theorem readDigits_eq_ok_iff (hlowest : lowest ≤ 0) (hvalue : 0 ≤ value)
    (hrange : value ≤ highest) :
    readDigits lowest highest false value digits = .ok result ↔
      (∀ c ∈ digits, c.isDigit = true) ∧
        result = value * 10 ^ digits.length + decimal digits ∧ result ≤ highest := by
  induction digits generalizing value with
  | nil =>
    have hdecimal : decimal [] = 0 := rfl
    simp only [readDigits, Except.ok.injEq, hdecimal]
    constructor
    · rintro rfl
      exact ⟨by simp, by simp, hrange⟩
    · rintro ⟨-, rfl, -⟩
      simp
  | cons c rest ih =>
    rw [readDigits, List.forall_mem_cons, decimal_cons]
    cases hc : c.isDigit with
    | false => simp [digitValue?_of_not_isDigit hc]
    | true =>
      rw [digitValue?_of_isDigit hc]
      generalize c.toNat - '0'.toNat = digit
      have hshift : value * 10 ^ (c :: rest).length +
          (digit * 10 ^ rest.length + decimal rest : Nat) =
            (10 * value + digit) * 10 ^ rest.length + decimal rest := by
        rw [List.length_cons]
        push_cast
        ring
      have hnext : 0 ≤ 10 * value + digit := by omega
      rw [hshift]
      dsimp only
      rw [if_neg Bool.false_ne_true, if_neg (by omega)]
      generalize 10 * value + (digit : Int) = next at hnext
      split
      · -- digits that follow do not bring the value back
        rename_i hpast
        have hpower : (1 : Int) ≤ 10 ^ rest.length := one_le_pow₀ (by omega)
        have haway : next ≤ next * 10 ^ rest.length + decimal rest := by nlinarith
        constructor
        · rintro ⟨⟩
        · rintro ⟨-, rfl, hle⟩
          omega
      · rename_i hin
        rw [ih hnext (by omega)]
        simp

/-- `readDigits` going downwards is going upwards with the signs turned round. -/
theorem readDigits_neg (digits : List Char) (value : Int) :
    readDigits lowest highest true value digits = .ok result ↔
      readDigits (-highest) (-lowest) false (-value) digits = .ok (-result) := by
  -- induction on the digits: what has been read so far has the other sign, and so has each bound
  induction digits generalizing value with
  | nil => simp [readDigits]
  | cons c rest ih =>
    rw [readDigits, readDigits]
    cases digitValue? c with
    | none => simp
    | some digit =>
      dsimp only
      have hnext : 10 * -value + (digit : Int) = -(10 * value - digit) := by ring
      rw [if_pos rfl, if_neg Bool.false_ne_true, hnext]
      split
      · rename_i hpast
        rw [if_pos (show -lowest < -(10 * value - digit) by omega)]
        split <;> simp
      · split
        · rename_i hpast
          rw [if_pos (by omega)]
          simp
        · rw [if_neg (by omega), if_neg (by omega)]
          exact ih _

/-! ## Signs -/

/-- After a plus, the digits denote their number. -/
theorem numeral_plus_iff :
    Numeral ('+' :: digits) value ↔
      digits ≠ [] ∧ (∀ c ∈ digits, c.isDigit = true) ∧ value = decimal digits := by
  constructor
  · rintro (⟨-, hdigits⟩ | ⟨hsome, hdigits⟩)
    · cases hdigits '+' List.mem_cons_self
    · exact ⟨hsome, hdigits, rfl⟩
  · rintro ⟨hsome, hdigits, rfl⟩
    exact .plus hsome hdigits

/-- After a minus, the digits denote its negation. -/
theorem numeral_minus_iff :
    Numeral ('-' :: digits) value ↔
      digits ≠ [] ∧ (∀ c ∈ digits, c.isDigit = true) ∧ value = -decimal digits := by
  constructor
  · rintro (⟨-, hdigits⟩ | _ | ⟨hsome, hdigits⟩)
    · cases hdigits '-' List.mem_cons_self
    · exact ⟨hsome, hdigits, rfl⟩
  · rintro ⟨hsome, hdigits, rfl⟩
    exact .minus hsome hdigits

/-- Without a sign, the digits denote their number. -/
theorem numeral_unsigned_iff (hplus : c ≠ '+') (hminus : c ≠ '-') :
    Numeral (c :: digits) value ↔
      (∀ d ∈ c :: digits, d.isDigit = true) ∧ value = decimal (c :: digits) := by
  constructor
  · rintro (⟨-, hdigits⟩ | _ | _)
    · exact ⟨hdigits, rfl⟩
    · exact absurd rfl hplus
    · exact absurd rfl hminus
  · rintro ⟨hdigits, rfl⟩
    exact .unsigned (List.cons_ne_nil _ _) hdigits

/-- `readDigits` from zero upwards reads digits whose `decimal` is in range. -/
theorem readDigits_zero_iff (hlowest : lowest ≤ 0) (hhighest : 0 ≤ highest) :
    readDigits lowest highest false 0 digits = .ok result ↔
      ((∀ c ∈ digits, c.isDigit = true) ∧ result = decimal digits) ∧
        lowest ≤ result ∧ result ≤ highest := by
  rw [readDigits_eq_ok_iff hlowest (Int.le_refl 0) hhighest, Int.zero_mul, Int.zero_add]
  constructor
  · rintro ⟨hdigits, rfl, hrange⟩
    exact ⟨⟨hdigits, rfl⟩, by omega, hrange⟩
  · rintro ⟨⟨hdigits, rfl⟩, -, hrange⟩
    exact ⟨hdigits, rfl, hrange⟩

/-- `readDigits` from zero downwards reads digits for which the negation of their `decimal` is in
range. -/
theorem readDigits_neg_zero_iff (hlowest : lowest ≤ 0) (hhighest : 0 ≤ highest) :
    readDigits lowest highest true 0 digits = .ok result ↔
      ((∀ c ∈ digits, c.isDigit = true) ∧ result = -decimal digits) ∧
        lowest ≤ result ∧ result ≤ highest := by
  rw [readDigits_neg, Int.neg_zero, readDigits_zero_iff (by omega) (by omega)]
  constructor
  · rintro ⟨⟨hdigits, heq⟩, hhigh, hlow⟩
    exact ⟨⟨hdigits, by omega⟩, by omega, by omega⟩
  · rintro ⟨⟨hdigits, rfl⟩, hlow, hhigh⟩
    exact ⟨⟨hdigits, by omega⟩, by omega, by omega⟩

/-- `readInteger` reads the texts that are a `Numeral` whose value is in range. -/
theorem readInteger_eq_ok_iff (hlowest : lowest ≤ 0) (hhighest : 0 ≤ highest) :
    readInteger lowest highest text = .ok value ↔
      Numeral text value ∧ lowest ≤ value ∧ value ≤ highest := by
  unfold readInteger
  split
  · -- nothing is no numeral
    constructor
    · rintro ⟨⟩
    · rintro ⟨⟨hsome, -⟩, -⟩
      exact absurd rfl hsome
  · simp [numeral_plus_iff]
  · simp [numeral_minus_iff]
  · rename_i digits hsome
    have hsome : digits ≠ [] := fun hnil => hsome (hnil ▸ rfl)
    rw [readDigits_zero_iff hlowest hhighest, numeral_plus_iff, and_iff_right hsome]
  · rename_i digits hsome
    have hsome : digits ≠ [] := fun hnil => hsome (hnil ▸ rfl)
    rw [readDigits_neg_zero_iff hlowest hhighest, numeral_minus_iff, and_iff_right hsome]
  · rename_i hnil _ _ hplus hminus
    cases text with
    | nil => exact absurd rfl hnil
    | cons c digits =>
      have hc : c ≠ '+' := fun heq => hplus digits (by rw [heq])
      have hc' : c ≠ '-' := fun heq => hminus digits (by rw [heq])
      rw [readDigits_zero_iff hlowest hhighest, numeral_unsigned_iff hc hc']

/-! ## Blanks -/

/-- A `Numeral` has at least one character. -/
theorem Numeral.ne_nil (h : Numeral text value) : text ≠ [] := by
  rcases h with ⟨hsome, -⟩ | _ | _
  · exact hsome
  · exact List.cons_ne_nil _ _
  · exact List.cons_ne_nil _ _

/-- No digit is blank. -/
theorem isBlank_of_isDigit (h : c.isDigit = true) : isBlank c = false := by
  have hdigit : 48 ≤ c.toNat ∧ c.toNat ≤ 57 := by
    simpa [Char.isDigit, UInt32.le_iff_toNat_le] using h
  simp only [isBlank, blankRanges, List.any_eq_false, Bool.and_eq_true, decide_eq_true_iff]
  rintro ⟨first, last⟩ hrange ⟨hfirst, hlast⟩
  fin_cases hrange <;> simp only at hfirst hlast <;> omega

/-- No character of a `Numeral` is blank. -/
theorem Numeral.isBlank (h : Numeral text value) : ∀ c ∈ text, isBlank c = false := by
  rcases h with ⟨-, hdigits⟩ | ⟨-, hdigits⟩ | ⟨-, hdigits⟩
  · exact fun c hc => isBlank_of_isDigit (hdigits c hc)
  · exact List.forall_mem_cons.mpr ⟨rfl, fun c hc => isBlank_of_isDigit (hdigits c hc)⟩
  · exact List.forall_mem_cons.mpr ⟨rfl, fun c hc => isBlank_of_isDigit (hdigits c hc)⟩

/-- `dropWhile isBlank` removes nothing from a text without blanks. -/
theorem dropWhile_isBlank (h : ∀ c ∈ text, isBlank c = false) :
    text.dropWhile isBlank = text :=
  List.dropWhile_eq_self_iff.mpr fun hpos => by rw [h _ (List.getElem_mem hpos)]; exact nofun

/-- What `trimBlank` removes is blank, and stands at both ends. -/
theorem exists_eq_trimBlank (text : List Char) :
    ∃ before after, text = before ++ trimBlank text ++ after ∧
      (∀ c ∈ before, isBlank c = true) ∧ (∀ c ∈ after, isBlank c = true) := by
  refine ⟨text.takeWhile isBlank, (text.dropWhile isBlank).rtakeWhile isBlank, ?_,
    fun c => List.mem_takeWhile_imp, fun c => List.mem_rtakeWhile_imp⟩
  have htail : trimBlank text ++ (text.dropWhile isBlank).rtakeWhile isBlank =
      text.dropWhile isBlank := List.rdropWhile_append_rtakeWhile
  rw [List.append_assoc, htail, List.takeWhile_append_dropWhile]

/-- `trimBlank` leaves a `Numeral` exactly if the text `Spells` its value. -/
theorem numeral_trimBlank_iff : Numeral (trimBlank text) value ↔ Spells text value := by
  constructor
  · intro h
    obtain ⟨before, after, htext, hbefore, hafter⟩ := exists_eq_trimBlank text
    exact ⟨before, trimBlank text, after, htext, hbefore, hafter, h⟩
  · rintro ⟨before, numeral, after, rfl, hbefore, hafter, h⟩
    have hfront : (before ++ numeral ++ after).dropWhile isBlank = numeral ++ after := by
      rw [List.append_assoc, List.dropWhile_append_of_pos hbefore, List.dropWhile_append,
        dropWhile_isBlank h.isBlank, if_neg (by simpa using h.ne_nil)]
    have hback : (numeral ++ after).reverse.dropWhile isBlank = numeral.reverse := by
      rw [List.reverse_append, List.dropWhile_append_of_pos (by simpa using hafter),
        dropWhile_isBlank (by simpa using h.isBlank)]
    rw [trimBlank, hfront, hback, List.reverse_reverse]
    exact h

/-- `readInteger` after `trimBlank` reads the texts that `Spells` knows, if their value is
in range. -/
theorem readInteger_trimBlank_iff (hlowest : lowest ≤ 0) (hhighest : 0 ≤ highest) :
    readInteger lowest highest (trimBlank text) = .ok value ↔
      Spells text value ∧ lowest ≤ value ∧ value ≤ highest := by
  rw [readInteger_eq_ok_iff hlowest hhighest, numeral_trimBlank_iff]

end ConnectionPool.Text
