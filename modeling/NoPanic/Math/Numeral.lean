/-
# Integers in text

How unsigned integers are written and read. A number is written with `Nat.toDigits`. It is
read as parsers of machine integers read it: an optional plus sign, then at least one digit
of the radix, and a value below the bound of the type. What is written is read back.

The sign makes the reader accept more than what is written, and more than digits: for two
characters at radix sixteen the module says exactly what it takes.
-/

import Mathlib.Tactic.IntervalCases

namespace NoPanic.Math

/-- Why an integer cannot be read. -/
inductive ParseIntError
  | empty
  | invalidDigit
  | posOverflow
  deriving DecidableEq, Repr

/-- How an error is shown. -/
def ParseIntError.display : ParseIntError → String
  | .empty => "cannot parse integer from empty string"
  | .invalidDigit => "invalid digit found in string"
  | .posOverflow => "number too large to fit in target type"

/-- The value of a character as a digit of any radix, the letters in either case. -/
def digitValue? (c : Char) : Option Nat :=
  if '0' ≤ c ∧ c ≤ '9' then some (c.toNat - 48)
  else if 'a' ≤ c ∧ c ≤ 'z' then some (c.toNat - 87)
  else if 'A' ≤ c ∧ c ≤ 'Z' then some (c.toNat - 55)
  else none

/-- The value of a character as a digit of a radix. -/
def digit? (radix : Nat) (c : Char) : Option Nat := (digitValue? c).filter fun d => d < radix

/-- Read digits, most significant first, onto the value of those before. -/
def parseDigits (bound radix : Nat) : Nat → List Char → Except ParseIntError Nat
  | value, [] => .ok value
  | value, c :: rest =>
      match digit? radix c with
      | none => .error .invalidDigit
      | some d =>
          if value * radix + d < bound then parseDigits bound radix (value * radix + d) rest
          else .error .posOverflow

/-- Read an unsigned integer below a bound. -/
def parseUnsigned (bound radix : Nat) : List Char → Except ParseIntError Nat
  | [] => .error .empty
  | c :: rest =>
      if rest = [] ∧ (c = '+' ∨ c = '-') then .error .invalidDigit
      else if c = '+' then parseDigits bound radix 0 rest
      else parseDigits bound radix 0 (c :: rest)

variable {bound radix : Nat}

/-! ## What is written is read back -/

/-- A digit is read back. -/
theorem digit?_digitChar {d : Nat} (hd : d < radix) (hradix : radix ≤ 16) :
    digit? radix d.digitChar = some d := by
  have hvalue : digitValue? d.digitChar = some d := by
    have hcases : d < 16 := by omega
    interval_cases d <;> decide
  simp [digit?, hvalue, hd]

/-- A sign is no digit. -/
theorem digit?_sign {c : Char} (hsign : c = '+' ∨ c = '-') : digit? radix c = none := by
  have hvalue : digitValue? c = none := by
    rcases hsign with rfl | rfl <;> decide
  rw [digit?, hvalue, Option.filter_none]

/-- Digits are read in two parts. -/
theorem parseDigits_append {value value' : Nat} {cs : List Char} (ds : List Char)
    (hfirst : parseDigits bound radix value cs = .ok value') :
    parseDigits bound radix value (cs ++ ds) = parseDigits bound radix value' ds := by
  induction cs generalizing value with
  | nil =>
      cases hfirst
      rfl
  | cons c rest ih =>
      rw [parseDigits] at hfirst
      rw [List.cons_append, parseDigits]
      split at hfirst
      · cases hfirst
      · next d hdigit =>
        split at hfirst
        · next hfits =>
          simp only [hfits, if_true]
          exact ih hfirst
        · cases hfirst

/-- One more digit. -/
theorem parseDigits_digitChar {value d : Nat} (hd : d < radix) (hradix : radix ≤ 16)
    (hfits : value * radix + d < bound) :
    parseDigits bound radix value [d.digitChar] = .ok (value * radix + d) := by
  simp [parseDigits, digit?_digitChar hd hradix, hfits]

/-- The digits of a number are read back. -/
theorem parseDigits_toDigits {n : Nat} (hlow : 1 < radix) (hradix : radix ≤ 16)
    (hfits : n < bound) : parseDigits bound radix 0 (Nat.toDigits radix n) = .ok n := by
  induction n using Nat.strong_induction_on with
  | _ n ih =>
      by_cases hsmall : n < radix
      · rw [Nat.toDigits_of_lt_base hsmall, parseDigits_digitChar hsmall hradix (by omega)]
        simp
      · have hdiv : 0 < n / radix := Nat.div_pos (by omega) (by omega)
        have hless : n / radix < n := Nat.div_lt_self (by omega) hlow
        have hmod : n % radix < radix := Nat.mod_lt _ (by omega)
        have hsplit : radix * (n / radix) + n % radix = n := Nat.div_add_mod n radix
        have hdigits := Nat.toDigits_append_toDigits hlow hdiv hmod
        rw [hsplit, Nat.toDigits_of_lt_base hmod] at hdigits
        have hvalue : n / radix * radix + n % radix = n := by rw [Nat.mul_comm, hsplit]
        rw [← hdigits, parseDigits_append _ (ih _ hless (by omega)),
          parseDigits_digitChar hmod hradix (by omega), hvalue]

/-- A text that begins with a digit has no sign. -/
theorem parseUnsigned_of_digit {c : Char} {rest : List Char} {n : Nat}
    (hdigits : parseDigits bound radix 0 (c :: rest) = .ok n) :
    parseUnsigned bound radix (c :: rest) = .ok n := by
  have hsign : ¬ (c = '+' ∨ c = '-') := by
    intro hsign
    simp [parseDigits, digit?_sign hsign] at hdigits
  have hplus : c ≠ '+' := fun heq => hsign (Or.inl heq)
  rw [parseUnsigned, if_neg (fun h => hsign h.2), if_neg hplus, hdigits]

/-- A number below the bound is read back. -/
theorem parseUnsigned_toDigits {n : Nat} (hlow : 1 < radix) (hradix : radix ≤ 16)
    (hfits : n < bound) : parseUnsigned bound radix (Nat.toDigits radix n) = .ok n := by
  have hdigits := parseDigits_toDigits hlow hradix hfits
  cases htext : Nat.toDigits radix n with
  | nil =>
      exact absurd htext Nat.toDigits_ne_nil
  | cons c rest => exact parseUnsigned_of_digit (htext ▸ hdigits)

/-- A number in decimal. -/
def decimal (n : Nat) : String := String.ofList (Nat.toDigits 10 n)

/-- Read a number below a bound in decimal. -/
def parseDecimal (bound : Nat) (s : String) : Except ParseIntError Nat :=
  parseUnsigned bound 10 s.toList

/-- A number in decimal is read back. -/
theorem parseDecimal_decimal {n : Nat} (hfits : n < bound) :
    parseDecimal bound (decimal n) = .ok n := by
  rw [parseDecimal, decimal, String.toList_ofList]
  exact parseUnsigned_toDigits (by decide) (by decide) hfits

/-- Digits read onto a value below the bound give another. -/
theorem parseDigits_lt {value n : Nat} {cs : List Char} (hvalue : value < bound)
    (hread : parseDigits bound radix value cs = .ok n) : n < bound := by
  induction cs generalizing value with
  | nil =>
      cases hread
      exact hvalue
  | cons c rest ih =>
      rw [parseDigits] at hread
      split at hread
      · cases hread
      · split at hread
        · next hfits => exact ih hfits hread
        · cases hread

/-- What is read is below the bound. -/
theorem parseDecimal_lt {n : Nat} {s : String} (hbound : 0 < bound)
    (hread : parseDecimal bound s = .ok n) : n < bound := by
  rw [parseDecimal] at hread
  cases hchars : s.toList with
  | nil =>
      rw [hchars] at hread
      cases hread
  | cons c rest =>
      rw [hchars, parseUnsigned] at hread
      split at hread
      · cases hread
      · split at hread
        · exact parseDigits_lt hbound hread
        · exact parseDigits_lt hbound hread

/-! ## Two characters at radix sixteen -/

/-- The digits of radix sixteen, the letters in either case. -/
def isHexdigit (c : Char) : Bool :=
  ('0' ≤ c && c ≤ '9') || ('a' ≤ c && c ≤ 'f') || ('A' ≤ c && c ≤ 'F')

/-- A character between two others, by its number. -/
theorem exists_ofNat_of_le {low high c : Char} (hlow : low ≤ c) (hhigh : c ≤ high) :
    ∃ k, low.toNat ≤ k ∧ k ≤ high.toNat ∧ c = Char.ofNat k :=
  ⟨c.toNat, hlow, hhigh, (Char.ofNat_toNat c).symm⟩

/-- In lower case a digit of radix sixteen is what its value is written with. -/
theorem toLower_of_digit? {c : Char} {d : Nat} (hdigit : digit? 16 c = some d) :
    d < 16 ∧ c.toLower = d.digitChar ∧ isHexdigit c = true := by
  obtain ⟨hvalue, hd⟩ := Option.filter_eq_some_iff.mp hdigit
  have hd16 : d < 16 := by simpa using hd
  refine ⟨hd16, ?_⟩
  rw [digitValue?] at hvalue
  split at hvalue
  · next hrange =>
    obtain ⟨k, hlow, hhigh, rfl⟩ := exists_ofNat_of_le hrange.1 hrange.2
    cases hvalue
    simp only [Char.reduceToNat] at hlow hhigh
    interval_cases k <;> decide
  · split at hvalue
    · next hrange =>
      obtain ⟨k, hlow, hhigh, rfl⟩ := exists_ofNat_of_le hrange.1 hrange.2
      cases hvalue
      simp only [Char.reduceToNat] at hlow hhigh
      interval_cases k <;> revert hd16 <;> decide
    · split at hvalue
      · next hrange =>
        obtain ⟨k, hlow, hhigh, rfl⟩ := exists_ofNat_of_le hrange.1 hrange.2
        cases hvalue
        simp only [Char.reduceToNat] at hlow hhigh
        interval_cases k <;> revert hd16 <;> decide
      · cases hvalue

/-- Every digit of radix sixteen has a value. -/
theorem exists_digit?_of_isHexdigit {c : Char} (hdigit : isHexdigit c = true) :
    ∃ d, digit? 16 c = some d := by
  rw [← Option.isSome_iff_exists]
  simp only [isHexdigit, Bool.or_eq_true, Bool.and_eq_true, decide_eq_true_eq] at hdigit
  rcases hdigit with (hrange | hrange) | hrange
  · obtain ⟨k, hlow, hhigh, rfl⟩ := exists_ofNat_of_le hrange.1 hrange.2
    simp only [Char.reduceToNat] at hlow hhigh
    interval_cases k <;> decide
  · obtain ⟨k, hlow, hhigh, rfl⟩ := exists_ofNat_of_le hrange.1 hrange.2
    simp only [Char.reduceToNat] at hlow hhigh
    interval_cases k <;> decide
  · obtain ⟨k, hlow, hhigh, rfl⟩ := exists_ofNat_of_le hrange.1 hrange.2
    simp only [Char.reduceToNat] at hlow hhigh
    interval_cases k <;> decide

/-- A zero in place of a plus sign, and any other character as it is. -/
def unsigned (c : Char) : Char := if c = '+' then '0' else c

/-- A digit is no plus sign. -/
theorem unsigned_of_digit? {c : Char} {d : Nat} (hdigit : digit? radix c = some d) :
    unsigned c = c := by
  rw [unsigned, if_neg]
  intro hplus
  rw [hplus, digit?_sign (Or.inl rfl)] at hdigit
  cases hdigit

/-- Two characters are read as a byte when the second is a digit, and the first is one or is
a plus sign. -/
theorem parseUnsigned_pair {a b : Char} {n : Nat} :
    parseUnsigned 256 16 [a, b] = .ok n ↔
      ∃ x y, digit? 16 (unsigned a) = some x ∧ digit? 16 b = some y ∧ n = 16 * x + y := by
  have hlast : ∀ x, x < 16 → (parseDigits 256 16 x [b] = .ok n ↔
      ∃ y, digit? 16 b = some y ∧ n = 16 * x + y) := by
    intro x hx
    rw [parseDigits]
    cases hy : digit? 16 b with
    | none => simp
    | some y =>
        have hfits : x * 16 + y < 256 := by
          have hy16 := (toLower_of_digit? hy).1
          omega
        simp only [hfits, if_true, parseDigits, Except.ok.injEq, Option.some.injEq,
          exists_eq_left', Nat.mul_comm 16 x]
        exact eq_comm
  rw [parseUnsigned, if_neg (by simp)]
  split
  · next hplus =>
    have hzero : digit? 16 (unsigned a) = some 0 := by
      rw [unsigned, if_pos hplus]
      decide
    rw [hlast 0 (by decide), hzero]
    simp
  · next hplus =>
    rw [unsigned, if_neg hplus, parseDigits]
    cases hx : digit? 16 a with
    | none => simp
    | some x =>
        have hx16 := (toLower_of_digit? hx).1
        have hfits : x < 256 := by omega
        simp only [Nat.zero_mul, Nat.zero_add, hfits, if_true, hlast x hx16, Option.some.injEq,
          exists_and_left, exists_eq_left']

/-- The two digits of a byte, in lower case. -/
def hexDigits (byte : UInt8) : List Char := (Nat.toDigits 16 byte.toNat).leftpad 2 '0'

/-- A number below 256 is written with two digits, the first of which may be zero. -/
theorem leftpad_toDigits {x y : Nat} (hx : x < 16) (hy : y < 16) :
    (Nat.toDigits 16 (16 * x + y)).leftpad 2 '0' = [x.digitChar, y.digitChar] := by
  by_cases hzero : x = 0
  · subst hzero
    rw [Nat.mul_zero, Nat.zero_add, Nat.toDigits_of_lt_base hy]
    rfl
  · rw [← Nat.toDigits_append_toDigits (by decide) (by omega) hy, Nat.toDigits_of_lt_base hx,
      Nat.toDigits_of_lt_base hy]
    rfl

end NoPanic.Math
