import Mathlib.Algebra.Order.Ring.Nat
import Mathlib.Data.List.TakeWhile
import Mathlib.Data.Rat.Cast.Defs
import Mathlib.Tactic.FieldSimp
import Mathlib.Tactic.Ring

/-! Decimal numerals as texts: reading them, printing them at a scale, and moving them from
one scale to another.
-/

namespace DecimalText

/-- The number `unscaled / 10 ^ scale`. -/
structure Numeral where
  unscaled : Int
  scale : Nat
deriving DecidableEq, Repr

/-- The number a numeral stands for. -/
def Numeral.value (x : Numeral) : ℚ := x.unscaled / 10 ^ x.scale

-----------------------------------------------------------------------------------------
-- Reading
-----------------------------------------------------------------------------------------

/-- Digits, then optionally a point and more digits. -/
def readUnsigned (text : List Char) : Option (Nat × Nat) :=
  let integral := text.takeWhile Char.isDigit
  if integral.isEmpty then
    none
  else
    match text.dropWhile Char.isDigit with
    | [] => some (Nat.ofDigitChars 10 integral 0, 0)
    | '.' :: fraction =>
        if fraction.isEmpty || !fraction.all Char.isDigit then
          none
        else
          some (Nat.ofDigitChars 10 (integral ++ fraction) 0, fraction.length)
    | _ => none

/-- A numeral with an optional minus sign. -/
def read : List Char → Option Numeral
  | '-' :: text =>
      (readUnsigned text).map (fun number => { unscaled := -(number.1 : Int), scale := number.2 })
  | text => (readUnsigned text).map (fun number => { unscaled := number.1, scale := number.2 })

-----------------------------------------------------------------------------------------
-- Printing
-----------------------------------------------------------------------------------------

/-- The digits of a number, filled up with zeros on the left to a width. -/
def padded (width number : Nat) : List Char :=
  let digits := Nat.toDigits 10 number
  List.replicate (width - digits.length) '0' ++ digits

/-- A magnitude with exactly `scale` fractional digits. -/
def printUnsigned (scale magnitude : Nat) : List Char :=
  Nat.toDigits 10 (magnitude / 10 ^ scale)
    ++ (if scale = 0 then [] else '.' :: padded scale (magnitude % 10 ^ scale))

/-- A number with exactly `scale` fractional digits. -/
def print (x : Numeral) : List Char :=
  (if x.unscaled < 0 then ['-'] else []) ++ printUnsigned x.scale x.unscaled.natAbs

-----------------------------------------------------------------------------------------
-- The round trip
-----------------------------------------------------------------------------------------

theorem isDigit_toDigits (number : Nat) : ∀ c ∈ Nat.toDigits 10 number, c.isDigit = true := by
  intro c member
  exact Nat.isDigit_of_mem_toDigits (by decide) (by decide) member

theorem isDigit_padded (width number : Nat) : ∀ c ∈ padded width number, c.isDigit = true := by
  intro c member
  rcases List.mem_append.mp member with zero | digit
  · rw [List.eq_of_mem_replicate zero]
    rfl
  · exact isDigit_toDigits number c digit

/-- A number below `10 ^ width` fills exactly that width. -/
theorem length_padded {width number : Nat} (positive : 0 < width)
    (below : number < 10 ^ width)
    : (padded width number).length = width := by
  have fits := (Nat.length_toDigits_le_iff (b := 10) (by decide) positive).mpr below
  simp only [padded, List.length_append, List.length_replicate]
  omega

@[simp]
theorem ofDigitChars_padded (width number : Nat)
    : Nat.ofDigitChars 10 (padded width number) 0 = number := by
  simp [padded, Nat.ofDigitChars_append]

/-- Reading digits that end the text. -/
theorem readUnsigned_digits {digits : List Char} (nonempty : digits ≠ [])
    (all : ∀ c ∈ digits, c.isDigit = true)
    : readUnsigned digits = some (Nat.ofDigitChars 10 digits 0, 0) := by
  have taken : digits.takeWhile Char.isDigit = digits := List.takeWhile_eq_self_iff.mpr all
  have dropped : digits.dropWhile Char.isDigit = [] := List.dropWhile_eq_nil_iff.mpr all
  simp [readUnsigned, taken, dropped, nonempty]

/-- Reading digits, a point and digits. -/
theorem readUnsigned_fraction {integral fraction : List Char} (nonempty : integral ≠ [])
    (all : ∀ c ∈ integral, c.isDigit = true) (more : fraction ≠ [])
    (allMore : ∀ c ∈ fraction, c.isDigit = true)
    : readUnsigned (integral ++ '.' :: fraction)
      = some (Nat.ofDigitChars 10 (integral ++ fraction) 0, fraction.length) := by
  have taken : (integral ++ '.' :: fraction).takeWhile Char.isDigit = integral := by
    rw [List.takeWhile_append_of_pos all]
    simp
  have dropped : (integral ++ '.' :: fraction).dropWhile Char.isDigit = '.' :: fraction := by
    rw [List.dropWhile_append_of_pos all]
    simp
  have digits : fraction.all Char.isDigit = true := List.all_eq_true.mpr allMore
  simp [readUnsigned, taken, dropped, nonempty, more, digits]

/-- What is printed is read back with its number of fractional digits. -/
theorem readUnsigned_printUnsigned (scale magnitude : Nat)
    : readUnsigned (printUnsigned scale magnitude) = some (magnitude, scale) := by
  have integral := isDigit_toDigits (magnitude / 10 ^ scale)
  unfold printUnsigned
  by_cases whole : scale = 0
  · subst whole
    simp [readUnsigned_digits Nat.toDigits_ne_nil (isDigit_toDigits magnitude)]
  · have below : magnitude % 10 ^ scale < 10 ^ scale := Nat.mod_lt _ (Nat.pow_pos (by decide))
    have length := length_padded (Nat.pos_of_ne_zero whole) below
    have nonempty : padded scale (magnitude % 10 ^ scale) ≠ [] := by
      intro empty
      rw [empty] at length
      exact whole length.symm
    rw [if_neg whole, readUnsigned_fraction Nat.toDigits_ne_nil integral nonempty
      (isDigit_padded _ _), Nat.ofDigitChars_append, Nat.ofDigitChars_ten_toDigits,
      Nat.ofDigitChars_eq_ofDigitChars_zero, ofDigitChars_padded, length,
      Nat.div_add_mod]

/-- A printed magnitude starts with a digit, so no minus sign is read into it. -/
theorem printUnsigned_head (scale magnitude : Nat)
    : ∃ c rest, printUnsigned scale magnitude = c :: rest ∧ c ≠ '-' := by
  rcases digits : Nat.toDigits 10 (magnitude / 10 ^ scale) with _ | ⟨c, rest⟩
  · exact absurd digits Nat.toDigits_ne_nil
  · refine ⟨c, _, by rw [printUnsigned, digits, List.cons_append], ?_⟩
    intro minus
    have digit := isDigit_toDigits (magnitude / 10 ^ scale) c (by simp [digits])
    rw [minus] at digit
    exact absurd digit (by decide)

/-- Reading undoes printing. -/
theorem read_print (x : Numeral) : read (print x) = some x := by
  by_cases negative : x.unscaled < 0
  · have magnitude : -(x.unscaled.natAbs : Int) = x.unscaled := by omega
    simp only [print, negative, if_true, List.cons_append, List.nil_append, read,
      readUnsigned_printUnsigned, Option.map_some, magnitude]
  · obtain ⟨c, rest, head, digit⟩ := printUnsigned_head x.scale x.unscaled.natAbs
    have magnitude : (x.unscaled.natAbs : Int) = x.unscaled := by omega
    have unsigned := readUnsigned_printUnsigned x.scale x.unscaled.natAbs
    rw [head] at unsigned
    simp [print, negative, head, read, digit, unsigned, magnitude]

-----------------------------------------------------------------------------------------
-- The digits after the point
-----------------------------------------------------------------------------------------

/-- The text after the first point, if there is one. -/
def afterPoint (text : List Char) : Option (List Char) :=
  match text.dropWhile (· != '.') with
  | [] => none
  | _ :: fraction => some fraction

/-- The number of bytes after the first point. -/
def fractionalBytes (text : List Char) : Nat :=
  match afterPoint text with
  | some fraction => (fraction.map Char.utf8Size).sum
  | none => 0

/-- Digits hold no point. -/
theorem digit_ne_point {c : Char} (digit : c.isDigit = true) : c ≠ '.' := by
  rintro rfl
  exact absurd digit (by decide)

/-- A digit is one byte long. -/
theorem utf8Size_digit {c : Char} (digit : c.isDigit = true) : c.utf8Size = 1 := by
  simp only [Char.isDigit, Bool.and_eq_true, decide_eq_true_eq] at digit
  have small : c.val ≤ 127 := UInt32.le_trans digit.2 (by decide)
  simp [Char.utf8Size, small]

/-- Digits in front of a text leave what comes after its point. -/
theorem afterPoint_append {digits rest : List Char} (all : ∀ c ∈ digits, c.isDigit = true)
    : afterPoint (digits ++ rest) = afterPoint rest := by
  have skipped : ∀ c ∈ digits, (c != '.') = true := by
    intro c member
    simpa using digit_ne_point (all c member)
  unfold afterPoint
  rw [List.dropWhile_append_of_pos skipped]

/-- What is read is digits, and digits after a point when there is one; by cases on how the
text goes on after the digits in front.
-/
theorem readUnsigned_shape {text : List Char} {magnitude scale : Nat}
    (reads : readUnsigned text = some (magnitude, scale))
    : ∃ integral, (∀ c ∈ integral, c.isDigit = true)
        ∧ (text = integral ∧ scale = 0
          ∨ ∃ fraction, (∀ c ∈ fraction, c.isDigit = true)
            ∧ text = integral ++ '.' :: fraction ∧ scale = fraction.length) := by
  refine ⟨text.takeWhile Char.isDigit, fun c member => List.mem_takeWhile_imp member, ?_⟩
  have parts : text.takeWhile Char.isDigit ++ text.dropWhile Char.isDigit = text :=
    List.takeWhile_append_dropWhile
  unfold readUnsigned at reads
  by_cases empty : (text.takeWhile Char.isDigit).isEmpty = true
  · simp [empty] at reads
  simp only [empty, Bool.false_eq_true, if_false] at reads
  rcases rest : text.dropWhile Char.isDigit with _ | ⟨c, fraction⟩
  · rw [rest] at reads parts
    cases reads
    exact Or.inl ⟨by simpa using parts.symm, rfl⟩
  · rw [rest] at reads parts
    by_cases point : c = '.'
    · subst point
      by_cases digits : (fraction.isEmpty || !fraction.all Char.isDigit) = true
      · simp [digits] at reads
      · simp only [digits, Bool.false_eq_true, if_false, Option.some.injEq,
          Prod.mk.injEq] at reads
        simp only [Bool.or_eq_true, Bool.not_eq_true', not_or, Bool.not_eq_false] at digits
        exact Or.inr ⟨fraction, List.all_eq_true.mp digits.2, parts.symm, reads.2.symm⟩
    · simp [point] at reads

/-- The bytes after the point of a number are its fractional digits. -/
theorem fractionalBytes_of_readUnsigned {text : List Char} {magnitude scale : Nat}
    (reads : readUnsigned text = some (magnitude, scale))
    : fractionalBytes text = scale := by
  obtain ⟨integral, digits, shape⟩ := readUnsigned_shape reads
  rcases shape with ⟨same, rfl⟩ | ⟨fraction, more, rfl, rfl⟩
  · have after : afterPoint (integral ++ []) = afterPoint [] := afterPoint_append digits
    rw [List.append_nil, ← same] at after
    rw [fractionalBytes, after]
    rfl
  · have sizes : fraction.map Char.utf8Size = fraction.map (fun _ => 1) := by
      apply List.map_congr_left
      intro c member
      exact utf8Size_digit (more c member)
    have after : afterPoint (integral ++ '.' :: fraction) = some fraction := by
      rw [afterPoint_append digits]
      simp [afterPoint]
    simp [fractionalBytes, after, sizes]

/-- A sign in front does not change what comes after the point. -/
theorem fractionalBytes_of_read {text : List Char} {x : Numeral} (reads : read text = some x)
    : fractionalBytes text = x.scale := by
  unfold read at reads
  split at reads
  · rename_i rest
    obtain ⟨number, unsigned, rfl⟩ := Option.map_eq_some_iff.mp reads
    have skipped : fractionalBytes ('-' :: rest) = fractionalBytes rest := by
      simp [fractionalBytes, afterPoint]
    exact skipped.trans (fractionalBytes_of_readUnsigned unsigned)
  · obtain ⟨number, unsigned, rfl⟩ := Option.map_eq_some_iff.mp reads
    exact fractionalBytes_of_readUnsigned unsigned

-----------------------------------------------------------------------------------------
-- Scales
-----------------------------------------------------------------------------------------

/-- The nearest integer of a quotient, halves away from zero. -/
def roundDiv (a : Int) (d : Nat) : Int := a.sign * ((2 * a.natAbs + d) / (2 * d) : Nat)

/-- The number at another scale, as its unscaled integer. -/
def Numeral.rounded (x : Numeral) (scale : Nat) : Int :=
  if x.scale ≤ scale then
    x.unscaled * 10 ^ (scale - x.scale)
  else
    roundDiv x.unscaled (10 ^ (x.scale - scale))

/-- A multiple of the divisor is divided without rounding. -/
theorem roundDiv_mul (n : Int) {d : Nat} (positive : 0 < d) : roundDiv (n * d) d = n := by
  have quotient : (2 * (n.natAbs * d) + d) / (2 * d) = n.natAbs := by
    have split : 2 * (n.natAbs * d) + d = d + n.natAbs * (2 * d) := by ring
    rw [split, Nat.add_mul_div_right _ _ (by omega), Nat.div_eq_of_lt (by omega), Nat.zero_add]
  have sign : (n * d).sign = n.sign := by
    rw [Int.sign_mul, Int.sign_natCast_of_ne_zero (by omega), mul_one]
  rw [roundDiv, Int.natAbs_mul, Int.natAbs_natCast, quotient, sign, Int.sign_mul_natAbs]

/-- A larger scale loses nothing. -/
theorem rounded_of_le {x : Numeral} {scale : Nat} (le : x.scale ≤ scale)
    : (x.rounded scale : ℚ) / 10 ^ scale = x.value := by
  have powers : (10 : ℚ) ^ scale = 10 ^ (scale - x.scale) * 10 ^ x.scale := by
    rw [← pow_add, Nat.sub_add_cancel le]
  rw [Numeral.rounded, if_pos le, Numeral.value, powers]
  push_cast
  field_simp

/-- A number that an integer at the scale equals is not rounded to another one. -/
theorem rounded_of_value {x : Numeral} {scale : Nat} {n : Int}
    (exact : x.value = (n : ℚ) / 10 ^ scale)
    : x.rounded scale = n := by
  by_cases le : x.scale ≤ scale
  · have same := (rounded_of_le le).trans exact
    have unscaled : (x.rounded scale : ℚ) = n := by
      field_simp at same
      exact same
    exact_mod_cast unscaled
  · have powers : (10 : ℚ) ^ x.scale = 10 ^ (x.scale - scale) * 10 ^ scale := by
      rw [← pow_add, Nat.sub_add_cancel (by omega)]
    have whole : (x.unscaled : ℚ) = n * 10 ^ (x.scale - scale) := by
      rw [Numeral.value, powers] at exact
      field_simp at exact
      rw [exact]
      ring
    have integers : x.unscaled = n * ((10 ^ (x.scale - scale) : Nat) : Int) := by
      exact_mod_cast whole
    rw [Numeral.rounded, if_neg le, integers]
    exact roundDiv_mul n (Nat.pow_pos (by decide))

/-- Going through a scale that is wide enough, or through the last one, changes nothing. -/
theorem rounded_rounded {x : Numeral} {middle scale : Nat} (le : middle ≤ scale)
    (wide : x.scale ≤ middle ∨ middle = scale)
    : ({ unscaled := x.rounded middle, scale := middle } : Numeral).rounded scale
      = x.rounded scale := by
  rcases wide with wide | rfl
  · have start : ({ unscaled := x.rounded middle, scale := middle } : Numeral).value = x.value :=
      rounded_of_le wide
    apply rounded_of_value
    rw [start, rounded_of_le (wide.trans le)]
  · simp [Numeral.rounded]

end DecimalText
