import ApiNotes.Text.Blank
import ApiNotes.Text.Digit

/-!
# Digits of numbers

The digits of a number denote it, all of them are ASCII digits, and only zero begins with
the digit zero. No digit of any script is a blank.
-/

namespace ApiNotes

namespace Text

/-- The number that digits denote behind digits that denote `n`. -/
def appendDigits (n : Nat) (cs : List Char) : Nat :=
  cs.foldl (fun n c => 10 * n + digitValue c) n

@[simp] theorem appendDigits_nil (n : Nat) : appendDigits n [] = n := rfl

@[simp] theorem appendDigits_cons (n : Nat) (c : Char) (cs : List Char) :
    appendDigits n (c :: cs) = appendDigits (10 * n + digitValue c) cs := by
  simp only [appendDigits, List.foldl_cons]

theorem le_appendDigits (n : Nat) (cs : List Char) : n ≤ appendDigits n cs := by
  induction cs generalizing n with
  | nil => exact Nat.le_refl n
  | cons c cs ih =>
      have hle := ih (10 * n + digitValue c)
      rw [appendDigits_cons]
      omega

theorem isDigit_of_mem_digits {n : Nat} {c : Char} (h : c ∈ digits n) : c.isDigit = true :=
  Nat.isDigit_of_mem_toDigits (by decide) (by decide) h

theorem appendDigits_digits (n : Nat) : appendDigits 0 (digits n) = n :=
  Nat.ofDigitChars_ten_toDigits

theorem decimal?_digits (n : Nat) : decimal? (digits n) = some n := by
  have hdigits : digits n ≠ [] ∧ (digits n).all Char.isDigit = true :=
    ⟨Nat.toDigits_ne_nil, List.all_eq_true.2 fun _ hc => isDigit_of_mem_digits hc⟩
  have hvalue : decimalValue (digits n) = n := appendDigits_digits n
  rw [decimal?, if_pos hdigits, hvalue]

/-- A positive number begins with a digit other than zero. -/
theorem exists_digits_eq_cons {n : Nat} (h : 0 < n) :
    ∃ c cs, digits n = c :: cs ∧ c ≠ '0' := by
  induction n using Nat.strongRecOn with
  | ind n ih =>
      by_cases hlt : n < 10
      · refine ⟨n.digitChar, [], Nat.toDigits_of_lt_base hlt, ?_⟩
        intro heq
        have hvalue := Nat.toNat_digitChar_sub_48_of_lt_ten hlt
        rw [heq] at hvalue
        exact absurd hvalue.symm (Nat.pos_iff_ne_zero.1 h)
      · obtain ⟨c, cs, hcs, hc⟩ := ih (n / 10) (by omega) (by omega)
        refine ⟨c, cs ++ [(n % 10).digitChar], ?_, hc⟩
        have hsplit : digits n = digits (n / 10) ++ [(n % 10).digitChar] :=
          Nat.toDigits_of_base_le (by decide) (Nat.not_lt.1 hlt)
        rw [hsplit, hcs]
        rfl

theorem isDigit_of_isBlank {c : Char} (h : isBlank c = true) : isDigit c = false := by
  have hruns : ∀ n ∈ List.range' 0x09 5 ++ [0x20, 0x85, 0xA0, 0x1680] ++ List.range' 0x2000 11 ++
      [0x2028, 0x2029, 0x202F, 0x205F, 0x3000], inRuns digitRuns n = false := by decide
  simp only [isBlank, Bool.or_eq_true, Bool.and_eq_true, decide_eq_true_eq, beq_iff_eq] at h
  apply hruns
  simp only [List.mem_append, List.mem_range'_1, List.mem_cons, List.not_mem_nil, or_false]
  omega

end Text

end ApiNotes
