import ApiNotes.Json.Writer
import ApiNotes.Proofs.Text.Cut
import ApiNotes.Proofs.Text.Digits
import Mathlib.Tactic.SplitIfs

/-!
# Numerals

A numeral is a number as JSON and most programming languages spell it: a minus or nothing,
digits, and then a fraction and an exponent, both of which may be missing. No digit comes behind
a zero that the digits begin with, since a number with such a zero is refused by some languages
and taken for an octal one by others. `IsNumeral` is the grammar, and `isNumeral` looks for its
parts one behind the other.

Every number that is written is a numeral. For integers that is a matter of their digits. A
double is written as the shortest decimal that reads back; a magnitude other than zero has none
with zero for its significand, so no zero comes first where the digits are put before the point.
-/

namespace ApiNotes

namespace Decimal

/-! ### The grammar -/

/-- Digits, at least one. -/
def IsDigits (cs : List Char) : Prop :=
  cs ≠ [] ∧ ∀ c ∈ cs, c.isDigit = true

/-- One of the given signs, or nothing. -/
def IsSign (signs cs : List Char) : Prop :=
  cs = [] ∨ ∃ c ∈ signs, cs = [c]

/-- Digits with a zero in front only if it is the one digit. -/
def IsWhole (cs : List Char) : Prop :=
  IsDigits cs ∧ (cs.head? = some '0' → cs = ['0'])

/-- A point with digits behind it. -/
def IsFraction (cs : List Char) : Prop :=
  ∃ ds, IsDigits ds ∧ cs = '.' :: ds

/-- A letter, a sign or none, and digits. -/
inductive IsExponent : List Char → Prop where
  | intro {letter : Char} {sign ds : List Char} : letter = 'e' ∨ letter = 'E' →
      IsSign ['+', '-'] sign → IsDigits ds → IsExponent (letter :: (sign ++ ds))

/-- The spelling of a number. -/
inductive IsNumeral : List Char → Prop where
  | intro {sign whole fraction power : List Char} : IsSign ['-'] sign → IsWhole whole →
      fraction = [] ∨ IsFraction fraction → power = [] ∨ IsExponent power →
        IsNumeral (sign ++ (whole ++ (fraction ++ power)))

/-! ### Recognising numerals -/

/-- What follows a sign, if there is one. -/
def behindSign (signs : List Char) : List Char → List Char
  | [] => []
  | c :: cs => if c ∈ signs then cs else c :: cs

/-- What follows digits. -/
def behindDigits? (cs : List Char) : Option (List Char) :=
  if cs.head?.any Char.isDigit then some (cs.dropWhile Char.isDigit) else none

/-- What follows the digits before the point. -/
def behindWhole? : List Char → Option (List Char)
  | '0' :: cs => some cs
  | cs => behindDigits? cs

/-- What follows a fraction, if there is one. -/
def behindFraction? : List Char → Option (List Char)
  | '.' :: cs => behindDigits? cs
  | cs => some cs

/-- What follows an exponent, if there is one. -/
def behindExponent? : List Char → Option (List Char)
  | [] => some []
  | c :: cs =>
    if c = 'e' ∨ c = 'E' then behindDigits? (behindSign ['+', '-'] cs) else some (c :: cs)

/-- Whether a text is the spelling of a number. -/
def isNumeral (cs : List Char) : Bool :=
  ((behindWhole? (behindSign ['-'] cs)).bind behindFraction?).bind behindExponent? == some []

/-- No digit comes first. -/
def Stops (text : List Char) : Prop :=
  ∀ c ∈ text.head?, c.isDigit = false

variable {cs ds fraction power rest : List Char}

theorem behindSign_append {signs sign : List Char} (hsigns : signs.any Char.isDigit = false)
    (hsign : IsSign signs sign) (h : IsDigits ds) (rest : List Char) :
    behindSign signs (sign ++ (ds ++ rest)) = ds ++ rest := by
  rcases hsign with rfl | ⟨c, hc, rfl⟩
  · obtain ⟨c, cs, rfl⟩ := List.exists_cons_of_ne_nil h.1
    have hc : c ∉ signs := by
      intro hmem
      have hdigit := List.any_eq_true.2 ⟨c, hmem, h.2 c List.mem_cons_self⟩
      rw [hsigns] at hdigit
      cases hdigit
    exact if_neg hc
  · exact if_pos hc

theorem behindDigits?_append (h : IsDigits ds) (hrest : Stops rest) :
    behindDigits? (ds ++ rest) = some rest := by
  obtain ⟨hne, hall⟩ := h
  obtain ⟨c, cs, rfl⟩ := List.exists_cons_of_ne_nil hne
  have hhead : (c :: cs ++ rest).head?.any Char.isDigit = true := hall c List.mem_cons_self
  rw [behindDigits?, if_pos hhead, (Text.span_append hall hrest).2]

theorem behindDigits?_eq (h : IsDigits ds) : behindDigits? ds = some [] := by
  have hread : behindDigits? (ds ++ []) = some [] := behindDigits?_append h (by simp [Stops])
  rwa [List.append_nil] at hread

theorem behindWhole?_append (h : IsWhole ds) (hrest : Stops rest) :
    behindWhole? (ds ++ rest) = some rest := by
  obtain ⟨hdigits, hzero⟩ := h
  obtain ⟨c, cs, rfl⟩ := List.exists_cons_of_ne_nil hdigits.1
  by_cases hc : c = '0'
  · rw [hzero (by rw [hc]; rfl)]
    rfl
  · rw [← behindDigits?_append hdigits hrest]
    simp [behindWhole?, hc]

theorem stops_of_isExponent (h : power = [] ∨ IsExponent power) : Stops power := by
  rcases h with rfl | ⟨hletter, -, -⟩
  · simp [Stops]
  · rcases hletter with rfl | rfl <;> simp [Stops]

theorem stops_of_isFraction (h : fraction = [] ∨ IsFraction fraction) (hpower : Stops power) :
    Stops (fraction ++ power) := by
  rcases h with rfl | ⟨ds, -, rfl⟩
  · exact hpower
  · simp [Stops]

theorem behindFraction?_append (h : fraction = [] ∨ IsFraction fraction)
    (hpower : power = [] ∨ IsExponent power) :
    behindFraction? (fraction ++ power) = some power := by
  rcases h with rfl | ⟨ds, hds, rfl⟩
  · rcases hpower with rfl | ⟨hletter, -, -⟩
    · rfl
    · rcases hletter with rfl | rfl <;> rfl
  · exact behindDigits?_append hds (stops_of_isExponent hpower)

theorem behindExponent?_eq (h : power = [] ∨ IsExponent power) :
    behindExponent? power = some [] := by
  rcases h with rfl | ⟨hletter, hsign, hds⟩
  · rfl
  · have hskip := behindSign_append (by decide) hsign hds []
    rw [List.append_nil] at hskip
    rw [behindExponent?, if_pos hletter, hskip, behindDigits?_eq hds]

theorem IsNumeral.isNumeral_eq (h : IsNumeral cs) : isNumeral cs = true := by
  obtain ⟨hsign, hwhole, hfraction, hpower⟩ := h
  have hstops := stops_of_isFraction hfraction (stops_of_isExponent hpower)
  rw [isNumeral, behindSign_append (by decide) hsign hwhole.1, behindWhole?_append hwhole hstops,
    Option.bind_some, behindFraction?_append hfraction hpower, Option.bind_some,
    behindExponent?_eq hpower]
  rfl

theorem IsSign.mem {signs sign : List Char} (h : IsSign signs sign) {c : Char} (hc : c ∈ sign) :
    c ∈ signs := by
  rcases h with rfl | ⟨d, hd, rfl⟩
  · cases hc
  · rwa [List.mem_singleton.1 hc]

/-- The characters that numerals are made of. -/
theorem IsNumeral.mem_cases (h : IsNumeral cs) {c : Char} (hc : c ∈ cs) :
    c.isDigit = true ∨ c ∈ ['-', '+', '.', 'e', 'E'] := by
  obtain ⟨hsign, hwhole, hfraction, hpower⟩ := h
  simp only [List.mem_append] at hc
  rcases hc with hc | hc | hc | hc
  · have hsub : ['-'] ⊆ ['-', '+', '.', 'e', 'E'] := by decide
    exact Or.inr (hsub (hsign.mem hc))
  · exact Or.inl (hwhole.1.2 c hc)
  · rcases hfraction with rfl | ⟨ds, hds, rfl⟩
    · cases hc
    · rcases List.mem_cons.1 hc with rfl | hc
      · exact Or.inr (by decide)
      · exact Or.inl (hds.2 c hc)
  · rcases hpower with rfl | ⟨hletter, hsign, hds⟩
    · cases hc
    · rcases List.mem_cons.1 hc with rfl | hc
      · exact Or.inr (by rcases hletter with rfl | rfl <;> decide)
      · rcases List.mem_append.1 hc with hc | hc
        · have hsub : ['+', '-'] ⊆ ['-', '+', '.', 'e', 'E'] := by decide
          exact Or.inr (hsub (hsign.mem hc))
        · exact Or.inl (hds.2 c hc)

/-! ### Numbers that are written -/

theorem isDigits_digits (n : Nat) : IsDigits (Text.digits n) :=
  ⟨Nat.toDigits_ne_nil, fun _ hc => Text.isDigit_of_mem_digits hc⟩

theorem isWhole_digits (n : Nat) : IsWhole (Text.digits n) := by
  refine ⟨isDigits_digits n, fun hzero => ?_⟩
  rcases Nat.eq_zero_or_pos n with rfl | hpos
  · rfl
  · obtain ⟨c, cs, hcs, hc⟩ := Text.exists_digits_eq_cons hpos
    rw [hcs] at hzero
    exact absurd (Option.some.inj hzero) hc

theorem isNumeral_writeInt (n : Int) : IsNumeral (Json.writeInt n) := by
  have hnumeral : ∀ sign, IsSign ['-'] sign → IsNumeral (sign ++ Text.digits n.natAbs) := by
    intro sign hsign
    have h := IsNumeral.intro hsign (isWhole_digits n.natAbs) (Or.inl rfl) (Or.inl rfl)
    rwa [List.append_nil, List.append_nil] at h
  rw [Json.writeInt]
  split_ifs
  · exact hnumeral ['-'] (Or.inr ⟨'-', by decide, rfl⟩)
  · exact hnumeral [] (Or.inl rfl)

/-! ### Doubles -/

theorem IsDigits.take (h : IsDigits ds) {k : Nat} (hk : 0 < k) : IsDigits (ds.take k) := by
  refine ⟨?_, fun c hc => h.2 c (List.mem_of_mem_take hc)⟩
  rw [Ne, List.take_eq_nil_iff, not_or]
  exact ⟨Nat.pos_iff_ne_zero.1 hk, h.1⟩

theorem IsDigits.drop (h : IsDigits ds) {k : Nat} (hk : k < ds.length) : IsDigits (ds.drop k) := by
  refine ⟨?_, fun c hc => h.2 c (List.mem_of_mem_drop hc)⟩
  rw [Ne, List.drop_eq_nil_iff]
  exact Nat.not_le.2 hk

theorem isDigit_of_mem_zeros {n : Nat} {c : Char} (h : c ∈ List.replicate n '0') :
    c.isDigit = true := by
  rw [List.eq_of_mem_replicate h]
  decide

theorem IsDigits.append_zeros (h : IsDigits ds) (n : Nat) :
    IsDigits (ds ++ List.replicate n '0') := by
  refine ⟨List.append_ne_nil_of_left_ne_nil h.1 _, fun c hc => ?_⟩
  rcases List.mem_append.1 hc with hc | hc
  · exact h.2 c hc
  · exact isDigit_of_mem_zeros hc

theorem IsDigits.zeros_append (h : IsDigits ds) (n : Nat) :
    IsDigits (List.replicate n '0' ++ ds) := by
  refine ⟨List.append_ne_nil_of_right_ne_nil _ h.1, fun c hc => ?_⟩
  rcases List.mem_append.1 hc with hc | hc
  · exact isDigit_of_mem_zeros hc
  · exact h.2 c hc

/-- Digits that begin with zero may be put around the point only if all of them come behind
it. -/
theorem isNumeral_writePositional {sign : List Char} (hsign : IsSign ['-'] sign) (h : IsWhole ds)
    {exponent : Int} (hzero : ds.head? = some '0' → exponent < 0) :
    IsNumeral (sign ++ writePositional ds exponent) := by
  obtain ⟨hdigits, hfirst⟩ := h
  have hnumeral : ∀ whole ds', IsWhole whole → IsDigits ds' →
      IsNumeral (sign ++ (whole ++ '.' :: ds')) := by
    intro whole ds' hwhole hds'
    have hall := IsNumeral.intro hsign hwhole (Or.inr ⟨ds', hds', rfl⟩) (Or.inl rfl)
    rwa [List.append_nil] at hall
  simp only [writePositional]
  split_ifs with hpos hbefore
  · refine hnumeral _ ['0'] ⟨hdigits.append_zeros _, fun hhead => ?_⟩ (isDigits_digits 0)
    obtain ⟨c, cs, rfl⟩ := List.exists_cons_of_ne_nil hdigits.1
    have hneg := hzero hhead
    omega
  · have hlength : (ds.length + exponent).toNat < ds.length := by omega
    refine hnumeral _ _ ⟨hdigits.take (by omega), fun hhead => ?_⟩ (hdigits.drop hlength)
    rw [List.head?_take, if_neg (by omega)] at hhead
    have hone : ds.length = 1 := by rw [hfirst hhead]; rfl
    omega
  · exact hnumeral ['0'] _ (isWhole_digits 0) (hdigits.zeros_append _)

theorem isNumeral_writeScientific {sign : List Char} (hsign : IsSign ['-'] sign) (h : IsDigits ds)
    (order : Int) : IsNumeral (sign ++ writeScientific ['e', '+'] ds order) := by
  have hwhole : IsWhole (ds.take 1) := by
    refine ⟨h.take Nat.one_pos, fun hhead => ?_⟩
    obtain ⟨c, cs, rfl⟩ := List.exists_cons_of_ne_nil h.1
    simpa using hhead
  have hfraction : (if ds.length ≤ 1 then [] else '.' :: ds.drop 1) = [] ∨
      IsFraction (if ds.length ≤ 1 then [] else '.' :: ds.drop 1) := by
    split_ifs with hlength
    · exact Or.inl rfl
    · exact Or.inr ⟨ds.drop 1, h.drop (by omega), rfl⟩
  have hpower : IsExponent ((if 0 ≤ order then ['e', '+'] else ['e', '-']) ++
      Text.digits order.natAbs) := by
    split_ifs
    · exact .intro (Or.inl rfl) (Or.inr ⟨'+', by decide, rfl⟩) (isDigits_digits _)
    · exact .intro (Or.inl rfl) (Or.inr ⟨'-', by decide, rfl⟩) (isDigits_digits _)
  have hall := IsNumeral.intro hsign hwhole hfraction (Or.inr hpower)
  simpa [writeScientific] using hall

theorem Magnitude.lower_pos {m : Magnitude} (h : m.significand ≠ 0) :
    0 < m.neighbourhood.lower := by
  have hquarter : 0 < Nat.pow 2 m.exponent.toNat := Nat.pow_pos (by decide)
  have hvalue : 4 * Nat.pow 2 m.exponent.toNat ≤
      4 * m.significand * Nat.pow 2 m.exponent.toNat := by
    apply Nat.mul_le_mul_right
    omega
  simp only [Magnitude.neighbourhood]
  split_ifs <;> omega

/-- Zero does not lie in a neighbourhood above it. -/
theorem Neighbourhood.onGrid?_ne_zero {n : Neighbourhood} (h : 0 < n.lower) (k : Int) :
    n.onGrid? k ≠ some 0 := by
  have hlow : 0 < n.lower * Nat.pow 10 (-k).toNat := Nat.mul_pos h (Nat.pow_pos (by decide))
  intro hgrid
  simp only [onGrid?] at hgrid
  generalize n.den * Nat.pow 10 k.toNat = unit at hgrid
  generalize n.lower * Nat.pow 10 (-k).toNat = low at hgrid hlow
  generalize n.upper * Nat.pow 10 (-k).toNat = high at hgrid
  generalize n.value * Nat.pow 10 (-k).toNat / unit = below at hgrid
  have hinside : (if n.closed = true then
        decide (low ≤ below * unit) && decide (below * unit ≤ high)
      else decide (low < below * unit) && decide (below * unit < high)) = true → below ≠ 0 := by
    rintro hin rfl
    rw [Nat.zero_mul] at hin
    split_ifs at hin with hclosed
    · simp [Nat.pos_iff_ne_zero.1 hlow] at hin
    · simp at hin
  split at hgrid
  · next hin _ =>
    have hne := hinside hin
    split_ifs at hgrid <;> simp [hne] at hgrid
  · next hin _ => exact hinside hin (Option.some.inj hgrid)
  · cases hgrid
  · cases hgrid

/-- Zero stands for a neighbourhood only where the search has come to its end. -/
theorem Neighbourhood.exponent_coarsest {n : Neighbourhood} (h : 0 < n.lower) (steps : Nat)
    (k : Int) (hzero : (n.coarsest steps k).significand = 0) :
    (n.coarsest steps k).exponent = k - steps := by
  induction steps generalizing k with
  | zero => simp [coarsest]
  | succ steps ih =>
      rw [coarsest] at hzero ⊢
      cases hgrid : n.onGrid? k with
      | some c =>
          rw [hgrid] at hzero
          obtain rfl : c = 0 := hzero
          exact absurd hgrid (onGrid?_ne_zero h k)
      | none =>
          rw [hgrid] at hzero
          rw [ih (k - 1) hzero]
          push_cast
          omega

theorem exponent_shortest_neg {m : Magnitude} (h : m.significand ≠ 0)
    (hzero : (shortest m).significand = 0) : (shortest m).exponent < 0 := by
  have hend : (shortest m).exponent = 308 - (633 : Nat) :=
    Neighbourhood.exponent_coarsest (Magnitude.lower_pos h) 633 308 hzero
  rw [hend]
  decide

theorem isNumeral_write {sign : List Char} (hsign : IsSign ['-'] sign) {d : Decimal}
    (hzero : d.significand = 0 → d.exponent < 0) : IsNumeral (sign ++ Json.layout.write d) := by
  simp only [Layout.write]
  split_ifs
  · refine isNumeral_writePositional hsign (isWhole_digits _) fun hhead => hzero ?_
    by_contra hne
    obtain ⟨c, cs, hcs, hc⟩ := Text.exists_digits_eq_cons (Nat.pos_iff_ne_zero.2 hne)
    rw [hcs] at hhead
    exact hc (Option.some.inj hhead)
  · exact isNumeral_writeScientific hsign (isDigits_digits _) _

theorem isNumeral_writeFloat (x : Float) : IsNumeral (Json.layout.writeFloat x) := by
  simp only [Layout.writeFloat]
  have hsign : IsSign ['-'] (if Nat.pow 2 63 ≤ x.toBits.toNat then ['-'] else []) := by
    split_ifs
    · exact Or.inr ⟨'-', by decide, rfl⟩
    · exact Or.inl rfl
  generalize (if Nat.pow 2 63 ≤ x.toBits.toNat then ['-'] else []) = sign at hsign ⊢
  split
  · exact .intro hsign (isWhole_digits 0) (Or.inr ⟨['0'], isDigits_digits 0, rfl⟩) (Or.inl rfl)
  · next hne => exact isNumeral_write hsign (exponent_shortest_neg hne)

end Decimal

end ApiNotes
