import ApiNotes.Proofs.Editor.Position
import Mathlib.Order.Bounds.Defs
import Mathlib.Order.Monotone.Defs

/-!
# Positions and back

A position in a line is a cut of it in two, and an index and a column are two measures of what is
before the cut. `byte?` answers at the columns of cuts alone (`exists_of_byte?_eq_some`), so the
columns without an answer are those behind the line and those between the two units of a character
(`byte?_eq_none_iff`). `column` answers everywhere, with the column of the last cut before the
index (`exists_floor`).

In a text of several rows, the place of a cut tells the rows before it and the bytes before it in
its row (`exists_row_at`), and later cuts have later places.
-/

namespace ApiNotes

namespace Text

/-- The first `n` rows of a text, each with its line feed. -/
def fedRows (n : Nat) (text : List Char) : List Char :=
  ((rows text).take n).flatMap (· ++ ['\n'])

theorem head?_rows (text : List Char) : (rows text).head? = some (row text) := by
  by_cases hmem : '\n' ∈ text
  · obtain ⟨first, rest, rfl, hfirst⟩ := List.eq_append_cons_of_mem hmem
    rw [rows, List.splitOn_append_cons_self_of_not_mem hfirst, row_append_of_not_mem hfirst]
    rfl
  · rw [rows, List.splitOn_eq_singleton hmem, row_of_not_mem hmem]
    rfl

/-- The rows before a place and the bytes of its column are what is before it. -/
theorem exists_row_at (before behind : List Char) :
    ∃ part rest, (rows (before ++ behind))[(endPlace before).line]? = some (part ++ rest) ∧
      before = fedRows (endPlace before).line (before ++ behind) ++ part ∧
        byteLength part = (endPlace before).column := by
  induction before using Tag.row_induction with
  | row r hr =>
      have hplain : ∀ c ∈ r, (c != '\n') = true := by
        intro c hc
        rw [bne_iff_ne]
        rintro rfl
        exact hr hc
      rw [endPlace_of_not_mem hr, ← List.head?_eq_getElem?, head?_rows, row,
        List.takeWhile_append_of_pos hplain]
      exact ⟨r, _, rfl, rfl, rfl⟩
  | more r before hr ih =>
      obtain ⟨part, rest, hrow, hbefore, hpart⟩ := ih
      have hsplit : rows (r ++ '\n' :: before ++ behind) = r :: rows (before ++ behind) := by
        rw [List.append_assoc, List.cons_append]
        exact List.splitOn_append_cons_self_of_not_mem hr _
      rw [endPlace_append hr, fedRows, hsplit, List.take_succ_cons, List.flatMap_cons]
      refine ⟨part, rest, hrow, ?_, hpart⟩
      rw [List.append_assoc, List.append_assoc, List.singleton_append, ← fedRows, ← hbefore]

/-- A longer start of a text leads to a later place. -/
theorem endPlace_before {xs ys before behind : List Char} (h : xs ++ ys = before ++ behind)
    (hlt : byteLength xs < byteLength before) : (endPlace xs).Before (endPlace before) := by
  obtain ⟨between, rfl, -⟩ := exists_append_of_byteLength_le h (Nat.le_of_lt hlt)
  cases between with
  | nil => simp at hlt
  | cons c between =>
      rw [endPlace, endPlace, Place.after_append]
      exact Place.before_after _ c between

end Text

namespace Editor

variable {line : List Char} {col n : Nat}

/-! ### Columns without an index -/

/-- A column that falls between the two units of a character. -/
def SplitsPair (line : List Char) (col : Nat) : Prop :=
  ∃ front c behind, line = front ++ c :: behind ∧ units c = 2 ∧ col = unitLength front + 1

theorem not_splitsPair_nil : ¬ SplitsPair [] col := by
  rintro ⟨front, c, behind, hline, -⟩
  simp at hline

theorem splitsPair_cons_iff {c : Char} {cs : List Char} :
    SplitsPair (c :: cs) col ↔
      units c = 2 ∧ col = 1 ∨ units c ≤ col ∧ SplitsPair cs (col - units c) := by
  constructor
  · rintro ⟨front, d, behind, hline, hpair, rfl⟩
    rcases List.cons_eq_append_iff.1 hline with ⟨rfl, hline⟩ | ⟨front, rfl, rfl⟩
    · obtain ⟨rfl, -⟩ := List.cons.inj hline
      exact Or.inl ⟨hpair, rfl⟩
    · rw [unitLength_cons]
      exact Or.inr ⟨by omega, front, d, behind, rfl, hpair, by omega⟩
  · rintro (⟨hpair, rfl⟩ | ⟨hle, front, d, behind, rfl, hpair, hcol⟩)
    · exact ⟨[], c, cs, rfl, hpair, rfl⟩
    · refine ⟨c :: front, d, behind, rfl, hpair, ?_⟩
      rw [unitLength_cons]
      omega

theorem units_le_two (c : Char) : units c ≤ 2 := by
  unfold units
  split <;> decide

theorem byte?_eq_none_iff :
    byte? col line = none ↔ unitLength line < col ∨ SplitsPair line col := by
  induction line generalizing col with
  | nil =>
      rw [or_iff_left not_splitsPair_nil, byte?, unitLength_nil]
      split_ifs with hzero
      · simp [hzero]
      · simpa using Nat.pos_of_ne_zero hzero
  | cons c cs ih =>
      have hpos := units_pos c
      have htwo := units_le_two c
      rw [byte?, unitLength_cons, splitsPair_cons_iff]
      split_ifs with hzero hinside
      · rw [false_iff]
        omega
      · -- The column is behind the first of two units.
        exact iff_of_true rfl (Or.inr (Or.inl (by omega)))
      · rw [Option.map_eq_none_iff, ih]
        constructor
        · rintro (hlong | hpair)
          · exact Or.inl (by omega)
          · exact Or.inr (Or.inr ⟨Nat.le_of_not_lt hinside, hpair⟩)
        · rintro (hlong | ⟨hpair, hcol⟩ | ⟨-, hpair⟩)
          · exact Or.inl (by omega)
          · omega
          · exact Or.inr hpair

theorem exists_of_byte?_eq_some (h : byte? col line = some n) :
    ∃ front behind, line = front ++ behind ∧ col = unitLength front ∧
      n = Text.byteLength front := by
  induction line generalizing col n with
  | nil =>
      rw [byte?] at h
      split_ifs at h with hzero
      obtain rfl := Option.some.inj h
      exact ⟨[], [], rfl, hzero, rfl⟩
  | cons c cs ih =>
      rw [byte?] at h
      split_ifs at h with hzero hinside
      · obtain rfl := Option.some.inj h
        exact ⟨[], c :: cs, rfl, hzero, rfl⟩
      · obtain ⟨m, hm, rfl⟩ := Option.map_eq_some_iff.1 h
        obtain ⟨front, behind, rfl, hcol, rfl⟩ := ih hm
        refine ⟨c :: front, behind, rfl, ?_, rfl⟩
        rw [unitLength_cons]
        omega

theorem byte?_column (h : Text.IsBoundary line n) : byte? (column n line) line = some n := by
  obtain ⟨front, behind, rfl, rfl⟩ := h
  rw [column_byteLength_append, byte?_unitLength_append]

theorem column_of_byte? (h : byte? col line = some n) :
    Text.IsBoundary line n ∧ column n line = col := by
  obtain ⟨front, behind, rfl, rfl, rfl⟩ := exists_of_byte?_eq_some h
  exact ⟨⟨front, behind, rfl, rfl⟩, column_byteLength_append front behind⟩

/-! ### Columns of all indices -/

theorem column_mono (line : List Char) : Monotone fun n => column n line := by
  intro m n h
  induction line generalizing m n with
  | nil => exact Nat.le_refl _
  | cons c cs ih =>
      simp only [column]
      split_ifs with hm hn
      · exact Nat.le_refl _
      · exact Nat.zero_le _
      · omega
      · exact Nat.add_le_add_left (ih (Nat.sub_le_sub_right h _)) _

/-- The last cut that is not behind an index has its column. -/
theorem exists_floor (line : List Char) (n : Nat) :
    ∃ front behind, line = front ++ behind ∧ Text.byteLength front ≤ n ∧
      (∀ c ∈ behind.head?, n < Text.byteLength front + c.utf8Size) ∧
        column n line = unitLength front := by
  induction line generalizing n with
  | nil => exact ⟨[], [], rfl, Nat.zero_le n, by simp, rfl⟩
  | cons c cs ih =>
      by_cases hinside : n < c.utf8Size
      · refine ⟨[], c :: cs, rfl, Nat.zero_le n, ?_, ?_⟩
        · simpa using hinside
        · rw [column, if_pos hinside]
          rfl
      · obtain ⟨front, behind, rfl, hle, hlast, hcolumn⟩ := ih (n - c.utf8Size)
        refine ⟨c :: front, behind, rfl, ?_, ?_, ?_⟩
        · rw [Text.byteLength_cons]
          omega
        · intro d hd
          have hlt := hlast d hd
          rw [Text.byteLength_cons]
          omega
        · rw [column, if_neg hinside, hcolumn, unitLength_cons]

theorem exists_isGreatest_column_eq (line : List Char) (n : Nat) :
    ∃ floor, IsGreatest {m | Text.IsBoundary line m ∧ m ≤ n} floor ∧
      column n line = column floor line := by
  obtain ⟨front, behind, rfl, hle, hlast, hcolumn⟩ := exists_floor line n
  refine ⟨Text.byteLength front, ⟨⟨⟨front, behind, rfl, rfl⟩, hle⟩, ?_⟩, ?_⟩
  · rintro m ⟨⟨before, rest, hline, rfl⟩, hm⟩
    by_contra hlt
    rw [Nat.not_le] at hlt
    -- A later cut has a character more, which ends behind the index.
    obtain ⟨between, rfl, rfl⟩ := Text.exists_append_of_byteLength_le hline (Nat.le_of_lt hlt)
    rw [Text.byteLength_append] at hm hlt
    cases between with
    | nil => simp at hlt
    | cons c between =>
        have hbehind := hlast c (by simp)
        rw [Text.byteLength_cons] at hm
        omega
  · rw [hcolumn, column_byteLength_append]

/-! ### Conversions -/

/-- Indices and columns of a line are converted into each other without loss, and so are the
offsets and the places of a text. -/
theorem positions_convert (line text : List Char) :
    (∀ n, Text.IsBoundary line n → byte? (column n line) line = some n) ∧
    (∀ col n, byte? col line = some n → Text.IsBoundary line n ∧ column n line = col) ∧
    (∀ col, byte? col line = none ↔ unitLength line < col ∨ SplitsPair line col) ∧
    (Monotone fun n => column n line) ∧
    (∀ n, ∃ floor, IsGreatest {m | Text.IsBoundary line m ∧ m ≤ n} floor ∧
      column n line = column floor line) ∧
    (∀ n, Text.byteLength line ≤ n → column n line = unitLength line) ∧
    (∀ offset, Text.IsBoundary text offset → ∃ place row,
      place? text offset = some place ∧ (Text.rows text)[place.line]? = some row ∧
        Text.byteLength (Text.fedRows place.line text) + place.column = offset ∧
          place.column ≤ Text.byteLength row) ∧
    ∀ offset offset' place place', Text.IsBoundary text offset → Text.IsBoundary text offset' →
      place? text offset = some place → place? text offset' = some place' →
        offset < offset' → place.Before place' := by
  refine ⟨fun n => byte?_column, fun col n => column_of_byte?, fun col => byte?_eq_none_iff,
    column_mono line, exists_isGreatest_column_eq line, fun n => column_of_byteLength_le, ?_, ?_⟩
  · rintro offset ⟨before, behind, rfl, rfl⟩
    obtain ⟨part, rest, hrow, hbefore, hpart⟩ := Text.exists_row_at before behind
    have hplace := place?_byteLength_append before behind
    refine ⟨Text.endPlace before, part ++ rest, hplace, hrow, ?_, ?_⟩
    · rw [← hpart, ← Text.byteLength_append, ← hbefore]
    · rw [← hpart, Text.byteLength_append]
      exact Nat.le_add_right _ _
  · rintro offset offset' place place' ⟨before, behind, rfl, rfl⟩ ⟨before', behind', htext, rfl⟩
      hplace hplace' hlt
    rw [place?_byteLength_append, Option.some.injEq] at hplace
    rw [htext, place?_byteLength_append, Option.some.injEq] at hplace'
    rw [← hplace, ← hplace']
    exact Text.endPlace_before htext hlt

/-- A boundary and the column right behind it, which splits a character; two offsets in one row. -/
theorem positions_convert_pair :
    byte? (column 3 ['ü', ' ', '👋']) ['ü', ' ', '👋'] = some 3 ∧
      byte? 3 ['ü', ' ', '👋'] = none ∧ Text.Place.Before ⟨1, 0⟩ ⟨1, 2⟩ := by
  obtain ⟨hback, -, hnone, -, -, -, -, horder⟩ :=
    positions_convert ['ü', ' ', '👋'] ['a', '\n', 'ü', 'b']
  have hpair : SplitsPair ['ü', ' ', '👋'] 3 := ⟨['ü', ' '], '👋', [], rfl, rfl, rfl⟩
  refine ⟨hback 3 ⟨['ü', ' '], ['👋'], rfl, rfl⟩, (hnone 3).2 (Or.inr hpair), ?_⟩
  exact horder 2 4 _ _ ⟨['a', '\n'], ['ü', 'b'], rfl, rfl⟩ ⟨['a', '\n', 'ü'], ['b'], rfl, rfl⟩
    rfl rfl (by decide)

end Editor

end ApiNotes
