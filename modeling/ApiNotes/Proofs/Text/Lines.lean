import ApiNotes.Proofs.Capture.Rows
import ApiNotes.Proofs.Text.Cut
import ApiNotes.Text.Lines

/-!
# Lines along the rows of a text

The lines of a text are taken off one by one: a row up to its line feed is a line without
the carriage return that may end it, and the last row is a line unless it is empty.

A place counts line feeds and then bytes, while lines are without their ends. The two meet at
every character that is no line end: its place has the number of its line, and as many bytes
are before it in that line (`exists_line_at`).
-/

namespace ApiNotes

namespace Text

variable {row : List Char}

theorem row_of_not_mem (h : '\n' ∉ row) : Text.row row = row := by
  refine List.takeWhile_eq_self_iff.2 fun c hc => ?_
  rw [bne_iff_ne]
  rintro rfl
  exact h hc

theorem row_append_newline (line behind : List Char) :
    Text.row (line ++ '\n' :: behind) = Text.row line :=
  (span_append_of_stop (by decide) line behind).1

theorem row_append_of_not_mem (h : '\n' ∉ row) (rest : List Char) :
    Text.row (row ++ '\n' :: rest) = row := by
  rw [row_append_newline, row_of_not_mem h]

theorem lines_of_not_mem (h : '\n' ∉ row) : lines row = if row = [] then [] else [row] := by
  rw [lines, rows, List.splitOn_eq_singleton h]
  rfl

theorem lines_append (h : '\n' ∉ row) (rest : List Char) :
    lines (row ++ '\n' :: rest) = dropReturn row :: lines rest := by
  obtain ⟨first, others, hrows⟩ : ∃ first others, rows rest = first :: others :=
    List.exists_cons_of_ne_nil (List.splitOn_ne_nil '\n' rest)
  have hsplit : rows (row ++ '\n' :: rest) = row :: rows rest :=
    List.splitOn_append_cons_self_of_not_mem h rest
  rw [lines, lines, hsplit, hrows]
  rfl

/-- A row loses nothing but the carriage return at its end. -/
theorem dropReturn_cases (row : List Char) :
    dropReturn row = row ∨ row = dropReturn row ++ ['\r'] := by
  induction row with
  | nil => exact Or.inl rfl
  | cons c cs ih =>
      cases cs with
      | nil =>
          by_cases hc : c = '\r'
          · exact Or.inr (by simp [dropReturn, hc])
          · exact Or.inl (by simp [dropReturn, hc])
      | cons d cs =>
          rw [dropReturn]
          rcases ih with hkeep | hdrop
          · exact Or.inl (by rw [hkeep])
          · exact Or.inr (by rw [List.cons_append, ← hdrop])

theorem dropReturn_append_cons (row : List Char) {c : Char} (hc : c ≠ '\r') (cs : List Char) :
    dropReturn (row ++ c :: cs) = row ++ c :: dropReturn cs := by
  induction row with
  | nil =>
      cases cs with
      | nil => simp [dropReturn, hc]
      | cons d cs => rfl
  | cons d row ih =>
      cases row with
      | nil => exact congrArg (d :: ·) ih
      | cons e row => exact congrArg (d :: ·) ih

/-- A line goes on to the line feed behind it, less a carriage return. -/
theorem exists_head?_lines {row : List Char} (hrow : '\n' ∉ row) {c : Char} (hc : c ≠ '\r')
    (hfeed : c ≠ '\n') (rest : List Char) :
    ∃ more, (lines (row ++ c :: rest)).head? = some (row ++ c :: more) ∧
      (Text.row rest = more ∨ Text.row rest = more ++ ['\r']) := by
  by_cases hmem : '\n' ∈ rest
  · obtain ⟨first, others, rfl, hfirst⟩ := List.eq_append_cons_of_mem hmem
    have hline : '\n' ∉ row ++ c :: first := by
      simp [hrow, hfirst, hfeed.symm]
    refine ⟨dropReturn first, ?_, ?_⟩
    · rw [← List.cons_append, ← List.append_assoc, lines_append hline,
        dropReturn_append_cons row hc]
      rfl
    · rw [row_append_of_not_mem hfirst]
      rcases dropReturn_cases first with hkeep | hdrop
      · exact Or.inl hkeep.symm
      · exact Or.inr hdrop
  · have hline : '\n' ∉ row ++ c :: rest := by
      simp [hrow, hmem, hfeed.symm]
    refine ⟨rest, ?_, Or.inl (row_of_not_mem hmem)⟩
    rw [lines_of_not_mem hline]
    simp

/-- The lines behind a line feed are lines of the whole text, and not the first one. -/
theorem lines_suffix (before rest : List Char) :
    lines rest <:+ (lines (before ++ '\n' :: rest)).drop 1 := by
  induction before using Tag.row_induction with
  | row r hr =>
      rw [lines_append hr]
      exact List.suffix_rfl
  | more r before hr ih =>
      rw [List.append_assoc, List.cons_append, lines_append hr]
      exact ih.trans (List.drop_suffix 1 _)

/-! ### Places -/

/-- One place comes before another. -/
def Place.Before (p q : Place) : Prop :=
  p.line < q.line ∨ p.line = q.line ∧ p.column < q.column

theorem Place.Before.trans {p q r : Place} (h : p.Before q) (h' : q.Before r) : p.Before r := by
  unfold Place.Before at *
  omega

theorem Place.after_append (p : Place) (xs ys : List Char) :
    p.after (xs ++ ys) = (p.after xs).after ys := by
  induction xs generalizing p with
  | nil => rfl
  | cons c cs ih => exact ih _

theorem Place.after_of_not_mem (h : '\n' ∉ row) (p : Place) :
    p.after row = ⟨p.line, p.column + byteLength row⟩ := by
  induction row generalizing p with
  | nil => rfl
  | cons c cs ih =>
      rw [List.mem_cons, not_or] at h
      rw [Place.after, if_neg (Ne.symm h.1), ih h.2, byteLength_cons, Nat.add_assoc]

/-- Lines before a text move the places in it. -/
theorem Place.after_add (line column n : Nat) (text : List Char) :
    Place.after ⟨line + n, column⟩ text =
      ⟨(Place.after ⟨line, column⟩ text).line + n, (Place.after ⟨line, column⟩ text).column⟩ := by
  induction text generalizing line column with
  | nil => rfl
  | cons c cs ih =>
      rw [Place.after, Place.after]
      split
      · rw [Nat.add_right_comm]
        exact ih (line + 1) 0
      · exact ih line _

theorem endPlace_of_not_mem (h : '\n' ∉ row) : endPlace row = ⟨0, byteLength row⟩ := by
  rw [endPlace, Place.after_of_not_mem h, Nat.zero_add]

theorem endPlace_append (h : '\n' ∉ row) (rest : List Char) :
    endPlace (row ++ '\n' :: rest) = ⟨(endPlace rest).line + 1, (endPlace rest).column⟩ := by
  rw [endPlace, Place.after_append, Place.after_of_not_mem h]
  exact Place.after_add 0 0 1 rest

theorem Place.before_step (p : Place) (c : Char) : p.Before (p.after [c]) := by
  have hpos := c.utf8Size_pos
  rw [Place.after, Place.after]
  split
  · exact Or.inl (Nat.lt_succ_self _)
  · exact Or.inr ⟨rfl, Nat.lt_add_of_pos_right hpos⟩

/-- Every text but the empty one leads on to a later place. -/
theorem Place.before_after (p : Place) (c : Char) (cs : List Char) :
    p.Before (p.after (c :: cs)) := by
  induction cs generalizing p c with
  | nil => exact p.before_step c
  | cons d cs ih => exact (p.before_step c).trans (ih (p.after [c]) d)

/-- A place is no further than the bytes on the way to it. -/
theorem Place.line_add_column_after_le (p : Place) (text : List Char) :
    (p.after text).line + (p.after text).column ≤ p.line + p.column + byteLength text := by
  induction text generalizing p with
  | nil => exact Nat.le_refl _
  | cons c cs ih =>
      have hpos := c.utf8Size_pos
      rw [Place.after, byteLength_cons]
      split
      · next hc => exact (ih ⟨p.line + 1, 0⟩).trans (by simp only; omega)
      · next hc => exact (ih ⟨p.line, p.column + c.utf8Size⟩).trans (by simp only; omega)

theorem line_add_column_endPlace_le (text : List Char) :
    (endPlace text).line + (endPlace text).column ≤ byteLength text :=
  (Place.line_add_column_after_le ⟨0, 0⟩ text).trans_eq (Nat.zero_add _)

/-- A character that is no line end is in the line of its place, behind the bytes of its
column. -/
theorem exists_line_at {c : Char} (hc : c ≠ '\r') (hfeed : c ≠ '\n') (before rest : List Char) :
    ∃ front more, (lines (before ++ c :: rest))[(endPlace before).line]? =
        some (front ++ c :: more) ∧
      byteLength front = (endPlace before).column ∧
        (Text.row rest = more ∨ Text.row rest = more ++ ['\r']) := by
  induction before using Tag.row_induction with
  | row r hr =>
      obtain ⟨more, hline, hmore⟩ := exists_head?_lines hr hc hfeed rest
      rw [endPlace_of_not_mem hr]
      exact ⟨r, more, List.head?_eq_getElem?.symm.trans hline, rfl, hmore⟩
  | more r before hr ih =>
      rw [List.append_assoc, List.cons_append, lines_append hr, endPlace_append hr]
      exact ih

end Text

end ApiNotes
