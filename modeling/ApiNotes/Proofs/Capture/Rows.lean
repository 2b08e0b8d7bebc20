import ApiNotes.Proofs.Capture.Walk
import ApiNotes.Proofs.Text.Trim
import Mathlib.Data.List.TakeWhile

/-!
# Rows and their decoration

Decoration is removed row by row, so facts about `stripDecoration` are proved along the
rows of a text (`row_induction`): a text is one row, or a row, a line feed and a text.
What is removed from a row is made of gaps, asterisks and slashes, so it holds no quote
and never changes the region of the walk.

A captured object begins and ends with a brace. No blank can then be trimmed, and
`stripRows`, which only removes the decoration, is all that is left.
-/

namespace ApiNotes

namespace Tag

/-- Along the rows of a text. -/
theorem row_induction {motive : List Char → Prop}
    (row : ∀ r : List Char, '\n' ∉ r → motive r)
    (more : ∀ r rest : List Char, '\n' ∉ r → motive rest → motive (r ++ '\n' :: rest))
    (text : List Char) : motive text := by
  by_cases hmem : '\n' ∈ text
  · obtain ⟨r, rest, htext, hr⟩ := List.eq_append_cons_of_mem hmem
    have hshort : rest.length < text.length := by
      rw [htext, List.length_append, List.length_cons]
      omega
    rw [htext]
    exact more r rest hr (row_induction row more rest)
  · exact row text hmem
termination_by text.length

/-- A text without the decoration of its rows. -/
def stripRows (text : List Char) : List Char :=
  Text.joinRows ((Text.rows text).map stripRow)

theorem stripDecoration_eq_trim (text : List Char) :
    stripDecoration text = Text.trim (stripRows text) := rfl

theorem stripRows_of_not_mem {row : List Char} (h : '\n' ∉ row) :
    stripRows row = stripRow row := by
  rw [stripRows, Text.rows, List.splitOn_eq_singleton h]
  simp [Text.joinRows]

theorem stripRows_append {row : List Char} (h : '\n' ∉ row) (rest : List Char) :
    stripRows (row ++ '\n' :: rest) = stripRow row ++ '\n' :: stripRows rest := by
  obtain ⟨first, others, hrows⟩ : ∃ first others, Text.rows rest = first :: others :=
    List.exists_cons_of_ne_nil (List.splitOn_ne_nil '\n' rest)
  have hsplit : Text.rows (row ++ '\n' :: rest) = row :: Text.rows rest :=
    List.splitOn_append_cons_self_of_not_mem h rest
  rw [stripRows, stripRows, hsplit, hrows]
  simp [Text.joinRows]

/-- The characters that decoration is made of. -/
def isDecorative (c : Char) : Bool :=
  Text.isGap c || c == '*' || c == '/'

/-- The marks of decoration. -/
def marks : List (List Char) :=
  [['*'], ['/', '/'], ['/', '/', '/']]

theorem isDecorative_of_isGap {c : Char} (h : Text.isGap c = true) : isDecorative c = true := by
  simp [isDecorative, h]

theorem isDecorative_of_mem_marks {mark : List Char} (h : mark ∈ marks) {c : Char}
    (hc : c ∈ mark) : isDecorative c = true := by
  simp only [marks, List.mem_cons, List.not_mem_nil, or_false] at h
  rcases h with rfl | rfl | rfl <;> simp_all [isDecorative]

/-- A row keeps all its characters, or it loses a mark and the gaps around it. -/
theorem stripRow_cases (row : List Char) :
    stripRow row = row ∨
      ∃ mark ∈ marks, ∃ rest, row.dropWhile Text.isGap = mark ++ rest ∧
        stripRow row = rest.dropWhile Text.isGap := by
  unfold stripRow
  split
  · next rest h => exact Or.inr ⟨['*'], by simp [marks], rest, h, rfl⟩
  · next rest h => exact Or.inr ⟨['/', '/', '/'], by simp [marks], rest, h, rfl⟩
  · next rest _ h => exact Or.inr ⟨['/', '/'], by simp [marks], rest, h, rfl⟩
  · exact Or.inl rfl

/-- What is removed from a row is at its start and decorative. -/
theorem exists_stripRow_append (row : List Char) :
    ∃ removed, row = removed ++ stripRow row ∧ ∀ c ∈ removed, isDecorative c = true := by
  rcases stripRow_cases row with hkeep | ⟨mark, hmark, rest, hrest, hstrip⟩
  · exact ⟨[], hkeep.symm, by simp⟩
  · refine ⟨row.takeWhile Text.isGap ++ (mark ++ rest.takeWhile Text.isGap), ?_, ?_⟩
    · rw [hstrip, List.append_assoc, List.append_assoc, List.takeWhile_append_dropWhile, ← hrest,
        List.takeWhile_append_dropWhile]
    · intro c hc
      rcases List.mem_append.1 hc with hc | hc
      · exact isDecorative_of_isGap (List.mem_takeWhile_imp hc)
      rcases List.mem_append.1 hc with hc | hc
      · exact isDecorative_of_mem_marks hmark hc
      · exact isDecorative_of_isGap (List.mem_takeWhile_imp hc)

/-- A row that begins with no mark keeps all its characters. -/
theorem stripRow_eq_self {row : List Char}
    (h : ∀ c ∈ (row.dropWhile Text.isGap).head?, c ≠ '*' ∧ c ≠ '/') : stripRow row = row := by
  rcases stripRow_cases row with hkeep | ⟨mark, hmark, rest, hrest, -⟩
  · exact hkeep
  · rw [hrest] at h
    simp only [marks, List.mem_cons, List.not_mem_nil, or_false] at hmark
    rcases hmark with rfl | rfl | rfl <;> simp at h

/-- The decoration before a row is removed together with the gaps behind it. -/
theorem stripRow_append {left mark right row : List Char}
    (hleft : ∀ c ∈ left, Text.isGap c = true) (hmark : mark ∈ marks)
    (hright : ∀ c ∈ right, Text.isGap c = true) (hrow : row.head? ≠ some '/') :
    stripRow (left ++ mark ++ right ++ row) = row.dropWhile Text.isGap := by
  have hbehind : (right ++ row).head? ≠ some '/' := by
    cases right with
    | nil => exact hrow
    | cons c right =>
        have hgap := hright c List.mem_cons_self
        rintro heq
        obtain rfl : c = '/' := by simpa using heq
        exact absurd hgap (by decide)
  have hskip : (right ++ row).dropWhile Text.isGap = row.dropWhile Text.isGap :=
    List.dropWhile_append_of_pos hright
  have hstart : (left ++ mark ++ right ++ row).dropWhile Text.isGap =
      (mark ++ (right ++ row)).dropWhile Text.isGap := by
    rw [List.append_assoc, List.append_assoc, List.dropWhile_append_of_pos hleft]
  rw [stripRow, hstart]
  simp only [marks, List.mem_cons, List.not_mem_nil, or_false] at hmark
  rcases hmark with rfl | rfl | rfl
  · exact hskip
  · -- Two slashes are taken for three only when another slash follows.
    rw [← hskip]
    cases hcase : right ++ row with
    | nil => rfl
    | cons c cs =>
        have hc : c ≠ '/' := by
          rintro rfl
          exact hbehind (by rw [hcase]; rfl)
        simp [Text.isGap, hc]
  · exact hskip

theorem after_stripRow (row : List Char) :
    Region.outside.after (stripRow row) = Region.outside.after row := by
  obtain ⟨removed, hrow, hremoved⟩ := exists_stripRow_append row
  have hquote : '"' ∉ removed := fun h => absurd (hremoved _ h) (by decide)
  calc Region.outside.after (stripRow row)
      = (Region.outside.after removed).after (stripRow row) := by
        rw [Region.after_outside_of_not_mem hquote]
    _ = Region.outside.after row := by
        rw [← Region.after_append, ← hrow]

/-! ### Objects begin and end with a brace -/

theorem head?_stripRows {text : List Char} (h : text.head? = some '{') :
    (stripRows text).head? = some '{' := by
  have hrow : ∀ row : List Char, row.head? = some '{' → stripRow row = row := by
    intro row hrow
    obtain ⟨cs, rfl⟩ := List.head?_eq_some_iff.1 hrow
    exact stripRow_eq_self (by simp [Text.isGap])
  induction text using row_induction with
  | row r hr => rw [stripRows_of_not_mem hr, hrow r h, h]
  | more r rest hr ih =>
      obtain ⟨cs, rfl⟩ : ∃ cs, r = '{' :: cs := by
        cases r with
        | nil => simp at h
        | cons c cs => exact ⟨cs, by simpa using h⟩
      rw [stripRows_append hr, hrow _ rfl]
      rfl

theorem getLast?_stripRows {text : List Char} (h : text.getLast? = some '}') :
    (stripRows text).getLast? = some '}' := by
  induction text using row_induction with
  | row r hr =>
      rw [stripRows_of_not_mem hr]
      obtain ⟨removed, hrow, hremoved⟩ := exists_stripRow_append r
      rw [hrow, List.getLast?_append] at h
      cases hlast : (stripRow r).getLast? with
      | some c => simpa [hlast] using h
      | none =>
          rw [hlast, Option.none_or] at h
          exact absurd (hremoved _ (List.mem_of_getLast? h)) (by decide)
  | more r rest hr ih =>
      have hrest : rest.getLast? = some '}' := by
        cases rest with
        | nil => simp at h
        | cons c rest => simpa using h
      rw [stripRows_append hr, List.getLast?_append, List.getLast?_cons, ih hrest]
      rfl

/-- Between two braces there is nothing to trim. -/
theorem stripDecoration_eq_stripRows {text : List Char} (hfirst : text.head? = some '{')
    (hlast : text.getLast? = some '}') : stripDecoration text = stripRows text := by
  rw [stripDecoration_eq_trim]
  exact Text.trim_of_ends (head?_stripRows hfirst) (by decide) (getLast?_stripRows hlast)
    (by decide)

theorem decodeObject_eq_ok_iff {text : List Char} {v : Json} :
    decodeObject text = .ok v ↔ Json.parse (stripDecoration text) = .ok v ∧ v.isObject = true := by
  rw [decodeObject]
  cases Json.parse (stripDecoration text) with
  | error error => simp
  | ok w =>
      cases hw : w.isObject with
      | true =>
          simp only [hw, if_true, Except.ok.injEq]
          exact ⟨fun h => ⟨h, h ▸ hw⟩, And.left⟩
      | false =>
          simp only [hw, Bool.false_eq_true, if_false, Except.ok.injEq]
          constructor
          · intro h
            cases h
          · rintro ⟨rfl, hv⟩
            rw [hw] at hv
            cases hv

end Tag

end ApiNotes
