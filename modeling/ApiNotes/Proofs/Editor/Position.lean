import ApiNotes.Editor.Position
import ApiNotes.Proofs.Text.Lines
import ApiNotes.Proofs.Text.Slice
import Mathlib.Algebra.GroupWithZero.Nat

/-!
# The line and the columns of a tag

Bytes and UTF-16 units count the same thing, the part of a line before a position, and
`unitLength` measures it in the one as `Text.byteLength` does in the other. `byte?` and `column`
lead from one measure to the other at every such part, and `column` rounds down elsewhere.

A tag stands on the line of its place, behind as many bytes as its column says (`OnLine`). What
follows it there is the rest of its row, less the carriage return of a line end.
-/

namespace ApiNotes

namespace Editor

open Tag

/-! ### Columns -/

/-- The number of UTF-16 units of a text. -/
def unitLength (text : List Char) : Nat :=
  (text.map units).sum

@[simp] theorem unitLength_nil : unitLength [] = 0 := rfl

@[simp] theorem unitLength_cons (c : Char) (cs : List Char) :
    unitLength (c :: cs) = units c + unitLength cs := by
  rw [unitLength, List.map_cons, List.sum_cons]
  rfl

@[simp] theorem unitLength_append (xs ys : List Char) :
    unitLength (xs ++ ys) = unitLength xs + unitLength ys := by
  rw [unitLength, List.map_append, List.sum_append]
  rfl

theorem units_pos (c : Char) : 0 < units c := by
  unfold units
  split <;> decide

theorem byte?_zero (line : List Char) : byte? 0 line = some 0 := by
  cases line <;> rfl

theorem column_zero (line : List Char) : column 0 line = 0 := by
  cases line with
  | nil => rfl
  | cons c cs => rw [column, if_pos c.utf8Size_pos]

theorem byte?_unitLength_append (xs ys : List Char) :
    byte? (unitLength xs) (xs ++ ys) = some (Text.byteLength xs) := by
  induction xs with
  | nil => exact byte?_zero ys
  | cons c cs ih =>
      have hpos := units_pos c
      rw [List.cons_append, unitLength_cons, byte?, if_neg (by omega), if_neg (by omega),
        Nat.add_sub_cancel_left, ih]
      rfl

theorem column_append_of_le {xs : List Char} {n : Nat} (h : Text.byteLength xs ≤ n)
    (ys : List Char) :
    column n (xs ++ ys) = unitLength xs + column (n - Text.byteLength xs) ys := by
  induction xs generalizing n with
  | nil => simp
  | cons c cs ih =>
      rw [Text.byteLength_cons] at h
      rw [List.cons_append, column, if_neg (by omega), ih (by omega), unitLength_cons,
        Text.byteLength_cons, Nat.sub_add_eq, Nat.add_assoc]

theorem column_byteLength_append (xs ys : List Char) :
    column (Text.byteLength xs) (xs ++ ys) = unitLength xs := by
  rw [column_append_of_le (Nat.le_refl _), Nat.sub_self, column_zero, Nat.add_zero]

theorem column_of_byteLength_le {line : List Char} {n : Nat} (h : Text.byteLength line ≤ n) :
    column n line = unitLength line := by
  have hall := column_append_of_le h []
  rwa [List.append_nil] at hall

theorem units_le_utf8Size (c : Char) : units c ≤ c.utf8Size := by
  have hpos := c.utf8Size_pos
  unfold units
  split
  · exact hpos
  · next hlarge =>
    by_contra hsize
    have hone : c.utf8Size = 1 := by omega
    have hsmall := UInt32.le_iff_toNat_le.1 (Char.utf8Size_eq_one_iff.1 hone)
    exact hlarge (Nat.lt_of_le_of_lt hsmall (by decide))

theorem unitLength_le_byteLength (text : List Char) : unitLength text ≤ Text.byteLength text := by
  induction text with
  | nil => exact Nat.le_refl _
  | cons c cs ih =>
      rw [unitLength_cons, Text.byteLength_cons]
      exact Nat.add_le_add (units_le_utf8Size c) ih

/-- In a text of one unit a character, every column belongs to a part of it. -/
theorem exists_append_of_le_unitLength {word : List Char} (hword : ∀ c ∈ word, units c = 1)
    {n : Nat} (hn : n ≤ unitLength word) :
    ∃ left right, word = left ++ right ∧ n = unitLength left := by
  induction word generalizing n with
  | nil => exact ⟨[], [], rfl, Nat.le_zero.1 hn⟩
  | cons c cs ih =>
      have hc := hword c List.mem_cons_self
      cases n with
      | zero => exact ⟨[], c :: cs, rfl, rfl⟩
      | succ n =>
          have hle : n ≤ unitLength cs := by
            rw [unitLength_cons, hc] at hn
            omega
          obtain ⟨left, right, rfl, rfl⟩ :=
            ih (fun d hd => hword d (List.mem_cons_of_mem c hd)) hle
          exact ⟨c :: left, right, rfl, by rw [unitLength_cons, hc, Nat.add_comm]⟩

theorem units_of_isAlpha {c : Char} (h : c.isAlpha = true) : units c = 1 := by
  have hc : c.toNat ≤ 122 := by
    delta Char.isAlpha Char.isUpper Char.isLower at h
    simp only [Bool.or_eq_true, Bool.and_eq_true, decide_eq_true_eq,
      UInt32.le_iff_toNat_le] at h
    rcases h with h | h
    · exact Nat.le_trans h.2 (by decide)
    · exact h.2
  rw [units, if_pos (by omega)]

theorem units_of_isDigit {c : Char} (h : c.isDigit = true) : units c = 1 := by
  have hc : 48 ≤ c.toNat ∧ c.toNat ≤ 57 := by
    simpa [Char.isDigit, UInt32.le_iff_toNat_le] using h
  rw [units, if_pos (by omega)]

theorem units_of_mem_tagText {name : List Char} (hname : ∀ c ∈ name, c.isAlpha = true) {c : Char}
    (hc : c ∈ tagText name) : units c = 1 := by
  rcases mem_tagText hname hc with rfl | hc
  · rfl
  · exact units_of_isAlpha hc

/-! ### The line of a tag -/

/-- A tag stands on the line of its place, between `front` and `tail`. -/
structure OnLine (text : List Char) (o : Occurrence) (place : Text.Place)
    (front tail : List Char) : Prop where
  place_eq : place? text o.span.start = some place
  line_eq : (Text.lines text)[place.line]? = some (front ++ (tagText o.name.toList ++ tail))
  column_eq : place.column = Text.byteLength front

theorem OnLine.unique {text front front' tail tail' : List Char} {o : Occurrence}
    {place place' : Text.Place} (h : OnLine text o place front tail)
    (h' : OnLine text o place' front' tail') :
    place = place' ∧ front = front' ∧ tail = tail' := by
  obtain rfl : place = place' := Option.some.inj (h.place_eq.symm.trans h'.place_eq)
  have hline := Option.some.inj (h.line_eq.symm.trans h'.line_eq)
  have hcolumn := h.column_eq.symm.trans h'.column_eq
  obtain ⟨rfl, hrest⟩ := Text.append_inj_of_byteLength_eq hline hcolumn
  exact ⟨rfl, rfl, List.append_cancel_left hrest⟩

theorem place?_byteLength_append (before behind : List Char) :
    place? (before ++ behind) (Text.byteLength before) = some (Text.endPlace before) := by
  rw [place?, Text.takeBytes?_byteLength_append, Option.map_some]

theorem exists_lineEnd {tail behind : List Char}
    (h : Text.row behind = tail ∨ Text.row behind = tail ++ ['\r']) :
    ∃ ending, behind = tail ++ ending ∧ ∀ c ∈ ending.head?, c = '\r' ∨ c = '\n' := by
  have hsplit : Text.row behind ++ behind.dropWhile (· != '\n') = behind :=
    List.takeWhile_append_dropWhile
  have hfeed : ∀ c ∈ (behind.dropWhile (· != '\n')).head?, c = '\r' ∨ c = '\n' := by
    intro c hc
    have hstop := Text.head?_dropWhile (· != '\n') behind c hc
    exact Or.inr (by simpa using hstop)
  rcases h with h | h
  · exact ⟨_, by rw [← h, hsplit], hfeed⟩
  · refine ⟨'\r' :: behind.dropWhile (· != '\n'), ?_, by simp⟩
    rw [List.append_cons, ← h, hsplit]

/-- Behind a tag, its line goes on as the text does up to the line end. -/
theorem exists_onLine {before name behind : List Char} {o : Occurrence}
    (hname : IsName name behind) (hname_eq : o.name = String.ofList name)
    (hstart : o.span.start = Text.byteLength before) :
    ∃ front tail, OnLine (before ++ (tagText name ++ behind)) o (Text.endPlace before) front tail ∧
      (Text.row behind = tail ∨ Text.row behind = tail ++ ['\r']) := by
  obtain ⟨front, more, hline, hfront, hmore⟩ := Text.exists_line_at (c := '@') (by decide)
    (by decide) before ('L' :: 'R' :: 'D' :: name ++ behind)
  have hplace : place? (before ++ (tagText name ++ behind)) o.span.start =
      some (Text.endPlace before) := by
    rw [hstart, place?_byteLength_append]
  have hrow : Text.row ('L' :: 'R' :: 'D' :: name ++ behind) =
      'L' :: 'R' :: 'D' :: name ++ Text.row behind := by
    have hall := row_tagText_append hname.1 behind
    exact (List.cons.inj hall).2
  obtain ⟨tail, rfl, htail⟩ : ∃ tail, more = 'L' :: 'R' :: 'D' :: name ++ tail ∧
      (Text.row behind = tail ∨ Text.row behind = tail ++ ['\r']) := by
    rw [hrow] at hmore
    rcases hmore with hmore | hmore
    · exact ⟨Text.row behind, hmore.symm, Or.inl rfl⟩
    · have hreturn : '\r' ∉ 'L' :: 'R' :: 'D' :: name := by
        have hletters : '\r' ∉ name := fun h => absurd (hname.1 _ h) (by decide)
        simp [hletters]
      obtain ⟨tail, htail, hrest⟩ := Text.exists_append_of_not_mem hreturn hmore
      exact ⟨tail, htail, Or.inr hrest⟩
  refine ⟨front, tail, ⟨hplace, ?_, hfront.symm⟩, htail⟩
  rw [hname_eq, String.toList_ofList]
  exact hline

end Editor

end ApiNotes
