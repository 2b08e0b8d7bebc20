import ApiNotes.Text.Offset
import Mathlib.Data.List.TakeWhile

/-!
# One text cut in two ways

Where a text is cut in two ways, one of the cuts comes first, and there is a text between
the two. Which one is first is told by a character that one part lacks, or by the lengths
of the parts. The longest run of characters of one class is such a cut, and it stays where
it is when text is put behind a character that ends it.
-/

namespace ApiNotes

namespace Text

variable {xs ys before behind : List Char} {c : Char}

/-- A character that a text does not begin with stands behind it. -/
theorem exists_append_of_not_mem (hc : c ∉ xs) (h : xs ++ ys = before ++ c :: behind) :
    ∃ between, before = xs ++ between ∧ ys = between ++ c :: behind := by
  rcases List.append_eq_append_iff.1 h with ⟨as, rfl, rfl⟩ | ⟨cs, rfl, hcs⟩
  · exact ⟨as, rfl, rfl⟩
  · cases cs with
    | nil => exact ⟨[], by simp, hcs.symm⟩
    | cons d cs =>
        obtain ⟨rfl, -⟩ := List.cons.inj hcs
        simp at hc

/-- The longer one of two starts of a text begins with the shorter one. -/
theorem exists_append_of_length_le (h : xs ++ ys = before ++ behind)
    (hle : xs.length ≤ before.length) :
    ∃ between, before = xs ++ between ∧ ys = between ++ behind := by
  have hprefix : xs <+: before :=
    List.prefix_of_prefix_length_le ⟨ys, h⟩ (List.prefix_append before behind) hle
  obtain ⟨between, rfl⟩ := hprefix
  rw [List.append_assoc] at h
  exact ⟨between, rfl, List.append_cancel_left h⟩

/-- A shorter start of a text has fewer bytes. -/
theorem byteLength_lt_of_append (h : xs ++ ys = before ++ behind)
    (hlt : before.length < xs.length) : byteLength before < byteLength xs := by
  obtain ⟨between, rfl, -⟩ := exists_append_of_length_le h.symm (Nat.le_of_lt hlt)
  cases between with
  | nil => simp at hlt
  | cons d between =>
      have hpos := d.utf8Size_pos
      rw [byteLength_append, byteLength_cons]
      omega

/-- The last character of a text is in every part at its end but the empty one. -/
theorem mem_of_concat_eq_append (h : before ++ [c] = xs ++ ys) (hys : ys ≠ []) : c ∈ ys := by
  have hlast := congrArg List.getLast? h
  rw [List.getLast?_concat, List.getLast?_append] at hlast
  cases hcase : ys.getLast? with
  | none => exact absurd (List.getLast?_eq_none_iff.1 hcase) hys
  | some d =>
      rw [hcase, Option.some_or, Option.some.injEq] at hlast
      rw [hlast]
      exact List.mem_of_getLast? hcase

/-! ### Runs of characters -/

variable {p : Char → Bool}

/-- What follows a run begins with no part of it. -/
theorem head?_dropWhile (p : Char → Bool) (text : List Char) :
    ∀ c ∈ (text.dropWhile p).head?, p c = false := by
  intro c hc
  have hnot := List.head?_dropWhile_not p text
  rw [hc] at hnot
  simpa using hnot

/-- A run ends where a character is no part of it. -/
theorem span_append (hxs : ∀ c ∈ xs, p c = true) (hys : ∀ c ∈ ys.head?, p c = false) :
    (xs ++ ys).takeWhile p = xs ∧ (xs ++ ys).dropWhile p = ys := by
  rw [List.takeWhile_append_of_pos hxs, List.dropWhile_append_of_pos hxs]
  cases ys with
  | nil => simp
  | cons c ys => simp [hys c rfl]

/-- A run that ends within a text is the same when more text follows. -/
theorem span_append_of_ne_nil (h : xs.dropWhile p ≠ []) (ys : List Char) :
    (xs ++ ys).takeWhile p = xs.takeWhile p ∧
      (xs ++ ys).dropWhile p = xs.dropWhile p ++ ys := by
  induction xs with
  | nil => exact absurd rfl h
  | cons d xs ih =>
      cases hd : p d with
      | false => simp [hd]
      | true =>
          rw [List.dropWhile_cons_of_pos hd] at h
          obtain ⟨htake, hdrop⟩ := ih h
          simp [hd, htake, hdrop]

/-- A run does not go past a character that is no part of it. -/
theorem span_append_of_stop (hc : p c = false) (xs ys : List Char) :
    (xs ++ c :: ys).takeWhile p = xs.takeWhile p ∧
      (xs ++ c :: ys).dropWhile p = xs.dropWhile p ++ c :: ys := by
  induction xs with
  | nil => simp [hc]
  | cons d xs ih =>
      cases hd : p d with
      | false => simp [hd]
      | true => simp [hd, ih.1, ih.2]

/-- The run at the end of a text begins behind the last character that is no part of it. -/
theorem lastRun_append (hys : ∀ c ∈ ys, p c = true) (hxs : ∀ c ∈ xs.getLast?, p c = false) :
    ((xs ++ ys).reverse.takeWhile p).reverse = ys := by
  have hall : ∀ c ∈ ys.reverse, p c = true := by simpa using hys
  have hstop : ∀ c ∈ xs.reverse.head?, p c = false := by rwa [List.head?_reverse]
  rw [List.reverse_append, (span_append hall hstop).1, List.reverse_reverse]

theorem exists_append_lastRun (p : Char → Bool) (text : List Char) :
    ∃ before, text = before ++ (text.reverse.takeWhile p).reverse ∧
      ∀ c ∈ before.getLast?, p c = false := by
  refine ⟨(text.reverse.dropWhile p).reverse, ?_, ?_⟩
  · rw [← List.reverse_append, List.takeWhile_append_dropWhile, List.reverse_reverse]
  · rw [List.getLast?_reverse]
    exact head?_dropWhile p text.reverse

end Text

end ApiNotes
