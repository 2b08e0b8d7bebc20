import ApiNotes.Proofs.Text.Occurrences
import ApiNotes.Text.Lines

/-!
# The two line endings

`crlf` puts a carriage return before every line feed of a text. All else stays as it is and in
its place, so a word without line ends begins a text under both line endings or under neither.
A run of characters to which both or neither of the two line ends belong is the same run under
both endings; the run of a row is the one that sees the carriage return.
-/

namespace ApiNotes

namespace Text

/-- A character under the longer line ending. -/
def crlfChar (c : Char) : List Char :=
  if c = '\n' then ['\r', '\n'] else [c]

/-- A text with a carriage return before every line feed. -/
def crlf (text : List Char) : List Char :=
  text.flatMap crlfChar

@[simp] theorem crlf_nil : crlf [] = [] := rfl

theorem crlf_newline (cs : List Char) : crlf ('\n' :: cs) = '\r' :: '\n' :: crlf cs := rfl

theorem crlf_cons {c : Char} (hc : c ≠ '\n') (cs : List Char) : crlf (c :: cs) = c :: crlf cs := by
  rw [crlf, List.flatMap_cons, crlfChar, if_neg hc]
  rfl

@[simp] theorem crlf_append (xs ys : List Char) : crlf (xs ++ ys) = crlf xs ++ crlf ys :=
  List.flatMap_append

theorem crlf_of_not_mem {text : List Char} (h : '\n' ∉ text) : crlf text = text := by
  induction text with
  | nil => rfl
  | cons c cs ih =>
      rw [List.mem_cons, not_or] at h
      rw [crlf_cons (Ne.symm h.1), ih h.2]

theorem crlf_eq_nil_iff {text : List Char} : crlf text = [] ↔ text = [] := by
  cases text with
  | nil => simp
  | cons c cs =>
      by_cases hc : c = '\n'
      · simp [hc, crlf_newline]
      · simp [crlf_cons hc]

/-- The first characters of a text come first under both line endings. -/
theorem take_crlf (n : Nat) (text : List Char) :
    (crlf text).take (crlf (text.take n)).length = crlf (text.take n) := by
  have hsplit : crlf text = crlf (text.take n) ++ crlf (text.drop n) := by
    rw [← crlf_append, List.take_append_drop]
  rw [hsplit, List.take_left]

theorem drop_crlf (n : Nat) (text : List Char) :
    (crlf text).drop (crlf (text.take n)).length = crlf (text.drop n) := by
  have hsplit : crlf text = crlf (text.take n) ++ crlf (text.drop n) := by
    rw [← crlf_append, List.take_append_drop]
  rw [hsplit, List.drop_left]

/-! ### Words and runs -/

theorem guards_crlfChar {word : List Char} (hr : '\r' ∉ word) (hn : '\n' ∉ word) :
    Guards word crlfChar := by
  intro c
  rw [crlfChar]
  split
  · next hc =>
    rw [hc]
    refine Or.inr ⟨hn, '\r', ['\n'], rfl, hr, ?_⟩
    rintro w hw hmem
    obtain rfl := List.mem_singleton.1 hmem
    exact hn (List.mem_of_mem_head? hw)
  · exact Or.inl rfl

/-- A word without line ends begins a text under both line endings or under neither. -/
theorem prefix_crlf_iff {word : List Char} (hr : '\r' ∉ word) (hn : '\n' ∉ word)
    (text : List Char) : word <+: crlf text ↔ word <+: text :=
  (guards_crlfChar hr hn).prefix_flatMap_iff (fun _ hc => hc) text

theorem head?_crlf_eq_some_iff {c : Char} (hr : c ≠ '\r') (hn : c ≠ '\n') {text : List Char} :
    (crlf text).head? = some c ↔ text.head? = some c := by
  cases text with
  | nil => rfl
  | cons d text =>
      by_cases hd : d = '\n'
      · simp [hd, crlf_newline, Ne.symm hr, Ne.symm hn]
      · simp [crlf_cons hd]

variable {p : Char → Bool}

/-- A run that goes on over line ends does so under both line endings. -/
theorem span_crlf (hr : p '\r' = true) (hn : p '\n' = true) (text : List Char) :
    (crlf text).takeWhile p = crlf (text.takeWhile p) ∧
      (crlf text).dropWhile p = crlf (text.dropWhile p) := by
  induction text with
  | nil => exact ⟨rfl, rfl⟩
  | cons c cs ih =>
      by_cases hc : c = '\n'
      · subst hc
        simp [crlf_newline, hr, hn, ih.1, ih.2]
      · cases hp : p c with
        | true => simp [crlf_cons hc, hp, ih.1, ih.2]
        | false => simp [crlf_cons hc, hp]

/-- A run that no line end belongs to ends at the same place under both line endings. -/
theorem span_crlf_of_stop (hr : p '\r' = false) (hn : p '\n' = false) (text : List Char) :
    (crlf text).takeWhile p = text.takeWhile p ∧
      (crlf text).dropWhile p = crlf (text.dropWhile p) := by
  induction text with
  | nil => exact ⟨rfl, rfl⟩
  | cons c cs ih =>
      by_cases hc : c = '\n'
      · subst hc
        simp [crlf_newline, hr, hn]
      · cases hp : p c with
        | true => simp [crlf_cons hc, hp, ih.1, ih.2]
        | false => simp [crlf_cons hc, hp]

end Text

end ApiNotes
