import ApiNotes.Text.Blank
import Mathlib.Data.List.TakeWhile

/-!
# Texts without blanks at their ends

Trimming leaves a text alone exactly when no blank stands at either end. The end is
trimmed by a recursion from the front, so its lemmas are inductions from the front too,
with the last character written at the end of the text.
-/

namespace ApiNotes

namespace Text

theorem dropEndWhile_append_singleton {p : Char → Bool} {c : Char} (hc : p c = false)
    (xs : List Char) : dropEndWhile p (xs ++ [c]) = xs ++ [c] := by
  induction xs with
  | nil => simp [dropEndWhile, hc]
  | cons x xs ih =>
      rw [List.cons_append, dropEndWhile, ih]
      cases xs <;> rfl

theorem trimEnd_of_getLast? {text : List Char} {c : Char} (h : text.getLast? = some c)
    (hc : isBlank c = false) : trimEnd text = text := by
  obtain ⟨xs, rfl⟩ := List.getLast?_eq_some_iff.1 h
  exact dropEndWhile_append_singleton hc xs

theorem trimStart_of_head? {text : List Char} {c : Char} (h : text.head? = some c)
    (hc : isBlank c = false) : trimStart text = text := by
  obtain ⟨xs, rfl⟩ := List.head?_eq_some_iff.1 h
  rw [trimStart, List.dropWhile_cons_of_neg (by simp [hc])]

/-- A text with no blank at either end is trimmed. -/
theorem trim_of_ends {text : List Char} {c d : Char} (hfirst : text.head? = some c)
    (hc : isBlank c = false) (hlast : text.getLast? = some d) (hd : isBlank d = false) :
    trim text = text := by
  rw [trim, trimStart_of_head? hfirst hc, trimEnd_of_getLast? hlast hd]

theorem dropEndWhile_isPrefix (p : Char → Bool) (text : List Char) :
    dropEndWhile p text <+: text := by
  induction text with
  | nil => exact List.nil_prefix
  | cons c cs ih =>
      rw [dropEndWhile]
      split
      · split
        · exact List.nil_prefix
        · exact List.cons_prefix_cons.2 ⟨rfl, List.nil_prefix⟩
      · next d ds hds =>
        rw [hds] at ih
        exact List.cons_prefix_cons.2 ⟨rfl, ih⟩

/-- A trimmed text begins with no blank. -/
theorem isBlank_head?_of_trim {text : List Char} (h : trim text = text) :
    ∀ c ∈ text.head?, isBlank c = false := by
  intro c hc
  obtain ⟨cs, rfl⟩ := List.head?_eq_some_iff.1 hc
  cases hblank : isBlank c with
  | false => rfl
  | true =>
      have hle : (trim (c :: cs)).length ≤ cs.length := by
        rw [trim, trimStart, List.dropWhile_cons_of_pos hblank]
        exact Nat.le_trans (dropEndWhile_isPrefix _ _).length_le (List.dropWhile_suffix _).length_le
      rw [h, List.length_cons] at hle
      omega

theorem trim_of_not_blank {text : List Char} (h : ∀ c ∈ text, isBlank c = false) :
    trim text = text := by
  cases hfirst : text.head? with
  | none =>
      rw [List.head?_eq_none_iff.1 hfirst]
      rfl
  | some c =>
      cases hlast : text.getLast? with
      | none =>
          rw [List.getLast?_eq_none_iff.1 hlast]
          rfl
      | some d =>
          exact trim_of_ends hfirst (h c (List.mem_of_mem_head? hfirst)) hlast
            (h d (List.mem_of_getLast? hlast))

/-! ### What is left of a text -/

/-- What is dropped at the end makes no difference. -/
theorem dropEndWhile_append {p : Char → Bool} {ys : List Char} (hys : ∀ c ∈ ys, p c = true)
    (xs : List Char) : dropEndWhile p (xs ++ ys) = dropEndWhile p xs := by
  induction xs with
  | nil =>
      rw [List.nil_append, dropEndWhile_nil]
      induction ys with
      | nil => rfl
      | cons y ys ih =>
          rw [dropEndWhile, ih fun c hc => hys c (List.mem_cons_of_mem y hc)]
          exact if_pos (hys y List.mem_cons_self)
  | cons x xs ih => rw [List.cons_append, dropEndWhile, dropEndWhile, ih]

/-- What is left does not end in what is dropped. -/
theorem getLast?_dropEndWhile (p : Char → Bool) (text : List Char) :
    ∀ c ∈ (dropEndWhile p text).getLast?, p c = false := by
  induction text with
  | nil => simp
  | cons c cs ih =>
      intro d hd
      rw [dropEndWhile] at hd
      split at hd
      · split at hd
        · cases hd
        · next hc =>
          obtain rfl : c = d := by simpa using hd
          simpa using hc
      · next e es hes =>
        rw [List.getLast?_cons_cons] at hd
        exact ih d (by rw [hes]; exact hd)

/-- Nothing is dropped exactly when the last character is not to be dropped. -/
theorem dropEndWhile_eq_self_iff {p : Char → Bool} {text : List Char} :
    dropEndWhile p text = text ↔ ∀ c ∈ text.getLast?, p c = false := by
  constructor
  · intro h c hc
    rw [← h] at hc
    exact getLast?_dropEndWhile p text c hc
  · intro h
    cases hlast : text.getLast? with
    | none =>
        rw [List.getLast?_eq_none_iff.1 hlast]
        rfl
    | some c =>
        obtain ⟨xs, rfl⟩ := List.getLast?_eq_some_iff.1 hlast
        exact dropEndWhile_append_singleton (h c hlast) xs

/-- Only what is to be dropped is missing, and it stood at the end. -/
theorem exists_dropEndWhile_append (p : Char → Bool) (text : List Char) :
    ∃ dropped, text = dropEndWhile p text ++ dropped ∧ ∀ c ∈ dropped, p c = true := by
  induction text with
  | nil => exact ⟨[], rfl, by simp⟩
  | cons c cs ih =>
      obtain ⟨dropped, hcs, hdropped⟩ := ih
      rw [dropEndWhile]
      split
      · next hnil =>
        rw [hnil, List.nil_append] at hcs
        rw [← hcs] at hdropped
        split
        · next hc => exact ⟨c :: cs, rfl, List.forall_mem_cons.2 ⟨hc, hdropped⟩⟩
        · exact ⟨cs, rfl, hdropped⟩
      · next d ds hds =>
        rw [hds] at hcs
        exact ⟨dropped, congrArg (c :: ·) hcs, hdropped⟩

theorem dropEndWhile_cons_of_neg {p : Char → Bool} {c : Char} (hc : p c = false) (cs : List Char) :
    dropEndWhile p (c :: cs) = c :: dropEndWhile p cs := by
  rw [dropEndWhile]
  split
  · next hnil => rw [hnil, if_neg (by simp [hc])]
  · next d ds hds => rw [hds]

/-- Characters that are not to be dropped are kept. -/
theorem mem_dropWhile_iff {p : Char → Bool} {c : Char} (hc : p c = false) (text : List Char) :
    c ∈ text.dropWhile p ↔ c ∈ text := by
  have hnot : c ∉ text.takeWhile p := by
    intro hmem
    rw [List.mem_takeWhile_imp hmem] at hc
    cases hc
  calc c ∈ text.dropWhile p
      ↔ c ∈ text.takeWhile p ++ text.dropWhile p := by rw [List.mem_append, or_iff_right hnot]
    _ ↔ c ∈ text := by rw [List.takeWhile_append_dropWhile]

theorem mem_dropEndWhile_iff {p : Char → Bool} {c : Char} (hc : p c = false) (text : List Char) :
    c ∈ dropEndWhile p text ↔ c ∈ text := by
  obtain ⟨dropped, htext, hdropped⟩ := exists_dropEndWhile_append p text
  have hnot : c ∉ dropped := by
    intro hmem
    rw [hdropped c hmem] at hc
    cases hc
  calc c ∈ dropEndWhile p text
      ↔ c ∈ dropEndWhile p text ++ dropped := by rw [List.mem_append, or_iff_left hnot]
    _ ↔ c ∈ text := by rw [← htext]

theorem mem_of_mem_trim {text : List Char} {c : Char} (h : c ∈ trim text) : c ∈ text :=
  (List.dropWhile_suffix _).subset ((dropEndWhile_isPrefix _ _).subset h)

/-- A trimmed text is a part of the text. -/
theorem trim_isInfix (text : List Char) : trim text <:+: text :=
  (dropEndWhile_isPrefix _ _).isInfix.trans (List.dropWhile_suffix _).isInfix

/-- Blanks at the end do not matter. -/
theorem trim_append {ys : List Char} (hys : ∀ c ∈ ys, isBlank c = true) (text : List Char) :
    trim (text ++ ys) = trim text := by
  rw [trim, trim, trimStart, trimStart, List.dropWhile_append]
  split
  · next hnil =>
    rw [List.isEmpty_iff.1 hnil, List.dropWhile_eq_nil_iff.2 hys]
  · exact dropEndWhile_append hys _

/-- Trimming leaves a text alone when no blank stands at either end. -/
theorem trim_eq_self_iff {text : List Char} :
    trim text = text ↔
      (∀ c ∈ text.head?, isBlank c = false) ∧ ∀ c ∈ text.getLast?, isBlank c = false := by
  constructor
  · intro h
    refine ⟨isBlank_head?_of_trim h, ?_⟩
    intro c hc
    rw [← h] at hc
    exact getLast?_dropEndWhile _ _ c hc
  · rintro ⟨hfirst, hlast⟩
    cases text with
    | nil => rfl
    | cons c cs =>
        obtain ⟨d, hd⟩ : ∃ d, (c :: cs).getLast? = some d :=
          ⟨_, List.getLast?_eq_some_getLast (List.cons_ne_nil c cs)⟩
        exact trim_of_ends rfl (hfirst c rfl) hd (hlast d hd)

theorem isBlank_head?_trimStart (text : List Char) :
    ∀ c ∈ (trimStart text).head?, isBlank c = false := by
  intro c hc
  have hnot := List.head?_dropWhile_not isBlank text
  rw [trimStart] at hc
  rw [hc] at hnot
  exact hnot

theorem head?_dropEndWhile {p : Char → Bool} {text : List Char} {c : Char}
    (hc : c ∈ (dropEndWhile p text).head?) : c ∈ text.head? := by
  obtain ⟨rest, hrest⟩ := dropEndWhile_isPrefix p text
  rw [← hrest, List.head?_append, hc]
  rfl

/-- The end of a text that begins with no blank can be trimmed by itself. -/
theorem trim_trimEnd {text : List Char} (h : ∀ c ∈ text.head?, isBlank c = false) :
    trim (trimEnd text) = trimEnd text :=
  trim_eq_self_iff.2 ⟨fun c hc => h c (head?_dropEndWhile hc), getLast?_dropEndWhile _ _⟩

theorem trim_trim (text : List Char) : trim (trim text) = trim text :=
  trim_trimEnd (isBlank_head?_trimStart text)

/-- A word without blanks is what trimming leaves of it between blanks. -/
theorem trim_padded {left word right : List Char} (hleft : ∀ c ∈ left, isBlank c = true)
    (hword : ∀ c ∈ word, isBlank c = false) (hright : ∀ c ∈ right, isBlank c = true) :
    trim (left ++ (word ++ right)) = word := by
  have hstart : trimStart (left ++ (word ++ right)) = trimStart (word ++ right) :=
    List.dropWhile_append_of_pos hleft
  rw [trim, hstart]
  cases word with
  | nil =>
      rw [List.nil_append, trimStart, List.dropWhile_eq_nil_iff.2 hright]
      rfl
  | cons c word =>
      have hc : isBlank c = false := hword c List.mem_cons_self
      rw [List.cons_append, trimStart_of_head? rfl hc, ← List.cons_append, trimEnd,
        dropEndWhile_append hright]
      have htrim : trim (c :: word) = c :: word := trim_of_not_blank hword
      rwa [trim, trimStart_of_head? rfl hc] at htrim

end Text

end ApiNotes
