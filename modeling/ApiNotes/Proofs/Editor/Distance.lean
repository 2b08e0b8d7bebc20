import ApiNotes.Editor.Spelling
import Mathlib.Data.List.Induction
import Mathlib.Order.Lattice.Nat

/-!
# The fewest changes between two words

A *change* of a word inserts, deletes or replaces one character, and `Changes n s t` tells that
`n` changes lead from `s` to `t`. The least such number is what `gap` computes, by comparing two
words from their first characters on. It is enough for this that one change moves every `gap` by
one at most (`gap_change`), and that the three choices of `gap` are changes (`changes_gap`).

`distance` reads words in the other direction and keeps one row at a time. Changes do not depend
on the direction, so `gap` has the same three choices at the ends of words (`gap_concat`), and
each row holds the `gap` of what was read to every initial part of the other word
(`foldl_nextRow`). The laws of a metric are those of changes: they can be undone and put one
behind the other.
-/

namespace ApiNotes

namespace Editor

/-! ### Changes -/

/-- One change of a word: a character is inserted, deleted or replaced. -/
inductive Change : List Char → List Char → Prop
  | insert (front : List Char) (c : Char) (back : List Char) :
      Change (front ++ back) (front ++ c :: back)
  | delete (front : List Char) (c : Char) (back : List Char) :
      Change (front ++ c :: back) (front ++ back)
  | replace (front : List Char) (c d : Char) (back : List Char) :
      Change (front ++ c :: back) (front ++ d :: back)

/-- A number of changes that lead from one word to another. -/
inductive Changes : Nat → List Char → List Char → Prop
  | none (s : List Char) : Changes 0 s s
  | more {n : Nat} {s t u : List Char} : Changes n s t → Change t u → Changes (n + 1) s u

/-- The least number of changes that lead from one word to another. -/
noncomputable def leastChanges (s t : List Char) : Nat :=
  sInf {n | Changes n s t}

theorem Change.cons {s t : List Char} (h : Change s t) (c : Char) :
    Change (c :: s) (c :: t) := by
  cases h with
  | insert front d back => exact .insert (c :: front) d back
  | delete front d back => exact .delete (c :: front) d back
  | replace front d e back => exact .replace (c :: front) d e back

theorem Change.reverse {s t : List Char} (h : Change s t) : Change s.reverse t.reverse := by
  have hcut : ∀ (front : List Char) (c : Char) (back : List Char),
      (front ++ c :: back).reverse = back.reverse ++ c :: front.reverse := by simp
  cases h with
  | insert front c back =>
      rw [hcut, List.reverse_append]
      exact .insert back.reverse c front.reverse
  | delete front c back =>
      rw [hcut, List.reverse_append]
      exact .delete back.reverse c front.reverse
  | replace front c d back =>
      rw [hcut, hcut]
      exact .replace back.reverse c d front.reverse

theorem Change.symm {s t : List Char} (h : Change s t) : Change t s := by
  cases h with
  | insert front c back => exact .delete front c back
  | delete front c back => exact .insert front c back
  | replace front c d back => exact .replace front d c back

namespace Changes

variable {m n : Nat} {s t u : List Char}

theorem map {f : List Char → List Char} (hf : ∀ {x y}, Change x y → Change (f x) (f y))
    (h : Changes n s t) : Changes n (f s) (f t) := by
  induction h with
  | none s => exact .none (f s)
  | more _ hstep ih => exact .more ih (hf hstep)

theorem trans (h : Changes m s t) (h' : Changes n t u) : Changes (m + n) s u := by
  induction h' with
  | none => exact h
  | more _ hstep ih => exact .more (ih h) hstep

theorem symm (h : Changes n s t) : Changes n t s := by
  induction h with
  | none s => exact .none s
  | @more n s t u _ hstep ih =>
      have hfirst : Changes 1 u t := .more (.none u) hstep.symm
      rw [Nat.add_comm]
      exact hfirst.trans ih

theorem zero_iff : Changes 0 s t ↔ s = t := by
  constructor
  · intro h
    cases h
    rfl
  · rintro rfl
    exact .none s

theorem insert_first (h : Changes n s t) (c : Char) : Changes (n + 1) s (c :: t) :=
  .more h (.insert [] c t)

theorem delete_first (h : Changes n s t) (c : Char) : Changes (n + 1) (c :: s) t :=
  .more (h.map (f := (c :: ·)) (·.cons c)) (.delete [] c t)

theorem replace_first (h : Changes n s t) (c d : Char) :
    Changes (n + if c = d then 0 else 1) (c :: s) (d :: t) := by
  have hcons : Changes n (c :: s) (c :: t) := h.map (f := (c :: ·)) (·.cons c)
  split_ifs with hcd
  · rwa [← hcd]
  · exact .more hcons (.replace [] c d t)

end Changes

/-! ### Words compared from their first characters on -/

/-- The least number of changes between two words. Either the first character of one of them has
no partner in the other word, or the two first characters are partners. -/
def gap : List Char → List Char → Nat
  | [], t => t.length
  | c :: s, [] => (c :: s).length
  | c :: s, d :: t =>
    min (min (gap s (d :: t) + 1) (gap (c :: s) t + 1)) (gap s t + if c = d then 0 else 1)
termination_by s t => s.length + t.length

theorem gap_nil_left (t : List Char) : gap [] t = t.length := by
  rw [gap]

theorem gap_nil_right (s : List Char) : gap s [] = s.length := by
  cases s with
  | nil => rw [gap]
  | cons c s => rw [gap]

theorem gap_cons_cons (c d : Char) (s t : List Char) :
    gap (c :: s) (d :: t) =
      min (min (gap s (d :: t) + 1) (gap (c :: s) t + 1)) (gap s t + if c = d then 0 else 1) := by
  rw [gap]

theorem gap_self (s : List Char) : gap s s = 0 := by
  induction s with
  | nil => exact gap_nil_left []
  | cons c s ih =>
      rw [gap_cons_cons, if_pos rfl, ih]
      exact Nat.min_zero _

theorem gap_cons_left_le (c : Char) (s t : List Char) : gap (c :: s) t ≤ gap s t + 1 := by
  cases t with
  | nil => simp [gap_nil_right]
  | cons d t =>
      rw [gap_cons_cons]
      exact (min_le_left _ _).trans (min_le_left _ _)

theorem gap_insert_le (s : List Char) (d : Char) (t : List Char) :
    gap s (d :: t) ≤ gap s t + 1 := by
  cases s with
  | nil => simp [gap_nil_left]
  | cons c s =>
      rw [gap_cons_cons]
      exact (min_le_left _ _).trans (min_le_right _ _)

theorem gap_replace_le (c d : Char) (s t : List Char) :
    gap (c :: s) (d :: t) ≤ gap s t + 1 := by
  rw [gap_cons_cons]
  refine (min_le_right _ _).trans (Nat.add_le_add_left ?_ _)
  split_ifs <;> decide

/-- Which of its three choices `gap` takes. -/
theorem gap_cons_cons_cases (c d : Char) (s t : List Char) :
    gap (c :: s) (d :: t) = gap s (d :: t) + 1 ∨ gap (c :: s) (d :: t) = gap (c :: s) t + 1 ∨
      gap (c :: s) (d :: t) = gap s t + if c = d then 0 else 1 := by
  rw [gap_cons_cons]
  rcases min_choice (min (gap s (d :: t) + 1) (gap (c :: s) t + 1))
    (gap s t + if c = d then 0 else 1) with h | h
  · rw [h]
    rcases min_choice (gap s (d :: t) + 1) (gap (c :: s) t + 1) with h | h
    · exact Or.inl h
    · exact Or.inr (Or.inl h)
  · exact Or.inr (Or.inr h)

theorem gap_delete_le (s : List Char) (d : Char) (t : List Char) :
    gap s t ≤ gap s (d :: t) + 1 := by
  induction s with
  | nil =>
      rw [gap_nil_left, gap_nil_left, List.length_cons]
      omega
  | cons c s ih =>
      -- Only the choice that leaves `d` for later needs the induction.
      have hleft := gap_cons_left_le c s t
      rcases gap_cons_cons_cases c d s t with h | h | h <;> omega

theorem gap_replace_head_le (s : List Char) (d e : Char) (t : List Char) :
    gap s (e :: t) ≤ gap s (d :: t) + 1 := by
  induction s with
  | nil =>
      rw [gap_nil_left, gap_nil_left, List.length_cons, List.length_cons]
      omega
  | cons c s ih =>
      have hdelete := gap_cons_left_le c s (e :: t)
      have hinsert := gap_insert_le (c :: s) e t
      have hreplace := gap_replace_le c e s t
      rcases gap_cons_cons_cases c d s t with h | h | h <;> omega

/-- What holds behind a character holds with it. -/
theorem gap_cons_mono {x y : List Char} (h : ∀ s, gap s x ≤ gap s y + 1) (d : Char)
    (s : List Char) : gap s (d :: x) ≤ gap s (d :: y) + 1 := by
  induction s with
  | nil =>
      have hnil := h []
      rw [gap_nil_left, gap_nil_left] at hnil ⊢
      exact Nat.succ_le_succ hnil
  | cons c s ih =>
      have hlong := h (c :: s)
      have hshort := h s
      rw [gap_cons_cons, gap_cons_cons]
      omega

theorem gap_append_mono {x y : List Char} (h : ∀ s, gap s x ≤ gap s y + 1)
    (front s : List Char) : gap s (front ++ x) ≤ gap s (front ++ y) + 1 := by
  induction front generalizing s with
  | nil => exact h s
  | cons d front ih => exact gap_cons_mono ih d s

/-- One change moves the `gap` to any word by one at most. -/
theorem gap_change {t u : List Char} (h : Change t u) (s : List Char) :
    gap s u ≤ gap s t + 1 := by
  cases h with
  | insert front c back => exact gap_append_mono (gap_insert_le · c back) front s
  | delete front c back => exact gap_append_mono (gap_delete_le · c back) front s
  | replace front c d back => exact gap_append_mono (gap_replace_head_le · c d back) front s

theorem gap_le_of_changes {n : Nat} {s t : List Char} (h : Changes n s t) : gap s t ≤ n := by
  induction h with
  | none s => exact Nat.le_of_eq (gap_self s)
  | @more n s t u _ hstep ih => exact (gap_change hstep s).trans (Nat.succ_le_succ ih)

theorem changes_length_left (t : List Char) : Changes t.length [] t := by
  induction t with
  | nil => exact .none []
  | cons c t ih => exact ih.insert_first c

/-- The choices of `gap` are changes. -/
theorem changes_gap (s t : List Char) : Changes (gap s t) s t := by
  induction s generalizing t with
  | nil =>
      rw [gap_nil_left]
      exact changes_length_left t
  | cons c s ihs =>
      -- The choices shorten one of the words, so the inner induction is for the same `c :: s`.
      induction t with
      | nil =>
          rw [gap_nil_right]
          exact (changes_length_left (c :: s)).symm
      | cons d t iht =>
          rcases gap_cons_cons_cases c d s t with h | h | h
          · rw [h]
            exact (ihs (d :: t)).delete_first c
          · rw [h]
            exact iht.insert_first d
          · rw [h]
            exact (ihs t).replace_first c d

theorem isLeast_gap (s t : List Char) : IsLeast {n | Changes n s t} (gap s t) :=
  ⟨changes_gap s t, fun _ h => gap_le_of_changes h⟩

/-! ### Words compared from their last characters on -/

theorem gap_reverse (s t : List Char) : gap s.reverse t.reverse = gap s t := by
  apply Nat.le_antisymm
  · exact gap_le_of_changes ((changes_gap s t).map (·.reverse))
  · have hback := (changes_gap s.reverse t.reverse).map (·.reverse)
    rw [List.reverse_reverse, List.reverse_reverse] at hback
    exact gap_le_of_changes hback

theorem gap_concat (c d : Char) (s t : List Char) :
    gap (s ++ [c]) (t ++ [d]) =
      min (min (gap s (t ++ [d]) + 1) (gap (s ++ [c]) t + 1))
        (gap s t + if c = d then 0 else 1) := by
  rw [← gap_reverse (s ++ [c]) (t ++ [d]), ← gap_reverse s (t ++ [d]), ← gap_reverse (s ++ [c]) t,
    ← gap_reverse s t, List.reverse_concat, List.reverse_concat, gap_cons_cons]

/-! ### Rows -/

/-- The values of `f` at the parts of a word behind `front`, each with all that is before it. -/
def rowEntries (f : List Char → Nat) (front : List Char) : List Char → List Nat
  | [] => []
  | d :: word => f (front ++ [d]) :: rowEntries f (front ++ [d]) word

theorem getLast?_rowEntries (f : List Char → Nat) (front word : List Char) :
    (f front :: rowEntries f front word).getLast? = some (f (front ++ word)) := by
  induction word generalizing front with
  | nil => rw [rowEntries, List.append_nil, List.getLast?_singleton]
  | cons d word ih => rw [rowEntries, List.getLast?_cons_cons, ih, ← List.append_cons]

theorem rowEntries_gap_nil (front word : List Char) :
    rowEntries (gap []) front word = List.range' (front.length + 1) word.length := by
  induction word generalizing front with
  | nil => rfl
  | cons d word ih =>
      rw [rowEntries, ih, gap_nil_left, List.length_append, List.length_singleton, List.length_cons,
        List.range'_succ]

theorem nextEntries_gap (s : List Char) (c : Char) (front word : List Char) :
    nextEntries c (gap (s ++ [c]) front) (gap s front) word (rowEntries (gap s) front word) =
      rowEntries (gap (s ++ [c])) front word := by
  induction word generalizing front with
  | nil => rfl
  | cons d word ih =>
      rw [rowEntries, nextEntries, rowEntries, ← gap_concat, ih]

theorem nextRow_gap (s : List Char) (c : Char) (t : List Char) :
    nextRow t (gap s [] :: rowEntries (gap s) [] t) c =
      gap (s ++ [c]) [] :: rowEntries (gap (s ++ [c])) [] t := by
  have hfirst : gap s [] + 1 = gap (s ++ [c]) [] := by
    rw [gap_nil_right, gap_nil_right, List.length_append, List.length_singleton]
  rw [nextRow, hfirst, nextEntries_gap]

/-- A row holds the `gap` of what was read to every initial part of the other word. -/
theorem foldl_nextRow (s t : List Char) :
    s.foldl (nextRow t) (List.range (t.length + 1)) = gap s [] :: rowEntries (gap s) [] t := by
  induction s using List.reverseRecOn with
  | nil =>
      rw [List.foldl_nil, rowEntries_gap_nil, gap_nil_left, List.range_eq_range', List.range'_succ]
      rfl
  | append_singleton s c ih =>
      rw [List.foldl_append, List.foldl_cons, List.foldl_nil, ih, nextRow_gap]

theorem distance_eq_gap (s t : List Char) : distance s t = gap s t := by
  rw [distance, foldl_nextRow, getLast?_rowEntries, List.nil_append, Option.getD_some]

/-! ### The distance -/

theorem isLeast_distance (s t : List Char) : IsLeast {n | Changes n s t} (distance s t) := by
  rw [distance_eq_gap]
  exact isLeast_gap s t

theorem distance_le {n : Nat} {s t : List Char} (h : Changes n s t) : distance s t ≤ n :=
  (isLeast_distance s t).2 h

theorem distance_eq_leastChanges (s t : List Char) : distance s t = leastChanges s t :=
  (isLeast_distance s t).csInf_eq.symm

theorem distance_comm (s t : List Char) : distance s t = distance t s :=
  Nat.le_antisymm (distance_le (isLeast_distance t s).1.symm)
    (distance_le (isLeast_distance s t).1.symm)

theorem distance_triangle (s t u : List Char) : distance s u ≤ distance s t + distance t u :=
  distance_le ((isLeast_distance s t).1.trans (isLeast_distance t u).1)

theorem distance_eq_zero_iff (s t : List Char) : distance s t = 0 ↔ s = t := by
  constructor
  · intro h
    have hnone := (isLeast_distance s t).1
    rw [h] at hnone
    exact Changes.zero_iff.1 hnone
  · intro h
    exact Nat.le_zero.1 (distance_le (Changes.zero_iff.2 h))

/-- The distance of two words is the least number of changes between them, and a metric. -/
theorem distance_fewest_changes (s t : List Char) :
    IsLeast {n | Changes n s t} (distance s t) ∧ distance s t = distance t s ∧
      (distance s t = 0 ↔ s = t) ∧ ∀ u, distance s u ≤ distance s t + distance t u :=
  ⟨isLeast_distance s t, distance_comm s t, distance_eq_zero_iff s t, distance_triangle s t⟩

end Editor

end ApiNotes
