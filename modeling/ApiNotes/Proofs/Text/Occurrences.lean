import ApiNotes.Proofs.Text.Cut
import Mathlib.Algebra.Ring.Nat
import Mathlib.Data.List.Infix

/-!
# How often a word stands in a text

`occurrences word text` counts the places of a text at which a word begins. A character that
is not part of the word cuts a text in two: no occurrence goes across it, so the two sides
are counted apart. What is written around or in place of such characters changes nothing,
and from that follow the counts of texts that are joined, and of texts whose characters are
escaped one by one.
-/

namespace ApiNotes

namespace Text

/-- The number of places of a text at which a word begins. -/
def occurrences (word : List Char) : List Char → Nat
  | [] => 0
  | c :: cs => (if word <+: c :: cs then 1 else 0) + occurrences word cs

variable {word xs ys : List Char} {c : Char}

@[simp] theorem occurrences_nil (word : List Char) : occurrences word [] = 0 := rfl

theorem occurrences_cons (word : List Char) (c : Char) (cs : List Char) :
    occurrences word (c :: cs) =
      (if word <+: c :: cs then 1 else 0) + occurrences word cs := rfl

/-- A text without occurrences is one in which the word does not stand. -/
theorem occurrences_eq_zero_iff (hne : word ≠ []) (text : List Char) :
    occurrences word text = 0 ↔ ¬ word <:+: text := by
  induction text with
  | nil => simp [hne]
  | cons c cs ih =>
      rw [occurrences_cons, List.infix_cons_iff, not_or, ← ih]
      by_cases hbegins : word <+: c :: cs
      · simp [hbegins]
      · simp [hbegins]

/-! ### Characters that are not in the word -/

theorem prefix_append_cons_iff (hc : c ∉ word) :
    word <+: xs ++ c :: ys ↔ word <+: xs := by
  constructor
  · rintro ⟨rest, hrest⟩
    obtain ⟨between, hxs, -⟩ := exists_append_of_not_mem hc hrest
    exact ⟨between, hxs.symm⟩
  · intro h
    exact h.trans (List.prefix_append xs (c :: ys))

/-- A character that is not in the word separates the occurrences on its two sides. -/
theorem occurrences_append_cons (hne : word ≠ []) (hc : c ∉ word) (xs ys : List Char) :
    occurrences word (xs ++ c :: ys) = occurrences word xs + occurrences word ys := by
  induction xs with
  | nil =>
      have hstart : ¬ word <+: c :: ys := by
        intro h
        have hnil : word <+: [] := (prefix_append_cons_iff hc).1 h
        exact hne (List.prefix_nil.1 hnil)
      rw [List.nil_append, occurrences_cons, if_neg hstart]
      rfl
  | cons x xs ih =>
      have hiff : word <+: x :: xs ++ c :: ys ↔ word <+: x :: xs := prefix_append_cons_iff hc
      rw [List.cons_append] at hiff ⊢
      simp only [occurrences_cons, hiff, ih, Nat.add_assoc]

theorem occurrences_cons_of_not_mem (hne : word ≠ []) (hc : c ∉ word) (cs : List Char) :
    occurrences word (c :: cs) = occurrences word cs := by
  have hcut := occurrences_append_cons hne hc [] cs
  simpa using hcut

/-- Characters that are not in the word do not count before a text. -/
theorem occurrences_append_of_forall_not_mem (hne : word ≠ []) (hxs : ∀ c ∈ xs, c ∉ word)
    (ys : List Char) : occurrences word (xs ++ ys) = occurrences word ys := by
  induction xs with
  | nil => rfl
  | cons x xs ih =>
      rw [List.cons_append, occurrences_cons_of_not_mem hne (hxs x List.mem_cons_self)]
      exact ih fun c hc => hxs c (List.mem_cons_of_mem x hc)

/-- Nor do they count behind a text. -/
theorem occurrences_append_forall_not_mem (hne : word ≠ []) (hys : ∀ c ∈ ys, c ∉ word)
    (xs : List Char) : occurrences word (xs ++ ys) = occurrences word xs := by
  cases ys with
  | nil => rw [List.append_nil]
  | cons y ys =>
      have hrest : ∀ c ∈ ys, c ∉ word := fun c hc => hys c (List.mem_cons_of_mem y hc)
      have hnone := occurrences_append_of_forall_not_mem hne hrest []
      rw [occurrences_append_cons hne (hys y List.mem_cons_self), ← List.append_nil ys, hnone]
      rfl

/-- Joined texts are counted one by one. -/
theorem occurrences_intercalate {sep : List Char} (hne : word ≠ []) (hsep : sep ≠ [])
    (h : ∀ c ∈ sep, c ∉ word) (texts : List (List Char)) :
    occurrences word (sep.intercalate texts) = (texts.map (occurrences word)).sum := by
  obtain ⟨s, sep, rfl⟩ := List.exists_cons_of_ne_nil hsep
  induction texts with
  | nil => simp
  | cons text texts ih =>
      cases texts with
      | nil => simp
      | cons next texts =>
          have hrest : ∀ c ∈ sep, c ∉ word := fun c hc => h c (List.mem_cons_of_mem s hc)
          rw [List.intercalate_cons_cons, List.append_assoc, List.cons_append,
            occurrences_append_cons hne (h s List.mem_cons_self),
            occurrences_append_of_forall_not_mem hne hrest, ih]
          simp

/-! ### The first character of the word -/

/-- Where the word cannot begin it does not count. -/
theorem occurrences_append_of_head_not_mem (hne : word ≠ [])
    (hxs : ∀ w ∈ word.head?, w ∉ xs) (ys : List Char) :
    occurrences word (xs ++ ys) = occurrences word ys := by
  obtain ⟨w, ws, rfl⟩ := List.exists_cons_of_ne_nil hne
  induction xs with
  | nil => rfl
  | cons x xs ih =>
      have hw := hxs w rfl
      rw [List.mem_cons, not_or] at hw
      have hstart : ¬ w :: ws <+: x :: (xs ++ ys) := by
        intro h
        exact hw.1 (List.cons_prefix_cons.1 h).1
      rw [List.cons_append, occurrences_cons, if_neg hstart, Nat.zero_add]
      apply ih
      intro d hd
      obtain rfl : w = d := Option.some.inj hd
      exact hw.2

/-- A character stands for itself, or else it is not in the word, and neither is the first
of the characters that stand for it; the word does not begin in the others. -/
def Guarded (word : List Char) (c : Char) (written : List Char) : Prop :=
  written = [c] ∨ c ∉ word ∧ ∃ d ds, written = d :: ds ∧ d ∉ word ∧ ∀ w ∈ word.head?, w ∉ ds

/-- All characters are guarded. -/
def Guards (word : List Char) (write : Char → List Char) : Prop :=
  ∀ c, Guarded word c (write c)

theorem Guards.prefix_flatMap_iff {write : Char → List Char} (h : Guards word write)
    {part : List Char} (hpart : ∀ c ∈ part, c ∈ word) (text : List Char) :
    part <+: text.flatMap write ↔ part <+: text := by
  induction part generalizing text with
  | nil => simp
  | cons p part ih =>
      have hrest : ∀ c ∈ part, c ∈ word := fun c hc => hpart c (List.mem_cons_of_mem p hc)
      cases text with
      | nil => simp
      | cons c cs =>
          rcases h c with hkeep | ⟨hc, d, ds, hwrite, hd, -⟩
          · rw [List.flatMap_cons, hkeep, List.singleton_append, List.cons_prefix_cons,
              List.cons_prefix_cons, ih hrest]
          · -- Neither the character nor what is written for it can be in the word.
            have hp := hpart p List.mem_cons_self
            rw [List.flatMap_cons, hwrite, List.cons_append, List.cons_prefix_cons,
              List.cons_prefix_cons]
            constructor
            · rintro ⟨rfl, -⟩
              exact absurd hp hd
            · rintro ⟨rfl, -⟩
              exact absurd hp hc

/-- Escaping characters one by one neither makes nor breaks an occurrence. -/
theorem Guards.occurrences_flatMap {write : Char → List Char} (h : Guards word write)
    (hne : word ≠ []) (text : List Char) :
    occurrences word (text.flatMap write) = occurrences word text := by
  induction text with
  | nil => rfl
  | cons c cs ih =>
      have hiff : word <+: (c :: cs).flatMap write ↔ word <+: c :: cs :=
        h.prefix_flatMap_iff (fun _ hc => hc) (c :: cs)
      rw [List.flatMap_cons] at hiff ⊢
      rcases h c with hkeep | ⟨hc, d, ds, hwrite, hd, hds⟩
      · rw [hkeep, List.singleton_append] at hiff ⊢
        simp only [occurrences_cons, hiff, ih]
      · rw [hwrite, List.cons_append, occurrences_cons_of_not_mem hne hd,
          occurrences_append_of_head_not_mem hne hds, ih, occurrences_cons_of_not_mem hne hc]

end Text

end ApiNotes
