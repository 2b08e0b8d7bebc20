import Mathlib.Data.List.Basic
import Mathlib.Order.Bounds.Defs

/-!
# First and last matches in a list

Documents, events and messages are kept in lists, and what counts is the first or the last element
that meets a condition. The places of the matches are a set of numbers: a search from the front
finds the least of them, a search from the end the greatest, and the two are the same exactly when
there is one match.
-/

namespace ApiNotes

namespace Search

variable {α : Type}

/-! ### Lists with one more element -/

theorem findRev?_append_singleton (p : α → Bool) (xs : List α) (x : α) :
    (xs ++ [x]).findRev? p = if p x then some x else xs.findRev? p := by
  rw [List.findRev?_eq_find?_reverse, List.findRev?_eq_find?_reverse, List.reverse_append,
    List.reverse_singleton, List.singleton_append, List.find?_cons]
  cases p x with
  | true => rfl
  | false => rfl

theorem eraseDups_append_singleton [DecidableEq α] (xs : List α) (x : α) :
    (xs ++ [x]).eraseDups = if x ∈ xs then xs.eraseDups else xs.eraseDups ++ [x] := by
  rw [List.eraseDups_append]
  by_cases h : x ∈ xs
  · simp [List.removeAll, h]
  · simp [List.removeAll, h, List.eraseDups_cons]

/-! ### The places of matches -/

/-- The places of a list whose elements meet a condition. -/
def places (p : α → Bool) (xs : List α) : Set Nat :=
  {i | ∃ x ∈ xs[i]?, p x = true}

variable {p : α → Bool} {xs before after : List α} {x : α} {i : Nat}

theorem exists_append_of_mem_places (h : i ∈ places p xs) :
    ∃ before x after, xs = before ++ x :: after ∧ before.length = i ∧ p x = true := by
  obtain ⟨x, hx, hp⟩ := h
  obtain ⟨hi, rfl⟩ := List.getElem?_eq_some_iff.1 hx
  refine ⟨xs.take i, xs[i], xs.drop (i + 1), ?_, List.length_take_of_le (Nat.le_of_lt hi), hp⟩
  rw [← List.drop_eq_getElem_cons hi, List.take_append_drop]

theorem length_mem_places (hx : p x = true) :
    before.length ∈ places p (before ++ x :: after) :=
  ⟨x, by simp, hx⟩

/-- A match is the first one when there is none before it. -/
theorem isLeast_places_iff (hx : p x = true) :
    IsLeast (places p (before ++ x :: after)) before.length ↔ ∀ y ∈ before, p y = false := by
  constructor
  · rintro ⟨-, hleast⟩ y hy
    obtain ⟨i, hi⟩ := List.mem_iff_getElem?.1 hy
    have hlt : i < before.length := (List.getElem?_eq_some_iff.1 hi).1
    rw [Bool.eq_false_iff]
    intro hp
    refine absurd (hleast ⟨y, ?_, hp⟩) (Nat.not_le.2 hlt)
    rw [List.getElem?_append_left hlt]
    exact hi
  · intro hbefore
    refine ⟨length_mem_places hx, ?_⟩
    rintro i ⟨y, hy, hp⟩
    by_contra hlt
    rw [Nat.not_le] at hlt
    rw [List.getElem?_append_left hlt] at hy
    rw [hbefore y (List.mem_of_getElem? hy)] at hp
    cases hp

/-- A match is the last one when there is none after it. -/
theorem isGreatest_places_iff (hx : p x = true) :
    IsGreatest (places p (before ++ x :: after)) before.length ↔ ∀ y ∈ after, p y = false := by
  constructor
  · rintro ⟨-, hgreatest⟩ y hy
    obtain ⟨i, hi⟩ := List.mem_iff_getElem?.1 hy
    rw [Bool.eq_false_iff]
    intro hp
    have hle : before.length + (i + 1) ≤ before.length := by
      refine hgreatest ⟨y, ?_, hp⟩
      rw [List.getElem?_append_right (Nat.le_add_right _ _), Nat.add_sub_cancel_left]
      exact hi
    omega
  · intro hafter
    refine ⟨length_mem_places hx, ?_⟩
    rintro i ⟨y, hy, hp⟩
    by_contra hlt
    rw [Nat.not_le] at hlt
    obtain ⟨k, rfl⟩ := Nat.exists_eq_add_of_lt hlt
    rw [Nat.add_assoc, List.getElem?_append_right (Nat.le_add_right _ _),
      Nat.add_sub_cancel_left, List.getElem?_cons_succ] at hy
    rw [hafter y (List.mem_of_getElem? hy)] at hp
    cases hp

theorem find?_of_isLeast (h : IsLeast (places p xs) i) (hx : xs[i]? = some x) :
    xs.find? p = some x := by
  obtain ⟨before, y, after, rfl, rfl, hy⟩ := exists_append_of_mem_places h.1
  obtain rfl : y = x := by simpa using hx
  have hbefore := (isLeast_places_iff hy).1 h
  refine List.find?_eq_some_iff_append.2 ⟨hy, before, after, rfl, fun z hz => ?_⟩
  rw [hbefore z hz]
  rfl

theorem findRev?_of_isGreatest (h : IsGreatest (places p xs) i) (hx : xs[i]? = some x) :
    xs.findRev? p = some x := by
  obtain ⟨before, y, after, rfl, rfl, hy⟩ := exists_append_of_mem_places h.1
  obtain rfl : y = x := by simpa using hx
  have hafter := (isGreatest_places_iff hy).1 h
  rw [List.findRev?_eq_find?_reverse]
  refine List.find?_eq_some_iff_append.2
    ⟨hy, after.reverse, before.reverse, by simp, fun z hz => ?_⟩
  rw [hafter z (List.mem_reverse.1 hz)]
  rfl

/-- There is one match exactly when the first one is the last one. -/
theorem countP_eq_one_iff (hx : p x = true) :
    (before ++ x :: after).countP p = 1 ↔
      IsLeast (places p (before ++ x :: after)) before.length ∧
        IsGreatest (places p (before ++ x :: after)) before.length := by
  have hzero : ∀ ys : List α, ys.countP p = 0 ↔ ∀ y ∈ ys, p y = false := by
    intro ys
    simp [List.countP_eq_zero]
  rw [isLeast_places_iff hx, isGreatest_places_iff hx, ← hzero, ← hzero, List.countP_append,
    List.countP_cons_of_pos hx]
  omega

end Search

end ApiNotes
