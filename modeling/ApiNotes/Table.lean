/-!
# Tables in insertion order

A table associates strings with values and remembers the order in which the keys
first appeared. Inserting under a key that is present replaces the value where it
stands; a new key goes to the end.
-/

namespace ApiNotes

/-- Entries in the order in which their keys first appeared. -/
abbrev Table (α : Type) := List (String × α)

namespace Table

/-- Puts `v` under `k`, in the place of the entry with that key if there is one. -/
def insert {α : Type} (k : String) (v : α) : Table α → Table α
  | [] => [(k, v)]
  | (k', w) :: t => if k' = k then (k, v) :: t else (k', w) :: insert k v t

/-- The value under a key. -/
def get? {α : Type} (t : Table α) (k : String) : Option α :=
  List.lookup k t

/-- The keys in order. -/
def keys {α : Type} (t : Table α) : List String :=
  t.map Prod.fst

/-- The values in order. -/
def values {α : Type} (t : Table α) : List α :=
  t.map Prod.snd

/-- Removes the entry under a key. -/
def erase {α : Type} (t : Table α) (k : String) : Table α :=
  t.filter fun entry => entry.1 != k

@[simp] theorem insert_nil {α : Type} (k : String) (v : α) :
    insert k v [] = [(k, v)] := rfl

theorem insert_cons {α : Type} (k : String) (v : α) (k' : String) (w : α) (t : Table α) :
    insert k v ((k', w) :: t) =
      if k' = k then (k, v) :: t else (k', w) :: insert k v t := rfl

/-- A new key goes to the end, a known one stays where it is. -/
theorem keys_insert {α : Type} (k : String) (v : α) (t : Table α) :
    keys (insert k v t) = if k ∈ keys t then keys t else keys t ++ [k] := by
  induction t with
  | nil => simp [keys]
  | cons e t ih =>
    obtain ⟨k', w⟩ := e
    by_cases h : k' = k
    · simp [insert_cons, keys, h]
    · have h' : ¬ k = k' := fun e => h e.symm
      simp only [keys] at ih
      simp only [insert_cons, h, if_false, keys, List.map_cons, ih, List.mem_cons, h', false_or]
      split <;> simp_all

/-- A new key goes to the end with its value. -/
theorem insert_of_not_mem {α : Type} {k : String} {v : α} {t : Table α} (h : k ∉ keys t) :
    insert k v t = t ++ [(k, v)] := by
  induction t with
  | nil => rfl
  | cons e t ih =>
    simp only [keys, List.map_cons, List.mem_cons, not_or] at h
    rw [insert_cons, if_neg (Ne.symm h.1), ih h.2, List.cons_append]

/-- Inserting sets the value under its key and leaves the other keys alone. -/
theorem get?_insert {α : Type} (k : String) (v : α) (t : Table α) (q : String) :
    get? (insert k v t) q = if q = k then some v else get? t q := by
  induction t with
  | nil => by_cases h : q = k <;> simp [get?, List.lookup_cons, h, beq_eq_false_iff_ne.2]
  | cons e t ih =>
    obtain ⟨k', w⟩ := e
    simp only [get?] at ih
    by_cases h : k' = k
    · subst h
      by_cases hq : q = k' <;> simp [insert_cons, get?, List.lookup_cons, hq, beq_eq_false_iff_ne.2]
    · by_cases hq : q = k'
      · subst hq
        simp [insert_cons, get?, h]
      · simp [insert_cons, get?, List.lookup_cons, h, beq_eq_false_iff_ne.2 hq, ih]

/-- Erasing removes the value under its key and leaves the other keys alone. -/
theorem get?_erase {α : Type} (t : Table α) (k q : String) :
    get? (erase t k) q = if q = k then none else get? t q := by
  induction t with
  | nil => simp [erase, get?]
  | cons e t ih =>
    obtain ⟨k', w⟩ := e
    simp only [erase, get?] at ih ⊢
    by_cases h : k' = k
    · subst h
      rw [List.filter_cons_of_neg (by simp), ih, List.lookup_cons]
      by_cases hq : q = k' <;> simp [hq, beq_eq_false_iff_ne.2]
    · rw [List.filter_cons_of_pos (by simp [h]), List.lookup_cons, List.lookup_cons, ih]
      by_cases hq : q = k'
      · subst hq
        simp [h]
      · simp [beq_eq_false_iff_ne.2 hq]

/-- A value of a table is smaller than the table, so that recursion may go into it. -/
theorem sizeOf_snd_lt_of_mem {α : Type} [SizeOf α] {t : Table α} {e : String × α} (h : e ∈ t) :
    sizeOf e.2 < sizeOf t := by
  obtain ⟨k, v⟩ := e
  have hlt : sizeOf (k, v) < sizeOf t := List.sizeOf_lt_of_mem h
  rw [Prod.mk.sizeOf_spec] at hlt
  exact Nat.lt_of_le_of_lt (Nat.le_add_left _ _) hlt

end Table

end ApiNotes
