import ApiNotes.Proofs.Search
import ApiNotes.Table
import Mathlib.Data.List.Induction

/-!
# Tables from lists of entries

`collect` inserts entries into an empty table one after the other. Its keys are those of the
entries in the order of their first appearance, and each key has the value of the last entry for
it. Entries with distinct keys are collected as they are.
-/

namespace ApiNotes

namespace Table

variable {α : Type}

/-- The table that entries amount to when they are inserted in order. -/
def collect (entries : List (String × α)) : Table α :=
  entries.foldl (fun t e => insert e.1 e.2 t) []

theorem collect_append_singleton (entries : List (String × α)) (e : String × α) :
    collect (entries ++ [e]) = insert e.1 e.2 (collect entries) := by
  rw [collect, List.foldl_append, List.foldl_cons, List.foldl_nil, collect]

theorem keys_collect (entries : List (String × α)) :
    keys (collect entries) = (entries.map Prod.fst).eraseDups := by
  induction entries using List.reverseRecOn with
  | nil => rfl
  | append_singleton entries e ih =>
      rw [collect_append_singleton, keys_insert, ih, List.map_append, List.map_singleton,
        Search.eraseDups_append_singleton]
      simp only [List.mem_eraseDups]

theorem get?_collect (entries : List (String × α)) (k : String) :
    get? (collect entries) k = (entries.findRev? fun e => e.1 = k).map Prod.snd := by
  induction entries using List.reverseRecOn with
  | nil => rfl
  | append_singleton entries e ih =>
      rw [collect_append_singleton, get?_insert, ih, Search.findRev?_append_singleton]
      by_cases hk : k = e.1
      · simp [hk]
      · simp [hk, Ne.symm hk]

theorem collect_of_nodup {t : Table α} (h : (keys t).Nodup) : collect t = t := by
  induction t using List.reverseRecOn with
  | nil => rfl
  | append_singleton t e ih =>
      rw [keys, List.map_append, List.nodup_append] at h
      obtain ⟨ht, -, hdisjoint⟩ := h
      have hnew : e.1 ∉ keys t := fun hmem => hdisjoint e.1 hmem e.1 (by simp) rfl
      rw [collect_append_singleton, ih ht, insert_of_not_mem hnew]

theorem length_insert (k : String) (v : α) (t : Table α) :
    (insert k v t).length = if k ∈ keys t then t.length else t.length + 1 := by
  have hlength : ∀ t : Table α, t.length = (keys t).length := fun t => (List.length_map _).symm
  rw [hlength, hlength, keys_insert]
  split
  · rfl
  · rw [List.length_append, List.length_singleton]

/-- The first value of a table is the one under its first key. -/
theorem head?_values (t : Table α) : (values t).head? = (keys t).head?.bind (get? t) := by
  cases t with
  | nil => rfl
  | cons e t =>
      obtain ⟨k, v⟩ := e
      simp [values, keys, get?]

end Table

end ApiNotes
