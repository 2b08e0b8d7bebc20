import ApiNotes.Proofs.Text.Occurrences
import ApiNotes.Text.Offset

/-!
# The bytes of a text

`bytes` is the UTF-8 form of a text. A byte is written as the character with its number, so what
is defined for texts can be said of their bytes too. A character below 128 is its own byte, and
the bytes of all other characters are 128 or more (`byteForm_cases`). So a byte below 128 is a
character of the text, and words of such characters are found among the bytes where they are in
the text.
-/

namespace ApiNotes

namespace Text

/-- The bytes of the UTF-8 form of a character. -/
def byteForm (c : Char) : List Char :=
  (String.utf8EncodeChar c).map Char.ofUInt8

/-- The bytes of the UTF-8 form of a text, each as the character with its number. -/
def bytes (text : List Char) : List Char :=
  text.flatMap byteForm

@[simp] theorem bytes_nil : bytes [] = [] := rfl

@[simp] theorem bytes_cons (c : Char) (cs : List Char) : bytes (c :: cs) = byteForm c ++ bytes cs :=
  List.flatMap_cons

@[simp] theorem bytes_append (xs ys : List Char) : bytes (xs ++ ys) = bytes xs ++ bytes ys :=
  List.flatMap_append

@[simp] theorem length_byteForm (c : Char) : (byteForm c).length = c.utf8Size := by
  simp [byteForm]

@[simp] theorem length_bytes (text : List Char) : (bytes text).length = byteLength text := by
  induction text with
  | nil => rfl
  | cons c cs ih => rw [bytes_cons, List.length_append, length_byteForm, ih, byteLength_cons]

theorem toNat_ofUInt8 (b : UInt8) : (Char.ofUInt8 b).toNat = b.toNat :=
  UInt8.toNat_toUInt32 b

theorem byteForm_of_lt {c : Char} (hc : c.toNat < 128) : byteForm c = [c] := by
  have hval : c.val.toNat ≤ 127 := Nat.le_of_lt_succ hc
  have hbyte : Char.ofUInt8 (UInt8.ofNat c.val.toNat) = c := by
    apply Char.toNat_inj.1
    rw [toNat_ofUInt8, UInt8.toNat_ofNat', Nat.mod_eq_of_lt (by omega)]
    rfl
  rw [byteForm, String.utf8EncodeChar, if_pos hval, List.map_singleton, hbyte]

theorem le_toNat_of_mem_byteForm {c b : Char} (hc : 128 ≤ c.toNat) (hb : b ∈ byteForm c) :
    128 ≤ b.toNat := by
  have hval : ¬ c.val.toNat ≤ 127 := Nat.not_le.2 hc
  have hmarked : ∀ k mark : Nat, 128 ≤ mark → k + mark < 256 →
      128 ≤ (UInt8.ofNat (k + mark)).toNat := by
    intro k mark hmark hlt
    rw [UInt8.toNat_ofNat', Nat.mod_eq_of_lt hlt]
    omega
  obtain ⟨byte, hbyte, rfl⟩ := List.mem_map.1 hb
  rw [toNat_ofUInt8]
  rw [String.utf8EncodeChar, if_neg hval] at hbyte
  -- Two, three or four bytes: each has a leading mark of 128 or more.
  split at hbyte
  · simp only [List.mem_cons, List.not_mem_nil, or_false] at hbyte
    rcases hbyte with rfl | rfl <;> exact hmarked _ _ (by decide) (by omega)
  · split at hbyte
    · simp only [List.mem_cons, List.not_mem_nil, or_false] at hbyte
      rcases hbyte with rfl | rfl | rfl <;> exact hmarked _ _ (by decide) (by omega)
    · simp only [List.mem_cons, List.not_mem_nil, or_false] at hbyte
      rcases hbyte with rfl | rfl | rfl | rfl <;> exact hmarked _ _ (by decide) (by omega)

/-- A character below 128 is its own byte, and no other character has such a byte. -/
theorem byteForm_cases (c : Char) :
    (c.toNat < 128 ∧ byteForm c = [c]) ∨
      (128 ≤ c.toNat ∧ ∃ d ds, byteForm c = d :: ds ∧ ∀ b ∈ d :: ds, 128 ≤ b.toNat) := by
  by_cases hc : c.toNat < 128
  · exact Or.inl ⟨hc, byteForm_of_lt hc⟩
  · rw [Nat.not_lt] at hc
    have hne : byteForm c ≠ [] := by
      rw [← List.length_pos_iff, length_byteForm]
      exact c.utf8Size_pos
    obtain ⟨d, ds, hform⟩ := List.exists_cons_of_ne_nil hne
    exact Or.inr ⟨hc, d, ds, hform, fun b hb => le_toNat_of_mem_byteForm hc (hform ▸ hb)⟩

/-- Bytes neither make nor break a word of characters below 128. -/
theorem guards_byteForm {word : List Char} (hword : ∀ c ∈ word, c.toNat < 128) :
    Guards word byteForm := by
  have hnot : ∀ b : Char, 128 ≤ b.toNat → b ∉ word :=
    fun b hb hmem => Nat.not_lt.2 hb (hword b hmem)
  intro c
  obtain ⟨-, hform⟩ | ⟨hc, d, ds, hform, hbytes⟩ := byteForm_cases c
  · exact Or.inl hform
  · refine Or.inr ⟨hnot c hc, d, ds, hform, hnot d (hbytes d List.mem_cons_self), ?_⟩
    intro w hw hmem
    exact hnot w (hbytes w (List.mem_cons_of_mem d hmem)) (List.mem_of_mem_head? hw)

/-- A byte below 128 is a character of the text. -/
theorem exists_append_of_getElem?_bytes {text : List Char} {i : Nat} {c : Char}
    (hc : c.toNat < 128) (h : (bytes text)[i]? = some c) :
    ∃ before behind, text = before ++ c :: behind ∧ byteLength before = i := by
  induction text generalizing i with
  | nil => simp at h
  | cons d cs ih =>
      rw [bytes_cons] at h
      by_cases hi : i < d.utf8Size
      · -- The byte is one of the first character, so the first character has no other byte.
        rw [List.getElem?_append_left (by rwa [length_byteForm])] at h
        obtain ⟨-, hform⟩ | ⟨-, e, es, hform, hbytes⟩ := byteForm_cases d
        · rw [hform] at h
          cases i with
          | zero =>
              obtain rfl : d = c := Option.some.inj h
              exact ⟨[], cs, rfl, rfl⟩
          | succ i => cases h
        · rw [hform] at h
          exact absurd (hbytes c (List.mem_of_getElem? h)) (Nat.not_le.2 hc)
      · rw [List.getElem?_append_right (by rw [length_byteForm]; omega), length_byteForm] at h
        obtain ⟨before, behind, rfl, hbefore⟩ := ih h
        exact ⟨d :: before, behind, rfl, by rw [byteLength_cons]; omega⟩

end Text

end ApiNotes
