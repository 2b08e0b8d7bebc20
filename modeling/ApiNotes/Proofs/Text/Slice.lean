import ApiNotes.Proofs.Tag.Spans

/-!
# Parts of a text between two offsets

A part of a text is there when its two offsets are in order, neither is behind the end of
the text and neither is inside of a character. `slice?` answers exactly then. Two offsets
on boundaries that are in order always have a part between them.
-/

namespace ApiNotes

namespace Text

variable {text xs ys before behind part : List Char} {start stop n : Nat}

/-- The text from byte `start` up to byte `stop`, if there is such a part. -/
def slice? (text : List Char) (start stop : Nat) : Option (List Char) :=
  if start ≤ stop ∧ stop ≤ byteLength text then
    (takeBytes? start text).bind fun before =>
      takeBytes? (stop - start) (text.drop before.length)
  else none

/-- Of two starts of a text, the one with more bytes begins with the other. -/
theorem exists_append_of_byteLength_le (h : xs ++ ys = before ++ behind)
    (hle : byteLength xs ≤ byteLength before) :
    ∃ between, before = xs ++ between ∧ ys = between ++ behind := by
  apply exists_append_of_length_le h
  by_contra hlength
  have hlt := byteLength_lt_of_append h (Nat.lt_of_not_le hlength)
  omega

/-- Two starts of a text with as many bytes are the same. -/
theorem append_inj_of_byteLength_eq (h : xs ++ ys = before ++ behind)
    (heq : byteLength xs = byteLength before) : xs = before ∧ ys = behind := by
  obtain ⟨between, rfl, hrest⟩ := exists_append_of_byteLength_le h (Nat.le_of_eq heq)
  cases between with
  | nil => exact ⟨(List.append_nil xs).symm, hrest⟩
  | cons c between =>
      have hpos := c.utf8Size_pos
      rw [byteLength_append, byteLength_cons] at heq
      omega

/-- What the first bytes of a long enough text are. -/
theorem exists_of_takeBytes?_eq_some (h : takeBytes? n text = some part)
    (hn : n ≤ byteLength text) : ∃ behind, text = part ++ behind ∧ n = byteLength part := by
  induction text generalizing n part with
  | nil =>
      rw [takeBytes?, Option.some.injEq] at h
      subst h
      exact ⟨[], rfl, Nat.le_zero.1 hn⟩
  | cons c cs ih =>
      rw [takeBytes?] at h
      split at h
      · next hzero =>
        obtain rfl := Option.some.inj h
        exact ⟨c :: cs, rfl, hzero⟩
      · split at h
        · cases h
        · next hsize =>
          obtain ⟨part, htake, rfl⟩ := Option.map_eq_some_iff.1 h
          rw [byteLength_cons] at hn
          obtain ⟨behind, rfl, hlength⟩ := ih htake (by omega)
          refine ⟨behind, rfl, ?_⟩
          rw [byteLength_cons]
          omega

theorem slice?_eq_some_iff : slice? text start stop = some part ↔
    ∃ before behind, text = before ++ (part ++ behind) ∧ start = byteLength before ∧
      stop = byteLength (before ++ part) := by
  constructor
  · intro h
    rw [slice?] at h
    split at h
    · next hbounds =>
      obtain ⟨before, hbefore, hpart⟩ := Option.bind_eq_some_iff.1 h
      obtain ⟨rest, rfl, hstart⟩ := exists_of_takeBytes?_eq_some hbefore (by omega)
      rw [byteLength_append] at hbounds
      rw [List.drop_left] at hpart
      obtain ⟨behind, rfl, hstop⟩ := exists_of_takeBytes?_eq_some hpart (by omega)
      refine ⟨before, behind, rfl, hstart, ?_⟩
      rw [byteLength_append]
      omega
    · cases h
  · rintro ⟨before, behind, rfl, rfl, rfl⟩
    have hbounds : byteLength before ≤ byteLength (before ++ part) ∧
        byteLength (before ++ part) ≤ byteLength (before ++ (part ++ behind)) := by
      simp only [byteLength_append]
      omega
    rw [slice?, if_pos hbounds, takeBytes?_byteLength_append, Option.bind_some, List.drop_left,
      byteLength_append, Nat.add_sub_cancel_left, takeBytes?_byteLength_append]

/-- Between two boundaries in order there is a part. -/
theorem exists_slice_of_isBoundary (hstart : IsBoundary text start)
    (hstop : IsBoundary text stop) (hle : start ≤ stop) :
    ∃ before part behind, text = before ++ (part ++ behind) ∧ start = byteLength before ∧
      stop = byteLength (before ++ part) := by
  obtain ⟨before, rest, rfl, rfl⟩ := hstart
  obtain ⟨upTo, behind, htext, rfl⟩ := hstop
  obtain ⟨part, rfl, rfl⟩ := exists_append_of_byteLength_le htext hle
  exact ⟨before, part, behind, rfl, rfl, rfl⟩

theorem isBoundary_zero (text : List Char) : IsBoundary text 0 :=
  ⟨[], text, rfl, rfl⟩

theorem isBoundary_byteLength (text : List Char) : IsBoundary text (byteLength text) :=
  ⟨text, [], (List.append_nil text).symm, rfl⟩

theorem IsBoundary.le (h : IsBoundary text n) : n ≤ byteLength text := by
  obtain ⟨before, behind, rfl, rfl⟩ := h
  rw [byteLength_append]
  exact Nat.le_add_right _ _

end Text

end ApiNotes
