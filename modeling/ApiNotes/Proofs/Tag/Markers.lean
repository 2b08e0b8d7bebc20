import ApiNotes.Proofs.Text.Slice
import Mathlib.Order.Bounds.Basic

/-!
# The markers that the search meets

The first tag of a text starts at its first marker. Behind a flawed tag the search goes on
right after the name, so the tag that follows a flawed one starts at the first marker that
is not before the end of the name, whatever the flawed tag covers
(`isLeast_markersBehind_iff`).
-/

namespace ApiNotes

namespace Tag

variable {offset p : Nat} {text : List Char} {os : List Occurrence}

/-- A marker starts at byte `p` in a text that starts at byte `offset`. -/
def MarkerAt (offset : Nat) (text : List Char) (p : Nat) : Prop :=
  ∃ before behind, text = before ++ tagText behind ∧ p = offset + Text.byteLength before

theorem Placed.markerAt {o : Occurrence} (h : Placed offset text o) :
    MarkerAt offset text o.span.start := by
  obtain ⟨before, name, behind, htext, -, -, hstart⟩ := h.tag_at
  exact ⟨before, name ++ behind, htext, hstart⟩

/-- Of a text with other text in front of it, the markers that are not in front of the text
are its own. -/
theorem markerAt_append_iff {pre : List Char} :
    MarkerAt offset (pre ++ text) p ∧ offset + Text.byteLength pre ≤ p ↔
      MarkerAt (offset + Text.byteLength pre) text p := by
  constructor
  · rintro ⟨⟨before, behind, htext, rfl⟩, hp⟩
    obtain ⟨between, rfl, rfl⟩ :=
      Text.exists_append_of_byteLength_le htext (Nat.le_of_add_le_add_left hp)
    refine ⟨between, behind, rfl, ?_⟩
    rw [Text.byteLength_append, Nat.add_assoc]
  · rintro ⟨before, behind, rfl, rfl⟩
    refine ⟨⟨pre ++ before, behind, by simp, ?_⟩, Nat.le_add_right _ _⟩
    rw [Text.byteLength_append, Nat.add_assoc]

/-- No marker is in front of the first tag. -/
theorem Scanned.exists_head_le (h : Scanned offset text os) (hp : MarkerAt offset text p) :
    ∃ o ∈ os.head?, o.span.start ≤ p := by
  induction h with
  | nil offset =>
      obtain ⟨before, behind, htext, -⟩ := hp
      simp [tagText] at htext
  | @pass offset c cs os hpass _ ih =>
      obtain ⟨before, behind, htext, rfl⟩ := hp
      cases before with
      | nil =>
          rw [htext] at hpass
          cases hpass
      | cons d before =>
          obtain ⟨rfl, htail⟩ := List.cons.inj htext
          refine ih ⟨before, behind, htail, ?_⟩
          rw [Text.byteLength_cons, Nat.add_assoc]
  | @flawed offset name behind o os _ _ hflawed _ _ =>
      obtain ⟨covered, rest, -, hspan⟩ := hflawed.span_eq
      obtain ⟨before, behind, -, rfl⟩ := hp
      refine ⟨o, rfl, ?_⟩
      rw [hspan]
      exact Nat.le_add_right _ _
  | @sound offset name covered rest kind entry os _ _ _ _ _ =>
      obtain ⟨before, behind, -, rfl⟩ := hp
      exact ⟨_, rfl, Nat.le_add_right _ _⟩

/-- The byte behind the name of a tag. -/
def Occurrence.nameStop (o : Occurrence) : Nat :=
  o.span.start + 4 + Text.byteLength o.name.toList

/-- The tags behind a flawed one are those of the text behind its name. -/
theorem Scanned.behind_flawed (h : Scanned offset text os) {front back : List Occurrence}
    {o : Occurrence} (hos : os = front ++ o :: back) (hflawed : o.result.isOk = false) :
    ∃ pre behind, text = pre ++ behind ∧ offset + Text.byteLength pre = o.nameStop ∧
      Scanned o.nameStop behind back := by
  induction h generalizing front with
  | nil offset => simp at hos
  | @pass offset c cs os _ _ ih =>
      obtain ⟨pre, behind, rfl, hstop, hscanned⟩ := ih hos
      refine ⟨c :: pre, behind, rfl, ?_, hscanned⟩
      rw [← hstop, Text.byteLength_cons, Nat.add_assoc]
  | @flawed offset name behind o' os hname _ hat hrest ih =>
      cases front with
      | nil =>
          -- This is the tag itself. What it covers behind its name does not matter.
          obtain ⟨rfl, rfl⟩ := List.cons.inj hos
          obtain ⟨covered, rest, -, hspan⟩ := hat.span_eq
          have hstop : offset + Text.byteLength (tagText name) = o'.nameStop := by
            rw [Occurrence.nameStop, hspan, hat.name_eq, String.toList_ofList,
              byteLength_tagText, Nat.add_assoc]
          exact ⟨tagText name, behind, rfl, hstop, hstop ▸ hrest⟩
      | cons first front =>
          obtain ⟨-, rfl⟩ := List.cons.inj hos
          obtain ⟨pre, behind, rfl, hstop, hscanned⟩ := ih rfl
          refine ⟨tagText name ++ pre, behind, by simp, ?_, hscanned⟩
          rw [← hstop, Text.byteLength_append, Nat.add_assoc]
  | @sound offset name covered rest kind entry os _ _ _ _ ih =>
      cases front with
      | nil =>
          obtain ⟨rfl, rfl⟩ := List.cons.inj hos
          cases hflawed
      | cons first front =>
          obtain ⟨-, rfl⟩ := List.cons.inj hos
          obtain ⟨pre, behind, rfl, hstop, hscanned⟩ := ih rfl
          refine ⟨tagText name ++ covered ++ pre, behind, by simp, ?_, hscanned⟩
          rw [← hstop, Text.byteLength_append _ pre, Nat.add_assoc]

/-- The markers that are not before the end of the name of a tag. -/
def markersBehind (text : List Char) (o : Occurrence) : Set Nat :=
  {p | MarkerAt 0 text p ∧ o.nameStop ≤ p}

/-- The tag behind a flawed one starts at the first marker behind the name of that one, and
there is such a tag when there is such a marker. -/
theorem isLeast_markersBehind_iff {front back : List Occurrence} {o : Occurrence}
    (hos : scan text = front ++ o :: back) (hflawed : o.result.isOk = false) :
    IsLeast (markersBehind text o) p ↔ ∃ o' ∈ back.head?, o'.span.start = p := by
  obtain ⟨pre, behind, htext, hstop, hscanned⟩ := (scanned_scan text).behind_flawed hos hflawed
  have hmarker : ∀ {q : Nat}, q ∈ markersBehind text o ↔ MarkerAt o.nameStop behind q := by
    intro q
    rw [← hstop, ← markerAt_append_iff, hstop, ← htext]
    rfl
  have hhead : ∀ o' ∈ back.head?, IsLeast (markersBehind text o) o'.span.start := by
    intro o' ho'
    refine ⟨hmarker.2 (hscanned.placed o' (List.mem_of_mem_head? ho')).markerAt, ?_⟩
    intro q hq
    obtain ⟨first, hfirst, hle⟩ := hscanned.exists_head_le (hmarker.1 hq)
    rwa [Option.mem_unique ho' hfirst]
  constructor
  · intro hleast
    obtain ⟨o', ho', -⟩ := hscanned.exists_head_le (hmarker.1 hleast.1)
    exact ⟨o', ho', (hhead o' ho').unique hleast⟩
  · rintro ⟨o', ho', rfl⟩
    exact hhead o' ho'

end Tag

end ApiNotes
