import ApiNotes.Proofs.Json.Step

/-!
# Runs of the reader of JSON

`State.Reaches` is the run of the reader as a relation, and `State.Reads` the runs that
end with a value: `parse` accepts exactly the texts that are read from the initial state.
Where a text started does not matter for either, so runs can be cut and joined
(`reads_append_iff`).

What one character does to the region of the reader carries over to a whole text
(`State.Reaches.region_eq`), and between two parts of a text spaces can be put in or taken
away (`State.Skips.reads_append_iff`).
-/

namespace ApiNotes

namespace Json

open Tag (Region)

/-- The reader gets from one state to another by a text. -/
inductive State.Reaches : State → List Char → State → Prop where
  | refl (state : State) : State.Reaches state [] state
  | step {state next last : State} {c : Char} {cs : List Char} :
      state.step c = .ok next → State.Reaches next cs last → State.Reaches state (c :: cs) last

/-- The reader accepts a text as the rest of a value. -/
def State.Reads (state : State) (text : List Char) (v : Json) : Prop :=
  ∃ last, state.Reaches text last ∧ last.finish = .ok v

theorem reads_nil_iff {state : State} {v : Json} : state.Reads [] v ↔ state.finish = .ok v := by
  constructor
  · rintro ⟨last, hreach, hv⟩
    cases hreach
    exact hv
  · intro hv
    exact ⟨state, .refl state, hv⟩

theorem reads_cons_iff {state : State} {c : Char} {cs : List Char} {v : Json} :
    state.Reads (c :: cs) v ↔ ∃ next, state.step c = .ok next ∧ next.Reads cs v := by
  constructor
  · rintro ⟨last, hreach, hv⟩
    cases hreach with
    | step hs hr => exact ⟨_, hs, last, hr, hv⟩
  · rintro ⟨next, hs, last, hr, hv⟩
    exact ⟨last, .step hs hr, hv⟩

theorem reads_append_iff {state : State} {xs ys : List Char} {v : Json} :
    state.Reads (xs ++ ys) v ↔ ∃ middle, state.Reaches xs middle ∧ middle.Reads ys v := by
  induction xs generalizing state with
  | nil =>
      constructor
      · intro h
        exact ⟨state, .refl state, h⟩
      · rintro ⟨middle, hreach, h⟩
        cases hreach
        exact h
  | cons c xs ih =>
      rw [List.cons_append, reads_cons_iff]
      constructor
      · rintro ⟨next, hs, h⟩
        obtain ⟨middle, hreach, hm⟩ := ih.1 h
        exact ⟨middle, .step hs hreach, hm⟩
      · rintro ⟨middle, hreach, hm⟩
        cases hreach with
        | step hs hr => exact ⟨_, hs, ih.2 ⟨middle, hr, hm⟩⟩

/-- Running the reader succeeds exactly on the texts that it reads, wherever they start. -/
theorem run_eq_ok_iff {read : Nat} {state : State} {text : List Char} {v : Json} :
    state.run read text = .ok v ↔ state.Reads text v := by
  induction text generalizing read state with
  | nil =>
      rw [reads_nil_iff, State.run]
      cases state.finish <;> simp
  | cons c cs ih =>
      rw [reads_cons_iff, State.run]
      cases hs : state.step c with
      | error f => simp
      | ok next => simp [ih]

theorem parse_eq_ok_iff {text : List Char} {v : Json} :
    parse text = .ok v ↔ State.Reads ⟨.value, []⟩ text v := by
  rw [parse, read]
  cases h : State.run 0 ⟨.value, []⟩ text with
  | error f => simp [← @run_eq_ok_iff 0, h]
  | ok w => simp [← @run_eq_ok_iff 0, h]

/-- No text is read behind a wrong digit. -/
theorem State.Reads.not_doomed {state : State} {text : List Char} {v : Json}
    (h : state.Reads text v) : ¬ state.Doomed := by
  induction text generalizing state with
  | nil =>
      intro hd
      exact hd.finish_ne v (reads_nil_iff.1 h)
  | cons c cs ih =>
      intro hd
      obtain ⟨next, hs, hnext⟩ := reads_cons_iff.1 h
      exact ih hnext (hd.step hs)

theorem State.Doomed.reaches {state last : State} {text : List Char} (hd : state.Doomed)
    (h : state.Reaches text last) : last.Doomed := by
  induction h with
  | refl _ => exact hd
  | step hs _ ih => exact ih (hd.step hs)

/-- The region of the reader is the one that the text leads to. -/
theorem State.Reaches.region_eq {state last : State} {text : List Char}
    (h : state.Reaches text last) (hl : state.Lettered) (hd : ¬ last.Doomed) :
    last.region = state.region.after text ∧ last.Lettered := by
  induction h with
  | refl _ => exact ⟨rfl, hl⟩
  | @step state next last c cs hs hreach ih =>
      rw [Region.after_cons]
      by_cases hr : state.region = .outside
      · have hout := State.step_outside hs hr hl
        rw [hr, ← hout.region_eq]
        exact ih hout.lettered hd
      · rcases State.step_inside hs hr with hdoom | hin
        · exact absurd (hdoom.reaches hreach) hd
        · rw [← hin.region_eq]
          exact ih hin.lettered hd

/-- Spaces can be put before what a reader between two parts accepts, or taken away. -/
theorem State.Skips.reads_append_iff {state : State} (hskip : state.Skips) {xs ys : List Char}
    (hxs : ∀ c ∈ xs, isSpace c = true) {v : Json} :
    state.Reads (xs ++ ys) v ↔ state.Reads ys v := by
  induction xs with
  | nil => rfl
  | cons c xs ih =>
      have hstep : state.step c = .ok state := hskip c (hxs c List.mem_cons_self)
      rw [List.cons_append, reads_cons_iff]
      simp only [hstep, Except.ok.injEq, exists_eq_left']
      exact ih fun d hd => hxs d (List.mem_cons_of_mem c hd)

/-- A line feed is read outside of strings only, and leads between two parts. -/
theorem step_newline {state next : State} (h : state.step '\n' = .ok next)
    (hl : state.Lettered) (hd : ¬ next.Doomed) : state.region = .outside ∧ next.Skips := by
  have hr : state.region = .outside := by
    by_contra hr
    rcases State.step_inside h hr with hdoom | hin
    · exact hd hdoom
    · exact hin.not_newline rfl
  refine ⟨hr, ?_⟩
  obtain ⟨mode, stack⟩ := state
  by_cases hgap : mode.isGap = true
  · rw [skips_of_isGap hgap stack '\n' (by decide)] at h
    cases h
    exact skips_of_isGap hgap stack
  cases mode with
  | word w left v =>
      have hw : w.isAlpha = true := hl w List.mem_cons_self
      simp only [State.step] at h
      split at h
      · next hc =>
        subst hc
        exact absurd hw (by decide)
      · cases h
  | text role chars escape => cases escape <;> cases hr
  | number negative part =>
      simp only [State.step] at h
      split at h
      · cases h
      · next part' hp =>
        cases part <;> simp [NumberPart.step, refuse] at hp
      split at h
      · cases h
      · next v _ =>
        rw [← step_complete, skips_complete v stack '\n' (by decide)] at h
        cases h
        exact skips_complete v stack
  | _ => exact absurd rfl hgap

end Json

end ApiNotes
