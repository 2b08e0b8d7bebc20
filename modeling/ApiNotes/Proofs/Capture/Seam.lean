import ApiNotes.Proofs.Capture.Rows
import ApiNotes.Proofs.Json.Run
import ApiNotes.Proofs.Text.Cut

/-!
# Objects across a line break

A text `OpensTag` when a marker is all that stands on its first rows besides blanks and
the marks of a comment. Before such a text, an object that is still open at the end of a
line is never read: outside of strings the walk is interrupted by the marker, inside of a
string by the line feed.

There is one way through. A backslash before the line feed makes the walk take the line
feed for an escaped character, and it may then find a closing brace far behind the marker.
But no string literal may hold a line feed, so the reader of JSON refuses what was
captured: a captured object that is read has each of its line feeds outside of strings
(`after_eq_outside_of_decodeObject`).
-/

namespace ApiNotes

namespace Tag

open Json (State)

/-- A marker with nothing but blanks, asterisks and slashes before it. -/
def OpensTag (text : List Char) : Prop :=
  ∃ indent behind, text = indent ++ '@' :: 'L' :: 'R' :: 'D' :: behind ∧
    ∀ c ∈ indent, Text.isBlank c = true ∨ c = '*' ∨ c = '/'

/-- The characters other than those before a marker are not among them. -/
theorem not_mem_indent {indent : List Char}
    (h : ∀ c ∈ indent, Text.isBlank c = true ∨ c = '*' ∨ c = '/') {c : Char}
    (hblank : Text.isBlank c = false) (hstar : c ≠ '*') (hslash : c ≠ '/') : c ∉ indent := by
  intro hmem
  rcases h c hmem with hc | hc | hc
  · rw [hblank] at hc
    cases hc
  · exact hstar hc
  · exact hslash hc

/-! ### The walk -/

/-- Outside of strings the walk does not get past the next tag. -/
theorem OpensTag.lengthToClose_ne {text : List Char} (h : OpensTag text) (depth n : Nat) :
    lengthToClose .outside depth text ≠ .ok n := by
  obtain ⟨indent, behind, rfl, hindent⟩ := h
  intro hclose
  obtain ⟨body, rest, htext, hn, -⟩ := exists_of_lengthToClose_eq_ok hclose
  have hbrace : '}' ∉ indent := not_mem_indent hindent (by decide) (by decide) (by decide)
  have hquote : '"' ∉ indent := not_mem_indent hindent (by decide) (by decide) (by decide)
  obtain ⟨between, rfl, -⟩ := Text.exists_append_of_not_mem hbrace htext
  have hlt : indent.length < n := by
    rw [hn, List.length_append]
    omega
  exact after_ne_outside_of_marker hclose hlt (Region.after_outside_of_not_mem hquote)

/-- What interrupts the walk still does when more text follows. -/
theorem interruption?_of_append {region : Region} {c : Char} {cs more : List Char}
    (h : interruption? region c (cs ++ more) = none) : interruption? region c cs = none := by
  cases region with
  | escaped => rfl
  | inString => exact h
  | outside =>
      simp only [interruption?] at h ⊢
      split at h
      · cases h
      · next hclose =>
        split at h
        · cases h
        · next htag =>
          rw [if_neg, if_neg]
          · rintro ⟨hc, hprefix⟩
            refine htag ⟨hc, ?_⟩
            rw [List.isPrefixOf_iff_prefix] at hprefix ⊢
            exact hprefix.trans (List.prefix_append cs more)
          · rintro ⟨hc, hhead⟩
            exact hclose ⟨hc, by rw [List.head?_append, hhead]; rfl⟩

/-- Across a line break before a tag, the walk closes as it does without what follows, or
it passes the line feed behind a backslash. -/
theorem lengthToClose_seam {region : Region} {depth n : Nat} {line behind : List Char}
    (hb : OpensTag behind) (h : lengthToClose region depth (line ++ '\n' :: behind) = .ok n) :
    lengthToClose region depth line = .ok n ∨
      line.length < n ∧ region.after line = .escaped := by
  induction line generalizing region depth n with
  | nil =>
      obtain ⟨⟨-, hc, -⟩, -⟩ | ⟨-, hi, m, hm, rfl⟩ := lengthToClose_cons_eq_ok_iff.1 h
      · exact absurd hc (by decide)
      · cases region with
        | outside => exact absurd hm (hb.lengthToClose_ne _ m)
        | inString => simp [interruption?] at hi
        | escaped => exact Or.inr ⟨Nat.succ_pos m, rfl⟩
  | cons c cs ih =>
      obtain ⟨hc, rfl⟩ | ⟨hc, hi, m, hm, rfl⟩ := lengthToClose_cons_eq_ok_iff.1 h
      · exact Or.inl (lengthToClose_cons_eq_ok_iff.2 (Or.inl ⟨hc, rfl⟩))
      · rcases ih hm with hclose | ⟨hlt, hescaped⟩
        · exact Or.inl (lengthToClose_cons_eq_ok_iff.2
            (Or.inr ⟨hc, interruption?_of_append hi, m, hclose, rfl⟩))
        · exact Or.inr ⟨by simpa using hlt, hescaped⟩

/-! ### The reader -/

/-- The reader leaves a row, freed of its decoration, outside of strings. -/
theorem reads_row {state : State} {row rest : List Char} {v : Json} (hl : state.Lettered)
    (hr : state.region = .outside) (h : state.Reads (stripRow row ++ '\n' :: rest) v) :
    Region.outside.after row = .outside ∧
      ∃ next : State, next.Lettered ∧ next.region = .outside ∧ next.Reads rest v := by
  obtain ⟨middle, hreach, hmiddle⟩ := Json.reads_append_iff.1 h
  obtain ⟨hregion, hlettered⟩ := hreach.region_eq hl hmiddle.not_doomed
  obtain ⟨next, hstep, hnext⟩ := Json.reads_cons_iff.1 hmiddle
  obtain ⟨houtside, -⟩ := Json.step_newline hstep hlettered hnext.not_doomed
  have hout := State.step_outside hstep houtside hlettered
  refine ⟨?_, next, hout.lettered, hout.region_eq, hnext⟩
  calc Region.outside.after row
      = state.region.after (stripRow row) := by rw [hr, after_stripRow]
    _ = .outside := hregion.symm.trans houtside

/-- Before a line feed of a text that is read, the walk is outside of strings. -/
theorem after_eq_outside_of_reads {state : State} {text rest : List Char} {v : Json}
    (hl : state.Lettered) (hr : state.region = .outside)
    (h : state.Reads (stripRows (text ++ '\n' :: rest)) v) :
    Region.outside.after text = .outside := by
  induction text using row_induction generalizing state with
  | row r hrow =>
      rw [stripRows_append hrow] at h
      exact (reads_row hl hr h).1
  | more r text hrow ih =>
      rw [List.append_assoc, List.cons_append, stripRows_append hrow] at h
      obtain ⟨hafter, next, hlettered, hregion, hnext⟩ := reads_row hl hr h
      rw [Region.after_append, hafter, Region.after_cons]
      exact ih hlettered hregion hnext

/-- A captured object that is read has its line feeds outside of strings. -/
theorem after_eq_outside_of_decodeObject {text rest : List Char} {v : Json}
    (hfirst : text.head? = some '{') (hlast : rest.getLast? = some '}')
    (h : decodeObject (text ++ '\n' :: rest) = .ok v) :
    Region.outside.after text = .outside := by
  have hhead : (text ++ '\n' :: rest).head? = some '{' := by
    rw [List.head?_append, hfirst]
    rfl
  have hend : (text ++ '\n' :: rest).getLast? = some '}' := by
    rw [List.getLast?_append, List.getLast?_cons, hlast]
    rfl
  rw [decodeObject, stripDecoration_eq_stripRows hhead hend] at h
  split at h
  · cases h
  · next w hparse =>
    have hread : State.Reads ⟨.value, []⟩ (stripRows (text ++ '\n' :: rest)) w :=
      Json.parse_eq_ok_iff.1 hparse
    have hlettered : State.Lettered ⟨.value, []⟩ := trivial
    exact after_eq_outside_of_reads hlettered rfl hread

/-- Before a tag on a later line, an object that does not close on its own is not read. -/
theorem decodeObject_seam {body behind : List Char} {n : Nat} {v : Json}
    (hb : OpensTag behind) (hfirst : body.head? = some '{')
    (hlength : objectLength (body ++ '\n' :: behind) = .ok n)
    (hdecode : decodeObject ((body ++ '\n' :: behind).take n) = .ok v) :
    objectLength body = .ok n := by
  rcases lengthToClose_seam hb hlength with hclose | ⟨hlt, hescaped⟩
  · exact hclose
  · -- What is captured holds the line feed, and the walk was in a string before it.
    obtain ⟨inside, rest, htext, hn, -⟩ := exists_of_lengthToClose_eq_ok hlength
    obtain ⟨between, rfl, hbetween⟩ :=
      Text.exists_append_of_length_le htext (by omega : body.length ≤ inside.length)
    cases between with
    | nil => exact absurd (List.cons.inj hbetween).1 (by decide)
    | cons c between =>
        rw [List.cons_append] at hbetween
        obtain ⟨rfl, rfl⟩ := List.cons.inj hbetween
        have hcut : body ++ '\n' :: (between ++ '}' :: rest) =
            (body ++ '\n' :: (between ++ ['}'])) ++ rest := by simp
        have hcaptured : n = (body ++ '\n' :: (between ++ ['}'])).length := by
          rw [hn]
          simp [Nat.add_assoc]
        rw [hcut, hcaptured, List.take_left] at hdecode
        have houtside := after_eq_outside_of_decodeObject hfirst (by simp) hdecode
        rw [houtside] at hescaped
        cases hescaped

end Tag

end ApiNotes
