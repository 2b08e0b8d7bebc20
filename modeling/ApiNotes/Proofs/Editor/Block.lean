import ApiNotes.Proofs.Editor.Overrun
import ApiNotes.Proofs.Text.Lines

/-!
# Texts that are one comment

Where every line of a text but the first is a comment line and no comment is closed before
the last tag, the text between two tags that follow each other leads to no other comment
(`IsBlock.startsNewComment_eq_false`).

Such a text starts and ends within a line. The part of a line before a tag is a comment line
when the whole line is one, since no mark of a comment has the first character of a marker.
-/

namespace ApiNotes

namespace Editor

open Tag

/-! ### Parts of comment lines -/

/-- The part of a comment line before a marker is a comment line. -/
theorem isCommentLine_of_append {row more : List Char}
    (h : isCommentLine (row ++ '@' :: more) = true) : isCommentLine row = true := by
  obtain ⟨mark, hmark, hbegins⟩ := List.any_eq_true.1 h
  have hat : '@' ∉ mark := by
    have hnone : ∀ mark ∈ commentMarks, '@' ∉ mark := by decide
    exact hnone mark hmark
  have htrim : Text.trimStart (row ++ '@' :: more) = Text.trimStart row ++ '@' :: more :=
    (Text.span_append_of_stop (by decide) row more).2
  rw [htrim, List.isPrefixOf_iff_prefix] at hbegins
  obtain ⟨rest, hrest⟩ := hbegins
  obtain ⟨between, hbetween, -⟩ := Text.exists_append_of_not_mem hat hrest
  refine List.any_eq_true.2 ⟨mark, hmark, ?_⟩
  rw [List.isPrefixOf_iff_prefix, hbetween]
  exact List.prefix_append mark between

/-- A text before a marker has only comment lines when the text with the marker has. -/
theorem isCommentLine_of_mem_lines {rest more : List Char}
    (h : ∀ line ∈ Text.lines (rest ++ '@' :: more), isCommentLine line = true) :
    ∀ line ∈ Text.lines rest, isCommentLine line = true := by
  induction rest using row_induction with
  | row r hr =>
      intro line hline
      rw [Text.lines_of_not_mem hr] at hline
      split at hline
      · cases hline
      · rw [List.mem_singleton] at hline
        subst hline
        obtain ⟨behind, hhead, -⟩ :=
          Text.exists_head?_lines hr (c := '@') (by decide) (by decide) more
        exact isCommentLine_of_append (h _ (List.mem_of_mem_head? hhead))
  | more r rest hr ih =>
      rw [List.append_assoc, List.cons_append, Text.lines_append hr] at h
      rw [Text.lines_append hr]
      intro line hline
      rcases List.mem_cons.1 hline with rfl | hline
      · exact h _ (List.mem_cons_self ..)
      · exact ih (fun line hline => h line (List.mem_cons_of_mem _ hline)) line hline

theorem closesComment_iff {text : List Char} :
    closesComment text = true ↔ ['*', '/'] <:+: text := by
  induction text with
  | nil => simp [closesComment]
  | cons c cs ih =>
      rw [closesComment, Bool.or_eq_true, ih, List.infix_cons_iff]
      refine or_congr ?_ Iff.rfl
      cases cs with
      | nil => simp
      | cons d cs =>
          simp only [List.head?_cons, Bool.and_eq_true, beq_iff_eq, Option.some.injEq,
            List.cons_prefix_cons, List.nil_prefix, and_true]
          exact and_congr eq_comm eq_comm

/-! ### Between the tags of one comment -/

/-- Every line but the first is a comment line, and before the last tag no comment is
closed. -/
structure IsBlock (text : List Char) : Prop where
  comment_lines : ∀ line ∈ (Text.lines text).drop 1, isCommentLine line = true
  not_closed : ∀ o ∈ (scan text).getLast?, ¬ ['*', '/'] <:+: slice text 0 o.span.start

variable {text : List Char} {o o' : Occurrence}

/-- The text before a tag begins with the text before an earlier one. -/
theorem slice_prefix_slice (ho : o ∈ scan text) (ho' : o' ∈ scan text)
    (hle : o.span.start ≤ o'.span.start) :
    slice text 0 o.span.start <+: slice text 0 o'.span.start := by
  obtain ⟨before, part, behind, htext, hstart, hstart'⟩ :=
    Text.exists_slice_of_isBoundary (isBoundary_start ho) (isBoundary_start ho') hle
  have hbefore : slice text 0 o.span.start = before := by
    rw [htext, hstart]
    exact slice_append [] before (part ++ behind)
  have hboth : slice text 0 o'.span.start = before ++ part := by
    rw [htext, hstart', ← List.append_assoc]
    exact slice_append [] (before ++ part) behind
  rw [hbefore, hboth]
  exact List.prefix_append before part

/-- No comment is closed before any tag. -/
theorem IsBlock.not_closed_before (h : IsBlock text) (ho : o ∈ scan text) :
    ¬ ['*', '/'] <:+: slice text 0 o.span.start := by
  intro hclosed
  obtain ⟨last, hlast⟩ : ∃ last, last ∈ (scan text).getLast? :=
    ⟨_, List.getLast?_eq_some_getLast (List.ne_nil_of_mem ho)⟩
  obtain ⟨front, hscan⟩ := List.getLast?_eq_some_iff.1 hlast
  have hle : o.span.start ≤ last.span.start := by
    have hpairwise := (scanned_scan text).pairwise
    rw [hscan, List.pairwise_append] at hpairwise
    rw [hscan, List.mem_append, List.mem_singleton] at ho
    rcases ho with ho | rfl
    · exact Nat.le_of_lt (hpairwise.2.2 o ho last (List.mem_singleton_self _)).1
    · exact Nat.le_refl _
  have hbegins := slice_prefix_slice ho (List.mem_of_mem_getLast? hlast) hle
  exact h.not_closed last hlast (hclosed.trans hbegins.isInfix)

/-- The text between two tags is followed by a marker. -/
theorem exists_between (ho : o ∈ scan text) (ho' : o' ∈ scan text)
    (hle : o.span.stop ≤ o'.span.start) :
    ∃ before between behind, text = before ++ (between ++ '@' :: behind) ∧
      slice text o.span.stop o'.span.start = between ∧
        slice text 0 o'.span.start = before ++ between := by
  obtain ⟨before, between, rest, htext, hstop, hstart⟩ :=
    Text.exists_slice_of_isBoundary (isBoundary_stop ho) (isBoundary_start ho') hle
  obtain ⟨front, name, behind, htag, -, -, hfront⟩ := ((scanned_scan text).placed o' ho').tag_at
  have hrest : rest = tagText name ++ behind := by
    calc rest = Text.dropBytes o'.span.start text := by
          rw [htext, hstart, ← List.append_assoc, Text.dropBytes_byteLength_append]
      _ = tagText name ++ behind := by
          rw [htag, hfront, Nat.zero_add, Text.dropBytes_byteLength_append]
  refine ⟨before, between, 'L' :: 'R' :: 'D' :: name ++ behind, ?_, ?_, ?_⟩
  · rw [htext, hrest]
    rfl
  · rw [htext, hstop, hstart, slice_append]
  · rw [htext, hstart, ← List.append_assoc]
    exact slice_append [] (before ++ between) rest

/-- Between two tags of one comment no other comment starts. -/
theorem IsBlock.startsNewComment_eq_false (h : IsBlock text) (ho : o ∈ scan text)
    (ho' : o' ∈ scan text) (hle : o.span.stop ≤ o'.span.start) :
    startsNewComment (slice text o.span.stop o'.span.start) = false := by
  obtain ⟨before, between, behind, htext, hslice, hbefore⟩ := exists_between ho ho' hle
  rw [hslice, startsNewComment, Bool.or_eq_false_iff]
  constructor
  · rw [← Bool.not_eq_true, closesComment_iff]
    intro hclosed
    apply h.not_closed_before ho'
    rw [hbefore]
    exact hclosed.trans (List.suffix_append before between).isInfix
  · rw [List.any_eq_false]
    intro line hline
    by_cases hmem : '\n' ∈ between
    · obtain ⟨row, rest, rfl, hrow⟩ := List.eq_append_cons_of_mem hmem
      rw [Text.lines_append hrow] at hline
      -- The lines behind the first line feed are lines of the whole text.
      have hlines : ∀ line ∈ Text.lines (rest ++ '@' :: behind), isCommentLine line = true := by
        intro line hline
        apply h.comment_lines
        have hsuffix := Text.lines_suffix (before ++ row) (rest ++ '@' :: behind)
        have hcut : text = before ++ row ++ '\n' :: (rest ++ '@' :: behind) := by
          rw [htext]
          simp
        rw [hcut]
        exact hsuffix.subset hline
      simpa using isCommentLine_of_mem_lines hlines line hline
    · rw [Text.lines_of_not_mem hmem] at hline
      split at hline
      · cases hline
      · cases hline

end Editor

end ApiNotes
