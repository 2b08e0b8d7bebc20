import ApiNotes.Proofs.Editor.Conversion
import ApiNotes.Proofs.Editor.Hover
import Mathlib.Data.List.Basic

/-!
# Completions continue what was typed

What is offered depends on the line before the cursor alone (`IsBefore`), and there on how it ends.
If it ends in a tag that takes a status code, gaps and digits (`EndsInStatus`), the digits are the
typed text; else its last word is (`IsLastWord`). Both are runs of one class of characters at the
end of the text, so a text has at most one of each (`Text.lastRun_append`), and it does not matter
at which of several tags the search for the digits stops.

The typed text is then held against a list of labels. A word no longer than the marker is held
against the marker only, which makes no difference (`isOffered_eq`): of two starts of one tag, the
one with fewer bytes is a start of the other.
-/

namespace ApiNotes

namespace Editor

variable {line text before digits word : List Char} {col : Nat}

/-! ### The line before the cursor -/

/-- What stands before a column of a line: the part with as many units, and all of the line where
the column is behind it or inside of a character. -/
def IsBefore (line : List Char) (col : Nat) (before : List Char) : Prop :=
  (∃ behind, line = before ++ behind ∧ unitLength before = col) ∨
    (unitLength line < col ∨ SplitsPair line col) ∧ before = line

theorem beforeColumn_unitLength_append (before behind : List Char) :
    beforeColumn (before ++ behind) (unitLength before) = before := by
  rw [beforeColumn, byte?_unitLength_append]
  simp only [Text.takeBytes?_byteLength_append, Option.getD_some]

theorem isBefore_iff : IsBefore line col before ↔ beforeColumn line col = before := by
  constructor
  · rintro (⟨behind, rfl, rfl⟩ | ⟨hnone, rfl⟩)
    · exact beforeColumn_unitLength_append before behind
    · rw [beforeColumn, byte?_eq_none_iff.2 hnone]
  · rintro rfl
    cases hbyte : byte? col line with
    | none =>
        refine Or.inr ⟨byte?_eq_none_iff.1 hbyte, ?_⟩
        rw [beforeColumn, hbyte]
    | some n =>
        obtain ⟨front, behind, rfl, rfl, -⟩ := exists_of_byte?_eq_some hbyte
        rw [beforeColumn_unitLength_append]
        exact Or.inl ⟨behind, rfl, rfl⟩

/-- A comment line without its mark is the end of the line. -/
theorem stripCommentMark_suffix (line : List Char) : stripCommentMark line <:+ line := by
  have htrim : ∀ text : List Char, Text.trimStart text <:+ text :=
    fun text => List.dropWhile_suffix _
  simp only [stripCommentMark]
  split
  · next rest hrest =>
    obtain ⟨mark, -, hmark⟩ := List.exists_of_findSome?_eq_some hrest
    have hline : Text.trimStart line = mark ++ rest := Text.dropStart?_eq_some_iff.1 hmark
    have hrest : rest <:+ Text.trimStart line := ⟨mark, hline.symm⟩
    exact ((htrim rest).trans hrest).trans (htrim line)
  · exact htrim line

/-! ### The start of a status code -/

/-- A text ends in a tag that takes a status code, gaps, and digits. -/
def EndsInStatus (text digits : List Char) : Prop :=
  ∃ before tag gaps, text = before ++ (tag ++ (gaps ++ digits)) ∧
    (tag = "@LRDresponse".toList ∨ tag = "@LRDerror".toList) ∧ gaps ≠ [] ∧
      (∀ c ∈ gaps, Text.isGap c = true) ∧ ∀ c ∈ digits, Text.isDigit c = true

/-- The digits are all those at the end of the text. -/
theorem EndsInStatus.digits_eq (h : EndsInStatus text digits) :
    (text.reverse.takeWhile Text.isDigit).reverse = digits := by
  obtain ⟨before, tag, gaps, rfl, -, hne, hgaps, hdigits⟩ := h
  have hlast : ∀ c ∈ (before ++ (tag ++ gaps)).getLast?, Text.isDigit c = false := by
    intro c hc
    rw [← List.append_assoc, List.getLast?_append_of_ne_nil _ hne] at hc
    exact isDigit_of_isGap (hgaps c (List.mem_of_getLast? hc))
  have hrun := Text.lastRun_append hdigits hlast
  rwa [List.append_assoc, List.append_assoc] at hrun

theorem mem_statusTags_iff {tag : List Char} :
    tag ∈ statusTags ↔ tag = "@LRDresponse".toList ∨ tag = "@LRDerror".toList := by
  have htags : statusTags = ["@LRDresponse".toList, "@LRDerror".toList] := by decide
  rw [htags, List.mem_pair]

theorem isGap_of_isDigit {c : Char} (h : Text.isDigit c = true) : Text.isGap c = false := by
  cases hgap : Text.isGap c with
  | false => rfl
  | true =>
      rw [isDigit_of_isGap hgap] at h
      cases h

theorem endsInStatus_of_typedStatus? (h : typedStatus? text = some digits) :
    EndsInStatus text digits := by
  fun_induction typedStatus? text with
  | case1 => cases h
  | case2 c cs rest hrest hall =>
      obtain rfl := Option.some.inj h
      obtain ⟨tag, htag, gaps, htext, hne, hgaps⟩ := exists_tag_of_behindStatusTag? hrest
      exact ⟨[], tag, gaps, htext, mem_statusTags_iff.1 htag, hne, hgaps, List.all_eq_true.1 hall⟩
  | case3 c cs rest _ _ ih | case4 c cs _ ih =>
      obtain ⟨before, tag, gaps, rfl, hends⟩ := ih h
      exact ⟨c :: before, tag, gaps, rfl, hends⟩

theorem isSome_typedStatus? (h : EndsInStatus text digits) : (typedStatus? text).isSome = true := by
  obtain ⟨before, tag, gaps, rfl, htag, hne, hgaps, hdigits⟩ := h
  induction before with
  | nil =>
      have hstop : ∀ c ∈ digits.head?, Text.isGap c = false :=
        fun c hc => isGap_of_isDigit (hdigits c (List.mem_of_mem_head? hc))
      have hbehind : behindStatusTag? (tag ++ (gaps ++ digits)) = some digits := by
        rcases htag with rfl | rfl
        · exact behindStatusTag?_tagText (Or.inl rfl) hne hgaps hstop
        · exact behindStatusTag?_tagText (Or.inr rfl) hne hgaps hstop
      obtain ⟨c, cs, htext⟩ : ∃ c cs, tag ++ (gaps ++ digits) = c :: cs :=
        List.exists_cons_of_ne_nil (by simp [hne])
      rw [htext] at hbehind
      rw [List.nil_append, htext, typedStatus?]
      simp only [hbehind, if_pos (List.all_eq_true.2 hdigits), Option.isSome_some]
  | cons c before ih =>
      -- A tag further to the left ends the search as well.
      rw [List.cons_append, typedStatus?]
      split
      · split
        · rfl
        · exact ih
      · exact ih

/-- Digits are found exactly where the text ends in a status code. -/
theorem typedStatus?_eq_some_iff : typedStatus? text = some digits ↔ EndsInStatus text digits := by
  constructor
  · exact endsInStatus_of_typedStatus?
  · intro h
    obtain ⟨found, hfound⟩ := Option.isSome_iff_exists.1 (isSome_typedStatus? h)
    have hsame := (endsInStatus_of_typedStatus? hfound).digits_eq
    rw [h.digits_eq] at hsame
    rw [hfound, hsame]

/-! ### The last word -/

/-- What follows the last blank of a text. -/
def IsLastWord (text word : List Char) : Prop :=
  ∃ before, text = before ++ word ∧ (∀ c ∈ word, Text.isBlank c = false) ∧
    ∀ c ∈ before.getLast?, Text.isBlank c = true

theorem isLastWord_iff : IsLastWord text word ↔ lastWord text = word := by
  constructor
  · rintro ⟨before, rfl, hword, hbefore⟩
    exact Text.lastRun_append (by simpa using hword) (by simpa using hbefore)
  · rintro rfl
    obtain ⟨before, htext, hbefore⟩ := Text.exists_append_lastRun (fun c => !Text.isBlank c) text
    refine ⟨before, htext, ?_, by simpa using hbefore⟩
    intro c hc
    simpa using List.mem_takeWhile_imp (List.mem_reverse.1 hc)

/-! ### What is offered -/

/-- The labels that begin with the typed text are offered, in order. The typed text is what the
cursor stands behind, and every completion begins with it, by its label and by what it inserts. -/
structure Continues (before typed : List Char) (labels : List String)
    (offered : List Completion) : Prop where
  labels_eq : offered.map Completion.label =
    labels.filter fun label => typed.isPrefixOf label.toList
  typed_suffix : typed <:+ before
  label_begins : ∀ c ∈ offered, typed <+: c.label.toList
  insertText_begins : ∀ c ∈ offered, typed <+: c.insertText.toList

/-- The common status codes as they are written. -/
def statusLabels : List String :=
  Status.common.map fun code => String.ofList (Text.digits code)

/-- The tags as they are written. -/
def tagLabels : List String :=
  Tag.Kind.all.map Tag.Kind.tag

/-- Completions for all items of a table that continue the typed text. -/
theorem continues_filter_map {α : Type} {before typed : List Char} (items : List α)
    (label : α → String) (complete : α → Completion) (hsuffix : typed <:+ before)
    (hlabel : ∀ a, (complete a).label = label a)
    (hinsert : ∀ a, (label a).toList <+: (complete a).insertText.toList) :
    Continues before typed (items.map label)
      ((items.filter fun a => typed.isPrefixOf (label a).toList).map complete) := by
  have hbegins : ∀ c ∈ (items.filter fun a => typed.isPrefixOf (label a).toList).map complete,
      typed <+: c.label.toList ∧ typed <+: c.insertText.toList := by
    intro c hc
    obtain ⟨a, ha, rfl⟩ := List.mem_map.1 hc
    have hstart : typed <+: (label a).toList :=
      List.isPrefixOf_iff_prefix.1 (List.mem_filter.1 ha).2
    exact ⟨by rwa [hlabel], hstart.trans (hinsert a)⟩
  refine ⟨?_, hsuffix, fun c hc => (hbegins c hc).1, fun c hc => (hbegins c hc).2⟩
  rw [List.map_map, List.filter_map]
  exact List.map_congr_left fun a _ => hlabel a

theorem continues_statusCompletions (h : digits <:+ before) :
    Continues before digits statusLabels (statusCompletions digits) := by
  have hall := continues_filter_map Status.common
    (fun code => String.ofList (Text.digits code)) statusCompletion h (fun _ => rfl)
    fun _ => List.prefix_rfl
  simp only [String.toList_ofList] at hall
  exact hall

/-- The shortcut for words that are no longer than the marker changes nothing. -/
theorem isOffered_eq (typed : List Char) (kind : Tag.Kind) :
    isOffered typed kind = typed.isPrefixOf kind.tag.toList := by
  have htag : kind.tag.toList = Tag.marker.toList ++ kind.name.toList := String.toList_append
  rw [isOffered]
  split
  · next hshort =>
    rw [Bool.eq_iff_iff, List.isPrefixOf_iff_prefix, List.isPrefixOf_iff_prefix, htag]
    constructor
    · intro h
      exact h.trans (List.prefix_append _ _)
    · rintro ⟨rest, hrest⟩
      -- Of two starts of the tag the shorter one, in bytes, is a start of the other.
      obtain ⟨between, hmarker, -⟩ := Text.exists_append_of_byteLength_le hrest hshort
      exact ⟨between, hmarker.symm⟩
  · rfl

theorem tag_prefix_template (kind : Tag.Kind) : kind.tag.toList <+: (template kind).toList := by
  cases kind <;> simp [template, Tag.Kind.tag, Tag.marker, Tag.Kind.name]

theorem continues_tagCompletions (h : word <:+ before) :
    Continues before word tagLabels (tagCompletions word) := by
  have hall := continues_filter_map Tag.Kind.all Tag.Kind.tag tagCompletion h (fun _ => rfl)
    tag_prefix_template
  simp only [← isOffered_eq] at hall
  exact hall

theorem completions_of_line {p : Position} (hline : (Text.lines text)[p.line]? = some line)
    (hbefore : IsBefore line p.character before) :
    completions text p = completionsAfter before := by
  rw [completions, hline]
  simp only [isBefore_iff.1 hbefore]

theorem completionsAfter_of_status (hcomment : isCommentLine before = true)
    (h : EndsInStatus (stripCommentMark before) digits) :
    completionsAfter before = statusCompletions digits := by
  simp only [completionsAfter, hcomment, typedStatus?_eq_some_iff.2 h, Bool.not_true,
    Bool.false_eq_true, if_false]

theorem completionsAfter_of_word (hcomment : isCommentLine before = true)
    (hstatus : ∀ digits, ¬ EndsInStatus (stripCommentMark before) digits)
    (hword : IsLastWord (stripCommentMark before) word) :
    completionsAfter before = if word.head? = some '@' then tagCompletions word else [] := by
  have hnone : typedStatus? (stripCommentMark before) = none := by
    rw [Option.eq_none_iff_forall_ne_some]
    exact fun digits h => hstatus digits (typedStatus?_eq_some_iff.1 h)
  simp only [completionsAfter, hcomment, hnone, isLastWord_iff.1 hword, Bool.not_true,
    Bool.false_eq_true, if_false]

/-- What is offered behind a part of a line: nothing outside of comments; behind a tag that takes a
status code the common codes that continue the digits there; elsewhere the tags that continue the
last word, if it begins with an at sign. -/
structure OffersBehind (before : List Char) (offered : List Completion) : Prop where
  outside : isCommentLine before = false → offered = []
  status : isCommentLine before = true → ∀ digits, EndsInStatus (stripCommentMark before) digits →
    Continues before digits statusLabels offered
  lastWord : ∃! word, IsLastWord (stripCommentMark before) word
  tag : isCommentLine before = true → (∀ digits, ¬ EndsInStatus (stripCommentMark before) digits) →
    ∀ word, IsLastWord (stripCommentMark before) word → word.head? = some '@' →
      Continues before word tagLabels offered
  elsewhere : isCommentLine before = true →
    (∀ digits, ¬ EndsInStatus (stripCommentMark before) digits) →
    ∀ word, IsLastWord (stripCommentMark before) word → word.head? ≠ some '@' → offered = []

theorem offersBehind_completionsAfter (before : List Char) :
    OffersBehind before (completionsAfter before) where
  outside hcode := by simp [completionsAfter, hcode]
  status hcomment digits hdigits := by
    rw [completionsAfter_of_status hcomment hdigits]
    obtain ⟨front, tag, gaps, htext, -⟩ := hdigits
    have hsuffix : digits <:+ stripCommentMark before :=
      ⟨front ++ (tag ++ gaps), by rw [htext]; simp⟩
    exact continues_statusCompletions (hsuffix.trans (stripCommentMark_suffix before))
  lastWord := ⟨_, isLastWord_iff.2 rfl, fun _ hword => (isLastWord_iff.1 hword).symm⟩
  tag hcomment hstatus word hword hat := by
    rw [completionsAfter_of_word hcomment hstatus hword, if_pos hat]
    obtain ⟨front, htext, -⟩ := hword
    have hsuffix : word <:+ stripCommentMark before := ⟨front, htext.symm⟩
    exact continues_tagCompletions (hsuffix.trans (stripCommentMark_suffix before))
  elsewhere hcomment hstatus word hword hat := by
    rw [completionsAfter_of_word hcomment hstatus hword, if_neg hat]

/-- The completions at a position continue what was typed there, and none of those is missing. Where
there is no line, there are none. -/
theorem completions_continue (text : List Char) (p : Position) :
    ((Text.lines text)[p.line]? = none → completions text p = []) ∧
    ∀ line, (Text.lines text)[p.line]? = some line →
      (∃! before, IsBefore line p.character before) ∧
        ∀ before, IsBefore line p.character before →
          OffersBehind before (completions text p) := by
  refine ⟨fun hnone => by rw [completions, hnone], fun line hline => ⟨?_, ?_⟩⟩
  · exact ⟨_, isBefore_iff.2 rfl, fun _ hbefore => (isBefore_iff.1 hbefore).symm⟩
  · intro before hbefore
    rw [completions_of_line hline hbefore]
    exact offersBehind_completionsAfter before

/-- Tags behind a character of two units, and status codes on the next line, each with more of the
line behind the cursor. -/
theorem completions_continue_two_lines :
    let text := " * 👋 @LRDe x\n * @LRDerror 404".toList
    (completions text ⟨0, 11⟩).map Completion.label = ["@LRDexample", "@LRDerror", "@LRDenum"] ∧
      (completions text ⟨1, 15⟩).map Completion.label = ["400", "401", "403", "404"] := by
  intro text
  constructor
  · obtain ⟨-, hbehind⟩ :=
      (completions_continue text ⟨0, 11⟩).2 " * 👋 @LRDe x".toList (by decide)
    have hoffers := hbehind " * 👋 @LRDe".toList (Or.inl ⟨[' ', 'x'], by decide, by decide⟩)
    have hnone : typedStatus? (stripCommentMark " * 👋 @LRDe".toList) = none := by decide
    have hstatus : ∀ digits, ¬ EndsInStatus (stripCommentMark " * 👋 @LRDe".toList) digits := by
      intro digits hdigits
      rw [typedStatus?_eq_some_iff.2 hdigits] at hnone
      cases hnone
    have hword : IsLastWord (stripCommentMark " * 👋 @LRDe".toList) "@LRDe".toList :=
      isLastWord_iff.2 (by decide)
    exact (hoffers.tag (by decide) hstatus _ hword rfl).labels_eq.trans (by decide)
  · obtain ⟨-, hbehind⟩ :=
      (completions_continue text ⟨1, 15⟩).2 " * @LRDerror 404".toList (by decide)
    have hoffers := hbehind " * @LRDerror 40".toList (Or.inl ⟨['4'], by decide, by decide⟩)
    have hdigits : EndsInStatus (stripCommentMark " * @LRDerror 40".toList) "40".toList :=
      ⟨[], "@LRDerror".toList, [' '], by decide, Or.inr rfl, List.cons_ne_nil _ _,
        List.forall_mem_singleton.2 (by decide), List.all_eq_true.1 (by decide)⟩
    exact (hoffers.status (by decide) _ hdigits).labels_eq.trans (by decide)

end Editor

end ApiNotes
