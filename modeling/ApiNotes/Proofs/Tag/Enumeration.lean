import ApiNotes.Proofs.Tag.Closing

/-!
# How the line of an enumeration is split

The line behind the name of an enumeration is cut into gaps, the field, gaps again, the values and
a rest, and nothing of it is lost (`SplitsAs`). The field ends where the identifier does. The values
go as far as they can: blanks belong to them if these are gaps with nothing but gaps between them
and a pipe (`GapsAtPipes`), and they are the longest start of the text of that kind
(`prefix_takeValues`). So the rest begins with a blank, and there is no pipe behind its gaps. As
each part goes as far as it can, a line is split in one way only (`SplitsAs.unique`).

The values are the parts between the pipes. Each of them is a word with gaps around it, and so
trimming it is the same as leaving out its gaps (`IsPart.trim_eq_filter`).
-/

namespace ApiNotes

namespace Tag

variable {afterPipe : Bool} {text values rest : List Char}

/-! ### How far values go -/

/-- Every blank of a text is a gap, and nothing but gaps stands between it and a pipe before or
behind it, where a pipe may stand right before the text. -/
def GapsAtPipes (afterPipe : Bool) (values : List Char) : Prop :=
  ∀ before c behind, values = before ++ c :: behind → Text.isBlank c = true →
    Text.isGap c = true ∧
      (BehindPipe afterPipe before ∨ (behind.dropWhile Text.isGap).head? = some '|')

theorem gapsAtPipes_nil (afterPipe : Bool) : GapsAtPipes afterPipe [] := by
  intro before c behind h
  simp at h

theorem behindPipe_nil : BehindPipe afterPipe [] ↔ afterPipe = true := by
  simp [BehindPipe]

/-- One character more, by what it does to the pipes in front. -/
theorem gapsAtPipes_cons {next : Bool} {c : Char} {cs : List Char}
    (hnext : ∀ before, BehindPipe afterPipe (c :: before) ↔ BehindPipe next before) :
    GapsAtPipes afterPipe (c :: cs) ↔
      (Text.isBlank c = true → Text.isGap c = true ∧
        (afterPipe = true ∨ (cs.dropWhile Text.isGap).head? = some '|')) ∧
      GapsAtPipes next cs := by
  constructor
  · intro h
    refine ⟨fun hblank => ?_, fun before d behind hcs hblank => ?_⟩
    · exact (h [] c cs rfl hblank).imp_right (Or.imp_left behindPipe_nil.1)
    · rw [← hnext]
      exact h (c :: before) d behind (congrArg (c :: ·) hcs) hblank
  · rintro ⟨hfirst, hrest⟩ before d behind hcut hblank
    rcases List.cons_eq_append_iff.1 hcut with ⟨rfl, hcs⟩ | ⟨before, rfl, hcs⟩
    · obtain ⟨rfl, rfl⟩ := List.cons.inj hcs
      exact (hfirst hblank).imp_right (Or.imp_left behindPipe_nil.2)
    · rw [hnext]
      exact hrest before d behind hcs hblank

theorem behindPipe_gap {c : Char} (hpipe : c ≠ '|') (hgap : Text.isGap c = true)
    (before : List Char) : BehindPipe afterPipe (c :: before) ↔ BehindPipe afterPipe before := by
  rw [behindPipe_cons hpipe, hgap, Bool.and_true]

theorem behindPipe_word {c : Char} (hpipe : c ≠ '|') (hblank : Text.isBlank c = false)
    (before : List Char) : BehindPipe afterPipe (c :: before) ↔ BehindPipe false before := by
  rw [behindPipe_cons hpipe, isGap_of_not_blank hblank, Bool.and_false]

/-- A pipe behind gaps belongs to the values. -/
theorem pipe_ahead_takeValues (h : (text.dropWhile Text.isGap).head? = some '|') :
    ((takeValues afterPipe text).dropWhile Text.isGap).head? = some '|' := by
  obtain ⟨rest, hrest⟩ := List.head?_eq_some_iff.1 h
  have hgaps : ∀ c ∈ text.takeWhile Text.isGap, Text.isGap c = true :=
    fun c hc => List.mem_takeWhile_imp hc
  rw [← List.takeWhile_append_dropWhile (p := Text.isGap) (l := text), hrest,
    takeValues_gaps hgaps, List.dropWhile_append_of_pos hgaps]
  rfl

theorem gapsAtPipes_takeValues (afterPipe : Bool) (text : List Char) :
    GapsAtPipes afterPipe (takeValues afterPipe text) := by
  fun_induction takeValues afterPipe text with
  | case1 afterPipe => exact gapsAtPipes_nil afterPipe
  | case2 afterPipe cs ih =>
      exact (gapsAtPipes_cons (behindPipe_pipe afterPipe)).2
        ⟨fun hblank => absurd hblank (by decide), ih⟩
  | case3 afterPipe c cs hpipe _ htaken ih =>
      refine (gapsAtPipes_cons (behindPipe_gap hpipe htaken.1)).2 ⟨fun _ => ⟨htaken.1, ?_⟩, ih⟩
      exact htaken.2.imp_right pipe_ahead_takeValues
  | case4 afterPipe => exact gapsAtPipes_nil afterPipe
  | case5 afterPipe c cs hpipe hblank ih =>
      rw [Bool.not_eq_true] at hblank
      refine (gapsAtPipes_cons (behindPipe_word hpipe hblank)).2 ⟨fun h => ?_, ih⟩
      rw [hblank] at h
      cases h

/-- No start of a text that might be values is longer than those that are taken. -/
theorem prefix_takeValues (h : GapsAtPipes afterPipe values) (hstart : values <+: text) :
    values <+: takeValues afterPipe text := by
  induction values generalizing afterPipe text with
  | nil => exact List.nil_prefix
  | cons c cs ih =>
      obtain ⟨more, rfl⟩ := hstart
      rw [List.cons_append, takeValues]
      by_cases hpipe : c = '|'
      · subst hpipe
        rw [gapsAtPipes_cons (behindPipe_pipe afterPipe)] at h
        rw [if_pos rfl, List.prefix_cons_inj]
        exact ih h.2 (List.prefix_append cs more)
      rw [if_neg hpipe]
      cases hblank : Text.isBlank c with
      | false =>
          rw [gapsAtPipes_cons (behindPipe_word hpipe hblank)] at h
          rw [if_neg Bool.false_ne_true, List.prefix_cons_inj]
          exact ih h.2 (List.prefix_append cs more)
      | true =>
          have hgap : Text.isGap c = true := (h [] c cs rfl hblank).1
          rw [gapsAtPipes_cons (behindPipe_gap hpipe hgap)] at h
          have htaken : Text.isGap c = true ∧
              (afterPipe = true ∨ ((cs ++ more).dropWhile Text.isGap).head? = some '|') := by
            refine ⟨hgap, (h.1 hblank).2.imp_right fun hahead => ?_⟩
            -- The pipe is in the values, so the text behind them does not matter.
            have hne : cs.dropWhile Text.isGap ≠ [] := by
              intro hnil
              rw [hnil] at hahead
              cases hahead
            rw [(Text.span_append_of_ne_nil hne more).2, List.head?_append, hahead]
            rfl
          rw [if_pos rfl, if_pos htaken, List.prefix_cons_inj]
          exact ih h.2 (List.prefix_append cs more)

/-- Behind the values there is a blank, and no pipe follows its gaps. -/
theorem takeValues_stops (h : text = takeValues afterPipe text ++ rest) :
    (∀ c ∈ rest.head?, Text.isBlank c = true) ∧
      (rest.dropWhile Text.isGap).head? ≠ some '|' := by
  fun_induction takeValues afterPipe text with
  | case1 =>
      obtain rfl : rest = [] := by simpa using h.symm
      simp
  | case2 _ cs ih | case3 _ c cs _ _ _ ih | case5 _ c cs _ _ ih =>
      exact ih (List.cons.inj h).2
  | case4 afterPipe c cs hpipe hblank hstop =>
      obtain rfl : rest = c :: cs := h.symm
      refine ⟨by simpa using hblank, ?_⟩
      cases hgap : Text.isGap c with
      | false => simpa [hgap] using hpipe
      | true =>
          rw [List.dropWhile_cons_of_pos hgap]
          exact fun hahead => hstop ⟨hgap, Or.inr hahead⟩

/-! ### The parts between pipes -/

/-- Trimming a part takes its gaps away and nothing else. -/
theorem IsPart.trim_eq_filter {part : List Char} (h : IsPart afterPipe part) :
    Text.trim part = part.filter fun c => !Text.isGap c := by
  obtain ⟨left, word, right, rfl, hleft, hword, hright, -⟩ := h
  have hnone : ∀ gaps : List Char, (∀ c ∈ gaps, Text.isGap c = true) →
      (gaps.filter fun c => !Text.isGap c) = [] := by
    intro gaps hgaps
    rw [List.filter_eq_nil_iff]
    intro c hc
    simp [hgaps c hc]
  have hall : (word.filter fun c => !Text.isGap c) = word := by
    rw [List.filter_eq_self]
    intro c hc
    simp [isGap_of_not_blank (hword c hc).1]
  rw [Text.trim_padded (fun c hc => isBlank_of_isGap (hleft c hc)) (fun c hc => (hword c hc).1)
    (fun c hc => isBlank_of_isGap (hright c hc))]
  rw [List.filter_append, List.filter_append, hnone left hleft, hall, hnone right hright]
  simp

theorem filter_intercalate {p : Char → Bool} (hp : p '|' = true) (parts : List (List Char)) :
    ['|'].intercalate (parts.map (List.filter p)) = (['|'].intercalate parts).filter p := by
  induction parts with
  | nil => simp
  | cons part parts ih =>
      cases parts with
      | nil => simp
      | cons next parts =>
          rw [List.map_cons] at ih
          rw [List.map_cons, List.map_cons, List.intercalate_cons_cons, ih,
            List.intercalate_cons_cons, List.filter_append, List.filter_append,
            List.filter_cons_of_pos hp, List.filter_nil]

theorem length_splitOn (text : List Char) : (text.splitOn '|').length = text.count '|' + 1 := by
  induction text with
  | nil => rfl
  | cons c cs ih =>
      rw [List.splitOn_eq_splitOnP] at ih ⊢
      rw [List.splitOnP_cons_eq_if_modifyHead, List.count_cons]
      split
      · rw [List.length_cons, ih]
      · rw [List.length_modifyHead, ih, Nat.add_zero]

/-- Joining the values gives back the text that they were taken from, less its gaps. -/
theorem intercalate_splitValues (afterPipe : Bool) (text : List Char) :
    ['|'].intercalate ((splitValues (takeValues afterPipe text)).map String.toList) =
      (takeValues afterPipe text).filter fun c => !Text.isGap c := by
  have hparts : (splitValues (takeValues afterPipe text)).map String.toList =
      ((takeValues afterPipe text).splitOn '|').map (List.filter fun c => !Text.isGap c) := by
    rw [splitValues, List.map_map]
    refine List.map_congr_left fun part hpart => ?_
    obtain ⟨_, hpart⟩ := isPart_of_mem_splitOn afterPipe text part hpart
    rw [Function.comp_apply, String.toList_ofList, hpart.trim_eq_filter]
  rw [hparts, filter_intercalate (by decide), List.intercalate_splitOn]

/-! ### The description -/

/-- A text is trimmed, and if it ends in `*/` then that is taken off, and the end is trimmed
again. -/
def Unclosed (text left : List Char) : Prop :=
  (∃ front, Text.trim text = front ++ ['*', '/'] ∧ left = Text.trimEnd front) ∨
    ¬ ['*', '/'] <:+ Text.trim text ∧ left = Text.trim text

theorem unclosed_stripClose (text : List Char) : Unclosed text (stripClose text) := by
  simp only [stripClose]
  split
  · next front hfront =>
    refine Or.inl ⟨front.reverse, ?_, rfl⟩
    rw [← List.reverse_reverse (Text.trim text), hfront]
    simp
  · next hother =>
    refine Or.inr ⟨?_, rfl⟩
    rintro ⟨front, hfront⟩
    exact hother front.reverse (by rw [← hfront]; simp)

theorem Unclosed.unique {left left' : List Char} (h : Unclosed text left)
    (h' : Unclosed text left') : left = left' := by
  rcases h with ⟨front, hfront, rfl⟩ | ⟨hopen, rfl⟩
  · rcases h' with ⟨front', hfront', rfl⟩ | ⟨hopen, -⟩
    · rw [List.append_cancel_right (hfront.symm.trans hfront')]
    · exact absurd ⟨front, hfront.symm⟩ hopen
  · rcases h' with ⟨front', hfront', -⟩ | ⟨-, rfl⟩
    · exact absurd ⟨front', hfront'.symm⟩ hopen
    · rfl

/-! ### The line -/

/-- How a line is split into the arguments of an enumeration. -/
structure SplitsAs (line : List Char) (note : EnumNote) (gaps inner listed rest : List Char) :
    Prop where
  line_eq : line = gaps ++ (note.field.toList ++ (inner ++ (listed ++ rest)))
  isEnum : IsEnum gaps note.field.toList inner (listed ++ rest)
  inner_ne : inner ≠ []
  values_eq : note.values =
    (listed.splitOn '|').map fun part => String.ofList (Text.trim part)
  length_values : note.values.length = listed.count '|' + 1
  joined : ['|'].intercalate (note.values.map String.toList) =
    listed.filter fun c => !Text.isGap c
  listed_start : ∃ c cs, listed = c :: cs ∧ Text.isBlank c = false
  listed_gaps : GapsAtPipes false listed
  longest : ∀ longer, GapsAtPipes false longer → longer <+: listed ++ rest → longer <+: listed
  rest_blank : ∀ c ∈ rest.head?, Text.isBlank c = true
  rest_pipe : (rest.dropWhile Text.isGap).head? ≠ some '|'
  described : (∃ c ∈ rest.head?, Text.isGap c = true) →
    Unclosed (rest.takeWhile (· != '\r')) note.description.toList
  undescribed : (∀ c ∈ rest.head?, Text.isGap c = false) → note.description = ""

/-- A value follows the field. -/
def HasValue (line : List Char) : Prop :=
  ∃ gaps field inner c more, line = gaps ++ (field ++ (inner ++ c :: more)) ∧
    IsEnum gaps field inner (c :: more) ∧ inner ≠ [] ∧ Text.isBlank c = false

theorem result_readEnum_row (text : List Char) :
    (readEnum (Text.row text)).result = (readEnum text).result := by
  simp only [readEnum, Reading.failLine, Text.row_of_not_mem (not_mem_row text)]

theorem describe_spec (rest : List Char) :
    ((∃ c ∈ rest.head?, Text.isGap c = true) →
      Unclosed (rest.takeWhile (· != '\r')) (describe rest)) ∧
    ((∀ c ∈ rest.head?, Text.isGap c = false) → describe rest = []) := by
  cases rest with
  | nil => simp [describe]
  | cons c cs =>
      constructor
      · rintro ⟨_, ⟨⟩, hgap⟩
        rw [describe, if_pos hgap]
        exact unclosed_stripClose _
      · intro h
        rw [describe, if_neg (by simp [h c rfl])]

theorem takeValues_eq_nil_iff (h : ∀ c ∈ text.head?, Text.isGap c = false) :
    takeValues false text = [] ↔ ∀ c ∈ text.head?, Text.isBlank c = true := by
  cases text with
  | nil => simp [takeValues]
  | cons c cs =>
      have hgap : Text.isGap c = false := h c rfl
      cases hblank : Text.isBlank c with
      | false =>
          rw [takeValues]
          split
          · simp [hblank]
          · simp [hblank]
      | true =>
          have hpipe : c ≠ '|' := by
            rintro rfl
            cases hblank
          rw [takeValues, if_neg hpipe, if_pos hblank, if_neg (by simp [hgap])]
          simp [hblank]

/-- Values begin with no blank, and with what the text begins with. -/
theorem exists_takeValues_eq_cons (h : ∀ c ∈ text.head?, Text.isGap c = false)
    (hne : takeValues false text ≠ []) :
    ∃ c cs, takeValues false text = c :: cs ∧ Text.isBlank c = false := by
  obtain ⟨c, cs, hvalues⟩ := List.exists_cons_of_ne_nil hne
  obtain ⟨more, hmore⟩ := takeValues_isPrefix false text
  refine ⟨c, cs, hvalues, ?_⟩
  rw [hvalues] at hmore
  rw [Ne, takeValues_eq_nil_iff h, ← hmore] at hne
  simpa using hne

section Parts

variable {gaps field inner : List Char} {note : EnumNote}

/-- The parts that a line is cut into are split as an enumeration. -/
theorem splitsAs_of_isEnum (h : IsEnum gaps field inner rest) (hinner : inner ≠ [])
    (hvalues : takeValues false rest ≠ []) :
    SplitsAs (gaps ++ (field ++ (inner ++ rest)))
      ⟨String.ofList field, splitValues (takeValues false rest),
        String.ofList (describe (rest.drop (takeValues false rest).length))⟩
      gaps inner (takeValues false rest) (rest.drop (takeValues false rest).length) := by
  have hcut : takeValues false rest ++ rest.drop (takeValues false rest).length = rest :=
    (List.prefix_append_drop (takeValues_isPrefix false rest)).symm
  obtain ⟨hblank, hpipe⟩ := takeValues_stops hcut.symm
  obtain ⟨hdescribed, hundescribed⟩ := describe_spec (rest.drop (takeValues false rest).length)
  exact {
    line_eq := by rw [String.toList_ofList, hcut]
    isEnum := by rwa [String.toList_ofList, hcut]
    inner_ne := hinner
    values_eq := rfl
    length_values := by rw [splitValues, List.length_map, length_splitOn]
    joined := intercalate_splitValues false rest
    listed_start := exists_takeValues_eq_cons h.inner_stop hvalues
    listed_gaps := gapsAtPipes_takeValues false rest
    longest := fun longer hlonger hstart => prefix_takeValues hlonger (hcut ▸ hstart)
    rest_blank := hblank
    rest_pipe := hpipe
    described := fun hgap => by rw [String.toList_ofList]; exact hdescribed hgap
    undescribed := fun hgap => by simp only [hundescribed hgap] }

/-- What is read from a line that has a field, in terms of its parts. -/
theorem result_readEnum_of_isEnum (h : IsEnum gaps field inner rest)
    (hline : Text.row text = gaps ++ (field ++ (inner ++ rest))) :
    (readEnum text).result =
      if inner = [] ∨ takeValues false rest = [] then
        .error (.missingValues (String.ofList field))
      else .ok ⟨String.ofList field, splitValues (takeValues false rest),
        String.ofList (describe (rest.drop (takeValues false rest).length))⟩ := by
  rw [← result_readEnum_row]
  exact h.readEnum_eq hline (not_mem_row text)

theorem exists_splitsAs (h : (readEnum text).result = .ok note) :
    ∃ gaps inner listed rest, SplitsAs (Text.row text) note gaps inner listed rest := by
  rcases exists_isEnum (Text.row text) with ⟨gaps, field, inner, rest, hline, hparts⟩ | hlacks
  · rw [result_readEnum_of_isEnum hparts hline] at h
    split at h
    · cases h
    · next hvalues =>
      rw [not_or] at hvalues
      obtain rfl := Except.ok.inj h
      rw [hline]
      exact ⟨gaps, inner, _, _, splitsAs_of_isEnum hparts hvalues.1 hvalues.2⟩
  · rw [← result_readEnum_row, hlacks.readEnum_eq (not_mem_row text)] at h
    cases h

theorem SplitsAs.hasValue {line listed : List Char}
    (h : SplitsAs line note gaps inner listed rest) : HasValue line := by
  obtain ⟨c, listed, rfl, hblank⟩ := h.listed_start
  exact ⟨gaps, note.field.toList, inner, c, listed ++ rest, h.line_eq, h.isEnum, h.inner_ne,
    hblank⟩

/-- A line gives one enumeration. -/
theorem SplitsAs.unique {line listed gaps' inner' listed' rest' : List Char} {note' : EnumNote}
    (h : SplitsAs line note gaps inner listed rest)
    (h' : SplitsAs line note' gaps' inner' listed' rest') : note = note' := by
  obtain ⟨-, hfield, -, htail⟩ := h.isEnum.spans h.line_eq
  obtain ⟨-, hfield', -, htail'⟩ := h'.isEnum.spans h'.line_eq
  have htails : listed ++ rest = listed' ++ rest' := htail.symm.trans htail'
  -- Each of the two lists of values is the longest one.
  have hle : listed <+: listed' :=
    h'.longest listed h.listed_gaps (htails ▸ List.prefix_append listed rest)
  have hge : listed' <+: listed :=
    h.longest listed' h'.listed_gaps (htails ▸ List.prefix_append listed' rest')
  obtain rfl : listed = listed' := hle.eq_of_length_le hge.length_le
  obtain rfl : rest = rest' := List.append_cancel_left htails
  have hdescription : note.description = note'.description := by
    by_cases hgap : ∃ c ∈ rest.head?, Text.isGap c = true
    · exact String.toList_inj.1 ((h.described hgap).unique (h'.described hgap))
    · have hnone : ∀ c ∈ rest.head?, Text.isGap c = false := by
        intro c hc
        exact Bool.eq_false_iff.2 fun htrue => hgap ⟨c, hc, htrue⟩
      rw [h.undescribed hnone, h'.undescribed hnone]
  have hfields : note.field = note'.field := String.toList_inj.1 (hfield.symm.trans hfield')
  have hvalues : note.values = note'.values := h.values_eq.trans h'.values_eq.symm
  calc note = ⟨note.field, note.values, note.description⟩ := rfl
    _ = ⟨note'.field, note'.values, note'.description⟩ := by rw [hfields, hvalues, hdescription]

/-- An enumeration is read exactly when a value follows the field. -/
theorem exists_readEnum_iff :
    (∃ note, (readEnum text).result = .ok note) ↔ HasValue (Text.row text) := by
  constructor
  · rintro ⟨note, h⟩
    obtain ⟨gaps, inner, listed, rest, hsplit⟩ := exists_splitsAs h
    exact hsplit.hasValue
  · rintro ⟨gaps, field, inner, c, more, hline, hparts, hinner, hblank⟩
    have hvalues : takeValues false (c :: more) ≠ [] := by
      rw [Ne, takeValues_eq_nil_iff hparts.inner_stop]
      simp [hblank]
    rw [result_readEnum_of_isEnum hparts hline, if_neg (not_or.2 ⟨hinner, hvalues⟩)]
    exact ⟨_, rfl⟩

end Parts

/-- An enumeration is read exactly when a value follows the field, and it is the one that the line
is split as. -/
theorem readEnum_splits (text : List Char) :
    ((∃ note, (readEnum text).result = .ok note) ↔ HasValue (Text.row text)) ∧
    ∀ note, (readEnum text).result = .ok note ↔
      ∃ gaps inner listed rest, SplitsAs (Text.row text) note gaps inner listed rest := by
  refine ⟨exists_readEnum_iff, fun note => ⟨exists_splitsAs, ?_⟩⟩
  rintro ⟨gaps, inner, listed, rest, hsplit⟩
  obtain ⟨read, hread⟩ := exists_readEnum_iff.2 hsplit.hasValue
  obtain ⟨_, _, _, _, hsplit'⟩ := exists_splitsAs hread
  rw [hread, hsplit.unique hsplit']

/-- Gaps around pipes, an empty value, a description and the end of the comment. -/
theorem readEnum_splits_remark :
    let text := " state\tdraft |live||\told  Life cycle */\r\n @LRDdeprecated".toList
    let note : EnumNote := ⟨"state", ["draft", "live", "", "old"], "Life cycle"⟩
    (readEnum text).result = .ok note ∧
      ∃ gaps inner listed rest, SplitsAs (Text.row text) note gaps inner listed rest := by
  intro text note
  have hread : (readEnum text).result = .ok note := by decide +kernel
  exact ⟨hread, ((readEnum_splits text).2 note).1 hread⟩

end Tag

end ApiNotes
