import ApiNotes.Proofs.Notes.Recorded
import ApiNotes.Proofs.Notes.WellFormed
import ApiNotes.Proofs.Tag.LineEnding
import ApiNotes.Proofs.Tag.Spans
import ApiNotes.Proofs.Text.Slice

/-!
# Comments that are closed on their line

A comment of one line may be closed there. The readers of objects do not see what is behind an
object, and a message or a description is freed of the `*/` that it ends with, so for most texts
closing the comment changes nothing. The values of an enumeration are not freed of it. Where the
line breaks off before the first value, or behind a pipe, the `*/` is read as the value that is
missing there (`AwaitsValue`), and this is the only place where it is read as part of an argument
(`ofComment_closing`).

One tag is dealt with in `readArguments_closing` and `result_readEnum_of_awaitsValue`. The search
then goes through the closed text as through the open one: a tag that reads to the end of the line
is the last one in both, and behind any other tag the same text is left (`Scanned.closing`).
-/

namespace ApiNotes

namespace Tag

variable {text args values line : List Char}

/-- What closes a comment of one line. -/
def closing : List Char :=
  [' ', '*', '/']

/-! ### Objects and lines -/

/-- Text without a brace closes no object. -/
theorem lengthToClose_of_append {region : Region} {depth n : Nat} {more : List Char}
    (hmore : '}' ∉ more) (h : lengthToClose region depth (text ++ more) = .ok n) :
    lengthToClose region depth text = .ok n := by
  induction text generalizing region depth n with
  | nil =>
      obtain ⟨body, rest, rfl, -, -⟩ := exists_of_lengthToClose_eq_ok h
      simp at hmore
  | cons c cs ih =>
      obtain ⟨hc, rfl⟩ | ⟨hc, hi, m, hm, rfl⟩ := lengthToClose_cons_eq_ok_iff.1 h
      · exact lengthToClose_cons_eq_ok_iff.2 (Or.inl ⟨hc, rfl⟩)
      · exact lengthToClose_cons_eq_ok_iff.2
          (Or.inr ⟨hc, interruption?_of_append hi, m, ih hm, rfl⟩)

theorem trails_closing : Trails closing := by
  refine ⟨⟨' ', ['*', '/'], rfl, by decide, by decide⟩, ?_, fun kind line _ => ?_⟩
  · rintro c ⟨⟩
    exact ⟨by decide, by decide, by decide⟩
  · cases hlength : objectLength line with
    | ok n =>
        rw [readOpen_append hlength]
        exact .refl _
    | error why =>
        cases hmore : objectLength (line ++ closing) with
        | ok n =>
            have hsame : objectLength line = .ok n := lengthToClose_of_append (by decide) hmore
            rw [hsame] at hlength
            cases hlength
        | error why' =>
            have hline : (readOpen kind line).result = .error (.openObject kind why) := by
              rw [readOpen, hlength]
              rfl
            have hclosed : (readOpen kind (line ++ closing)).result =
                .error (.openObject kind why') := by
              rw [readOpen, hmore]
              rfl
            exact .of_error hline hclosed

/-- The end of the comment is taken off a line, with the blanks in front of it. -/
theorem stripClose_closing (text : List Char) : stripClose (text ++ closing) = Text.trim text := by
  have htrim : Text.trim (text ++ closing) = Text.trimStart (text ++ [' ']) ++ ['*', '/'] := by
    have hstart : Text.trimStart (text ++ closing) =
        Text.trimStart (text ++ [' ']) ++ ['*', '/'] := by
      have hcut : text ++ closing = (text ++ [' ']) ++ '*' :: ['/'] := by simp [closing]
      rw [hcut]
      exact (Text.span_append_of_stop (by decide) (text ++ [' ']) ['/']).2
    rw [Text.trim, hstart]
    exact Text.trimEnd_of_getLast? (by simp) (by decide : Text.isBlank '/' = false)
  have hrest : stripClose (text ++ closing) = Text.trimEnd (Text.trimStart (text ++ [' '])) := by
    simp [stripClose, htrim]
  rw [hrest]
  exact Text.trim_append (List.all_eq_true.1 rfl) text

theorem stripClose_of_not_infix (h : ¬ ['*', '/'] <:+: text) :
    stripClose text = Text.trim text := by
  simp only [stripClose]
  split
  · next rest hrest =>
    have htrim : Text.trim text = rest.reverse ++ ['*', '/'] := by
      rw [← List.reverse_reverse (Text.trim text), hrest]
      simp
    refine absurd (List.IsInfix.trans ?_ (Text.trim_isInfix text)) h
    rw [htrim]
    exact (List.suffix_append rest.reverse ['*', '/']).isInfix
  · rfl

theorem describe_closing (h : ¬ ['*', '/'] <:+: text) :
    describe (text ++ closing) = describe text := by
  cases text with
  | nil => decide
  | cons c cs =>
      rw [List.cons_append, describe, describe]
      split
      · -- A carriage return ends the description on its own.
        rw [← List.cons_append]
        by_cases hreturn : (c :: cs).dropWhile (· != '\r') = []
        · have hall := List.dropWhile_eq_nil_iff.1 hreturn
          have hopen : (c :: cs).takeWhile (· != '\r') = c :: cs := by
            simpa [hreturn] using List.takeWhile_append_dropWhile (p := (· != '\r')) (l := c :: cs)
          have hclosed : (c :: cs ++ closing).takeWhile (· != '\r') = c :: cs ++ closing := by
            rw [List.takeWhile_append_of_pos hall]
            rfl
          rw [hopen, hclosed, stripClose_closing, stripClose_of_not_infix h]
        · rw [(Text.span_append_of_ne_nil hreturn closing).1]
      · rfl

/-! ### Values -/

/-- Nothing but gaps stands behind the last pipe, where a pipe may stand right before the text. -/
def BehindPipe (afterPipe : Bool) (values : List Char) : Prop :=
  (afterPipe = true ∧ ∀ c ∈ values, Text.isGap c = true) ∨
    ∃ before gaps, values = before ++ '|' :: gaps ∧ ∀ c ∈ gaps, Text.isGap c = true

/-- A text that is read as values to its end, and that breaks off behind a pipe. -/
def OpenValues (afterPipe : Bool) (values : List Char) : Prop :=
  takeValues afterPipe values = values ∧ BehindPipe afterPipe values

theorem behindPipe_pipe (afterPipe : Bool) (cs : List Char) :
    BehindPipe afterPipe ('|' :: cs) ↔ BehindPipe true cs := by
  constructor
  · rintro (⟨-, hgaps⟩ | ⟨before, gaps, hcut, hgaps⟩)
    · exact absurd (hgaps '|' List.mem_cons_self) (by decide)
    · cases before with
      | nil =>
          obtain ⟨-, rfl⟩ := List.cons.inj hcut
          exact Or.inl ⟨rfl, hgaps⟩
      | cons d before =>
          obtain ⟨-, rfl⟩ := List.cons.inj hcut
          exact Or.inr ⟨before, gaps, rfl, hgaps⟩
  · rintro (⟨-, hgaps⟩ | ⟨before, gaps, rfl, hgaps⟩)
    · exact Or.inr ⟨[], cs, rfl, hgaps⟩
    · exact Or.inr ⟨'|' :: before, gaps, rfl, hgaps⟩

theorem behindPipe_cons {c : Char} (hpipe : c ≠ '|') (afterPipe : Bool) (cs : List Char) :
    BehindPipe afterPipe (c :: cs) ↔ BehindPipe (afterPipe && Text.isGap c) cs := by
  constructor
  · rintro (⟨rfl, hgaps⟩ | ⟨before, gaps, hcut, hgaps⟩)
    · rw [List.forall_mem_cons] at hgaps
      exact Or.inl ⟨by rw [hgaps.1]; rfl, hgaps.2⟩
    · cases before with
      | nil => exact absurd (List.cons.inj hcut).1 hpipe
      | cons d before =>
          obtain ⟨-, rfl⟩ := List.cons.inj hcut
          exact Or.inr ⟨before, gaps, rfl, hgaps⟩
  · rintro (⟨hboth, hgaps⟩ | ⟨before, gaps, rfl, hgaps⟩)
    · rw [Bool.and_eq_true] at hboth
      exact Or.inl ⟨hboth.1, List.forall_mem_cons.2 ⟨hboth.2, hgaps⟩⟩
    · exact Or.inr ⟨c :: before, gaps, rfl, hgaps⟩

theorem pipe_ahead_closing (cs : List Char) :
    ((cs ++ closing).dropWhile Text.isGap).head? = some '|' ↔
      (cs.dropWhile Text.isGap).head? = some '|' := by
  by_cases hgaps : cs.dropWhile Text.isGap = []
  · rw [List.dropWhile_append_of_pos (List.dropWhile_eq_nil_iff.1 hgaps), hgaps]
    decide
  · obtain ⟨c, rest, hcs⟩ := List.exists_cons_of_ne_nil hgaps
    rw [(Text.span_append_of_ne_nil hgaps closing).2, hcs]
    rfl

/-- The end of the comment is read as a value where the values break off behind a pipe, and
nowhere else. -/
theorem takeValues_closing (afterPipe : Bool) (values : List Char) :
    OpenValues afterPipe values ∧
        takeValues afterPipe (values ++ closing) = values ++ closing ∨
      ¬ OpenValues afterPipe values ∧
        takeValues afterPipe (values ++ closing) = takeValues afterPipe values := by
  induction values generalizing afterPipe with
  | nil =>
      cases afterPipe with
      | true => exact Or.inl ⟨⟨rfl, Or.inl ⟨rfl, List.forall_mem_nil _⟩⟩, by decide⟩
      | false => exact Or.inr ⟨by simp [OpenValues, BehindPipe], by decide⟩
  | cons c cs ih =>
      -- Where the first character belongs to the values, the others decide.
      have hstep (next : Bool) (htake : takeValues afterPipe (c :: cs) = c :: takeValues next cs)
          (hclosed : takeValues afterPipe (c :: (cs ++ closing)) =
            c :: takeValues next (cs ++ closing))
          (hpipe : BehindPipe afterPipe (c :: cs) ↔ BehindPipe next cs) :
          OpenValues afterPipe (c :: cs) ∧
              takeValues afterPipe (c :: cs ++ closing) = c :: cs ++ closing ∨
            ¬ OpenValues afterPipe (c :: cs) ∧
              takeValues afterPipe (c :: cs ++ closing) = takeValues afterPipe (c :: cs) := by
        have hopen : OpenValues afterPipe (c :: cs) ↔ OpenValues next cs := by
          rw [OpenValues, htake, hpipe, List.cons.injEq]
          exact and_congr_left fun _ => and_iff_right rfl
        rw [hopen, List.cons_append, hclosed, htake]
        simpa only [List.cons.injEq, true_and] using ih next
      have hahead := pipe_ahead_closing cs
      by_cases hpipe : c = '|'
      · subst hpipe
        refine hstep true ?_ ?_ (behindPipe_pipe afterPipe cs)
        · rw [takeValues, if_pos rfl]
        · rw [takeValues, if_pos rfl]
      cases hblank : Text.isBlank c with
      | false =>
          have hgap := isGap_of_not_blank hblank
          refine hstep false ?_ ?_ ?_
          · rw [takeValues, if_neg hpipe, if_neg (by simp [hblank])]
          · rw [takeValues, if_neg hpipe, if_neg (by simp [hblank])]
          · rw [behindPipe_cons hpipe, hgap, Bool.and_false]
      | true =>
          by_cases htaken : Text.isGap c = true ∧
              (afterPipe = true ∨ (cs.dropWhile Text.isGap).head? = some '|')
          · refine hstep afterPipe ?_ ?_ ?_
            · rw [takeValues, if_neg hpipe, if_pos hblank, if_pos htaken]
            · rw [takeValues, if_neg hpipe, if_pos hblank, if_pos (by rwa [hahead])]
            · rw [behindPipe_cons hpipe, htaken.1, Bool.and_true]
          · have hnone : takeValues afterPipe (c :: cs) = [] := by
              rw [takeValues, if_neg hpipe, if_pos hblank, if_neg htaken]
            right
            refine ⟨fun hopen => ?_, ?_⟩
            · rw [OpenValues, hnone] at hopen
              cases hopen.1
            · rw [hnone, List.cons_append, takeValues, if_neg hpipe, if_pos hblank,
                if_neg (by rwa [hahead])]

theorem splitValues_closing (h : OpenValues false values) :
    ∃ front, splitValues values = front ++ [""] ∧
      splitValues (values ++ closing) = front ++ ["*/"] := by
  obtain ⟨-, ⟨hfalse, -⟩ | ⟨before, gaps, rfl, hgaps⟩⟩ := h
  · cases hfalse
  · have hblanks : ∀ c ∈ gaps, Text.isBlank c = true := fun c hc => isBlank_of_isGap (hgaps c hc)
    have hpipe : '|' ∉ gaps := fun hmem => absurd (hgaps '|' hmem) (by decide)
    have hpipe' : '|' ∉ gaps ++ closing := by
      rw [List.mem_append, not_or]
      exact ⟨hpipe, by decide⟩
    have hempty : Text.trim gaps = [] := by
      have hpadded := Text.trim_padded hblanks (List.forall_mem_nil _) (List.forall_mem_nil _)
      rwa [List.append_nil, List.append_nil] at hpadded
    have hvalue : Text.trim (gaps ++ closing) = ['*', '/'] := by
      have hleft : ∀ c ∈ gaps ++ [' '], Text.isBlank c = true := by
        rw [List.forall_mem_append]
        exact ⟨hblanks, List.all_eq_true.1 rfl⟩
      have hword : ∀ c ∈ ['*', '/'], Text.isBlank c = false := by simp [Text.isBlank]
      have hpadded := Text.trim_padded hleft hword (List.forall_mem_nil _)
      rwa [List.append_nil, List.append_assoc] at hpadded
    refine ⟨splitValues before, ?_, ?_⟩
    · rw [splitValues, List.splitOn_append_cons_self, List.splitOn_eq_singleton hpipe,
        List.map_append, List.map_singleton, hempty]
      rfl
    · rw [List.append_assoc, List.cons_append, splitValues, List.splitOn_append_cons_self,
        List.splitOn_eq_singleton hpipe', List.map_append, List.map_singleton, hvalue]
      rfl

/-! ### Enumerations -/

/-- The arguments of an enumeration on one line: gaps, a field, gaps again, and the rest of the
line, where each part goes as far as it can. -/
structure IsEnum (gaps field inner rest : List Char) : Prop where
  gaps_ne : gaps ≠ []
  gaps_all : ∀ c ∈ gaps, Text.isGap c = true
  field_ne : field ≠ []
  field_all : ∀ c ∈ field, Text.isWordChar c = true
  inner_all : ∀ c ∈ inner, Text.isGap c = true
  field_stop : ∀ c ∈ (inner ++ rest).head?, Text.isWordChar c = false
  inner_stop : ∀ c ∈ rest.head?, Text.isGap c = false

/-- The arguments of an enumeration that break off where a value has to come: behind the field, or
behind a pipe. -/
def AwaitsValue (args : List Char) : Prop :=
  ∃ gaps field inner rest, args = gaps ++ (field ++ (inner ++ rest)) ∧
    IsEnum gaps field inner rest ∧ (rest = [] ∨ inner ≠ [] ∧ OpenValues false rest)

/-- There is no field, or no gap in front of it. -/
def LacksField (args : List Char) : Prop :=
  args.takeWhile Text.isGap = [] ∨ (args.dropWhile Text.isGap).takeWhile Text.isWordChar = []

variable {gaps field inner rest : List Char}

theorem isWordChar_of_isGap {c : Char} (h : Text.isGap c = true) : Text.isWordChar c = false := by
  cases hword : Text.isWordChar c with
  | false => rfl
  | true =>
      rw [isGap_of_not_blank (isBlank_of_isWordChar hword)] at h
      cases h

/-- The parts are cut out of the line one after the other. -/
theorem IsEnum.spans (h : IsEnum gaps field inner rest)
    (hargs : args = gaps ++ (field ++ (inner ++ rest))) :
    args.takeWhile Text.isGap = gaps ∧
      (args.dropWhile Text.isGap).takeWhile Text.isWordChar = field ∧
      ((args.dropWhile Text.isGap).dropWhile Text.isWordChar).takeWhile Text.isGap = inner ∧
      ((args.dropWhile Text.isGap).dropWhile Text.isWordChar).dropWhile Text.isGap = rest := by
  have hstart : ∀ c ∈ (field ++ (inner ++ rest)).head?, Text.isGap c = false := by
    obtain ⟨d, field', hfield⟩ := List.exists_cons_of_ne_nil h.field_ne
    have hword := h.field_all
    rw [hfield] at hword ⊢
    rintro c ⟨⟩
    exact isGap_of_not_blank (isBlank_of_isWordChar (hword d List.mem_cons_self))
  obtain ⟨hgaps, hbehind⟩ := Text.span_append h.gaps_all hstart
  obtain ⟨hfield, hinner⟩ := Text.span_append h.field_all h.field_stop
  obtain ⟨hinner', hrest⟩ := Text.span_append h.inner_all h.inner_stop
  rw [hargs, hbehind, hinner]
  exact ⟨hgaps, hfield, hinner', hrest⟩

/-- A line has the parts of an enumeration, or it lacks the field. -/
theorem exists_isEnum (args : List Char) :
    (∃ gaps field inner rest, args = gaps ++ (field ++ (inner ++ rest)) ∧
        IsEnum gaps field inner rest) ∨ LacksField args := by
  by_cases hgaps : args.takeWhile Text.isGap = []
  · exact Or.inr (Or.inl hgaps)
  by_cases hfield : (args.dropWhile Text.isGap).takeWhile Text.isWordChar = []
  · exact Or.inr (Or.inr hfield)
  left
  refine ⟨args.takeWhile Text.isGap, (args.dropWhile Text.isGap).takeWhile Text.isWordChar,
    ((args.dropWhile Text.isGap).dropWhile Text.isWordChar).takeWhile Text.isGap,
    ((args.dropWhile Text.isGap).dropWhile Text.isWordChar).dropWhile Text.isGap, ?_, hgaps,
    fun c hc => List.mem_takeWhile_imp hc, hfield, fun c hc => List.mem_takeWhile_imp hc,
    fun c hc => List.mem_takeWhile_imp hc, ?_, Text.head?_dropWhile _ _⟩
  · simp only [List.takeWhile_append_dropWhile]
  · rw [List.takeWhile_append_dropWhile]
    exact Text.head?_dropWhile _ _

theorem awaitsValue_iff (h : IsEnum gaps field inner rest)
    (hargs : args = gaps ++ (field ++ (inner ++ rest))) :
    AwaitsValue args ↔ rest = [] ∨ inner ≠ [] ∧ OpenValues false rest := by
  constructor
  · rintro ⟨gaps', field', inner', rest', hargs', h', hrest⟩
    obtain ⟨-, -, rfl, rfl⟩ := h.spans hargs
    obtain ⟨-, -, rfl, rfl⟩ := h'.spans hargs'
    exact hrest
  · intro hrest
    exact ⟨gaps, field, inner, rest, hargs, h, hrest⟩

/-- What is made of the parts of an enumeration. -/
theorem IsEnum.readEnum_eq (h : IsEnum gaps field inner rest)
    (hargs : args = gaps ++ (field ++ (inner ++ rest))) (hline : '\n' ∉ args) :
    (readEnum args).result =
      if inner = [] ∨ takeValues false rest = [] then
        .error (.missingValues (String.ofList field))
      else .ok ⟨String.ofList field, splitValues (takeValues false rest),
        String.ofList (describe (rest.drop (takeValues false rest).length))⟩ := by
  obtain ⟨hgaps, hfield, hinner, hrest⟩ := h.spans hargs
  simp only [readEnum, Text.row_of_not_mem hline, hgaps, hfield, hinner, hrest, h.gaps_ne,
    h.field_ne, or_self, if_false]
  split <;> rfl

theorem LacksField.readEnum_eq (h : LacksField args) (hline : '\n' ∉ args) :
    (readEnum args).result = .error .missingField := by
  rw [LacksField] at h
  simp only [readEnum, Text.row_of_not_mem hline, h, if_true]
  rfl

/-- Behind a part of the line, the end of the comment is a part of the rest. -/
theorem IsEnum.closing_of_ne_nil (h : IsEnum gaps field inner rest) (hne : rest ≠ []) :
    IsEnum gaps field inner (rest ++ closing) := by
  obtain ⟨c, cs, rfl⟩ := List.exists_cons_of_ne_nil hne
  refine ⟨h.gaps_ne, h.gaps_all, h.field_ne, h.field_all, h.inner_all, ?_, h.inner_stop⟩
  have hstop := h.field_stop
  cases inner with
  | nil => exact hstop
  | cons d inner => exact hstop

/-- Where the line has no rest, the end of the comment is the rest. -/
theorem IsEnum.closing_of_nil (h : IsEnum gaps field inner []) :
    IsEnum gaps field (inner ++ [' ']) ['*', '/'] := by
  refine ⟨h.gaps_ne, h.gaps_all, h.field_ne, h.field_all, ?_, ?_, ?_⟩
  · rw [List.forall_mem_append]
    exact ⟨h.inner_all, List.all_eq_true.1 rfl⟩
  · cases inner with
    | nil =>
        rintro c ⟨⟩
        decide
    | cons d inner =>
        rintro c ⟨⟩
        exact isWordChar_of_isGap (h.inner_all d List.mem_cons_self)
  · rintro c ⟨⟩
    decide

theorem lacksField_closing (h : LacksField args) : LacksField (args ++ closing) := by
  by_cases hrest : args.dropWhile Text.isGap = []
  · right
    rw [List.dropWhile_append_of_pos (List.dropWhile_eq_nil_iff.1 hrest)]
    decide
  · obtain ⟨htake, hdrop⟩ := Text.span_append_of_ne_nil hrest closing
    have hword : (args.dropWhile Text.isGap ++ closing).takeWhile Text.isWordChar =
        (args.dropWhile Text.isGap).takeWhile Text.isWordChar :=
      (Text.span_append_of_stop (by decide) _ ['*', '/']).1
    rw [LacksField, htake, hdrop, hword]
    exact h

theorem not_mem_closing (hline : '\n' ∉ args) : '\n' ∉ args ++ closing := by
  rw [List.mem_append, not_or]
  exact ⟨hline, by decide⟩

/-- What ends an open line is an open line. -/
theorem open_of_suffix {ys xs : List Char} (hline : '\n' ∉ xs) (hclose : ¬ ['*', '/'] <:+: xs)
    (h : ys <:+ xs) : '\n' ∉ ys ∧ ¬ ['*', '/'] <:+: ys :=
  ⟨fun hmem => hline (h.subset hmem), fun hpart => hclose (hpart.trans h.isInfix)⟩

/-- An enumeration that awaits no value is the same when the comment is closed. -/
theorem result_readEnum_closing (hline : '\n' ∉ args) (hclose : ¬ ['*', '/'] <:+: args)
    (h : ¬ AwaitsValue args) :
    (readEnum (args ++ closing)).result = (readEnum args).result := by
  have hline' := not_mem_closing hline
  rcases exists_isEnum args with ⟨gaps, field, inner, rest, hargs, hparts⟩ | hlacks
  · rw [awaitsValue_iff hparts hargs, not_or] at h
    obtain ⟨hne, hopen⟩ := h
    have hargs' : args ++ closing = gaps ++ (field ++ (inner ++ (rest ++ closing))) := by
      rw [hargs]
      simp
    rw [(hparts.closing_of_ne_nil hne).readEnum_eq hargs' hline', hparts.readEnum_eq hargs hline]
    by_cases hinner : inner = []
    · rw [if_pos (Or.inl hinner), if_pos (Or.inl hinner)]
    rcases takeValues_closing false rest with ⟨hvalues, -⟩ | ⟨-, hvalues⟩
    · exact absurd ⟨hinner, hvalues⟩ hopen
    · have hdescribe : describe ((rest ++ closing).drop (takeValues false rest).length) =
          describe (rest.drop (takeValues false rest).length) := by
        rw [List.drop_append_of_le_length (takeValues_isPrefix false rest).length_le]
        have hsuffix : rest.drop (takeValues false rest).length <:+ args := by
          rw [hargs, ← List.append_assoc, ← List.append_assoc]
          exact (List.drop_suffix _ rest).trans (List.suffix_append _ rest)
        exact describe_closing (open_of_suffix hline hclose hsuffix).2
      rw [hvalues, hdescribe]
  · rw [hlacks.readEnum_eq hline, (lacksField_closing hlacks).readEnum_eq hline']

/-- An enumeration that awaits a value takes the end of the comment for it. -/
theorem result_readEnum_of_awaitsValue (hline : '\n' ∉ args) (h : AwaitsValue args) :
    ∃ field front, (readEnum (args ++ closing)).result = .ok ⟨field, front ++ ["*/"], ""⟩ ∧
      ((front = [] ∧ '@' ∉ args ∧ ∃ flaw, (readEnum args).result = .error flaw) ∨
        (readEnum args).result = .ok ⟨field, front ++ [""], ""⟩) := by
  have hline' := not_mem_closing hline
  obtain ⟨gaps, field, inner, rest, hargs, hparts, rfl | ⟨hinner, hopen⟩⟩ := h
  · have hargs' : args ++ closing = gaps ++ (field ++ ((inner ++ [' ']) ++ ['*', '/'])) := by
      rw [hargs]
      simp [closing]
    have hvalues : takeValues false ['*', '/'] = ['*', '/'] := by decide
    have hsplit : splitValues ['*', '/'] = ["*/"] := by decide
    have hnone : takeValues false [] = [] := rfl
    refine ⟨String.ofList field, [], ?_, Or.inl ⟨rfl, ?_, .missingValues (String.ofList field), ?_⟩⟩
    · rw [hparts.closing_of_nil.readEnum_eq hargs' hline', hvalues, if_neg (by simp), hsplit]
      rfl
    · have hat : ∀ part : List Char, (∀ c ∈ part, Text.isGap c = true ∨ Text.isWordChar c = true) →
          '@' ∉ part := fun part hpart hmem => absurd (hpart '@' hmem) (by decide)
      rw [hargs]
      apply hat
      simp only [List.mem_append, List.not_mem_nil, or_false]
      rintro c (hc | hc | hc)
      · exact Or.inl (hparts.gaps_all c hc)
      · exact Or.inr (hparts.field_all c hc)
      · exact Or.inl (hparts.inner_all c hc)
    · rw [hparts.readEnum_eq hargs hline, if_pos (Or.inr hnone)]
  · have hne : rest ≠ [] := by
      rintro rfl
      simp [OpenValues, BehindPipe] at hopen
    have hargs' : args ++ closing = gaps ++ (field ++ (inner ++ (rest ++ closing))) := by
      rw [hargs]
      simp
    have hvalues : takeValues false (rest ++ closing) = rest ++ closing := by
      rcases takeValues_closing false rest with ⟨-, hvalues⟩ | ⟨hnot, -⟩
      · exact hvalues
      · exact absurd hopen hnot
    obtain ⟨front, hsplit, hsplit'⟩ := splitValues_closing hopen
    refine ⟨String.ofList field, front, ?_, Or.inr ?_⟩
    · rw [(hparts.closing_of_ne_nil hne).readEnum_eq hargs' hline', hvalues,
        if_neg (by simp [hinner, hne]), List.drop_length, hsplit']
      rfl
    · rw [hparts.readEnum_eq hargs hline, hopen.1, if_neg (by simp [hinner, hne]),
        List.drop_length, hsplit]
      rfl

/-! ### The arguments of one tag -/

theorem readArguments_enumeration {note : EnumNote} (hline : '\n' ∉ args)
    (h : (readEnum args).result = .ok note) :
    readArguments .enumeration args = ⟨.ok (.enumeration note), args.length⟩ := by
  have hreach := reach_readEnum args
  rw [Text.row_of_not_mem hline] at hreach
  rw [readArguments, Reading.map, h, hreach]
  rfl

/-- Where no value is awaited behind it, a tag stays as it is when the comment is closed: one that
reads an object is kept, and one that reads to the end of the line says the same and covers the end
of the comment. -/
theorem readArguments_closing {kind : Kind} (hline : '\n' ∉ args)
    (hclose : ¬ ['*', '/'] <:+: args) (h : kind = .enumeration → ¬ AwaitsValue args) :
    ((readArguments kind args).Keeps (readArguments kind (args ++ closing)) ∧
        ∀ note, (readArguments kind args).result ≠ .ok (.enumeration note)) ∨
      ∃ entry, readArguments kind args = ⟨.ok entry, args.length⟩ ∧
        readArguments kind (args ++ closing) = ⟨.ok entry, (args ++ closing).length⟩ := by
  have hrow := Text.row_of_not_mem hline
  have hrow' := Text.row_of_not_mem (not_mem_closing hline)
  cases kind with
  | response =>
      refine Or.inl ⟨(trails_closing.readResponse .response args).map _, fun note hnote => ?_⟩
      obtain ⟨_, -, hentry⟩ := Reading.result_map_eq_ok_iff.1 hnote
      cases hentry
  | error =>
      refine Or.inl ⟨(trails_closing.readResponse .error args).map _, fun note hnote => ?_⟩
      obtain ⟨_, -, hentry⟩ := Reading.result_map_eq_ok_iff.1 hnote
      cases hentry
  | sample =>
      refine Or.inl ⟨(trails_closing.readSample args).map _, fun note hnote => ?_⟩
      obtain ⟨_, -, hentry⟩ := Reading.result_map_eq_ok_iff.1 hnote
      cases hentry
  | enumeration =>
      have hsame := result_readEnum_closing hline hclose (h rfl)
      have hreach := reach_readEnum args
      have hreach' := reach_readEnum (args ++ closing)
      rw [hrow] at hreach
      rw [hrow'] at hreach'
      simp only [readArguments, Reading.map, hreach, hreach', hsame]
      cases (readEnum args).result with
      | ok note => exact Or.inr ⟨.enumeration note, rfl, rfl⟩
      | error flaw =>
          refine Or.inl ⟨.of_error rfl rfl, fun note hnote => ?_⟩
          cases hnote
  | deprecated =>
      right
      refine ⟨.deprecated (.ofMessage (String.ofList (stripClose args))), ?_, ?_⟩
      · simp only [readArguments, readDeprecation, Reading.map, hrow]
        rfl
      · simp only [readArguments, readDeprecation, Reading.map, hrow', stripClose_closing,
          stripClose_of_not_infix hclose]
        rfl

/-! ### The search -/

/-- In a text that starts at byte `offset`, one of the tags is an enumeration that awaits a value
at the end of the text. -/
def Awaits (offset : Nat) (text : List Char) (os : List Occurrence) : Prop :=
  ∃ o ∈ os, o.kind = some .enumeration ∧
    ∃ before args, text = before ++ (tagText o.name.toList ++ args) ∧
      o.span.start = offset + Text.byteLength before ∧ AwaitsValue args

variable {offset : Nat} {os : List Occurrence} {o : Occurrence} {name behind : List Char}

theorem not_awaits_nil : ¬ Awaits offset text [] := by
  rintro ⟨o, ho, -⟩
  cases ho

theorem awaits_append_iff {pre : List Char}
    (hos : ∀ o ∈ os, offset + Text.byteLength pre ≤ o.span.start) :
    Awaits offset (pre ++ text) os ↔ Awaits (offset + Text.byteLength pre) text os := by
  constructor
  · rintro ⟨o, ho, hkind, before, args, htext, hstart, hawaits⟩
    have hle := hos o ho
    obtain ⟨between, rfl, rfl⟩ := Text.exists_append_of_byteLength_le htext (by omega)
    refine ⟨o, ho, hkind, between, args, rfl, ?_, hawaits⟩
    rw [hstart, Text.byteLength_append, Nat.add_assoc]
  · rintro ⟨o, ho, hkind, before, args, rfl, hstart, hawaits⟩
    refine ⟨o, ho, hkind, pre ++ before, args, by simp, ?_, hawaits⟩
    rw [hstart, Text.byteLength_append, Nat.add_assoc]

theorem awaits_cons_iff (hname : o.name = String.ofList name) (hstart : o.span.start = offset) :
    Awaits offset (tagText name ++ behind) (o :: os) ↔
      (o.kind = some .enumeration ∧ AwaitsValue behind) ∨
        Awaits offset (tagText name ++ behind) os := by
  constructor
  · rintro ⟨o', ho', hkind, before, args, htext, hstart', hawaits⟩
    rcases List.mem_cons.1 ho' with rfl | ho'
    · have hnil : Text.byteLength [] = Text.byteLength before := by
        rw [Text.byteLength_nil]
        omega
      have hcut : [] ++ (tagText name ++ behind) = before ++ (tagText o'.name.toList ++ args) :=
        htext
      obtain ⟨rfl, htail⟩ := Text.append_inj_of_byteLength_eq hcut hnil
      rw [hname, String.toList_ofList] at htail
      obtain rfl := List.append_cancel_left htail
      exact Or.inl ⟨hkind, hawaits⟩
    · exact Or.inr ⟨o', ho', hkind, before, args, htext, hstart', hawaits⟩
  · rintro (⟨hkind, hawaits⟩ | ⟨o', ho', hawaits⟩)
    · refine ⟨o, List.mem_cons_self, hkind, [], behind, ?_, hstart, hawaits⟩
      rw [hname, String.toList_ofList]
      rfl
    · exact ⟨o', List.mem_cons_of_mem _ ho', hawaits⟩

/-- The entries of a text and those of the closed one, where the end of the comment is taken for a
value of the last one. -/
def Spoils (entries closed : List Entry) : Prop :=
  ∃ first field front, closed = first ++ [.enumeration ⟨field, front ++ ["*/"], ""⟩] ∧
    (∀ note, .enumeration note ∉ first) ∧
      (front = [] ∧ entries = first ∨ entries = first ++ [.enumeration ⟨field, front ++ [""], ""⟩])

theorem Spoils.cons {entries closed : List Entry} {entry : Entry} (h : Spoils entries closed)
    (hentry : ∀ note, entry ≠ .enumeration note) : Spoils (entry :: entries) (entry :: closed) := by
  obtain ⟨first, field, front, rfl, hfirst, hentries⟩ := h
  refine ⟨entry :: first, field, front, rfl, fun note hnote => ?_, ?_⟩
  · rcases List.mem_cons.1 hnote with hnote | hnote
    · exact hentry note hnote.symm
    · exact hfirst note hnote
  · rcases hentries with ⟨hfront, rfl⟩ | rfl
    · exact Or.inl ⟨hfront, rfl⟩
    · exact Or.inr rfl

/-- What closing a comment does to the entries of its tags. -/
def ClosesTo (offset : Nat) (text : List Char) (os closed : List Occurrence) : Prop :=
  (¬ Awaits offset text os ∧ closed.filterMap (fun o => o.result.toOption) =
      os.filterMap fun o => o.result.toOption) ∨
    Awaits offset text os ∧ Spoils (os.filterMap fun o => o.result.toOption)
      (closed.filterMap fun o => o.result.toOption)

theorem ClosesTo.append_left {pre : List Char} {closed : List Occurrence}
    (h : ClosesTo (offset + Text.byteLength pre) text os closed)
    (hscan : Scanned (offset + Text.byteLength pre) text os) :
    ClosesTo offset (pre ++ text) os closed := by
  rwa [ClosesTo, awaits_append_iff fun o ho => (hscan.placed o ho).le_start]

/-- A tag that awaits no value, and that is no enumeration, leaves it to the others. -/
theorem ClosesTo.cons {closed : List Occurrence} {o' : Occurrence}
    (h : ClosesTo offset (tagText name ++ behind) os closed)
    (hname : o.name = String.ofList name) (hstart : o.span.start = offset)
    (hawaits : o.kind = some .enumeration → ¬ AwaitsValue behind)
    (hsame : o'.result.toOption = o.result.toOption)
    (hentry : ∀ note, o.result.toOption ≠ some (.enumeration note)) :
    ClosesTo offset (tagText name ++ behind) (o :: os) (o' :: closed) := by
  have hiff : Awaits offset (tagText name ++ behind) (o :: os) ↔
      Awaits offset (tagText name ++ behind) os := by
    rw [awaits_cons_iff hname hstart]
    exact or_iff_right fun hboth => hawaits hboth.1 hboth.2
  rw [ClosesTo, hiff, List.filterMap_cons, List.filterMap_cons, hsame]
  cases hresult : o.result.toOption with
  | none => exact h
  | some entry =>
      rcases h with ⟨hnot, heq⟩ | ⟨hopen, hspoils⟩
      · exact Or.inl ⟨hnot, congrArg (entry :: ·) heq⟩
      · refine Or.inr ⟨hopen, hspoils.cons fun note hnote => hentry note ?_⟩
        rw [hresult, hnote]

/-- Without a marker there is no tag. -/
theorem Scanned.eq_nil_of_not_mem (h : Scanned offset text os) (hat : '@' ∉ text) : os = [] := by
  rw [List.eq_nil_iff_forall_not_mem]
  intro o ho
  obtain ⟨before, name, behind, rfl, -, -, -⟩ := (h.placed o ho).tag_at
  exact hat (List.mem_append_right _ List.mem_cons_self)

/-- A tag that reads to the end of the text is the last one. -/
theorem scanFrom_to_end {kind : Kind} {entry : Entry} (hname : IsName name behind)
    (hkind : Kind.ofName? (String.ofList name) = some kind)
    (hread : readArguments kind behind = ⟨.ok entry, behind.length⟩) (offset : Nat) :
    scanFrom 0 offset (tagText name ++ behind) = [soundAt offset name behind kind entry] := by
  have hscan : scanFrom 0 offset (tagText name ++ (behind ++ [])) =
      soundAt offset name behind kind entry :: scanFrom 0 _ [] :=
    scanFrom_sound (by rwa [List.append_nil]) hkind (by rwa [List.append_nil]) offset
  rwa [List.append_nil] at hscan

theorem isName_closing (h : IsName name behind) : IsName name (behind ++ closing) :=
  isName_append_cons h (by decide) ['*', '/']

/-- One step of the search at a flawed tag: it stays flawed, unless it awaits its first value. -/
theorem closesTo_flawed (hname : IsName name behind)
    (hflaw : ∀ kind, Kind.ofName? (String.ofList name) = some kind →
      ∃ flaw, (readArguments kind behind).result = .error flaw)
    (hflawed : FlawedAt offset name behind o)
    (hscan : Scanned (offset + Text.byteLength (tagText name)) behind os)
    (hline : '\n' ∉ behind) (hclose : ¬ ['*', '/'] <:+: behind)
    (hrest : ClosesTo (offset + Text.byteLength (tagText name)) behind os
      (scanFrom 0 (offset + Text.byteLength (tagText name)) (behind ++ closing))) :
    ClosesTo offset (tagText name ++ behind) (o :: os)
      (scanFrom 0 offset (tagText name ++ (behind ++ closing))) := by
  obtain ⟨problem, hproblem, -, -⟩ := hflawed.problem
  have hstart : o.span.start = offset := by
    obtain ⟨_, _, -, hspan⟩ := hflawed.span_eq
    rw [hspan]
  by_cases hawaits : o.kind = some .enumeration ∧ AwaitsValue behind
  · have hkind := hflawed.kind_eq.symm.trans hawaits.1
    obtain ⟨flaw, hflaw⟩ := hflaw _ hkind
    obtain ⟨field, front, hclosed, ⟨rfl, hat, -⟩ | hok⟩ :=
      result_readEnum_of_awaitsValue hline hawaits.2
    · -- No tag is in the field or in the gaps around it.
      obtain rfl := hscan.eq_nil_of_not_mem hat
      have hnone : [o].filterMap (fun o => o.result.toOption) = [] := by
        rw [List.filterMap_cons, hproblem]
        rfl
      rw [scanFrom_to_end (isName_closing hname) hkind
        (readArguments_enumeration (not_mem_closing hline) hclosed)]
      exact Or.inr ⟨(awaits_cons_iff hflawed.name_eq hstart).2 (Or.inl hawaits),
        [], field, [], rfl, fun _ => List.not_mem_nil, Or.inl ⟨rfl, hnone⟩⟩
    · rw [readArguments_enumeration hline hok] at hflaw
      cases hflaw
  · rw [not_and] at hawaits
    have hflaw' : ∀ kind, Kind.ofName? (String.ofList name) = some kind →
        ∃ flaw, (readArguments kind (behind ++ closing)).result = .error flaw := by
      intro kind hkind
      obtain ⟨flaw, hflaw⟩ := hflaw kind hkind
      have hnot : kind = .enumeration → ¬ AwaitsValue behind := by
        rintro rfl
        exact hawaits (hflawed.kind_eq.trans hkind)
      rcases readArguments_closing hline hclose hnot with ⟨hkeeps, -⟩ | ⟨entry, hread, -⟩
      · exact hkeeps.exists_error hflaw
      · rw [hread] at hflaw
        cases hflaw
    obtain ⟨o', hflawed', hscan'⟩ := scanFrom_flawed (isName_closing hname) hflaw' offset
    obtain ⟨problem', hproblem', -, -⟩ := hflawed'.problem
    rw [hscan']
    refine (hrest.append_left hscan).cons hflawed.name_eq hstart hawaits ?_ ?_
    · rw [hproblem, hproblem']
      rfl
    · intro note hnote
      rw [hproblem] at hnote
      cases hnote

/-- One step of the search at a well-formed tag: it stays as it is, unless it awaits a value behind
its last pipe. -/
theorem closesTo_sound {covered rest : List Char} {kind : Kind} {entry : Entry}
    (hname : IsName name (covered ++ rest))
    (hkind : Kind.ofName? (String.ofList name) = some kind)
    (hread : readArguments kind (covered ++ rest) = ⟨.ok entry, covered.length⟩)
    (hscan : Scanned (offset + Text.byteLength (tagText name ++ covered)) rest os)
    (hline : '\n' ∉ covered ++ rest) (hclose : ¬ ['*', '/'] <:+: covered ++ rest)
    (hrest : ClosesTo (offset + Text.byteLength (tagText name ++ covered)) rest os
      (scanFrom 0 (offset + Text.byteLength (tagText name ++ covered)) (rest ++ closing))) :
    ClosesTo offset (tagText name ++ (covered ++ rest))
      (soundAt offset name covered kind entry :: os)
      (scanFrom 0 offset (tagText name ++ (covered ++ rest ++ closing))) := by
  -- Behind what is read to the end of the text there are no tags.
  have hlast : covered.length = (covered ++ rest).length → os = [] := by
    intro hlength
    rw [List.length_append] at hlength
    have hnil : rest = [] := List.length_eq_zero_iff.1 (by omega)
    rw [hnil] at hscan
    exact hscan.eq_nil_of_not_mem List.not_mem_nil
  by_cases hawaits : kind = .enumeration ∧ AwaitsValue (covered ++ rest)
  · obtain ⟨rfl, hvalue⟩ := hawaits
    obtain ⟨field, front, hclosed, ⟨-, -, flaw, hflaw⟩ | hok⟩ :=
      result_readEnum_of_awaitsValue hline hvalue
    · have herror : (readArguments .enumeration (covered ++ rest)).result = .error flaw := by
        rw [readArguments, Reading.map, hflaw]
        rfl
      rw [hread] at herror
      cases herror
    · have hopen := hread.symm.trans (readArguments_enumeration hline hok)
      obtain ⟨hentry, hlength⟩ := Reading.mk.inj hopen
      cases hentry
      obtain rfl := hlast hlength
      rw [scanFrom_to_end (isName_closing hname) hkind
        (readArguments_enumeration (not_mem_closing hline) hclosed)]
      exact Or.inr ⟨(awaits_cons_iff rfl rfl).2 (Or.inl ⟨rfl, hvalue⟩),
        [], field, front, rfl, fun _ => List.not_mem_nil, Or.inr rfl⟩
  · rw [not_and] at hawaits
    have hnot : (soundAt offset name covered kind entry).kind = some .enumeration →
        ¬ AwaitsValue (covered ++ rest) := fun h => hawaits (Option.some.inj h)
    rcases readArguments_closing hline hclose hawaits with
      ⟨hkeeps, hentry⟩ | ⟨entry', hopen, hclosed⟩
    · have hname' := isName_closing hname
      have hread' : readArguments kind (covered ++ rest ++ closing) =
          ⟨.ok entry, covered.length⟩ := by
        rw [hkeeps.of_ok (congrArg Reading.result hread), hread]
      rw [List.append_assoc] at hname' hread' ⊢
      rw [scanFrom_sound hname' hkind hread']
      have hbehind := hrest.append_left hscan
      rw [List.append_assoc] at hbehind
      refine hbehind.cons rfl rfl hnot rfl fun note hnote => hentry note ?_
      obtain rfl : entry = .enumeration note := Option.some.inj hnote
      rw [hread]
    · obtain ⟨hentry, hlength⟩ := Reading.mk.inj (hread.symm.trans hopen)
      cases hentry
      obtain rfl := hlast hlength
      rw [scanFrom_to_end (isName_closing hname) hkind hclosed]
      refine Or.inl ⟨fun hopens => ?_, rfl⟩
      rcases (awaits_cons_iff rfl rfl).1 hopens with ⟨hkind', hvalue⟩ | hnone
      · exact hnot hkind' hvalue
      · exact not_awaits_nil hnone

/-- The search in the closed text finds what it finds in the open one, up to a value that is
awaited at the end. -/
theorem Scanned.closing (h : Scanned offset text os) (hline : '\n' ∉ text)
    (hclose : ¬ ['*', '/'] <:+: text) :
    ClosesTo offset text os (scanFrom 0 offset (text ++ closing)) := by
  induction h with
  | nil offset => exact Or.inl ⟨not_awaits_nil, rfl⟩
  | @pass offset c cs os hpass hscan ih =>
      obtain ⟨hline', hclose'⟩ := open_of_suffix hline hclose (List.suffix_cons c cs)
      have hpass' : tagName? (c :: cs ++ Tag.closing) = none :=
        tagName?_append_cons hpass (by decide) ['*', '/']
      have hrest : ClosesTo (offset + Text.byteLength [c]) cs os
        (scanFrom 0 (offset + c.utf8Size) (cs ++ Tag.closing)) := ih hline' hclose'
      rw [List.cons_append] at hpass' ⊢
      rw [scanFrom_pass hpass']
      exact hrest.append_left hscan
  | @flawed offset name behind o os hname hflaw hflawed hscan ih =>
      obtain ⟨hline', hclose'⟩ := open_of_suffix hline hclose (List.suffix_append _ behind)
      rw [List.append_assoc]
      exact closesTo_flawed hname hflaw hflawed hscan hline' hclose' (ih hline' hclose')
  | @sound offset name covered rest kind entry os hname hkind hread hscan ih =>
      obtain ⟨hline', hclose'⟩ :=
        open_of_suffix hline hclose (List.suffix_append _ (covered ++ rest))
      obtain ⟨hrest, hrest'⟩ := open_of_suffix hline' hclose' (List.suffix_append covered rest)
      rw [List.append_assoc]
      exact closesTo_sound hname hkind hread hscan hline' hclose' (ih hrest hrest')

/-! ### The notes of a closed comment -/

/-- A text that ends where one of its enumerations awaits a value. -/
def ExpectsValue (text : List Char) : Prop :=
  Awaits 0 text (scan text)

theorem entries_closing (hline : '\n' ∉ text) (hclose : ¬ ['*', '/'] <:+: text) :
    (¬ ExpectsValue text ∧ entries (text ++ closing) = entries text) ∨
      ExpectsValue text ∧ Spoils (entries text) (entries (text ++ closing)) :=
  (scanned_scan text).closing hline hclose

/-- The end of the comment is seen in the table of enumerations. -/
theorem Spoils.ofEntries_ne {entries closed : List Entry} (h : Spoils entries closed) :
    Notes.ofEntries closed ≠ Notes.ofEntries entries := by
  obtain ⟨first, field, front, rfl, hfirst, hentries⟩ := h
  have hnone : first.filterMap Entry.enumeration? = [] := by
    rw [List.filterMap_eq_nil_iff]
    intro entry hentry
    cases entry with
    | enumeration note => exact absurd hentry (hfirst note)
    | _ => rfl
  have henums (more : List Entry) : (Notes.ofEntries (first ++ more)).enums =
      Table.file EnumNote.field (more.filterMap Entry.enumeration?) := by
    rw [Notes.ofEntries_eq]
    simp only [List.filterMap_append, hnone, List.nil_append]
  intro heq
  have htable := congrArg Notes.enums heq
  rw [henums] at htable
  rcases hentries with ⟨-, hentries⟩ | rfl
  · rw [hentries, ← List.append_nil first, henums] at htable
    cases htable
  · rw [henums] at htable
    have hvalues : front ++ ["*/"] = front ++ [""] :=
      congrArg (fun e : String × EnumNote => e.2.values) (List.cons.inj htable).1
    exact absurd (List.append_cancel_left hvalues) (by decide)

/-- Closing a comment of one line leaves its notes as they are, unless the line ends where an
enumeration awaits a value: then the `*/` becomes that value. -/
theorem ofComment_closing (text : List Char) (hline : '\n' ∉ text)
    (hclose : ¬ ['*', '/'] <:+: text) :
    (Notes.ofComment (String.ofList (text ++ closing)) = Notes.ofComment (String.ofList text) ↔
        ¬ ExpectsValue text) ∧
      (¬ ExpectsValue text → entries (text ++ closing) = entries text) ∧
      (ExpectsValue text → Spoils (entries text) (entries (text ++ closing))) := by
  rw [Notes.ofComment, Notes.ofComment, String.toList_ofList, String.toList_ofList]
  rcases entries_closing hline hclose with ⟨hnot, hsame⟩ | ⟨hexpects, hspoils⟩
  · exact ⟨iff_of_true (congrArg Notes.ofEntries hsame) hnot, fun _ => hsame,
      fun hexpects => absurd hexpects hnot⟩
  · exact ⟨iff_of_false hspoils.ofEntries_ne (not_not_intro hexpects),
      fun hnot => absurd hexpects hnot, fun _ => hspoils⟩

/-- Behind a description no value is awaited. -/
theorem ofComment_closing_complete :
    '\n' ∉ "/** @LRDenum mode on|off what".toList ∧
      ¬ ['*', '/'] <:+: "/** @LRDenum mode on|off what".toList ∧
      ¬ ExpectsValue "/** @LRDenum mode on|off what".toList := by
  have hopen : Notes.ofComment (String.ofList "/** @LRDenum mode on|off what".toList) =
      ⟨[], [], [], [("mode", ⟨"mode", ["on", "off"], "what"⟩)], none⟩ := rfl
  have hclosed : Notes.ofComment
      (String.ofList ("/** @LRDenum mode on|off what".toList ++ closing)) =
      ⟨[], [], [], [("mode", ⟨"mode", ["on", "off"], "what"⟩)], none⟩ := rfl
  refine ⟨by decide, by decide, ?_⟩
  exact (ofComment_closing _ (by decide) (by decide)).1.1 (hclosed.trans hopen.symm)

/-- Without values there is no enumeration in the open comment, and one in the closed comment. -/
theorem closing_read_as_value :
    '\n' ∉ "/** @LRDenum status".toList ∧ ¬ ['*', '/'] <:+: "/** @LRDenum status".toList ∧
      (Notes.ofComment "/** @LRDenum status").enums = [] ∧
      (Notes.ofComment (String.ofList ("/** @LRDenum status".toList ++ closing))).enums =
        [("status", ⟨"status", ["*/"], ""⟩)] :=
  ⟨by decide, by decide, rfl, rfl⟩

end Tag

end ApiNotes
