import ApiNotes.Proofs.Capture.LineEnding
import ApiNotes.Proofs.Tag.Seam

/-!
# Tags under both line endings

A comment says the same under both line endings (`scan_crlf`): its tags are as many, and one by
one they have the same name, the same kind and the same entry, or no entry under either ending.
Spans and flaws are left out, as the one count bytes and the others may quote a broken text.

For one reader of arguments this is `Reading.Matches`. Where objects are read, blanks, words and
the object itself are followed by the same text under both endings. What is read to the end of a
line covers the carriage return there too, so that of the longer line ending only the line feed
is left to the search, which passes both line ends alike.
-/

namespace ApiNotes

namespace Tag

open Text (crlf)

/-- Of a text under the shorter and under the longer line ending, two readings have the same
success or none, and behind a success the same text is left, less a carriage return at most. -/
structure Reading.Matches {α : Type} (text : List Char) (r r' : Reading α) : Prop where
  toOption_eq : r'.result.toOption = r.result.toOption
  rest_eq : ∀ a, r.result = .ok a →
    crlf (text.drop r.reach) = (crlf text).drop r'.reach ∨
      crlf (text.drop r.reach) = '\r' :: (crlf text).drop r'.reach

namespace Reading.Matches

variable {α β : Type} {r r' : Reading α} {text : List Char}

theorem of_error {flaw flaw' : Flaw} (h : r.result = .error flaw)
    (h' : r'.result = .error flaw') : r.Matches text r' := by
  refine ⟨by rw [h, h']; rfl, ?_⟩
  intro a ha
  rw [h] at ha
  cases ha

theorem result_eq_ok (h : r.Matches text r') {a : α} (ha : r.result = .ok a) :
    r'.result = .ok a := by
  have heq := h.toOption_eq
  rw [ha] at heq
  cases hr' : r'.result with
  | error flaw =>
      rw [hr'] at heq
      cases heq
  | ok b =>
      rw [hr'] at heq
      cases heq
      rfl

theorem exists_error (h : r.Matches text r') {flaw : Flaw} (hr : r.result = .error flaw) :
    ∃ flaw', r'.result = .error flaw' := by
  have heq := h.toOption_eq
  rw [hr] at heq
  cases hr' : r'.result with
  | error flaw' => exact ⟨flaw', rfl⟩
  | ok b =>
      rw [hr'] at heq
      cases heq

/-- Readings that match do so behind a text that was read before. -/
theorem after (h : r.Matches text r') (front : List Char) :
    (r.after front.length).Matches (front ++ text) (r'.after (crlf front).length) := by
  refine ⟨h.toOption_eq, ?_⟩
  intro a ha
  rw [reach_after, reach_after, Text.crlf_append, List.drop_length_add_append,
    List.drop_length_add_append]
  exact h.rest_eq a ha

theorem map (h : r.Matches text r') (f : α → β) : (r.map f).Matches text (r'.map f) := by
  cases hr : r.result with
  | ok a =>
      have hr' := h.result_eq_ok hr
      refine ⟨by rw [Reading.map, Reading.map, hr, hr'], ?_⟩
      intro b hb
      exact h.rest_eq a hr
  | error flaw =>
      obtain ⟨flaw', hflaw'⟩ := h.exists_error hr
      have hleft : (r.map f).result = .error flaw := by
        rw [Reading.map, hr]
        rfl
      have hright : (r'.map f).result = .error flaw' := by
        rw [Reading.map, hflaw']
        rfl
      exact of_error hleft hright

end Reading.Matches

/-! ### The readers of objects -/

theorem readOpen_crlf (kind : Kind) {body : List Char} (hfirst : body.head? = some '{') :
    (readOpen kind body).Matches body (readOpen kind (crlf body)) := by
  cases hread : (readOpen kind body).result with
  | ok v =>
      obtain ⟨n, hn, hdecode, hreach⟩ := readOpen_eq_ok_iff.1 hread
      obtain ⟨hn', hdecode'⟩ := (capture_crlf_iff hfirst).2 ⟨n, hn, hdecode, rfl⟩
      have hread' : readOpen kind (crlf body) = ⟨.ok v, (crlf (body.take n)).length⟩ := by
        simp only [readOpen, hn', hdecode']
      refine ⟨by rw [hread, hread'], fun _ _ => Or.inl ?_⟩
      rw [hreach, hread']
      exact (Text.drop_crlf n body).symm
  | error flaw =>
      cases hread' : (readOpen kind (crlf body)).result with
      | error flaw' => exact .of_error hread hread'
      | ok v =>
          obtain ⟨m, hm, hdecode', -⟩ := readOpen_eq_ok_iff.1 hread'
          obtain ⟨n, hn, hdecode, -⟩ := (capture_crlf_iff hfirst).1 ⟨hm, hdecode'⟩
          simp only [readOpen, hn, hdecode] at hread
          cases hread

theorem readObject_crlf (kind : Kind) (text : List Char) :
    (readObject kind text).Matches text (readObject kind (crlf text)) := by
  obtain ⟨htake, hdrop⟩ := Text.span_crlf (p := Text.isBlank) (by decide) (by decide) text
  have hhead : (crlf (text.dropWhile Text.isBlank)).head? = some '{' ↔
      (text.dropWhile Text.isBlank).head? = some '{' :=
    Text.head?_crlf_eq_some_iff (by decide) (by decide)
  rw [readObject_eq, readObject_eq, htake, hdrop]
  simp only [ne_eq, Text.crlf_eq_nil_iff, hhead]
  split
  · next hopen =>
    have hbody := (readOpen_crlf kind hopen.2).after (text.takeWhile Text.isBlank)
    rwa [List.takeWhile_append_dropWhile] at hbody
  · exact .of_error rfl rfl

/-- The blanks at the start of a text, the word behind them and what follows it. -/
theorem word_crlf {p : Char → Bool} (hr : p '\r' = false) (hn : p '\n' = false)
    (text : List Char) :
    (crlf text).takeWhile Text.isBlank = crlf (text.takeWhile Text.isBlank) ∧
      ((crlf text).dropWhile Text.isBlank).takeWhile p =
        (text.dropWhile Text.isBlank).takeWhile p ∧
      ((crlf text).dropWhile Text.isBlank).dropWhile p =
        crlf ((text.dropWhile Text.isBlank).dropWhile p) := by
  obtain ⟨htake, hdrop⟩ := Text.span_crlf (p := Text.isBlank) (by decide) (by decide) text
  rw [htake, hdrop]
  exact ⟨rfl, Text.span_crlf_of_stop hr hn _⟩

/-- What is read behind blanks and a word is read so under both line endings. -/
theorem Reading.Matches.after_word {α : Type} {p : Char → Bool} (hn : p '\n' = false)
    {text : List Char} {r r' : Reading α}
    (h : r.Matches ((text.dropWhile Text.isBlank).dropWhile p) r') :
    (r.after ((text.takeWhile Text.isBlank).length +
        ((text.dropWhile Text.isBlank).takeWhile p).length)).Matches text
      (r'.after ((crlf (text.takeWhile Text.isBlank)).length +
        ((text.dropWhile Text.isBlank).takeWhile p).length)) := by
  have hword := Text.crlf_of_not_mem (not_mem_takeWhile hn (text.dropWhile Text.isBlank))
  have hbehind := h.after (text.takeWhile Text.isBlank ++
    (text.dropWhile Text.isBlank).takeWhile p)
  rwa [List.append_assoc, List.takeWhile_append_dropWhile, List.takeWhile_append_dropWhile,
    Text.crlf_append, hword, List.length_append, List.length_append] at hbehind

theorem readResponse_crlf (kind : Kind) (text : List Char) :
    (readResponse kind text).Matches text (readResponse kind (crlf text)) := by
  obtain ⟨hblanks, hdigits, hrest⟩ :=
    word_crlf (p := Text.isDigit) (by decide) (by decide) text
  simp only [readResponse, hblanks, hdigits, hrest, Text.crlf_eq_nil_iff]
  split
  · exact .of_error rfl rfl
  · split
    · exact .of_error rfl rfl
    · exact ((readObject_crlf kind _).map _).after_word (by decide)

theorem readSample_crlf (text : List Char) :
    (readSample text).Matches text (readSample (crlf text)) := by
  obtain ⟨hblanks, hname, hrest⟩ :=
    word_crlf (p := Text.isWordChar) (by decide) (by decide) text
  simp only [readSample, hblanks, hname, hrest, Text.crlf_eq_nil_iff]
  split
  · exact .of_error rfl rfl
  · exact ((readObject_crlf .sample _).map _).after_word (by decide)

/-! ### The readers of lines -/

theorem row_return {line : List Char} (h : '\n' ∉ line) :
    Text.row (line ++ ['\r']) = Text.row line ++ ['\r'] := by
  rw [Text.row_of_not_mem h, Text.row_of_not_mem (by simp [h])]

/-- What is read to the end of a line, and is the same with a carriage return there, is read
under both line endings. -/
theorem matches_of_row {α : Type} {read : List Char → Reading α}
    (hline : ∀ line behind, read (line ++ '\n' :: behind) = read line)
    (hreturn : ∀ line, '\n' ∉ line → (read (line ++ ['\r'])).result = (read line).result)
    (hreach : ∀ text, (read text).reach = (Text.row text).length) (text : List Char) :
    (read text).Matches text (read (crlf text)) := by
  by_cases hmem : '\n' ∈ text
  · obtain ⟨line, behind, rfl, hnot⟩ := List.eq_append_cons_of_mem hmem
    have htext : crlf (line ++ '\n' :: behind) = (line ++ ['\r']) ++ '\n' :: crlf behind := by
      rw [Text.crlf_append, Text.crlf_of_not_mem hnot, Text.crlf_newline]
      simp
    have hnot' : '\n' ∉ line ++ ['\r'] := by simp [hnot]
    rw [htext, hline, hline]
    refine ⟨by rw [hreturn line hnot], fun a _ => Or.inr ?_⟩
    rw [htext, hreach, hreach, Text.row_of_not_mem hnot, Text.row_of_not_mem hnot', List.drop_left,
      List.drop_left, Text.crlf_newline]
  · rw [Text.crlf_of_not_mem hmem]
    refine ⟨rfl, fun a _ => Or.inl ?_⟩
    rw [Text.crlf_of_not_mem hmem]
    exact Text.crlf_of_not_mem fun h => hmem (List.mem_of_mem_drop h)

theorem stripClose_return (text : List Char) : stripClose (text ++ ['\r']) = stripClose text := by
  rw [stripClose, stripClose, Text.trim_append (List.all_eq_true.1 rfl)]

theorem describe_return (text : List Char) : describe (text ++ ['\r']) = describe text := by
  cases text with
  | nil => rfl
  | cons c cs =>
      have hrow : ((c :: cs) ++ ['\r']).takeWhile (· != '\r') = (c :: cs).takeWhile (· != '\r') :=
        (Text.span_append_of_stop (by decide) (c :: cs) []).1
      rw [List.cons_append] at hrow ⊢
      rw [describe, describe, hrow]

theorem takeValues_isPrefix (afterPipe : Bool) (text : List Char) :
    takeValues afterPipe text <+: text := by
  fun_induction takeValues afterPipe text with
  | case1 => exact List.nil_prefix
  | case2 _ cs ih => exact (List.prefix_cons_inj _).2 ih
  | case3 _ c cs _ _ _ ih => exact (List.prefix_cons_inj _).2 ih
  | case4 => exact List.nil_prefix
  | case5 _ c cs _ _ ih => exact (List.prefix_cons_inj _).2 ih

theorem takeValues_return (afterPipe : Bool) (text : List Char) :
    takeValues afterPipe (text ++ ['\r']) = takeValues afterPipe text := by
  induction text generalizing afterPipe with
  | nil => rfl
  | cons c cs ih =>
      have hpipe : ((cs ++ ['\r']).dropWhile Text.isGap).head? = some '|' ↔
          (cs.dropWhile Text.isGap).head? = some '|' := by
        rw [(Text.span_append_of_stop (by decide) cs []).2]
        cases cs.dropWhile Text.isGap with
        | nil => simp
        | cons d ds => rfl
      simp only [List.cons_append, takeValues, hpipe, ih]

theorem result_readEnum_return {line : List Char} (h : '\n' ∉ line) :
    (readEnum (line ++ ['\r'])).result = (readEnum line).result := by
  have hgap : ∀ xs : List Char, (xs ++ ['\r']).takeWhile Text.isGap = xs.takeWhile Text.isGap ∧
      (xs ++ ['\r']).dropWhile Text.isGap = xs.dropWhile Text.isGap ++ ['\r'] :=
    fun xs => Text.span_append_of_stop (by decide) xs []
  have hword : ∀ xs : List Char,
      (xs ++ ['\r']).takeWhile Text.isWordChar = xs.takeWhile Text.isWordChar ∧
        (xs ++ ['\r']).dropWhile Text.isWordChar = xs.dropWhile Text.isWordChar ++ ['\r'] :=
    fun xs => Text.span_append_of_stop (by decide) xs []
  have hdescribe : ∀ xs : List Char,
      describe ((xs ++ ['\r']).drop (takeValues false xs).length) =
        describe (xs.drop (takeValues false xs).length) := by
    intro xs
    rw [List.drop_append_of_le_length (takeValues_isPrefix false xs).length_le, describe_return]
  simp only [readEnum, row_return h, (hgap _).1, (hgap _).2, (hword _).1, (hword _).2,
    takeValues_return, hdescribe]
  split
  · rfl
  · split <;> rfl

theorem result_readDeprecation_return {line : List Char} (h : '\n' ∉ line) :
    (readDeprecation (line ++ ['\r'])).result = (readDeprecation line).result := by
  simp only [readDeprecation, row_return h, stripClose_return]

theorem readArguments_crlf (kind : Kind) (text : List Char) :
    (readArguments kind text).Matches text (readArguments kind (crlf text)) := by
  cases kind with
  | response => exact (readResponse_crlf .response text).map _
  | error => exact (readResponse_crlf .error text).map _
  | sample => exact (readSample_crlf text).map _
  | enumeration =>
      exact (matches_of_row readEnum_append_newline (fun _ => result_readEnum_return)
        reach_readEnum text).map _
  | deprecated =>
      exact (matches_of_row readDeprecation_append_newline
        (fun _ => result_readDeprecation_return) (fun _ => rfl) text).map _

/-! ### The search -/

/-- Two tags with the same name, the same kind and the same entry, or without an entry both. -/
structure Occurrence.Alike (o o' : Occurrence) : Prop where
  name_eq : o'.name = o.name
  kind_eq : o'.kind = o.kind
  entry_eq : o'.result.toOption = o.result.toOption

theorem Occurrence.Alike.of_flawed {offset offset' : Nat} {name behind behind' : List Char}
    {o o' : Occurrence} (h : FlawedAt offset name behind o)
    (h' : FlawedAt offset' name behind' o') : o.Alike o' := by
  obtain ⟨problem, hproblem, -, -⟩ := h.problem
  obtain ⟨problem', hproblem', -, -⟩ := h'.problem
  refine ⟨h'.name_eq.trans h.name_eq.symm, h'.kind_eq.trans h.kind_eq.symm, ?_⟩
  rw [hproblem, hproblem']
  rfl

theorem crlf_tagText_append {name : List Char} (hname : ∀ c ∈ name, c.isAlpha = true)
    (behind : List Char) : crlf (tagText name ++ behind) = tagText name ++ crlf behind := by
  have hfeed : '\n' ∉ tagText name := by
    intro h
    rcases mem_tagText hname h with h | h <;> cases h
  rw [Text.crlf_append, Text.crlf_of_not_mem hfeed]

theorem isName_crlf {name behind : List Char} (h : IsName name behind) :
    IsName name (crlf behind) := by
  refine ⟨h.1, ?_⟩
  cases behind with
  | nil => exact h.2
  | cons c cs =>
      by_cases hc : c = '\n'
      · rw [hc, Text.crlf_newline]
        intro d hd
        obtain rfl := Option.some.inj hd
        decide
      · rw [Text.crlf_cons hc]
        exact h.2

theorem tagName?_crlf {text : List Char} (h : tagName? text = none) :
    tagName? (crlf text) = none := by
  cases htag : tagName? (crlf text) with
  | none => rfl
  | some name =>
      obtain ⟨behind, htext, -⟩ := exists_of_tagName?_eq_some htag
      have hmarker : ['@', 'L', 'R', 'D'] <+: text :=
        (Text.prefix_crlf_iff (by decide) (by decide) text).1 ⟨name ++ behind, htext.symm⟩
      obtain ⟨rest, rfl⟩ := hmarker
      cases h

/-- The search finds the same tags under both line endings, wherever the two texts start. -/
theorem Scanned.crlf {offset : Nat} {text : List Char} {os : List Occurrence}
    (h : Scanned offset text os) (offset' : Nat) :
    List.Forall₂ Occurrence.Alike os (scanFrom 0 offset' (crlf text)) := by
  induction h generalizing offset' with
  | nil _ => exact .nil
  | @pass offset c cs os hpass _ ih =>
      by_cases hc : c = '\n'
      · rw [hc, Text.crlf_newline, scanFrom_pass rfl, scanFrom_pass rfl]
        exact ih _
      · have hpass' := tagName?_crlf hpass
        rw [Text.crlf_cons hc] at hpass' ⊢
        rw [scanFrom_pass hpass']
        exact ih _
  | @flawed offset name behind o os hname hflaw hflawed _ ih =>
      have hflaw' : ∀ kind, Kind.ofName? (String.ofList name) = some kind →
          ∃ flaw, (readArguments kind (Text.crlf behind)).result = .error flaw := by
        intro kind hkind
        obtain ⟨flaw, herror⟩ := hflaw kind hkind
        exact (readArguments_crlf kind behind).exists_error herror
      obtain ⟨o', hflawed', hscan⟩ := scanFrom_flawed (isName_crlf hname) hflaw' offset'
      rw [crlf_tagText_append hname.1, hscan]
      exact .cons (.of_flawed hflawed hflawed') (ih _)
  | @sound offset name covered rest kind entry os hname hkind hread _ ih =>
      have hmatches := readArguments_crlf kind (covered ++ rest)
      have hentry := hmatches.result_eq_ok (congrArg Reading.result hread)
      have hreach := reach_readArguments_le kind (Text.crlf (covered ++ rest))
      have hrest := hmatches.rest_eq entry (congrArg Reading.result hread)
      rw [hread, List.drop_left] at hrest
      have hname' := isName_crlf hname
      rw [crlf_tagText_append hname.1]
      -- The text behind the name is cut where the arguments end under the longer line ending.
      obtain ⟨covered', rest', htext, hcovered⟩ : ∃ covered' rest',
          Text.crlf (covered ++ rest) = covered' ++ rest' ∧
            covered'.length = (readArguments kind (Text.crlf (covered ++ rest))).reach :=
        ⟨_, _, (List.take_append_drop _ _).symm, by rw [List.length_take, Nat.min_eq_left hreach]⟩
      rw [← hcovered, htext, List.drop_left] at hrest
      have hread' : readArguments kind (covered' ++ rest') = ⟨.ok entry, covered'.length⟩ := by
        rw [hcovered, ← hentry, htext]
      rw [htext] at hname' ⊢
      rw [scanFrom_sound hname' hkind hread']
      refine .cons ⟨rfl, rfl, rfl⟩ ?_
      rcases hrest with hrest | hrest
      · rw [← hrest]
        exact ih _
      · -- The carriage return belongs to the tag; it would have been passed over.
        obtain ⟨start, hstart⟩ : ∃ start,
            offset' + Text.byteLength (tagText name ++ covered') = start + 1 := by
          rw [Text.byteLength_append, byteLength_tagText]
          exact ⟨offset' + (3 + Text.byteLength name + Text.byteLength covered'), by omega⟩
        have hpassed := ih start
        rw [hrest, scanFrom_pass rfl] at hpassed
        rw [hstart]
        exact hpassed

/-- Line endings do not matter: with a carriage return before every line feed a comment has the
same notes, and as many tags, which are alike one by one. -/
theorem scan_crlf (comment : String) :
    Notes.ofComment (String.ofList (crlf comment.toList)) = Notes.ofComment comment ∧
      (scan (crlf comment.toList)).length = (scan comment.toList).length ∧
      List.Forall₂ Occurrence.Alike (scan comment.toList) (scan (crlf comment.toList)) := by
  have halike : List.Forall₂ Occurrence.Alike (scan comment.toList) (scan (crlf comment.toList)) :=
    (scanned_scan comment.toList).crlf 0
  refine ⟨?_, halike.length_eq.symm, halike⟩
  have hentries : entries (crlf comment.toList) = entries comment.toList :=
    filterMap_toOption_eq (halike.imp fun _ _ h => h.entry_eq)
  rw [Notes.ofComment, Notes.ofComment, String.toList_ofList, hentries]

end Tag

end ApiNotes
