import ApiNotes.Notes
import ApiNotes.Proofs.Capture.Seam
import ApiNotes.Proofs.Tag.Scan
import ApiNotes.Proofs.Text.Lines
import Mathlib.Data.List.Forall2

/-!
# A tag that opens a line

A tag that opens a line does not depend on what stands on the lines before it, however
broken that is, and what stands there is read as if the tag were not there. So the tags
of two such parts of a comment are the tags of the first followed by the tags of the
second, which only move.

For one reader of arguments this is `Reading.Keeps`: with the tag behind its line a
well-formed text is read as before, and a flawed one stays flawed. The flaw itself and the
part of the text that it concerns may change, as an object that was never closed becomes
one that is not closed before the next tag.
-/

namespace ApiNotes

namespace Tag

/-- With more text behind, a success stays as it is and a failure stays a failure. -/
def Reading.Keeps {α : Type} (r r' : Reading α) : Prop :=
  match r.result with
  | .ok _ => r' = r
  | .error _ => ∃ flaw, r'.result = .error flaw

namespace Reading.Keeps

variable {α β : Type}

theorem refl (r : Reading α) : r.Keeps r := by
  unfold Reading.Keeps
  split
  · rfl
  · next flaw h => exact ⟨flaw, h⟩

theorem of_error {r r' : Reading α} {flaw flaw' : Flaw} (h : r.result = .error flaw)
    (h' : r'.result = .error flaw') : r.Keeps r' := by
  rw [Reading.Keeps, h]
  exact ⟨flaw', h'⟩

theorem of_ok {r r' : Reading α} {a : α} (h : r.Keeps r') (hr : r.result = .ok a) : r' = r := by
  rw [Reading.Keeps, hr] at h
  exact h

theorem exists_error {r r' : Reading α} {flaw : Flaw} (h : r.Keeps r')
    (hr : r.result = .error flaw) : ∃ flaw', r'.result = .error flaw' := by
  rw [Reading.Keeps, hr] at h
  exact h

theorem after {r r' : Reading α} (h : r.Keeps r') (n : Nat) : (r.after n).Keeps (r'.after n) := by
  cases hr : r.result with
  | ok a =>
      rw [h.of_ok hr]
      exact refl _
  | error flaw =>
      obtain ⟨flaw', hflaw'⟩ := h.exists_error hr
      exact of_error hr hflaw'

theorem map {r r' : Reading α} (h : r.Keeps r') (f : α → β) : (r.map f).Keeps (r'.map f) := by
  cases hr : r.result with
  | ok a =>
      rw [h.of_ok hr]
      exact refl _
  | error flaw =>
      obtain ⟨flaw', hflaw'⟩ := h.exists_error hr
      have hleft : (r.map f).result = .error flaw := by
        rw [Reading.map, hr]
        rfl
      have hright : (r'.map f).result = .error flaw' := by
        rw [Reading.map, hflaw']
        rfl
      exact of_error hleft hright

end Reading.Keeps

/-! ### The readers of arguments -/

/-- The first character that is no blank. -/
theorem OpensTag.head?_dropWhile {text : List Char} (h : OpensTag text) :
    ∃ c, (text.dropWhile Text.isBlank).head? = some c ∧ (c = '*' ∨ c = '/' ∨ c = '@') := by
  obtain ⟨indent, behind, rfl, hindent⟩ := h
  induction indent with
  | nil => exact ⟨'@', rfl, by simp⟩
  | cons d indent ih =>
      cases hd : Text.isBlank d with
      | true =>
          rw [List.cons_append, List.dropWhile_cons_of_pos hd]
          exact ih fun c hc => hindent c (List.mem_cons_of_mem d hc)
      | false =>
          rw [List.cons_append, List.dropWhile_cons_of_neg (by simp [hd])]
          refine ⟨d, rfl, ?_⟩
          rcases hindent d List.mem_cons_self with hc | hc | hc
          · rw [hd] at hc
            cases hc
          · exact Or.inl hc
          · exact Or.inr (Or.inl hc)

variable {line behind more : List Char}

theorem readOpen_append {n : Nat} (hlength : objectLength line = .ok n) (kind : Kind)
    (more : List Char) : readOpen kind (line ++ more) = readOpen kind line := by
  have hmore : objectLength (line ++ more) = .ok n := lengthToClose_append hlength _
  have htake : (line ++ more).take n = line.take n :=
    List.take_append_of_le_length (objectLength_le hlength)
  simp only [readOpen, hlength, hmore, htake]

theorem readOpen_seam (hb : OpensTag behind) (kind : Kind) (hfirst : line.head? = some '{') :
    (readOpen kind line).Keeps (readOpen kind (line ++ '\n' :: behind)) := by
  cases hlength : objectLength line with
  | ok n =>
      rw [readOpen_append hlength]
      exact .refl _
  | error why =>
      have hline : (readOpen kind line).result = .error (.openObject kind why) := by
        rw [readOpen, hlength]
        rfl
      -- Whatever is captured across the line break is not read.
      cases hmore : (readOpen kind (line ++ '\n' :: behind)).result with
      | error flaw => exact .of_error hline hmore
      | ok v =>
          obtain ⟨n, hn, hdecode, -⟩ := readOpen_eq_ok_iff.1 hmore
          rw [decodeObject_seam hb hfirst hn hdecode] at hlength
          cases hlength

/-- Text that no argument of a tag with an object goes on into: neither at its start nor behind its
blanks comes a part of a word, behind its blanks comes no object, and it closes no object that is
read. -/
structure Trails (more : List Char) : Prop where
  first : ∃ c rest, more = c :: rest ∧ Text.isDigit c = false ∧ Text.isWordChar c = false
  next : ∀ c ∈ (more.dropWhile Text.isBlank).head?, c ≠ '{' ∧ Text.isDigit c = false ∧
    Text.isWordChar c = false
  readOpen : ∀ kind line, line.head? = some '{' →
    (readOpen kind line).Keeps (readOpen kind (line ++ more))

theorem OpensTag.trails (hb : OpensTag behind) : Trails ('\n' :: behind) := by
  refine ⟨⟨'\n', behind, rfl, by decide, by decide⟩, ?_,
    fun kind line => readOpen_seam hb kind⟩
  obtain ⟨c, hhead, hc⟩ := hb.head?_dropWhile
  rw [List.dropWhile_cons_of_pos (by decide), hhead]
  rintro d ⟨⟩
  rcases hc with rfl | rfl | rfl <;> exact ⟨by decide, by decide, by decide⟩

/-- Behind blanks, what comes first is in the text that trails. -/
theorem dropWhile_append_of_blank (h : line.dropWhile Text.isBlank = []) (more : List Char) :
    (line ++ more).dropWhile Text.isBlank = more.dropWhile Text.isBlank :=
  List.dropWhile_append_of_pos (List.dropWhile_eq_nil_iff.1 h)

theorem Trails.readObject (h : Trails more) (kind : Kind) (line : List Char) :
    (readObject kind line).Keeps (readObject kind (line ++ more)) := by
  rw [readObject_eq, readObject_eq]
  by_cases hblank : line.dropWhile Text.isBlank = []
  · have hline : ¬ (line.takeWhile Text.isBlank ≠ [] ∧
        (line.dropWhile Text.isBlank).head? = some '{') := by
      rw [hblank]
      rintro ⟨-, hhead⟩
      cases hhead
    have hmore : ¬ ((line ++ more).takeWhile Text.isBlank ≠ [] ∧
        ((line ++ more).dropWhile Text.isBlank).head? = some '{') := by
      rw [dropWhile_append_of_blank hblank]
      rintro ⟨-, hbrace⟩
      exact (h.next '{' hbrace).1 rfl
    rw [if_neg hline, if_neg hmore]
    exact .of_error rfl rfl
  · obtain ⟨htake, hdrop⟩ := Text.span_append_of_ne_nil hblank more
    have hhead : (line.dropWhile Text.isBlank ++ more).head? =
        (line.dropWhile Text.isBlank).head? := by
      rw [List.head?_append]
      cases hcase : line.dropWhile Text.isBlank with
      | nil => exact absurd hcase hblank
      | cons c cs => rfl
    rw [htake, hdrop, hhead]
    split
    · next hopen => exact (h.readOpen kind _ hopen.2).after _
    · exact .of_error rfl rfl

/-- The word behind the blanks at the start of a text is missing with and without what trails, or
it is the same. -/
theorem word_append {p : Char → Bool} {c : Char} {rest : List Char} (hfirst : p c = false)
    (hnext : ∀ d ∈ ((c :: rest).dropWhile Text.isBlank).head?, p d = false) (line : List Char) :
    ((line.dropWhile Text.isBlank).takeWhile p = [] ∧
        ((line ++ c :: rest).dropWhile Text.isBlank).takeWhile p = []) ∨
      (line ++ c :: rest).takeWhile Text.isBlank = line.takeWhile Text.isBlank ∧
        ((line ++ c :: rest).dropWhile Text.isBlank).takeWhile p =
          (line.dropWhile Text.isBlank).takeWhile p ∧
        ((line ++ c :: rest).dropWhile Text.isBlank).dropWhile p =
          (line.dropWhile Text.isBlank).dropWhile p ++ c :: rest := by
  by_cases hblank : line.dropWhile Text.isBlank = []
  · refine Or.inl ⟨by rw [hblank]; rfl, ?_⟩
    rw [dropWhile_append_of_blank hblank]
    exact (Text.span_append (List.forall_mem_nil _) hnext).1
  · obtain ⟨htake, hdrop⟩ := Text.span_append_of_ne_nil hblank (c :: rest)
    obtain ⟨hword, hrest⟩ := Text.span_append_of_stop hfirst (line.dropWhile Text.isBlank) rest
    rw [htake, hdrop]
    exact Or.inr ⟨rfl, hword, hrest⟩

theorem Trails.readResponse (h : Trails more) (kind : Kind) (line : List Char) :
    (readResponse kind line).Keeps (readResponse kind (line ++ more)) := by
  obtain ⟨c, rest, rfl, hdigit, -⟩ := h.first
  simp only [Tag.readResponse]
  rcases word_append hdigit (fun d hd => (h.next d hd).2.1) line
    with ⟨hline, hmore⟩ | ⟨hblanks, hdigits, hrest⟩
  · rw [if_pos (Or.inr hline), if_pos (Or.inr hmore)]
    exact .of_error rfl rfl
  · rw [hblanks, hdigits, hrest]
    split
    · exact .of_error rfl rfl
    · split
      · exact .of_error rfl rfl
      · exact ((h.readObject kind _).map _).after _

theorem Trails.readSample (h : Trails more) (line : List Char) :
    (readSample line).Keeps (readSample (line ++ more)) := by
  obtain ⟨c, rest, rfl, -, hword⟩ := h.first
  simp only [Tag.readSample]
  rcases word_append hword (fun d hd => (h.next d hd).2.2) line
    with ⟨hline, hmore⟩ | ⟨hblanks, hname, hrest⟩
  · rw [if_pos (Or.inr hline), if_pos (Or.inr hmore)]
    exact .of_error rfl rfl
  · rw [hblanks, hname, hrest]
    split
    · exact .of_error rfl rfl
    · exact ((h.readObject .sample _).map _).after _

/-- What is read to the end of the line does not see the next one. -/
theorem readEnum_append_newline (line behind : List Char) :
    readEnum (line ++ '\n' :: behind) = readEnum line := by
  simp only [readEnum, Reading.failLine, Text.row_append_newline]

theorem readDeprecation_append_newline (line behind : List Char) :
    readDeprecation (line ++ '\n' :: behind) = readDeprecation line := by
  simp only [readDeprecation, Text.row_append_newline]

/-- A tag that opens the next line does not change what is made of this one. -/
theorem readArguments_seam (hb : OpensTag behind) (kind : Kind) (line : List Char) :
    (readArguments kind line).Keeps (readArguments kind (line ++ '\n' :: behind)) := by
  cases kind with
  | response => exact (hb.trails.readResponse .response line).map _
  | error => exact (hb.trails.readResponse .error line).map _
  | sample => exact (hb.trails.readSample line).map _
  | enumeration =>
      simp only [readArguments, readEnum_append_newline]
      exact .refl _
  | deprecated =>
      simp only [readArguments, readDeprecation_append_newline]
      exact .refl _

/-! ### Where a text starts -/

/-- A span `n` bytes further on. -/
def Span.shift (n : Nat) (span : Span) : Span :=
  ⟨span.start + n, span.stop + n⟩

/-- A tag `n` bytes further on, with the problem that it may have. -/
def Occurrence.shift (n : Nat) (o : Occurrence) : Occurrence :=
  { o with
    span := o.span.shift n
    result := o.result.mapError fun problem => { problem with span := problem.span.shift n } }

theorem toOption_shift (n : Nat) (o : Occurrence) :
    (o.shift n).result.toOption = o.result.toOption := by
  rw [Occurrence.shift]
  cases o.result <;> rfl

theorem examine_add (n start : Nat) (name text : List Char) :
    examine (start + n) name text =
      ⟨(examine start name text).occurrence.shift n, (examine start name text).resume⟩ := by
  have hspan : ∀ m : Nat,
      (⟨start + n, start + n + (4 + Text.byteLength name) + m⟩ : Span) =
        Span.shift n ⟨start, start + (4 + Text.byteLength name) + m⟩ := by
    intro m
    simp only [Span.shift, Span.mk.injEq, true_and]
    omega
  simp only [examine, hspan]
  cases Kind.ofName? (String.ofList name) with
  | none => rfl
  | some kind =>
      dsimp only
      cases (readArguments kind text).result <;> rfl

/-- The tags of a text move with the text. -/
theorem scanFrom_add (n skip offset : Nat) (text : List Char) :
    scanFrom skip (offset + n) text = (scanFrom skip offset text).map (Occurrence.shift n) := by
  induction text generalizing skip offset with
  | nil => rfl
  | cons c cs ih =>
      have hoffset : offset + n + c.utf8Size = offset + c.utf8Size + n := by omega
      cases skip with
      | succ skip =>
          rw [scanFrom, scanFrom, hoffset]
          exact ih skip _
      | zero =>
          rw [scanFrom, scanFrom, hoffset]
          cases htag : tagName? (c :: cs) with
          | none => exact ih 0 _
          | some name =>
              simp only [examine_add, List.map_cons]
              rw [ih]

/-! ### The tags of two parts -/

/-- What the next lines leave of a tag: where it starts, what it is, and whether it is
well-formed, and all of it if it is. -/
structure Occurrence.Keeps (o o' : Occurrence) : Prop where
  name_eq : o'.name = o.name
  kind_eq : o'.kind = o.kind
  start_eq : o'.span.start = o.span.start
  isOk_eq : o'.result.isOk = o.result.isOk
  entry_eq : ∀ entry, o.result = .ok entry → o'.result = .ok entry ∧ o'.span = o.span

theorem Occurrence.Keeps.refl (o : Occurrence) : o.Keeps o :=
  ⟨rfl, rfl, rfl, rfl, fun _ h => ⟨h, rfl⟩⟩

theorem Occurrence.Keeps.of_flawed {offset : Nat} {name behind behind' : List Char}
    {o o' : Occurrence} (h : FlawedAt offset name behind o)
    (h' : FlawedAt offset name behind' o') : o.Keeps o' := by
  obtain ⟨hname, hkind, ⟨_, _, -, hspan⟩, ⟨problem, hproblem, -, -⟩⟩ := h
  obtain ⟨hname', hkind', ⟨_, _, -, hspan'⟩, ⟨problem', hproblem', -, -⟩⟩ := h'
  refine ⟨hname'.trans hname.symm, hkind'.trans hkind.symm, by rw [hspan, hspan'], ?_, ?_⟩
  · rw [hproblem, hproblem']
    rfl
  · intro entry hentry
    rw [hproblem] at hentry
    cases hentry

theorem Occurrence.Keeps.toOption_eq {o o' : Occurrence} (h : o.Keeps o') :
    o'.result.toOption = o.result.toOption := by
  cases ho : o.result with
  | ok entry => rw [(h.entry_eq entry ho).1]
  | error problem =>
      have hok := h.isOk_eq
      rw [ho] at hok
      cases ho' : o'.result with
      | ok entry =>
          rw [ho'] at hok
          cases hok
      | error problem' => rfl

/-- Tags that pairwise have the same entry, or none, have the same entries in all. -/
theorem filterMap_toOption_eq {os os' : List Occurrence}
    (h : List.Forall₂ (fun o o' => o'.result.toOption = o.result.toOption) os os') :
    os'.filterMap (fun o => o.result.toOption) = os.filterMap (fun o => o.result.toOption) := by
  induction h with
  | nil => rfl
  | cons ho _ ih => rw [List.filterMap_cons, List.filterMap_cons, ho, ih]

theorem isName_append_cons {name text : List Char} {c : Char} (h : IsName name text)
    (hc : c.isAlpha = false) (behind : List Char) : IsName name (text ++ c :: behind) := by
  refine ⟨h.1, ?_⟩
  cases text with
  | nil =>
      rintro d ⟨⟩
      exact hc
  | cons d text => exact h.2

theorem tagName?_append_cons {text : List Char} {c : Char} (h : tagName? text = none)
    (hc : c ∉ ['@', 'L', 'R', 'D']) (behind : List Char) :
    tagName? (text ++ c :: behind) = none := by
  cases htag : tagName? (text ++ c :: behind) with
  | none => rfl
  | some name =>
      -- The character is in no marker, so this would be a marker of the first part.
      obtain ⟨rest, htext, -⟩ := exists_of_tagName?_eq_some htag
      obtain ⟨between, rfl, -⟩ := Text.exists_append_of_not_mem hc htext.symm
      cases h

/-- The search goes through the first part as if it were alone, and comes to the second
part right behind the line break. -/
theorem Scanned.seam {offset : Nat} {text : List Char} {os : List Occurrence}
    (h : Scanned offset text os) {behind : List Char} (hb : OpensTag behind) :
    ∃ first, List.Forall₂ Occurrence.Keeps os first ∧
      scanFrom 0 offset (text ++ '\n' :: behind) =
        first ++ scanFrom 0 (offset + (Text.byteLength text + 1)) behind := by
  induction h with
  | nil offset => exact ⟨[], .nil, scanFrom_pass rfl offset⟩
  | @pass offset c cs os hpass _ ih =>
      obtain ⟨first, hkeeps, hscan⟩ := ih
      refine ⟨first, hkeeps, ?_⟩
      have hpass' : tagName? (c :: cs ++ '\n' :: behind) = none :=
        tagName?_append_cons hpass (by decide) behind
      rw [List.cons_append] at hpass' ⊢
      rw [scanFrom_pass hpass', hscan, Text.byteLength_cons, Nat.add_assoc, Nat.add_assoc]
  | @flawed offset name rest o os hname hflaw hflawed _ ih =>
      obtain ⟨first, hkeeps, hscan⟩ := ih
      have hflaw' : ∀ kind, Kind.ofName? (String.ofList name) = some kind →
          ∃ flaw, (readArguments kind (rest ++ '\n' :: behind)).result = .error flaw := by
        intro kind hkind
        obtain ⟨flaw, herror⟩ := hflaw kind hkind
        exact (readArguments_seam hb kind rest).exists_error herror
      obtain ⟨o', hflawed', hscan'⟩ :=
        scanFrom_flawed (isName_append_cons hname (by decide) behind) hflaw' offset
      refine ⟨o' :: first, .cons (.of_flawed hflawed hflawed') hkeeps, ?_⟩
      rw [List.append_assoc, hscan', hscan, Text.byteLength_append, Nat.add_assoc, Nat.add_assoc]
      rfl
  | @sound offset name covered rest kind entry os hname hkind hread _ ih =>
      obtain ⟨first, hkeeps, hscan⟩ := ih
      have hread' : readArguments kind (covered ++ (rest ++ '\n' :: behind)) =
          ⟨.ok entry, covered.length⟩ := by
        have hkept := readArguments_seam hb kind (covered ++ rest)
        rw [← List.append_assoc, hkept.of_ok (congrArg Reading.result hread), hread]
      have hname' : IsName name (covered ++ (rest ++ '\n' :: behind)) := by
        rw [← List.append_assoc]
        exact isName_append_cons hname (by decide) behind
      refine ⟨soundAt offset name covered kind entry :: first,
        .cons (.refl _) hkeeps, ?_⟩
      rw [List.append_assoc, List.append_assoc, scanFrom_sound hname' hkind hread', hscan,
        ← List.append_assoc (tagText name), Text.byteLength_append (tagText name ++ covered),
        Nat.add_assoc, Nat.add_assoc]
      rfl

/-- A tag that opens a line is immune to what precedes it: the tags of a text followed by a
line that a tag opens are those of the text, kept, and those of the line, moved; and the
notes are those of the entries of both. -/
theorem scan_line_break (text indent tag : List Char)
    (hindent : ∀ c ∈ indent, Text.isBlank c = true ∨ c = '*' ∨ c = '/') :
    (scan (text ++ '\n' :: (indent ++ tagText tag))).length =
        (scan text).length + (scan (indent ++ tagText tag)).length ∧
      (∃ first, List.Forall₂ Occurrence.Keeps (scan text) first ∧
        scan (text ++ '\n' :: (indent ++ tagText tag)) =
          first ++ (scan (indent ++ tagText tag)).map
            (Occurrence.shift (Text.byteLength text + 1))) ∧
      Notes.ofComment (String.ofList (text ++ '\n' :: (indent ++ tagText tag))) =
        (entries (indent ++ tagText tag)).foldl Notes.insert
          ((entries text).foldl Notes.insert Notes.empty) := by
  have hopens : OpensTag (indent ++ tagText tag) := ⟨indent, tag, rfl, hindent⟩
  obtain ⟨first, hkeeps, hscan⟩ := (scanned_scan text).seam hopens
  rw [scanFrom_add] at hscan
  change scan _ = first ++ (scan _).map _ at hscan
  refine ⟨?_, ⟨first, hkeeps, hscan⟩, ?_⟩
  · rw [hscan, List.length_append, List.length_map, hkeeps.length_eq]
  · have hentries : entries (text ++ '\n' :: (indent ++ tagText tag)) =
        entries text ++ entries (indent ++ tagText tag) := by
      rw [entries, hscan, List.filterMap_append,
        filterMap_toOption_eq (hkeeps.imp fun _ _ h => h.toOption_eq), List.filterMap_map]
      simp only [entries, Function.comp_def, toOption_shift]
    rw [Notes.ofComment, String.toList_ofList, hentries, Notes.ofEntries_append]
    rfl

theorem scan_line_break_escaped :
    (scan ("@LRDerror 400 \x7b\"a\": \"\\".toList ++
        '\n' :: (" * ".toList ++ tagText "deprecated gone\"\x7d".toList))).length = 1 + 1 := by
  have hindent : ∀ c ∈ [' ', '*', ' '], Text.isBlank c = true ∨ c = '*' ∨ c = '/' := by
    simp [Text.isBlank]
  exact (scan_line_break "@LRDerror 400 \x7b\"a\": \"\\".toList " * ".toList
    "deprecated gone\"\x7d".toList hindent).1

end Tag

end ApiNotes
