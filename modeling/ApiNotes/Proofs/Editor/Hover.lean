import ApiNotes.Editor.Hover
import ApiNotes.Proofs.Editor.Position
import ApiNotes.Proofs.Notes.WellFormed

/-!
# Hovering agrees with the search for tags

Hovering looks for tags and status codes again, on one line and without the search through the
whole text. On the line of a tag it finds the same (`hover?_agrees`): behind the start of the
marker the kind of the tag, and on its status code the status that was recorded.

Several pieces of a line may touch one position, so the first one has to be the right one. The
pieces of tags before a marker end before it, as no piece goes past an `@`. Status codes are
whole runs of digits behind a gap (`IsCode`): two of them never touch, and none touches the
inside of a tag, in which there are neither gaps nor digits.
-/

namespace ApiNotes

namespace Editor

open Tag

/-! ### Pieces -/

theorem Piece.touches_iff {piece : Piece} {byte : Nat} :
    piece.touches byte = true ↔
      piece.start ≤ byte ∧ byte ≤ piece.start + Text.byteLength piece.text := by
  simp [Piece.touches]

theorem Piece.touches_append (before left right : List Char) :
    Piece.touches ⟨Text.byteLength before, left ++ right⟩ (Text.byteLength (before ++ left)) =
      true := by
  rw [Piece.touches_iff]
  simp only [Text.byteLength_append]
  omega

/-- The pieces before a marker end before it. -/
theorem exists_tagPieces_append (offset : Nat) (front rest : List Char) :
    ∃ pieces, tagPieces offset (front ++ tagText rest) =
        pieces ++ tagPieces (offset + Text.byteLength front) (tagText rest) ∧
      ∀ piece ∈ pieces,
        piece.start + Text.byteLength piece.text ≤ offset + Text.byteLength front := by
  induction front generalizing offset with
  | nil => exact ⟨[], rfl, by simp⟩
  | cons c cs ih =>
      obtain ⟨pieces, hpieces, hends⟩ := ih (offset + c.utf8Size)
      rw [Nat.add_assoc, ← Text.byteLength_cons] at hpieces hends
      rw [List.cons_append, tagPieces, hpieces]
      cases htag : tagName? (c :: (cs ++ tagText rest)) with
      | none => exact ⟨pieces, rfl, hends⟩
      | some name =>
          refine ⟨⟨offset, tagText name⟩ :: pieces, rfl, List.forall_mem_cons.2 ⟨?_, hends⟩⟩
          obtain ⟨behind, htext, hname⟩ := exists_of_tagName?_eq_some htag
          rw [← List.cons_append] at htext
          obtain hnil | ⟨between, hfront, -⟩ := marker_cut hname.1 htext.symm
          · cases hnil
          · rw [hfront, Text.byteLength_append]
            exact Nat.add_le_add_left (Nat.le_add_right _ _) offset

theorem exists_tagPieces_tagText {name tail : List Char} (hname : IsName name tail)
    (offset : Nat) :
    ∃ later, tagPieces offset (tagText name ++ tail) = ⟨offset, tagText name⟩ :: later := by
  have htag := tagName?_tagText hname
  rw [tagText, List.cons_append] at htag ⊢
  rw [tagPieces, htag]
  exact ⟨_, rfl⟩

/-- The first piece that touches the inside of a tag is that of the tag. -/
theorem find?_tagPieces {front name tail left right : List Char} (hname : IsName name tail)
    (htag : tagText name = left ++ right) (hleft : left ≠ []) :
    (tagPieces 0 (front ++ (tagText name ++ tail))).find?
        (·.touches (Text.byteLength (front ++ left))) =
      some ⟨Text.byteLength front, tagText name⟩ := by
  obtain ⟨pieces, hpieces, hends⟩ := exists_tagPieces_append 0 front (name ++ tail)
  change tagPieces 0 (front ++ (tagText name ++ tail)) =
    pieces ++ tagPieces _ (tagText name ++ tail) at hpieces
  rw [Nat.zero_add] at hpieces hends
  obtain ⟨later, hlater⟩ := exists_tagPieces_tagText hname (Text.byteLength front)
  have hlong : 0 < Text.byteLength left := by
    obtain ⟨c, cs, rfl⟩ := List.exists_cons_of_ne_nil hleft
    exact Nat.add_pos_left c.utf8Size_pos _
  have hnone : pieces.find? (·.touches (Text.byteLength (front ++ left))) = none := by
    rw [List.find?_eq_none]
    intro piece hpiece htouches
    have hend := hends piece hpiece
    rw [Piece.touches_iff, Text.byteLength_append] at htouches
    omega
  have htouches : Piece.touches ⟨Text.byteLength front, tagText name⟩
      (Text.byteLength (front ++ left)) = true := by
    rw [htag]
    exact Piece.touches_append front left right
  rw [hpieces, List.find?_append, hnone, Option.none_or, hlater, List.find?_cons, htouches]

theorem kindAt?_tagText {front name tail left right : List Char} (hname : IsName name tail)
    (htag : tagText name = left ++ right) (hleft : left ≠ []) :
    kindAt? (front ++ (tagText name ++ tail)) (Text.byteLength (front ++ left)) =
      Kind.ofName? (String.ofList name) := by
  rw [kindAt?, find?_tagPieces hname htag hleft]
  rfl

/-! ### Status codes -/

/-- A piece is a whole run of digits behind a gap. -/
def IsCode (line : List Char) (piece : Piece) : Prop :=
  ∃ before gap behind, line = (before ++ [gap]) ++ (piece.text ++ behind) ∧
    piece.start = Text.byteLength (before ++ [gap]) ∧ Text.isGap gap = true ∧
      (∀ c ∈ piece.text, Text.isDigit c = true) ∧ ∀ c ∈ behind.head?, Text.isDigit c = false

theorem isDigit_of_isGap {c : Char} (h : Text.isGap c = true) : Text.isDigit c = false := by
  simp only [Text.isGap, Bool.or_eq_true, beq_iff_eq] at h
  rcases h with rfl | rfl <;> decide

theorem not_mem_tagText {name : List Char} (hname : ∀ c ∈ name, c.isAlpha = true) {gap : Char}
    (hgap : Text.isGap gap = true) : gap ∉ tagText name := by
  intro hmem
  simp only [Text.isGap, Bool.or_eq_true, beq_iff_eq] at hgap
  rcases mem_tagText hname hmem with rfl | halpha
  · rcases hgap with hgap | hgap <;> cases hgap
  · rcases hgap with rfl | rfl <;> cases halpha

section Codes

variable {line : List Char} {piece piece' : Piece} {byte : Nat}

/-- A code that touches a position behind its start holds what is before that position. -/
theorem exists_between_of_touches {before text behind upTo rest : List Char}
    (h : before ++ (text ++ behind) = upTo ++ rest)
    (hstart : Text.byteLength before ≤ Text.byteLength upTo)
    (hstop : Text.byteLength upTo ≤ Text.byteLength before + Text.byteLength text) :
    ∃ between, upTo = before ++ between ∧ between <+: text := by
  obtain ⟨between, rfl, hrest⟩ := Text.exists_append_of_byteLength_le h hstart
  rw [Text.byteLength_append] at hstop
  have hle : Text.byteLength between ≤ Text.byteLength text := by omega
  obtain ⟨left, rfl, -⟩ := Text.exists_append_of_byteLength_le hrest.symm hle
  exact ⟨between, rfl, List.prefix_append between left⟩

theorem IsCode.start_le (h : IsCode line piece) (h' : IsCode line piece')
    (ht : piece.touches byte = true) (ht' : piece'.touches byte = true) :
    piece'.start ≤ piece.start := by
  obtain ⟨before, gap, behind, hline, hstart, -, hdigits, -⟩ := h
  obtain ⟨before', gap', behind', hline', hstart', hgap', -, -⟩ := h'
  rw [Piece.touches_iff] at ht ht'
  by_contra hlt
  rw [hstart, hstart'] at hlt
  rw [hstart] at ht
  rw [hstart'] at ht'
  obtain ⟨between, hbetween, hsub⟩ :=
    exists_between_of_touches (hline.symm.trans hline') (by omega) (by omega)
  -- The gap before the later code would be a digit of the earlier one.
  have hne : between ≠ [] := by
    rintro rfl
    rw [hbetween, List.append_nil] at hlt
    omega
  have hdigit := hdigits gap' (hsub.subset (Text.mem_of_concat_eq_append hbetween hne))
  rw [isDigit_of_isGap hgap'] at hdigit
  cases hdigit

/-- Two codes that touch one position are the same. -/
theorem IsCode.eq_of_touches (h : IsCode line piece) (h' : IsCode line piece')
    (ht : piece.touches byte = true) (ht' : piece'.touches byte = true) : piece = piece' := by
  have hstarts : piece.start = piece'.start :=
    Nat.le_antisymm (h'.start_le h ht' ht) (h.start_le h' ht ht')
  obtain ⟨before, gap, behind, hline, hstart, -, hdigits, hbehind⟩ := h
  obtain ⟨before', gap', behind', hline', hstart', -, hdigits', hbehind'⟩ := h'
  obtain ⟨-, hrest⟩ := Text.append_inj_of_byteLength_eq (hline.symm.trans hline')
    (hstart.symm.trans (hstarts.trans hstart'))
  have htext : piece.text = piece'.text := by
    rw [← (Text.span_append hdigits hbehind).1, hrest, (Text.span_append hdigits' hbehind').1]
  calc piece = ⟨piece.start, piece.text⟩ := rfl
    _ = ⟨piece'.start, piece'.text⟩ := by rw [hstarts, htext]
    _ = piece' := rfl

/-- No code touches the inside of a tag. -/
theorem IsCode.not_touches {front name tail left right : List Char}
    (h : IsCode (front ++ (tagText name ++ tail)) piece)
    (hname : ∀ c ∈ name, c.isAlpha = true) (htag : tagText name = left ++ right)
    (hleft : left ≠ []) : ¬ piece.touches (Text.byteLength (front ++ left)) = true := by
  obtain ⟨before, gap, behind, hline, hstart, hgap, hdigits, -⟩ := h
  intro ht
  rw [Piece.touches_iff, hstart] at ht
  have hcut : (before ++ [gap]) ++ (piece.text ++ behind) = (front ++ left) ++ (right ++ tail) := by
    rw [← hline, htag]
    simp
  obtain ⟨between, hbetween, hsub⟩ := exists_between_of_touches hcut ht.1 ht.2
  have hat : '@' ∈ left := by
    obtain ⟨c, cs, rfl⟩ := List.exists_cons_of_ne_nil hleft
    obtain ⟨rfl, -⟩ := List.cons.inj htag
    exact List.mem_cons_self
  have hnodigit : '@' ∉ between := fun hmem => absurd (hdigits _ (hsub.subset hmem)) (by decide)
  rcases List.append_eq_append_iff.1 hbetween with ⟨inside, hinside, rfl⟩ | ⟨inside, -, rfl⟩
  · rcases List.mem_append.1 hat with hmem | hmem
    · -- The gap before the code would be in the tag.
      have hmem_gap := Text.mem_of_concat_eq_append hinside (List.ne_nil_of_mem hmem)
      have hgapped : gap ∈ tagText name := by
        rw [htag]
        exact List.mem_append_left _ (List.mem_append_left _ hmem_gap)
      exact not_mem_tagText hname hgap hgapped
    · exact hnodigit hmem
  · exact hnodigit (List.mem_append_right inside hat)

/-! ### The codes of a line -/

/-- What stands before the text behind a tag that takes a status code. -/
theorem exists_tag_of_behindStatusTag? {text rest : List Char}
    (h : behindStatusTag? text = some rest) :
    ∃ tag ∈ statusTags, ∃ gaps, text = tag ++ (gaps ++ rest) ∧ gaps ≠ [] ∧
      ∀ c ∈ gaps, Text.isGap c = true := by
  obtain ⟨behind, hbehind, hgapped⟩ := Option.bind_eq_some_iff.1 h
  obtain ⟨tag, htag, hdrop⟩ := List.exists_of_findSome?_eq_some hbehind
  split at hgapped
  · next hgap =>
    obtain rfl := Option.some.inj hgapped
    refine ⟨tag, htag, behind.takeWhile Text.isGap, ?_, ?_, fun c hc => List.mem_takeWhile_imp hc⟩
    · rw [List.takeWhile_append_dropWhile]
      exact Text.dropStart?_eq_some_iff.1 hdrop
    · cases behind with
      | nil => simp at hgap
      | cons c cs =>
          have hc : Text.isGap c = true := by simpa using hgap
          simp [hc]
  · cases hgapped

theorem exists_of_behindStatusTag? {text rest : List Char}
    (h : behindStatusTag? text = some rest) :
    ∃ front gap, text = (front ++ [gap]) ++ rest ∧ Text.isGap gap = true := by
  obtain ⟨tag, -, gaps, rfl, hne, hgaps⟩ := exists_tag_of_behindStatusTag? h
  obtain ⟨gaps, gap, rfl⟩ := (List.eq_nil_or_concat gaps).resolve_left hne
  rw [List.concat_eq_append] at hgaps ⊢
  refine ⟨tag ++ gaps, gap, by simp, hgaps gap List.mem_concat_self⟩

theorem isCode_of_statusPiece? {before text : List Char}
    (h : statusPiece? (Text.byteLength before) text = some piece) :
    IsCode (before ++ text) piece := by
  obtain ⟨rest, hrest, hdigits⟩ := Option.bind_eq_some_iff.1 h
  obtain ⟨front, gap, rfl, hgap⟩ := exists_of_behindStatusTag? hrest
  dsimp only at hdigits
  split at hdigits
  · cases hdigits
  · obtain rfl := Option.some.inj hdigits
    refine ⟨before ++ front, gap, rest.dropWhile Text.isDigit, ?_, ?_, hgap, ?_, ?_⟩
    · rw [List.takeWhile_append_dropWhile]
      simp
    · simp only [Text.byteLength_append]
      omega
    · exact fun c hc => List.mem_takeWhile_imp hc
    · exact Text.head?_dropWhile Text.isDigit rest

theorem isCode_of_mem_statusPieces {before rest : List Char}
    (h : piece ∈ statusPieces (Text.byteLength before) rest) : IsCode (before ++ rest) piece := by
  induction rest generalizing before with
  | nil => cases h
  | cons c cs ih =>
      rw [statusPieces] at h
      rcases List.mem_append.1 h with h | h
      · exact isCode_of_statusPiece? (Option.mem_toList.1 h)
      · have hbefore : Text.byteLength before + c.utf8Size = Text.byteLength (before ++ [c]) := by
          simp
        rw [hbefore] at h
        have hcode := ih h
        rwa [List.append_assoc] at hcode

theorem isCode_of_mem (h : piece ∈ statusPieces 0 line) : IsCode line piece := by
  have hstart : piece ∈ statusPieces (Text.byteLength []) line := h
  exact isCode_of_mem_statusPieces hstart

/-- The code that touches a position gives the status there. -/
theorem statusAt?_of_mem (h : piece ∈ statusPieces 0 line) (ht : piece.touches byte = true) :
    statusAt? line byte = status? piece.text := by
  have hsome : ((statusPieces 0 line).find? (·.touches byte)).isSome = true :=
    List.find?_isSome.2 ⟨piece, h, ht⟩
  obtain ⟨piece', hfind⟩ := Option.isSome_iff_exists.1 hsome
  have hmem := List.mem_of_find?_eq_some hfind
  have ht' := List.find?_some hfind
  rw [statusAt?, hfind, (isCode_of_mem h).eq_of_touches (isCode_of_mem hmem) ht ht']
  rfl

theorem statusAt?_tagText {front name tail left right : List Char}
    (hname : ∀ c ∈ name, c.isAlpha = true) (htag : tagText name = left ++ right)
    (hleft : left ≠ []) :
    statusAt? (front ++ (tagText name ++ tail)) (Text.byteLength (front ++ left)) = none := by
  have hnone : (statusPieces 0 (front ++ (tagText name ++ tail))).find?
      (·.touches (Text.byteLength (front ++ left))) = none := by
    rw [List.find?_eq_none]
    exact fun piece hpiece => (isCode_of_mem hpiece).not_touches hname htag hleft
  rw [statusAt?, hnone]
  rfl

theorem mem_statusPieces_append {offset : Nat} {before rest : List Char}
    (h : statusPiece? (offset + Text.byteLength before) rest = some piece) :
    piece ∈ statusPieces offset (before ++ rest) := by
  induction before generalizing offset with
  | nil =>
      cases rest with
      | nil => cases h
      | cons c cs =>
          rw [List.nil_append, statusPieces]
          exact List.mem_append_left _ (Option.mem_toList.2 h)
  | cons c cs ih =>
      rw [List.cons_append, statusPieces]
      rw [Text.byteLength_cons, ← Nat.add_assoc] at h
      exact List.mem_append_right _ (ih h)

end Codes

theorem behindStatusTag?_tagText {kind : Kind} (hkind : kind = .response ∨ kind = .error)
    {gaps rest : List Char} (hne : gaps ≠ []) (hgaps : ∀ c ∈ gaps, Text.isGap c = true)
    (hrest : ∀ c ∈ rest.head?, Text.isGap c = false) :
    behindStatusTag? (tagText kind.name.toList ++ (gaps ++ rest)) = some rest := by
  have hfind : statusTags.findSome?
      (fun tag => Text.dropStart? tag (tagText kind.name.toList ++ (gaps ++ rest))) =
        some (gaps ++ rest) := by
    rcases hkind with rfl | rfl <;> rfl
  have hhead : (gaps ++ rest).head?.any Text.isGap = true := by
    obtain ⟨c, cs, rfl⟩ := List.exists_cons_of_ne_nil hne
    exact hgaps c List.mem_cons_self
  rw [behindStatusTag?, hfind, Option.bind_eq_bind, Option.bind_some, if_pos hhead,
    (Text.span_append hgaps hrest).2]

/-! ### The status of a tag -/

/-- Gaps follow a tag and then digits, with no digit behind them. -/
structure StatusFollows (tail gaps digits : List Char) : Prop where
  gaps_ne_nil : gaps ≠ []
  isGap : ∀ c ∈ gaps, Text.isGap c = true
  digits_ne_nil : digits ≠ []
  isDigit : ∀ c ∈ digits, Text.isDigit c = true
  whole : ∃ more, tail = gaps ++ (digits ++ more) ∧ ∀ c ∈ more.head?, Text.isDigit c = false

section StatusFollows

variable {tail gaps digits : List Char}

theorem StatusFollows.head?_isBlank (h : StatusFollows tail gaps digits) (more : List Char) :
    ∀ c ∈ (digits ++ more).head?, Text.isBlank c = false := by
  obtain ⟨d, ds, rfl⟩ := List.exists_cons_of_ne_nil h.digits_ne_nil
  intro c hc
  obtain rfl := Option.some.inj hc
  have hdigit := h.isDigit d List.mem_cons_self
  cases hblank : Text.isBlank d with
  | false => rfl
  | true =>
      rw [Text.isDigit_of_isBlank hblank] at hdigit
      cases hdigit

/-- The digits on the line are those that were read. -/
theorem StatusFollows.status?_eq (h : StatusFollows tail gaps digits) {kind : Kind}
    {ending : List Char} (hending : ∀ c ∈ ending.head?, c = '\r' ∨ c = '\n') {note : ResponseNote}
    (hread : (readResponse kind (tail ++ ending)).result = .ok note) :
    status? digits = some note.status := by
  obtain ⟨more, rfl, hmore⟩ := h.whole
  have hblanks : ((gaps ++ (digits ++ more)) ++ ending).dropWhile Text.isBlank =
      digits ++ (more ++ ending) := by
    rw [List.append_assoc, List.append_assoc]
    exact (Text.span_append (fun c hc => isBlank_of_isGap (h.isGap c hc))
      (h.head?_isBlank (more ++ ending))).2
  have hstop : ∀ c ∈ (more ++ ending).head?, Text.isDigit c = false := by
    cases more with
    | nil =>
        intro c hc
        rcases hending c hc with rfl | rfl <;> decide
    | cons d ds => exact hmore
  have hstatus := (readResponse_eq_ok hread).1
  rwa [hblanks, (Text.span_append h.isDigit hstop).1] at hstatus

/-- The entries with a status are those of the kinds that take one. -/
theorem readResponse_of_readArguments {kind : Kind} {text : List Char} {entry : Entry}
    {note : ResponseNote} (h : (readArguments kind text).result = .ok entry)
    (hentry : entry = .response note ∨ entry = .error note) :
    (kind = .response ∨ kind = .error) ∧ (readResponse kind text).result = .ok note := by
  cases kind with
  | response =>
      obtain ⟨note', hread, rfl⟩ := Reading.result_map_eq_ok_iff.1 h
      rcases hentry with hentry | hentry
      · cases hentry
        exact ⟨Or.inl rfl, hread⟩
      · cases hentry
  | error =>
      obtain ⟨note', hread, rfl⟩ := Reading.result_map_eq_ok_iff.1 h
      rcases hentry with hentry | hentry
      · cases hentry
      · cases hentry
        exact ⟨Or.inr rfl, hread⟩
  | sample =>
      obtain ⟨note', -, rfl⟩ := Reading.result_map_eq_ok_iff.1 h
      rcases hentry with hentry | hentry <;> cases hentry
  | enumeration =>
      obtain ⟨note', -, rfl⟩ := Reading.result_map_eq_ok_iff.1 h
      rcases hentry with hentry | hentry <;> cases hentry
  | deprecated =>
      obtain ⟨note', -, rfl⟩ := Reading.result_map_eq_ok_iff.1 h
      rcases hentry with hentry | hentry <;> cases hentry

theorem isDigit_of_status? {digits : List Char} {n : Nat} (h : status? digits = some n) :
    ∀ c ∈ digits, c.isDigit = true := by
  obtain ⟨hdecimal, -⟩ := Option.filter_eq_some_iff.1 h
  rw [Text.decimal?] at hdecimal
  split at hdecimal
  · next hdigits => exact List.all_eq_true.1 hdigits.2
  · cases hdecimal

theorem StatusFollows.mem_statusPieces (h : StatusFollows tail gaps digits) {kind : Kind}
    (hkind : kind = .response ∨ kind = .error) (front : List Char) :
    ⟨Text.byteLength (front ++ (tagText kind.name.toList ++ gaps)), digits⟩ ∈
      statusPieces 0 (front ++ (tagText kind.name.toList ++ tail)) := by
  obtain ⟨more, rfl, hmore⟩ := h.whole
  have hgap : ∀ c ∈ (digits ++ more).head?, Text.isGap c = false := fun c hc =>
    isGap_of_not_blank (h.head?_isBlank more c hc)
  apply mem_statusPieces_append
  rw [statusPiece?, behindStatusTag?_tagText hkind h.gaps_ne_nil h.isGap hgap,
    Option.bind_eq_bind, Option.bind_some]
  dsimp only
  rw [(Text.span_append h.isDigit hmore).1, if_neg h.digits_ne_nil]
  simp only [Text.byteLength_append, Option.some.injEq, Piece.mk.injEq, and_true]
  omega

end StatusFollows

/-! ### Hovering -/

theorem hover?_eq {text line : List Char} {n col byte : Nat}
    (hline : (Text.lines text)[n]? = some line) (hcomment : isCommentLine line = true)
    (hbyte : byte? col line = some byte) :
    hover? text ⟨n, col⟩ =
      ((statusAt? line byte).map statusGuide).or ((kindAt? line byte).map guide) := by
  simp only [hover?, hline, Option.bind_eq_bind, Option.bind_some, hcomment, Bool.not_true,
    Bool.false_eq_true, if_false, hbyte]
  cases statusAt? line byte with
  | none => rfl
  | some code => rfl

section OnLine

variable {text front tail : List Char} {o : Occurrence} {place : Text.Place}

/-- Behind the start of the marker, the kind of the tag is shown. -/
theorem OnLine.hover?_tag (h : OnLine text o place front tail)
    (hname : IsName o.name.toList tail)
    (hcomment : isCommentLine (front ++ (tagText o.name.toList ++ tail)) = true) {col : Nat}
    (hlt : unitLength front < col)
    (hle : col ≤ unitLength (front ++ tagText o.name.toList)) :
    hover? text ⟨place.line, col⟩ = (Kind.ofName? o.name).map guide := by
  rw [unitLength_append] at hle
  have hwithin : col - unitLength front ≤ unitLength (tagText o.name.toList) := by omega
  obtain ⟨left, right, htag, hcol⟩ := exists_append_of_le_unitLength
    (fun c hc => units_of_mem_tagText hname.1 hc) hwithin
  have hleft : left ≠ [] := by
    rintro rfl
    rw [unitLength_nil] at hcol
    omega
  have hbyte : byte? col (front ++ (tagText o.name.toList ++ tail)) =
      some (Text.byteLength (front ++ left)) := by
    have hcut : col = unitLength (front ++ left) := by
      rw [unitLength_append]
      omega
    rw [hcut, htag, List.append_assoc, ← List.append_assoc, byte?_unitLength_append]
  rw [hover?_eq h.line_eq hcomment hbyte, statusAt?_tagText hname.1 htag hleft,
    kindAt?_tagText hname htag hleft, String.ofList_toList]
  rfl

/-- On the digits of its status code, the status of a tag is shown. -/
theorem OnLine.hover?_status (h : OnLine text o place front tail) {kind : Kind}
    (hkind : kind = .response ∨ kind = .error) (hname : o.name = kind.name)
    (hcomment : isCommentLine (front ++ (tagText o.name.toList ++ tail)) = true)
    {gaps digits : List Char} (hstatus : StatusFollows tail gaps digits) {status : Nat}
    (hread : status? digits = some status) {col : Nat}
    (hge : unitLength (front ++ (tagText o.name.toList ++ gaps)) ≤ col)
    (hle : col ≤ unitLength (front ++ (tagText o.name.toList ++ (gaps ++ digits)))) :
    hover? text ⟨place.line, col⟩ = some (statusGuide status) := by
  have hpiece := hstatus.mem_statusPieces hkind front
  rw [← hname] at hpiece
  have hwithin : col - unitLength (front ++ (tagText o.name.toList ++ gaps)) ≤
      unitLength digits := by
    simp only [unitLength_append] at hge hle ⊢
    omega
  obtain ⟨left, right, hdigits, hcol⟩ := exists_append_of_le_unitLength
    (fun c hc => units_of_isDigit (isDigit_of_status? hread c hc)) hwithin
  have hbyte : byte? col (front ++ (tagText o.name.toList ++ tail)) =
      some (Text.byteLength (front ++ (tagText o.name.toList ++ gaps) ++ left)) := by
    obtain ⟨more, htail, -⟩ := hstatus.whole
    have hcut : col = unitLength (front ++ (tagText o.name.toList ++ gaps) ++ left) := by
      rw [unitLength_append]
      omega
    have hline : front ++ (tagText o.name.toList ++ tail) =
        (front ++ (tagText o.name.toList ++ gaps) ++ left) ++ (right ++ more) := by
      rw [htail, hdigits]
      simp
    rw [hcut, hline, byte?_unitLength_append]
  have htouches : Piece.touches ⟨Text.byteLength (front ++ (tagText o.name.toList ++ gaps)), digits⟩
      (Text.byteLength (front ++ (tagText o.name.toList ++ gaps) ++ left)) = true := by
    rw [hdigits]
    exact Piece.touches_append _ left right
  rw [hover?_eq h.line_eq hcomment hbyte, statusAt?_of_mem hpiece htouches, hread]
  rfl

end OnLine

theorem name_eq_of_ofName? {name : String} {kind : Kind} (h : Kind.ofName? name = some kind) :
    name = kind.name := by
  have hname := List.find?_some h
  exact (beq_iff_eq.1 hname).symm

/-- Hovering agrees with the search for tags. Every tag is on a line, and if that is a comment
line, the kind of the tag is shown from behind the start of its marker up to its end, and nothing
if the kind is unknown; and where a status code follows on the line, the status that was recorded
is shown from its first digit up to behind the last one. -/
theorem hover?_agrees {text : List Char} {o : Occurrence} (ho : o ∈ scan text) :
    (∃ place front tail, OnLine text o place front tail) ∧
      ∀ place front tail, OnLine text o place front tail →
        isCommentLine (front ++ (tagText o.name.toList ++ tail)) = true →
          (∀ col, unitLength front < col → col ≤ unitLength (front ++ tagText o.name.toList) →
            hover? text ⟨place.line, col⟩ = o.kind.map guide) ∧
          ∀ note, o.result = .ok (.response note) ∨ o.result = .ok (.error note) →
            ∀ gaps digits, StatusFollows tail gaps digits →
              ∀ col, unitLength (front ++ (tagText o.name.toList ++ gaps)) ≤ col →
                col ≤ unitLength (front ++ (tagText o.name.toList ++ (gaps ++ digits))) →
                  hover? text ⟨place.line, col⟩ = some (statusGuide note.status) := by
  obtain ⟨before, name, behind, rfl, hname, hname_eq, hkind_eq, hstart, hentry⟩ :=
    (scanned_scan text).readFrom o ho
  rw [Nat.zero_add] at hstart
  rw [← hname_eq] at hkind_eq
  obtain ⟨front, tail, honLine, hrow⟩ := exists_onLine hname hname_eq hstart
  obtain ⟨ending, rfl, hending⟩ := exists_lineEnd hrow
  have htail : IsName o.name.toList tail := by
    rw [hname_eq, String.toList_ofList]
    refine ⟨hname.1, fun c hc => hname.2 c ?_⟩
    rw [List.head?_append, hc]
    rfl
  refine ⟨⟨_, front, tail, honLine⟩, ?_⟩
  intro place front' tail' honLine' hcomment
  obtain ⟨rfl, rfl, rfl⟩ := honLine.unique honLine'
  constructor
  · intro col hlt hle
    rw [hkind_eq]
    exact honLine.hover?_tag htail hcomment hlt hle
  · intro note hnote gaps digits hstatus col hge hle
    obtain ⟨entry, hentry_eq, hresult⟩ : ∃ entry, (entry = .response note ∨ entry = .error note) ∧
        o.result = .ok entry := by
      rcases hnote with hnote | hnote
      · exact ⟨_, Or.inl rfl, hnote⟩
      · exact ⟨_, Or.inr rfl, hnote⟩
    obtain ⟨kind, hkind, hread⟩ := hentry entry hresult
    obtain ⟨hresponse, hread⟩ := readResponse_of_readArguments hread hentry_eq
    rw [hkind_eq] at hkind
    exact honLine.hover?_status hresponse (name_eq_of_ofName? hkind) hcomment hstatus
      (hstatus.status?_eq hending hread) hge hle

/-- A character of two units before the tag, a code that begins with zero, and a carriage return
at the end of the line. -/
theorem hover?_agrees_leading_zero :
    let text := "/**\r\n * ü 👋 @LRDerror 0404 \x7b\x7d\r\n */".toList
    let o : Occurrence := ⟨"error", some .error, ⟨16, 33⟩,
      .ok (.error ⟨404, Status.reason 404, .obj [], none⟩)⟩
    o ∈ scan text ∧ hover? text ⟨1, 9⟩ = some (guide .error) ∧
      hover? text ⟨1, 22⟩ = some (statusGuide 404) := by
  intro text o
  have hscan : scan text = [o] := by rfl
  have ho : o ∈ scan text := by
    rw [hscan]
    exact List.mem_singleton_self o
  have honLine : OnLine text o ⟨1, 11⟩ " * ü 👋 ".toList " 0404 \x7b\x7d".toList :=
    ⟨by decide +kernel, by decide +kernel, by decide +kernel⟩
  have hstatus : StatusFollows " 0404 \x7b\x7d".toList [' '] "0404".toList := by
    refine ⟨by decide, List.all_eq_true.1 (by decide), by decide, List.all_eq_true.1 (by decide),
      " \x7b\x7d".toList, by decide, ?_⟩
    intro c hc
    obtain rfl := Option.some.inj hc
    decide
  obtain ⟨htag, hcode⟩ := (hover?_agrees ho).2 _ _ _ honLine (by decide)
  exact ⟨ho, htag 9 (by decide) (by decide),
    hcode _ (Or.inr rfl) _ _ hstatus 22 (by decide) (by decide)⟩

end Editor

end ApiNotes
