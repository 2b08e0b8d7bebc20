import ApiNotes.Editor.Workspace
import ApiNotes.Proofs.Editor.Agreement
import ApiNotes.Proofs.Editor.Position

/-!
# Where reports point

A diagnostic counts the bytes of the row of its tag, up to the line feed. A report counts units
of the line, which lacks a carriage return, in 32 bits. In a text of less than 2 ^ 32 bytes
nothing is lost on the way (`reports?_pointsAt`): on the line of its tag, a report starts at the
marker and stops where the tag does or, at the latest, where the line does.

Reports follow each other as their tags do. Two tags are in the order of their places
(`OnLine.before`), and on one line the part before the later tag is longer in every unit.
-/

namespace ApiNotes

namespace Editor

open Tag

variable {text : List Char} {o o' : Occurrence}

/-! ### The order of tags -/

section Order

variable {place place' : Text.Place} {front front' tail tail' : List Char}

theorem OnLine.before (h : OnLine text o place front tail)
    (h' : OnLine text o' place' front' tail') (ho : o ∈ scan text) (ho' : o' ∈ scan text)
    (hlt : o.span.start < o'.span.start) : place.Before place' := by
  obtain ⟨before, behind, rfl, hstart⟩ := isBoundary_start ho
  obtain ⟨before', behind', htext, hstart'⟩ := isBoundary_start ho'
  have hplace := h.place_eq
  have hplace' := h'.place_eq
  rw [hstart, place?_byteLength_append, Option.some.injEq] at hplace
  rw [htext, hstart', place?_byteLength_append, Option.some.injEq] at hplace'
  rw [hstart, hstart'] at hlt
  obtain ⟨between, rfl, -⟩ := Text.exists_append_of_byteLength_le htext (Nat.le_of_lt hlt)
  cases between with
  | nil => simp at hlt
  | cons c between =>
      rw [← hplace, ← hplace', Text.endPlace, Text.endPlace, Text.Place.after_append]
      exact Text.Place.before_after _ c between

/-- On one line, the later tag has the greater column. -/
theorem OnLine.unitLength_lt (h : OnLine text o place front tail)
    (h' : OnLine text o' place' front' tail') (hline : place.line = place'.line)
    (hlt : place.column < place'.column) : unitLength front < unitLength front' := by
  have hsame : front ++ (tagText o.name.toList ++ tail) =
      front' ++ (tagText o'.name.toList ++ tail') := by
    have heq := h.line_eq
    rw [hline, h'.line_eq] at heq
    exact (Option.some.inj heq).symm
  rw [h.column_eq, h'.column_eq] at hlt
  obtain ⟨between, rfl, -⟩ := Text.exists_append_of_byteLength_le hsame (Nat.le_of_lt hlt)
  cases between with
  | nil => simp at hlt
  | cons c between =>
      have hpos := units_pos c
      rw [unitLength_append, unitLength_cons]
      omega

end Order

/-! ### One report -/

theorem word_of_lt {n : Nat} (h : n < 2 ^ 32) : word n = n :=
  Nat.mod_eq_of_lt h

/-- A report in terms of the line of its tag. -/
theorem report_diagnosticAt {before behind line front : List Char} {span : Span}
    (hstart : span.start = Text.byteLength before)
    (hline : (Text.lines (before ++ behind))[(Text.endPlace before).line]? = some line)
    (hcolumn : (Text.endPlace before).column = Text.byteLength front) (severity : Severity)
    (message : String) :
    (diagnosticAt (before ++ behind) span severity message).report
        (Text.lines (before ++ behind)) =
      { line := word (Text.endPlace before).line
        start := word (column (Text.byteLength front) line)
        stop := word (column (Text.byteLength front +
          highlightLength span (Text.byteLength (Text.row behind))) line)
        message
        severity } := by
  have hbefore : slice (before ++ behind) 0 span.start = before := by
    rw [hstart]
    exact slice_append [] before behind
  have hbehind : Text.dropBytes span.start (before ++ behind) = behind := by
    rw [hstart, Text.dropBytes_byteLength_append]
  simp only [diagnosticAt, hbefore, hbehind, Diagnostic.report, hline, Option.getD_some, hcolumn]

/-- Tags span their markers, so there is nothing to make up for. -/
theorem highlightLength_eq (ho : o ∈ scan text) (length : Nat) :
    highlightLength o.span length = min (o.span.stop - o.span.start) length := by
  have hspan := ((scanned_scan text).placed o ho).start_le
  have hmarker : Text.byteLength marker.toList = 4 := by decide
  rw [highlightLength, hmarker]
  omega

/-- What a tag covers begins at its marker. -/
theorem exists_part {before behind : List Char} (ho : o ∈ scan (before ++ behind))
    (hstart : o.span.start = Text.byteLength before) :
    ∃ part rest, part ++ rest = behind ∧ o.span.stop - o.span.start = Text.byteLength part := by
  have hspan := ((scanned_scan _).placed o ho).start_le
  obtain ⟨upTo, rest, htext, hstop⟩ := isBoundary_stop ho
  obtain ⟨part, rfl, hpart⟩ := Text.exists_append_of_byteLength_le htext (by omega)
  refine ⟨part, rest, hpart.symm, ?_⟩
  rw [hstop, hstart, Text.byteLength_append, Nat.add_sub_cancel_left]

/-- What is clipped to a line of which `shown` is the end ends on a character of the line. -/
theorem exists_column_clipped {shown ending part rest : List Char} {limit : Nat}
    (h : part ++ rest = shown ++ ending) (hlimit : Text.byteLength shown ≤ limit)
    (front : List Char) :
    ∃ covered, covered <+: shown ∧
      Text.byteLength covered = min (Text.byteLength part) (Text.byteLength shown) ∧
        column (Text.byteLength front + min (Text.byteLength part) limit) (front ++ shown) =
          unitLength (front ++ covered) := by
  by_cases hle : Text.byteLength part ≤ Text.byteLength shown
  · obtain ⟨between, rfl, -⟩ := Text.exists_append_of_byteLength_le h hle
    refine ⟨part, List.prefix_append part between, (Nat.min_eq_left hle).symm, ?_⟩
    rw [Nat.min_eq_left (Nat.le_trans hle hlimit), ← Text.byteLength_append, ← List.append_assoc,
      column_byteLength_append]
  · refine ⟨shown, List.prefix_rfl, (Nat.min_eq_right (by omega)).symm, ?_⟩
    apply column_of_byteLength_le
    rw [Text.byteLength_append]
    omega

/-- In units, a report covers a tag from its marker to the end of the tag or of the line. -/
structure Covers (text : List Char) (o : Occurrence) (r : Report) (front tail covered : List Char) :
    Prop where
  onLine : OnLine text o ⟨r.line, Text.byteLength front⟩ front tail
  start_eq : r.start = unitLength front
  stop_eq : r.stop = unitLength (front ++ covered)
  covered_isPrefix : covered <+: tagText o.name.toList ++ tail
  byteLength_eq : Text.byteLength covered =
    min (o.span.stop - o.span.start) (Text.byteLength (tagText o.name.toList ++ tail))

theorem exists_covers (hsize : Text.byteLength text < 2 ^ 32) (ho : o ∈ scan text)
    (severity : Severity) (message : String) :
    ∃ front tail covered, Covers text o
      ((diagnosticAt text o.span severity message).report (Text.lines text))
        front tail covered := by
  obtain ⟨before, name, behind, rfl, hname, hname_eq, hstart⟩ :=
    ((scanned_scan text).placed o ho).tag_at
  rw [Nat.zero_add] at hstart
  obtain rfl : o.name.toList = name := by rw [hname_eq, String.toList_ofList]
  obtain ⟨front, tail, honLine, hrow⟩ := exists_onLine hname hname_eq hstart
  obtain ⟨ending, hbehind, -⟩ := exists_lineEnd hrow
  obtain ⟨part, rest, hpart, hstop⟩ := exists_part ho hstart
  have hlimit : Text.byteLength (tagText o.name.toList ++ tail) ≤
      Text.byteLength (Text.row (tagText o.name.toList ++ behind)) := by
    rw [row_tagText_append hname.1, Text.byteLength_append, Text.byteLength_append]
    rcases hrow with hrow | hrow
    · rw [hrow]
    · rw [hrow, Text.byteLength_append]
      omega
  rw [hbehind, ← List.append_assoc] at hpart
  obtain ⟨covered, hprefix, hcovered, hcolumn⟩ := exists_column_clipped hpart hlimit front
  -- Neither the line number nor a part of the line exceeds the size of the text.
  have hbound : (Text.endPlace before).line + Text.byteLength (front ++ covered) < 2 ^ 32 := by
    have hplace := Text.line_add_column_endPlace_le before
    have hshown := Nat.min_le_right (Text.byteLength part)
      (Text.byteLength (tagText o.name.toList ++ tail))
    rw [hbehind, ← List.append_assoc (tagText o.name.toList), Text.byteLength_append,
      Text.byteLength_append (tagText o.name.toList ++ tail)] at hsize
    rw [honLine.column_eq] at hplace
    rw [Text.byteLength_append, hcovered]
    omega
  have hunits : unitLength (front ++ covered) < 2 ^ 32 :=
    Nat.lt_of_le_of_lt (unitLength_le_byteLength _) (by omega)
  have hfront : unitLength front < 2 ^ 32 := by
    rw [unitLength_append] at hunits
    omega
  rw [report_diagnosticAt hstart honLine.line_eq honLine.column_eq, column_byteLength_append,
    highlightLength_eq ho, hstop, hcolumn, word_of_lt (by omega), word_of_lt hfront,
    word_of_lt hunits]
  refine ⟨front, tail, covered, ?_, rfl, rfl, hprefix, by rw [hstop, hcovered]⟩
  rw [← honLine.column_eq]
  exact honLine

/-- A report starts at the marker of a tag on the line of the tag, and stops behind the marker
where the tag does or where the line does. -/
def PointsAt (text : List Char) (o : Occurrence) (r : Report) : Prop :=
  ∃ front tail stop,
    OnLine text o ⟨r.line, Text.byteLength front⟩ front tail ∧
      byte? r.start (front ++ (tagText o.name.toList ++ tail)) = some (Text.byteLength front) ∧
      byte? r.stop (front ++ (tagText o.name.toList ++ tail)) = some stop ∧
      Text.byteLength front + 4 ≤ stop ∧
      stop = min (Text.byteLength front + (o.span.stop - o.span.start))
        (Text.byteLength (front ++ (tagText o.name.toList ++ tail)))

theorem Covers.pointsAt {r : Report} {front tail covered : List Char}
    (h : Covers text o r front tail covered) (hspan : o.span.start + 4 ≤ o.span.stop) :
    PointsAt text o r := by
  obtain ⟨rest, hrest⟩ := h.covered_isPrefix
  have hcovered := h.byteLength_eq
  have hmarker : 4 ≤ Text.byteLength (tagText o.name.toList ++ tail) := by
    rw [Text.byteLength_append, byteLength_tagText]
    omega
  refine ⟨front, tail, Text.byteLength (front ++ covered), h.onLine, ?_, ?_, ?_, ?_⟩
  · rw [h.start_eq, byte?_unitLength_append]
  · rw [h.stop_eq, ← hrest, ← List.append_assoc, byte?_unitLength_append]
  · rw [Text.byteLength_append]
    omega
  · rw [Text.byteLength_append, Text.byteLength_append]
    omega

/-! ### All reports -/

section ReduceOption

variable {α β : Type} {R : α → Option β → Prop} {xs : List α} {ys : List (Option β)}

theorem exists_of_mem_reduceOption (h : List.Forall₂ R xs ys) {y : β}
    (hy : y ∈ ys.reduceOption) : ∃ x ∈ xs, R x (some y) := by
  induction h with
  | nil => cases hy
  | @cons x y' xs ys hxy _ ih =>
      have hmem := List.reduceOption_mem_iff.1 hy
      rcases List.mem_cons.1 hmem with rfl | hmem
      · exact ⟨x, List.mem_cons_self, hxy⟩
      · obtain ⟨x', hx', hr⟩ := ih (List.reduceOption_mem_iff.2 hmem)
        exact ⟨x', List.mem_cons_of_mem x hx', hr⟩

/-- What is made of some of the elements of a list is in the order of the elements. -/
theorem pairwise_reduceOption {S : α → α → Prop} {T : β → β → Prop} (h : List.Forall₂ R xs ys)
    (hxs : xs.Pairwise S)
    (hst : ∀ x x' y y', S x x' → R x (some y) → R x' (some y') → T y y') :
    ys.reduceOption.Pairwise T := by
  induction h with
  | nil => exact .nil
  | @cons x y xs ys hxy hrest ih =>
      obtain ⟨hx, htail⟩ := List.pairwise_cons.1 hxs
      cases y with
      | none => exact ih htail
      | some y =>
          rw [List.reduceOption_cons_of_some, List.pairwise_cons]
          refine ⟨fun y' hy' => ?_, ih htail⟩
          obtain ⟨x', hx', hr⟩ := exists_of_mem_reduceOption hrest hy'
          exact hst x x' y y' (hx x' hx') hxy hr

end ReduceOption

theorem Remarked.exists_covers {d : Diagnostic} (h : Remarked text o (some d))
    (hsize : Text.byteLength text < 2 ^ 32) (ho : o ∈ scan text) :
    ∃ front tail covered, Covers text o (d.report (Text.lines text)) front tail covered := by
  cases h with
  | unknown _ _ => exact Editor.exists_covers hsize ho _ _
  | flawed _ _ => exact Editor.exists_covers hsize ho _ _
  | repeated _ _ _ => exact Editor.exists_covers hsize ho _ _

/-- In a text of less than 2 ^ 32 bytes, every report points at the tag that it is about, and
reports are in the order of their positions, with no two at the same. -/
theorem reports?_pointsAt {text : List Char} {rs : List Report}
    (hsize : Text.byteLength text < 2 ^ 32) (h : reports? text = some rs) :
    (∀ r ∈ rs, ∃ o ∈ scan text,
      (∃ d, Remarked text o (some d) ∧ r = d.report (Text.lines text)) ∧ PointsAt text o r) ∧
      rs.Pairwise fun r r' => r.line < r'.line ∨ r.line = r'.line ∧ r.start < r'.start := by
  obtain ⟨ds, hds, rfl⟩ := Option.map_eq_some_iff.1 h
  obtain ⟨remarks, hremarks, rfl⟩ :=
    exists_remarked (isSome_kind_of_isOk (scanned_scan text)) hds
  constructor
  · intro r hr
    obtain ⟨d, hd, rfl⟩ := List.mem_map.1 hr
    obtain ⟨o, ho, hremarked⟩ := exists_of_mem_reduceOption hremarks hd
    obtain ⟨front, tail, covered, hcovers⟩ := hremarked.exists_covers hsize ho
    have hspan := ((scanned_scan text).placed o ho).start_le
    exact ⟨o, ho, ⟨d, hremarked, rfl⟩, hcovers.pointsAt (by omega)⟩
  · have hordered := (scanned_scan text).pairwise.imp_of_mem
      fun {o o'} ho ho' hlt => (⟨ho, ho', hlt.1⟩ :
        o ∈ scan text ∧ o' ∈ scan text ∧ o.span.start < o'.span.start)
    rw [List.pairwise_map]
    refine pairwise_reduceOption hremarks hordered ?_
    rintro o o' d d' ⟨ho, ho', hlt⟩ hremarked hremarked'
    obtain ⟨front, tail, covered, hcovers⟩ := hremarked.exists_covers hsize ho
    obtain ⟨front', tail', covered', hcovers'⟩ := hremarked'.exists_covers hsize ho'
    rcases hcovers.onLine.before hcovers'.onLine ho ho' hlt with hline | ⟨hline, hcolumn⟩
    · exact Or.inl hline
    · refine Or.inr ⟨hline, ?_⟩
      rw [hcovers.start_eq, hcovers'.start_eq]
      exact hcovers.onLine.unitLength_lt hcovers'.onLine hline hcolumn

/-- Lines with carriage returns, a character of two units before an unknown tag, and a tag whose
object is flawed on a later line. -/
theorem reports?_pointsAt_carriage_return :
    let text := ("/**\r\n * ü 👋 @LRDenumm a\r\n" ++
      " * @LRDerror 404 \x7b\"a\":\r\n * \x7d\r\n */").toList
    ∃ rs, reports? text = some rs ∧
      rs.map (fun r => (r.line, r.start, r.stop)) = [(1, 8, 19), (2, 3, 22)] ∧
        ∀ r ∈ rs, ∃ o ∈ scan text, PointsAt text o r := by
  intro text
  have hsize : Text.byteLength text < 2 ^ 32 := by decide +kernel
  have hsome : (reports? text).isSome = true := by decide +kernel
  have hplaces : (reports? text).map (List.map fun r => (r.line, r.start, r.stop)) =
      some [(1, 8, 19), (2, 3, 22)] := by decide +kernel
  obtain ⟨rs, h⟩ := Option.isSome_iff_exists.1 hsome
  rw [h, Option.map_some, Option.some.injEq] at hplaces
  refine ⟨rs, h, hplaces, fun r hr => ?_⟩
  obtain ⟨o, ho, -, hpoints⟩ := (reports?_pointsAt hsize h).1 r hr
  exact ⟨o, ho, hpoints⟩

end Editor

end ApiNotes
