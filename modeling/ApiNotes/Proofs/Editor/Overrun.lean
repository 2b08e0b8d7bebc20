import ApiNotes.Editor.Diagnostic
import ApiNotes.Proofs.Tag.Markers
import Mathlib.Data.List.Chain

/-!
# Texts that cannot be diagnosed

A diagnosis looks at the text before a tag, behind its start, and between two tags that
follow each other. `diagnoseSlicing?` takes each of these parts only if it is there. The
parts before and behind a start always are, so both diagnoses agree, and they fail exactly
where a tag reaches beyond the start of the next one. Well-formed tags never do. The tag
behind a flawed one starts at the first marker behind its name, so a text cannot be diagnosed
exactly when it has a flawed tag that covers a marker behind its own name.
-/

namespace ApiNotes

namespace Editor

open Tag

variable {text : List Char} {previous : Option Nat} {seen : Seen} {o : Occurrence}
  {os : List Occurrence}

/-! ### One tag after the other -/

/-- The names that count as seen when a tag is reached. -/
def seenAt (text : List Char) (previous : Option Nat) (seen : Seen) (o : Occurrence) : Seen :=
  if previous.any fun stop => startsNewComment (slice text stop o.span.start) then .empty
  else seen

/-- The diagnostic that a remark about a tag leads to. -/
def noted? (text : List Char) (o : Occurrence) (found : Option (Severity × String)) :
    Option Diagnostic :=
  found.map fun remark => diagnosticAt text o.span remark.1 remark.2

theorem diagnoseFrom?_cons : diagnoseFrom? text previous seen (o :: os) =
    if ∀ stop ∈ previous, stop ≤ o.span.start then
      let found := remark (seenAt text previous seen o) o
      (diagnoseFrom? text (some o.span.stop) found.2 os).map
        ((noted? text o found.1).toList ++ ·)
    else none := by
  have hany : (previous.any fun stop => decide (o.span.start < stop)) = true ↔
      ¬ ∀ stop ∈ previous, stop ≤ o.span.start := by
    cases previous with
    | none => simp
    | some stop => simp
  rw [diagnoseFrom?, ite_congr (propext hany) (fun _ => rfl) (fun _ => rfl), ite_not]
  dsimp only [seenAt]
  congr 2
  funext later
  split
  · next heq => simp [noted?, heq]
  · next heq => simp [noted?, heq]

/-- What a diagnosis of a tag and of those behind it amounts to. -/
theorem exists_of_diagnoseFrom?_cons {ds : List Diagnostic}
    (h : diagnoseFrom? text previous seen (o :: os) = some ds) :
    (∀ stop ∈ previous, stop ≤ o.span.start) ∧
      ∃ later,
        diagnoseFrom? text (some o.span.stop) (remark (seenAt text previous seen o) o).2 os =
          some later ∧
        ds = (noted? text o (remark (seenAt text previous seen o) o).1).toList ++ later := by
  rw [diagnoseFrom?_cons] at h
  split at h
  · next hbehind =>
    obtain ⟨later, hlater, rfl⟩ := Option.map_eq_some_iff.1 h
    exact ⟨hbehind, later, hlater, rfl⟩
  · cases h

/-- A diagnosis succeeds as long as no tag reaches beyond the start of the next one. -/
theorem isSome_diagnoseFrom?_iff : (diagnoseFrom? text previous seen os).isSome ↔
    (∀ stop ∈ previous, ∀ o ∈ os.head?, stop ≤ o.span.start) ∧
      os.IsChain fun o o' => o.span.stop ≤ o'.span.start := by
  induction os generalizing previous seen with
  | nil => simp [diagnoseFrom?]
  | cons o os ih =>
      rw [diagnoseFrom?_cons, List.isChain_cons]
      by_cases h : ∀ stop ∈ previous, stop ≤ o.span.start
      · -- What is required of the tags behind `o` is what makes the chain go on.
        rw [if_pos h, Option.isSome_map, ih]
        simpa using fun _ _ => h
      · rw [if_neg h]
        refine iff_of_false Bool.false_ne_true ?_
        rintro ⟨hbehind, -⟩
        exact h fun stop hstop => hbehind stop hstop o rfl

/-- The text cannot be diagnosed when two tags that follow each other overlap. -/
theorem diagnose?_eq_none_iff : diagnose? text = none ↔
    ∃ front o o' back, scan text = front ++ o :: o' :: back ∧ o'.span.start < o.span.stop := by
  have hsome : (diagnose? text).isSome ↔
      (scan text).IsChain fun o o' => o.span.stop ≤ o'.span.start := by
    rw [diagnose?, isSome_diagnoseFrom?_iff]
    simp
  rw [← Option.not_isSome_iff_eq_none, hsome, List.isChain_iff_forall_rel_of_append_cons_cons]
  constructor
  · intro hnot
    by_contra hnone
    apply hnot
    intro o o' front back hscan
    by_contra hlt
    exact hnone ⟨front, o, o', back, hscan, Nat.lt_of_not_le hlt⟩
  · rintro ⟨front, o, o', back, hscan, hlt⟩ hchain
    exact absurd (hchain hscan) (Nat.not_le_of_lt hlt)

/-! ### Parts that are always there -/

theorem isBoundary_start (ho : o ∈ scan text) : Text.IsBoundary text o.span.start := by
  obtain ⟨before, name, behind, htext, -, -, hstart⟩ := ((scanned_scan text).placed o ho).tag_at
  rw [Nat.zero_add] at hstart
  exact ⟨before, tagText name ++ behind, htext, hstart⟩

theorem isBoundary_stop (ho : o ∈ scan text) : Text.IsBoundary text o.span.stop := by
  obtain ⟨before, behind, htext, hstop⟩ := ((scanned_scan text).placed o ho).stop_at
  rw [Nat.zero_add] at hstop
  exact ⟨before, behind, htext, hstop⟩

/-- A well-formed tag ends before the next tag starts. -/
theorem stop_le_start_of_isOk {front back : List Occurrence} {o' : Occurrence}
    (hscan : scan text = front ++ o :: o' :: back) (hok : o.result.isOk = true) :
    o.span.stop ≤ o'.span.start := by
  have hpairwise := (scanned_scan text).pairwise
  rw [hscan, List.pairwise_append, List.pairwise_cons] at hpairwise
  exact (hpairwise.2.1.1 o' (List.mem_cons_self ..)).2 hok

theorem slice_append (before part behind : List Char) :
    slice (before ++ (part ++ behind)) (Text.byteLength before)
      (Text.byteLength (before ++ part)) = part := by
  rw [slice, Text.dropBytes_byteLength_append, Text.byteLength_append, Nat.add_sub_cancel_left,
    Text.takeBytes?_byteLength_append, Option.getD_some]

/-- A part between two boundaries is there when they are in order. -/
theorem slice?_of_isBoundary {start stop : Nat} (hstart : Text.IsBoundary text start)
    (hstop : Text.IsBoundary text stop) :
    Text.slice? text start stop = if start ≤ stop then some (slice text start stop) else none := by
  split
  · next hle =>
    obtain ⟨before, part, behind, rfl, rfl, rfl⟩ :=
      Text.exists_slice_of_isBoundary hstart hstop hle
    rw [slice_append]
    exact Text.slice?_eq_some_iff.2 ⟨before, behind, rfl, rfl, rfl⟩
  · next hnot =>
    rw [Text.slice?, if_neg fun hbounds => hnot hbounds.1]

/-- A diagnostic about a tag, if the parts of the text that it is taken from are there. -/
def diagnosticAt? (text : List Char) (span : Span) (severity : Severity) (message : String) :
    Option Diagnostic := do
  let place ← place? text span.start
  let rest ← Text.slice? text span.start (Text.byteLength text)
  some
    { line := place.line
      start := place.column
      stop := place.column + highlightLength span (Text.byteLength (Text.row rest))
      message
      severity }

theorem diagnosticAt?_eq_some {span : Span} (h : Text.IsBoundary text span.start)
    (severity : Severity) (message : String) :
    diagnosticAt? text span severity message =
      some (diagnosticAt text span severity message) := by
  obtain ⟨before, behind, rfl, hstart⟩ := h
  have hplace : place? (before ++ behind) span.start = some (Text.endPlace before) := by
    rw [place?, hstart, Text.takeBytes?_byteLength_append, Option.map_some]
  have hrest : Text.slice? (before ++ behind) span.start (Text.byteLength (before ++ behind)) =
      some behind :=
    Text.slice?_eq_some_iff.2 ⟨before, [], by simp, hstart, rfl⟩
  have hbefore : slice (before ++ behind) 0 span.start = before := by
    rw [hstart]
    exact slice_append [] before behind
  have hbehind : Text.dropBytes span.start (before ++ behind) = behind := by
    rw [hstart, Text.dropBytes_byteLength_append]
  rw [diagnosticAt?, hplace, hrest, diagnosticAt, hbefore, hbehind]
  rfl

/-- Whether another comment starts before a tag, if there is a text between it and a tag that
ends at byte `previous`. -/
def leaves? (text : List Char) (previous : Option Nat) (o : Occurrence) : Option Bool :=
  match previous with
  | none => some false
  | some stop => (Text.slice? text stop o.span.start).map startsNewComment

theorem leaves?_eq (ho : o ∈ scan text)
    (hprevious : ∀ stop ∈ previous, Text.IsBoundary text stop) :
    leaves? text previous o =
      if ∀ stop ∈ previous, stop ≤ o.span.start then
        some (previous.any fun stop => startsNewComment (slice text stop o.span.start))
      else none := by
  cases previous with
  | none => simp [leaves?]
  | some stop =>
      rw [leaves?, slice?_of_isBoundary (hprevious stop rfl) (isBoundary_start ho)]
      by_cases hle : stop ≤ o.span.start
      · simp [hle]
      · simp [hle]

/-- The diagnostics of tags, behind a tag that ends at byte `previous`, if all the parts of
the text that are looked at are there. -/
def diagnoseSlicing? (text : List Char) (previous : Option Nat) (seen : Seen) :
    List Occurrence → Option (List Diagnostic)
  | [] => some []
  | o :: os => do
    let leaves ← leaves? text previous o
    let (found, seen) := remark (if leaves then .empty else seen) o
    let noted ← found.mapM fun remark => diagnosticAt? text o.span remark.1 remark.2
    let later ← diagnoseSlicing? text (some o.span.stop) seen os
    some (noted.toList ++ later)

/-- A diagnosis finds every part of the text that it looks at, but for the text between two
tags of which the first one reaches beyond the start of the second. -/
theorem diagnoseSlicing?_eq (hos : ∀ o ∈ os, o ∈ scan text)
    (hprevious : ∀ stop ∈ previous, Text.IsBoundary text stop) :
    diagnoseSlicing? text previous seen os = diagnoseFrom? text previous seen os := by
  induction os generalizing previous seen with
  | nil => rfl
  | cons o os ih =>
      have ho : o ∈ scan text := hos o (List.mem_cons_self ..)
      have hlater (seen : Seen) : diagnoseSlicing? text (some o.span.stop) seen os =
          diagnoseFrom? text (some o.span.stop) seen os := by
        refine ih (fun o' ho' => hos o' (List.mem_cons_of_mem _ ho')) ?_
        rintro stop ⟨⟩
        exact isBoundary_stop ho
      have hnoted (found : Option (Severity × String)) :
          (found.mapM fun remark => diagnosticAt? text o.span remark.1 remark.2) =
            some (noted? text o found) := by
        cases found with
        | none => rfl
        | some found => simp [diagnosticAt?_eq_some (isBoundary_start ho), noted?]
      rw [diagnoseSlicing?, diagnoseFrom?_cons, leaves?_eq ho hprevious]
      by_cases h : ∀ stop ∈ previous, stop ≤ o.span.start
      · rw [if_pos h, if_pos h]
        simp only [hnoted, hlater, seenAt, Option.bind_eq_bind, Option.bind_some]
        rw [Option.map_eq_bind]
        rfl
      · rw [if_neg h, if_neg h]
        rfl

/-- Two tags that follow each other overlap where a flawed tag reaches beyond the first marker
behind its own name. -/
theorem exists_overlap_iff :
    (∃ front o o' back, scan text = front ++ o :: o' :: back ∧ o'.span.start < o.span.stop) ↔
      ∃ o ∈ scan text, o.result.isOk = false ∧
        ∃ p, IsLeast (markersBehind text o) p ∧ p < o.span.stop := by
  constructor
  · rintro ⟨front, o, o', back, hscan, hlt⟩
    have hflawed : o.result.isOk = false := by
      rw [← Bool.not_eq_true]
      intro hok
      have hle := stop_le_start_of_isOk hscan hok
      omega
    refine ⟨o, ?_, hflawed, o'.span.start, ?_, hlt⟩
    · simp [hscan]
    · exact (isLeast_markersBehind_iff hscan hflawed).2 ⟨o', rfl, rfl⟩
  · rintro ⟨o, ho, hflawed, p, hleast, hlt⟩
    obtain ⟨front, back, hscan⟩ := List.append_of_mem ho
    obtain ⟨o', ho', rfl⟩ := (isLeast_markersBehind_iff hscan hflawed).1 hleast
    obtain ⟨back, rfl⟩ := List.head?_eq_some_iff.1 ho'
    exact ⟨front, o, o', back, hscan, hlt⟩

/-- A text cannot be diagnosed exactly when it has a flawed tag that reaches beyond the first
marker behind its own name. The text between a well-formed tag and the next one is there
whatever follows, and so is all else that a diagnosis looks at. -/
theorem diagnose?_eq_none_iff_overrun (text : List Char) :
    diagnoseSlicing? text none .empty (scan text) = diagnose? text ∧
      (diagnose? text = none ↔
        ∃ o ∈ scan text, o.result.isOk = false ∧
          ∃ p, IsLeast (markersBehind text o) p ∧ p < o.span.stop) ∧
      (∀ front o o' back, scan text = front ++ o :: o' :: back → o.result.isOk = true →
        (Text.slice? text o.span.stop o'.span.start).isSome) ∧
      ∀ o ∈ scan text, (Text.slice? text 0 o.span.start).isSome ∧
        (place? text o.span.start).isSome ∧
          (Text.slice? text o.span.start (Text.byteLength text)).isSome := by
  refine ⟨diagnoseSlicing?_eq (fun o ho => ho) (by simp), ?_, ?_, ?_⟩
  · rw [diagnose?_eq_none_iff, exists_overlap_iff]
  · intro front o o' back hscan hok
    have ho : o ∈ scan text := by simp [hscan]
    have ho' : o' ∈ scan text := by simp [hscan]
    rw [slice?_of_isBoundary (isBoundary_stop ho) (isBoundary_start ho'),
      if_pos (stop_le_start_of_isOk hscan hok)]
    rfl
  · intro o ho
    have hstart := isBoundary_start ho
    refine ⟨?_, ?_, ?_⟩
    · rw [slice?_of_isBoundary (Text.isBoundary_zero text) hstart, if_pos (Nat.zero_le _)]
      rfl
    · obtain ⟨before, behind, rfl, hbefore⟩ := hstart
      rw [place?, hbefore, Text.takeBytes?_byteLength_append]
      rfl
    · rw [slice?_of_isBoundary hstart (Text.isBoundary_byteLength text), if_pos hstart.le]
      rfl

example : diagnose? "@LRDbogus @LRDdeprecated".toList = none := by decide

example : (diagnose? "@LRDdeprecated @LRDbogus".toList).isSome := by decide

end Editor

end ApiNotes
