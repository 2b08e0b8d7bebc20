import ApiNotes.Proofs.Notes.Recorded
import ApiNotes.Proofs.Tag.Isolated

/-!
# Tags in the strings of an object

A marker inside of a captured object stands in one of its string literals. Behind an object that is
decoded the search goes on after the object, so no tag starts in it. Behind an object that is
captured and not decoded the search goes on right after the name of its tag, and the first marker of
the object is then the start of the next tag. So a tag starts in a literal of an object exactly when
the object has a marker and is not decoded (`exists_start_in_literal_iff`).
-/

namespace ApiNotes

namespace Tag

variable {text before object behind : List Char} {o o' : Occurrence}

/-- A tag that starts in a literal has its marker in the object. -/
theorem marker_infix_of_standsInLiteral (h : Isolates text o before object behind)
    (ho' : o' ∈ scan text) (hin : StandsInLiteral before object o'.span.start) :
    ['@', 'L', 'R', 'D'] <:+: object := by
  obtain ⟨i, hin, hstart⟩ := hin
  obtain ⟨inside, rest, hdrop⟩ := hin.exists_drop_eq.2
  obtain ⟨front, name, after, htext, -, -, hfront⟩ := ((scanned_scan text).placed o' ho').tag_at
  have hcut : front ++ (tagText name ++ after) =
      (before ++ object.take i) ++ (inside ++ '"' :: (rest ++ behind)) := by
    have hobject : object = object.take i ++ (inside ++ '"' :: rest) := by
      rw [← hdrop, List.take_append_drop]
    rw [← htext, h.1]
    conv_lhs => rw [hobject]
    simp
  obtain ⟨-, htail⟩ := Text.append_inj_of_byteLength_eq hcut (by omega)
  -- The quote that closes the literal is not in the marker, so the marker comes before it.
  have hmarker : ['@', 'L', 'R', 'D'] ++ (name ++ after) = inside ++ '"' :: (rest ++ behind) :=
    htail
  obtain ⟨between, rfl, -⟩ := Text.exists_append_of_not_mem (by decide) hmarker
  refine ⟨object.take i, between ++ '"' :: rest, ?_⟩
  conv_rhs => rw [← List.take_append_drop i object, hdrop]
  simp

/-- No tag starts in an object that is decoded. -/
theorem not_standsInLiteral_of_isOk (h : Isolates text o before object behind) (ho : o ∈ scan text)
    (hok : o.result.isOk = true) (ho' : o' ∈ scan text) :
    ¬ StandsInLiteral before object o'.span.start := by
  intro hin
  have hbounds := hin.mem_bounds
  have hstart := h.start_lt
  have hstop := (h.covers ho).1
  have hpairwise := (scanned_scan text).pairwise
  obtain ⟨front, back, hscan⟩ := List.append_of_mem ho
  rw [hscan, List.pairwise_append, List.pairwise_cons] at hpairwise
  obtain ⟨-, ⟨hlater, -⟩, hearlier⟩ := hpairwise
  rw [hscan, List.mem_append, List.mem_cons] at ho'
  rcases ho' with ho' | rfl | ho'
  · have hlt := (hearlier o' ho' o List.mem_cons_self).1
    omega
  · omega
  · have hle := (hlater o' ho').2 hok
    omega

/-- Behind the name of a flawed tag, the first marker starts a tag. -/
theorem exists_start_le_of_flawed (ho : o ∈ scan text) (hflawed : o.result.isOk = false) {p : Nat}
    (hp : p ∈ markersBehind text o) :
    ∃ o' ∈ scan text, o'.span.start ∈ markersBehind text o ∧ o'.span.start ≤ p := by
  obtain ⟨front, back, hscan⟩ := List.append_of_mem ho
  obtain ⟨pre, rest, htext, hstop, hscanned⟩ := (scanned_scan text).behind_flawed hscan hflawed
  have hmarker : MarkerAt o.nameStop rest p := by
    rw [← hstop, ← markerAt_append_iff, hstop, ← htext]
    exact hp
  obtain ⟨o', ho', hle⟩ := hscanned.exists_head_le hmarker
  refine ⟨o', ?_, ((isLeast_markersBehind_iff hscan hflawed).2 ⟨o', ho', rfl⟩).1, hle⟩
  rw [hscan]
  exact List.mem_append_right _ (List.mem_cons_of_mem _ (List.mem_of_mem_head? ho'))

/-- A marker behind the name of a tag is not in front of its object, and in the object it is in a
literal. -/
theorem Isolates.standsInLiteral (h : Isolates text o before object behind) {p : Nat}
    (hp : p ∈ markersBehind text o) (hlt : p < Text.byteLength (before ++ object)) :
    StandsInLiteral before object p := by
  obtain ⟨⟨pre, name, hmarker, rfl⟩, hbehind⟩ := hp
  rw [Nat.zero_add] at hbehind hlt ⊢
  obtain ⟨inside, hbytes, hobject, hinside⟩ :=
    h.exists_inside hmarker hbehind hlt (by decide) (by decide) (by decide)
  obtain ⟨-, front, args, kind, -, -, -, hcaptures⟩ := h
  have hcloses := hcaptures.closes
  rw [hobject] at hcloses
  have hin := inLiteral_of_marker hcloses hinside
  rw [← hobject, List.take_left] at hin
  exact ⟨inside.length, hin, hbytes⟩

/-- A tag starts in a string literal of a captured object exactly when the object has a marker and
is not decoded. -/
theorem exists_start_in_literal_iff (h : Isolates text o before object behind)
    (ho : o ∈ scan text) :
    (∃ o' ∈ scan text, StandsInLiteral before object o'.span.start) ↔
      ['@', 'L', 'R', 'D'] <:+: object ∧ ∀ v, decodeObject object ≠ .ok v := by
  constructor
  · rintro ⟨o', ho', hin⟩
    refine ⟨marker_infix_of_standsInLiteral h ho' hin, fun v hv => ?_⟩
    exact not_standsInLiteral_of_isOk h ho ((h.covers ho).2.2 ⟨v, hv⟩) ho' hin
  · rintro ⟨⟨inside, rest, rfl⟩, hdecode⟩
    have hflawed : o.result.isOk = false := by
      rw [← Bool.not_eq_true, (h.covers ho).2]
      rintro ⟨v, hv⟩
      exact hdecode v hv
    have hmarker : Text.byteLength (before ++ inside) ∈ markersBehind text o := by
      refine ⟨⟨before ++ inside, rest ++ behind, ?_, (Nat.zero_add _).symm⟩, ?_⟩
      · rw [h.1]
        simp [tagText]
      · rw [Text.byteLength_append]
        exact Nat.le_trans h.nameStop_le (Nat.le_add_right _ _)
    obtain ⟨o', ho', hstart, hle⟩ := exists_start_le_of_flawed ho hflawed hmarker
    refine ⟨o', ho', h.standsInLiteral hstart (Nat.lt_of_le_of_lt hle ?_)⟩
    have hsize : Text.byteLength ['@', 'L', 'R', 'D'] = 4 := rfl
    simp only [Text.byteLength_append, hsize]
    omega

/-- The deprecation in the notes of a text is that of one of its tags. -/
theorem exists_of_deprecation_eq_some {d : Deprecation}
    (h : (Notes.ofComment (String.ofList text)).deprecation = some d) :
    ∃ o ∈ scan text, o.result = .ok (.deprecated d) := by
  rw [Notes.ofComment, String.toList_ofList, Notes.ofEntries_eq] at h
  obtain ⟨entry, hentry, hd⟩ := List.mem_filterMap.1 (List.mem_of_getLast? h)
  obtain ⟨o, ho, hresult⟩ := List.mem_filterMap.1 hentry
  cases entry with
  | deprecated note =>
      obtain rfl := Option.some.inj hd
      refine ⟨o, ho, ?_⟩
      cases hcase : o.result with
      | error problem => simp [hcase, Except.toOption] at hresult
      | ok entry => simpa [hcase, Except.toOption] using hresult
  | _ => cases hd

/-- Where text inside of a string is taken for a tag: a tag starts in a string literal of a captured
object exactly when the object has a marker and is not decoded. A deprecation is never taken from
a literal of an object that is decoded. -/
theorem scan_in_literals (text : List Char) :
    (∀ o ∈ scan text, ∀ before object behind, Isolates text o before object behind →
      ((∃ o' ∈ scan text, StandsInLiteral before object o'.span.start) ↔
        ['@', 'L', 'R', 'D'] <:+: object ∧ ∀ v, decodeObject object ≠ .ok v)) ∧
    ∀ d, (Notes.ofComment (String.ofList text)).deprecation = some d →
      ∃ o' ∈ scan text, o'.result = .ok (.deprecated d) ∧
        ∀ o ∈ scan text, ∀ before object behind, Isolates text o before object behind →
          StandsInLiteral before object o'.span.start → ∀ v, decodeObject object ≠ .ok v := by
  refine ⟨fun o ho before object behind h => exists_start_in_literal_iff h ho, ?_⟩
  intro d hd
  obtain ⟨o', ho', hresult⟩ := exists_of_deprecation_eq_some hd
  refine ⟨o', ho', hresult, fun o ho before object behind h hin => ?_⟩
  exact ((exists_start_in_literal_iff h ho).1 ⟨o', ho', hin⟩).2

/-- A request body with the name `doc`, at the start of a text. -/
theorem exists_isolates_doc {object behind : List Char} (hopens : object.head? = some '{')
    (hcloses : objectLength (object ++ behind) = .ok object.length) :
    ∃ o ∈ scan ("@LRDexample doc ".toList ++ (object ++ behind)),
      Isolates ("@LRDexample doc ".toList ++ (object ++ behind)) o "@LRDexample doc ".toList object
        behind := by
  have hname : IsName "example".toList (" doc ".toList ++ (object ++ behind)) := by
    refine ⟨List.all_eq_true.1 rfl, ?_⟩
    rintro c ⟨⟩
    decide
  have hfixed : FixedArguments .sample " doc ".toList :=
    fixedArguments_sample "doc".toList (by decide) (List.all_eq_true.1 rfl)
  have hbefore : "@LRDexample doc ".toList = tagText "example".toList ++ " doc ".toList := by decide
  rw [hbefore]
  exact exists_isolates_of_captures hname (by decide) ⟨hfixed, hopens, hcloses⟩

/-- The object is decoded, so the marker in its string starts no tag, and the deprecation is taken
from the tag behind it. -/
theorem scan_in_literals_decoded :
    let object := "\x7b\"text\": \"write @LRDdeprecated here\"\x7d".toList
    let behind := "\n@LRDdeprecated gone".toList
    let text := "@LRDexample doc ".toList ++ (object ++ behind)
    (∃ o ∈ scan text, Isolates text o "@LRDexample doc ".toList object behind ∧
      ¬ ∃ o' ∈ scan text, StandsInLiteral "@LRDexample doc ".toList object o'.span.start) ∧
    ∃ o' ∈ scan text, o'.result = .ok (.deprecated ⟨true, "gone"⟩) := by
  intro object behind text
  have hcloses : objectLength (object ++ behind) = .ok object.length := by decide +kernel
  obtain ⟨o, ho, hisolates⟩ := exists_isolates_doc rfl hcloses
  have hdecode : ∃ v, decodeObject object = .ok v := by
    have hok : (decodeObject object).isOk = true := by decide +kernel
    cases hcase : decodeObject object with
    | error why => simp [hcase, Except.isOk, Except.toBool] at hok
    | ok v => exact ⟨v, rfl⟩
  have hdeprecation : (Notes.ofComment (String.ofList text)).deprecation = some ⟨true, "gone"⟩ := by
    decide +kernel
  obtain ⟨hliterals, htaken⟩ := scan_in_literals text
  obtain ⟨o', ho', hresult, -⟩ := htaken _ hdeprecation
  refine ⟨⟨o, ho, hisolates, ?_⟩, o', ho', hresult⟩
  rw [hliterals o ho _ _ _ hisolates]
  rintro ⟨-, hnone⟩
  obtain ⟨v, hv⟩ := hdecode
  exact hnone v hv

/-- The object is captured and not decoded, for the comma before its brace. The text of its string
is then searched, and it deprecates the endpoint. -/
theorem deprecation_in_literal :
    let object := "\x7b\"text\": \"write @LRDdeprecated here\",\x7d".toList
    let text := "@LRDexample doc ".toList ++ (object ++ [])
    (∃ o ∈ scan text, Isolates text o "@LRDexample doc ".toList object []) ∧
      (∃ o' ∈ scan text, StandsInLiteral "@LRDexample doc ".toList object o'.span.start) ∧
      (Notes.ofComment (String.ofList text)).deprecation = some ⟨true, "here\",\x7d"⟩ := by
  intro object text
  have hcloses : objectLength (object ++ []) = .ok object.length := by decide +kernel
  obtain ⟨o, ho, hisolates⟩ := exists_isolates_doc rfl hcloses
  have hdecode : (decodeObject object).isOk = false := by decide +kernel
  have hmarker : ['@', 'L', 'R', 'D'] <:+: object :=
    ⟨"\x7b\"text\": \"write ".toList, "deprecated here\",\x7d".toList, by decide⟩
  refine ⟨⟨o, ho, hisolates⟩, (exists_start_in_literal_iff hisolates ho).2 ⟨hmarker, ?_⟩, ?_⟩
  · intro v hv
    simp [hv, Except.isOk, Except.toBool] at hdecode
  · decide +kernel

end Tag

end ApiNotes
