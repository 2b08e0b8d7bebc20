import ApiNotes.Proofs.Capture.Literal
import ApiNotes.Proofs.Tag.Scan

/-!
# Spans of tags

Every tag that is found is where its span says: `Placed` collects what holds of one
occurrence. Later tags start later, behind the end of each well-formed one before them.

No marker is lost. A marker starts exactly one occurrence, or else it is hidden in exactly
one well-formed tag, and then it stands in a string literal of the object that the tag
captured, or on the rest of the line of a tag without an object (`Conceals`).

All statements are proved for a text that starts at some byte `offset`, along the tags of
the text; text in front of it shifts what is known of the rest.
-/

namespace ApiNotes

namespace Text

/-- A byte offset that falls between two characters of a text or at one of its ends. -/
def IsBoundary (text : List Char) (n : Nat) : Prop :=
  ∃ before behind, text = before ++ behind ∧ n = byteLength before

end Text

namespace Tag

/-- What holds of an occurrence in a text that starts at byte `offset`. -/
structure Placed (offset : Nat) (text : List Char) (o : Occurrence) : Prop where
  tag_at : ∃ before name behind, text = before ++ (tagText name ++ behind) ∧
    IsName name behind ∧ o.name = String.ofList name ∧
      o.span.start = offset + Text.byteLength before
  start_le : o.span.start + 4 + Text.byteLength o.name.toList ≤ o.span.stop
  stop_at : ∃ before behind, text = before ++ behind ∧
    o.span.stop = offset + Text.byteLength before
  problem_within : ∀ problem, o.result = .error problem →
    problem.span.start = o.span.start ∧ problem.span.stop ≤ o.span.stop

theorem Placed.append_left {offset : Nat} {pre text : List Char} {o : Occurrence}
    (h : Placed (offset + Text.byteLength pre) text o) : Placed offset (pre ++ text) o := by
  obtain ⟨⟨before, name, behind, rfl, hname, heq, hstart⟩, hle, ⟨left, right, htext, hstop⟩,
    hproblem⟩ := h
  refine ⟨⟨pre ++ before, name, behind, by simp, hname, heq, ?_⟩, hle,
    ⟨pre ++ left, right, by simp [htext], ?_⟩, hproblem⟩
  · rw [hstart, Text.byteLength_append, Nat.add_assoc]
  · rw [hstop, Text.byteLength_append, Nat.add_assoc]

theorem Placed.le_start {offset : Nat} {text : List Char} {o : Occurrence}
    (h : Placed offset text o) : offset ≤ o.span.start := by
  obtain ⟨before, name, behind, -, -, -, hstart⟩ := h.tag_at
  rw [hstart]
  exact Nat.le_add_right _ _

theorem placed_flawed {offset : Nat} {name behind : List Char} {o : Occurrence}
    (hname : IsName name behind) (h : FlawedAt offset name behind o) :
    Placed offset (tagText name ++ behind) o := by
  obtain ⟨heq, -, ⟨covered, rest, rfl, hspan⟩, ⟨problem, hproblem, hstart, hstop⟩⟩ := h
  refine ⟨⟨[], name, covered ++ rest, rfl, hname, heq, by rw [hspan]; rfl⟩, ?_,
    ⟨tagText name ++ covered, rest, by simp, by rw [hspan]⟩, ?_⟩
  · rw [hspan, heq, String.toList_ofList, Text.byteLength_append, byteLength_tagText]
    dsimp only
    omega
  · intro problem' hproblem'
    rw [hproblem] at hproblem'
    cases hproblem'
    exact ⟨by rw [hstart, hspan], hstop⟩

theorem placed_sound {offset : Nat} {name covered rest : List Char} {kind : Kind}
    {entry : Entry} (hname : IsName name (covered ++ rest)) :
    Placed offset (tagText name ++ (covered ++ rest))
      (soundAt offset name covered kind entry) := by
  refine ⟨⟨[], name, covered ++ rest, rfl, hname, rfl, rfl⟩, ?_,
    ⟨tagText name ++ covered, rest, by simp, rfl⟩, ?_⟩
  · rw [stop_soundAt, start_soundAt]
    change offset + 4 + Text.byteLength (String.ofList name).toList ≤ _
    rw [String.toList_ofList]
    omega
  · intro problem hproblem
    cases hproblem

/-- Every occurrence is where its span says. -/
theorem Scanned.placed {offset : Nat} {text : List Char} {os : List Occurrence}
    (h : Scanned offset text os) : ∀ o ∈ os, Placed offset text o := by
  induction h with
  | nil _ => simp
  | @pass offset c cs os _ _ ih =>
      intro o ho
      have hplaced : Placed (offset + Text.byteLength [c]) cs o := ih o ho
      exact hplaced.append_left
  | @flawed offset name behind o os hname _ hflawed _ ih =>
      intro o' ho'
      rcases List.mem_cons.1 ho' with rfl | ho'
      · exact placed_flawed hname hflawed
      · exact (ih o' ho').append_left
  | @sound offset name covered rest kind entry os hname _ _ _ ih =>
      intro o' ho'
      rcases List.mem_cons.1 ho' with rfl | ho'
      · exact placed_sound hname
      · rw [← List.append_assoc]
        exact (ih o' ho').append_left

/-- Later tags start later, and behind what well-formed tags cover. -/
theorem Scanned.pairwise {offset : Nat} {text : List Char} {os : List Occurrence}
    (h : Scanned offset text os) :
    os.Pairwise fun o o' => o.span.start < o'.span.start ∧
      (o.result.isOk = true → o.span.stop ≤ o'.span.start) := by
  induction h with
  | nil _ => exact .nil
  | pass _ _ ih => exact ih
  | @flawed offset name behind o os _ _ hflawed hrest ih =>
      obtain ⟨-, -, ⟨covered, rest, -, hspan⟩, ⟨problem, hproblem, -, -⟩⟩ := hflawed
      refine List.Pairwise.cons (fun o' ho' => ⟨?_, ?_⟩) ih
      · have hle := (hrest.placed o' ho').le_start
        rw [byteLength_tagText] at hle
        rw [hspan]
        dsimp only
        omega
      · intro hok
        rw [hproblem] at hok
        cases hok
  | @sound offset name covered rest kind entry os _ _ _ hrest ih =>
      refine List.Pairwise.cons (fun o' ho' => ?_) ih
      have hle := (hrest.placed o' ho').le_start
      refine ⟨?_, fun _ => hle⟩
      rw [Text.byteLength_append, byteLength_tagText] at hle
      rw [start_soundAt]
      omega

/-! ### Hidden markers -/

/-- Whether a tag starts at byte `p`. -/
def Occurrence.startsAt (p : Nat) (o : Occurrence) : Bool :=
  o.span.start == p

/-- Whether byte `p` is strictly inside the span of a well-formed tag. -/
def Occurrence.hides (p : Nat) (o : Occurrence) : Bool :=
  o.result.isOk && (decide (o.span.start < p) && decide (p < o.span.stop))

/-- Byte `p` is in a string literal of the object with value `v` that a tag ends with. -/
def HiddenInObject (offset : Nat) (text : List Char) (o : Occurrence) (v : Json) (p : Nat) :
    Prop :=
  ∃ before object rest i, text = before ++ (object ++ rest) ∧
    o.span.start < offset + Text.byteLength before ∧
    o.span.stop = offset + Text.byteLength (before ++ object) ∧
    objectLength (object ++ rest) = .ok object.length ∧ decodeObject object = .ok v ∧
    InLiteral object i ∧ p = offset + Text.byteLength (before ++ object.take i)

/-- Byte `p` is on the line of the marker of a tag, which covers the line from there on. -/
def HiddenInLine (offset : Nat) (text : List Char) (o : Occurrence) (p : Nat) : Prop :=
  ∃ before line rest, text = before ++ (line ++ rest) ∧ line = Text.row (line ++ rest) ∧
    o.span = ⟨offset + Text.byteLength before, offset + Text.byteLength (before ++ line)⟩ ∧
    o.span.start < p ∧ p < o.span.stop

/-- Where a marker at byte `p` is hidden in a tag. -/
def Conceals (offset : Nat) (text : List Char) (o : Occurrence) (p : Nat) : Prop :=
  ∃ entry, o.result = .ok entry ∧
    match entry.object? with
    | some v => HiddenInObject offset text o v p
    | none => HiddenInLine offset text o p

theorem Conceals.append_left {offset : Nat} {pre text : List Char} {o : Occurrence} {p : Nat}
    (h : Conceals (offset + Text.byteLength pre) text o p) :
    Conceals offset (pre ++ text) o p := by
  obtain ⟨entry, hentry, h⟩ := h
  refine ⟨entry, hentry, ?_⟩
  cases hobject : entry.object? with
  | some v =>
      rw [hobject] at h
      obtain ⟨before, object, rest, i, rfl, hstart, hstop, hlength, hdecode, hin, hp⟩ := h
      refine ⟨pre ++ before, object, rest, i, by simp, ?_, ?_, hlength, hdecode, hin, ?_⟩
      · rw [Text.byteLength_append]
        omega
      · rw [hstop]
        simp [Nat.add_assoc]
      · rw [hp]
        simp [Nat.add_assoc]
  | none =>
      rw [hobject] at h
      obtain ⟨before, line, rest, rfl, hline, hspan, hstart, hstop⟩ := h
      refine ⟨pre ++ before, line, rest, by simp, hline, ?_, hstart, hstop⟩
      rw [hspan]
      simp [Nat.add_assoc]

/-- Behind the start of a tag, the next marker is behind its name. -/
theorem marker_cut {name text before behind : List Char} (hname : ∀ c ∈ name, c.isAlpha = true)
    (h : tagText name ++ text = before ++ tagText behind) :
    before = [] ∨ ∃ between, before = tagText name ++ between ∧
      text = between ++ tagText behind := by
  cases before with
  | nil => exact Or.inl rfl
  | cons c before =>
      obtain ⟨rfl, htail⟩ := List.cons.inj h
      have hat : '@' ∉ 'L' :: 'R' :: 'D' :: name := by
        simp only [List.mem_cons, not_or]
        exact ⟨by decide, by decide, by decide, fun hmem => absurd (hname _ hmem) (by decide)⟩
      obtain ⟨between, rfl, htext⟩ := Text.exists_append_of_not_mem hat htail
      exact Or.inr ⟨between, rfl, htext⟩

/-! ### No marker is lost -/

/-- A marker at byte `p` starts one tag or is hidden in one, and where it is hidden the tag
conceals it. -/
structure Accounted (offset : Nat) (text : List Char) (os : List Occurrence) (p : Nat) :
    Prop where
  once : os.countP (Occurrence.startsAt p) + os.countP (Occurrence.hides p) = 1
  concealed : ∀ o ∈ os, o.hides p = true → Conceals offset text o p

theorem Accounted.append_left {offset p : Nat} {pre text : List Char} {os : List Occurrence}
    (h : Accounted (offset + Text.byteLength pre) text os p) :
    Accounted offset (pre ++ text) os p :=
  ⟨h.once, fun o ho hides => (h.concealed o ho hides).append_left⟩

theorem hides_of_le_start {o : Occurrence} {p : Nat} (h : p ≤ o.span.start) :
    o.hides p = false := by
  have hnot : ¬ o.span.start < p := Nat.not_lt.2 h
  simp [Occurrence.hides, hnot]

theorem countP_startsAt_of_lt {os : List Occurrence} {p : Nat}
    (h : ∀ o ∈ os, p < o.span.start) : os.countP (Occurrence.startsAt p) = 0 := by
  rw [List.countP_eq_zero]
  intro o ho hstart
  have hlt := h o ho
  rw [Occurrence.startsAt, beq_iff_eq] at hstart
  omega

theorem countP_hides_of_lt {os : List Occurrence} {p : Nat}
    (h : ∀ o ∈ os, p < o.span.start) : os.countP (Occurrence.hides p) = 0 := by
  rw [List.countP_eq_zero]
  intro o ho
  rw [hides_of_le_start (Nat.le_of_lt (h o ho))]
  exact Bool.false_ne_true

/-- The marker of the first tag. -/
theorem accounted_head {offset : Nat} {text : List Char} {o : Occurrence}
    {os : List Occurrence} (htail : ∀ o' ∈ os, o.span.start < o'.span.start) :
    Accounted offset text (o :: os) o.span.start := by
  have hhead : o.hides o.span.start = false := hides_of_le_start (Nat.le_refl _)
  refine ⟨?_, ?_⟩
  · rw [List.countP_cons, List.countP_cons, countP_startsAt_of_lt htail,
      countP_hides_of_lt htail, hhead]
    simp [Occurrence.startsAt]
  · intro o' ho' hides
    rcases List.mem_cons.1 ho' with rfl | ho'
    · rw [hhead] at hides
      cases hides
    · rw [hides_of_le_start (Nat.le_of_lt (htail o' ho'))] at hides
      cases hides

/-- A marker inside the first tag. -/
theorem accounted_hidden {offset p : Nat} {text : List Char} {o : Occurrence}
    {os : List Occurrence} (hides : o.hides p = true) (hconceals : Conceals offset text o p)
    (htail : ∀ o' ∈ os, p < o'.span.start) : Accounted offset text (o :: os) p := by
  have hstart : o.startsAt p = false := by
    simp only [Occurrence.hides, Bool.and_eq_true, decide_eq_true_eq] at hides
    rw [Occurrence.startsAt, beq_eq_false_iff_ne]
    omega
  refine ⟨?_, ?_⟩
  · rw [List.countP_cons, List.countP_cons, countP_startsAt_of_lt htail,
      countP_hides_of_lt htail, hstart, hides]
    rfl
  · intro o' ho' hides'
    rcases List.mem_cons.1 ho' with rfl | ho'
    · exact hconceals
    · rw [hides_of_le_start (Nat.le_of_lt (htail o' ho'))] at hides'
      cases hides'

/-- A marker behind the first tag. -/
theorem Accounted.cons {offset p : Nat} {text : List Char} {o : Occurrence}
    {os : List Occurrence} (h : Accounted offset text os p) (hstart : o.span.start < p)
    (hides : o.hides p = false) : Accounted offset text (o :: os) p := by
  have hne : o.startsAt p = false := by
    rw [Occurrence.startsAt, beq_eq_false_iff_ne]
    omega
  refine ⟨?_, ?_⟩
  · rw [List.countP_cons, List.countP_cons, hne, hides]
    exact h.once
  · intro o' ho' hides'
    rcases List.mem_cons.1 ho' with rfl | ho'
    · rw [hides] at hides'
      cases hides'
    · exact h.concealed o' ho' hides'

/-- The part of a text that is as long as its first row is its first row. -/
theorem row_eq_of_length {covered rest : List Char}
    (h : covered.length = (Text.row (covered ++ rest)).length) :
    Text.row (covered ++ rest) = covered := by
  have hcut : Text.row (covered ++ rest) ++ (covered ++ rest).dropWhile (· != '\n') =
      covered ++ rest := List.takeWhile_append_dropWhile
  exact (List.append_inj hcut h.symm).1

theorem row_tagText_append {name : List Char} (hname : ∀ c ∈ name, c.isAlpha = true)
    (text : List Char) : Text.row (tagText name ++ text) = tagText name ++ Text.row text := by
  apply List.takeWhile_append_of_pos
  intro c hc
  rw [bne_iff_ne]
  rintro rfl
  rcases mem_tagText hname hc with hc | hc <;> exact absurd hc (by decide)

/-- A marker that a well-formed tag covers is concealed by it. -/
theorem conceals_sound {offset : Nat} {name covered rest between behind : List Char}
    {kind : Kind} {entry : Entry} (hname : ∀ c ∈ name, c.isAlpha = true)
    (hread : readArguments kind (covered ++ rest) = ⟨.ok entry, covered.length⟩)
    (hmarker : covered ++ rest = between ++ tagText behind)
    (hin : between.length < covered.length)
    (hides : (soundAt offset name covered kind entry).hides
      (offset + Text.byteLength (tagText name ++ between)) = true) :
    Conceals offset (tagText name ++ (covered ++ rest))
      (soundAt offset name covered kind entry)
      (offset + Text.byteLength (tagText name ++ between)) := by
  refine ⟨entry, rfl, ?_⟩
  rcases readArguments_covers (congrArg Reading.result hread) with
    ⟨v, hobject, hholds⟩ | ⟨hobject, hreach⟩
  · rw [hobject]
    obtain ⟨fixed, object, rest', htext, hlength, hfixed, hcapture, hdecode⟩ := hholds
    rw [hread] at hlength
    rw [List.append_assoc, ← List.append_assoc] at htext
    obtain ⟨rfl, rfl⟩ := List.append_inj htext (by simpa using hlength)
    -- The marker is not among the fixed arguments, so it is in the object.
    rw [List.append_assoc] at hmarker
    obtain ⟨inside, rfl, hbody⟩ := Text.exists_append_of_not_mem hfixed hmarker
    have hinside : inside.length < object.length := by
      simp only [List.length_append] at hin
      omega
    have htake : object.take inside.length = inside := by
      have hprefix : (object ++ rest).take inside.length = inside := by
        rw [hbody, List.take_left]
      rwa [List.take_append_of_le_length (Nat.le_of_lt hinside)] at hprefix
    have hliteral : InLiteral object inside.length := by
      rw [hbody] at hcapture
      have hin := inLiteral_of_marker hcapture hinside
      rwa [← hbody, List.take_left] at hin
    refine ⟨tagText name ++ fixed, object, rest, inside.length, by simp, ?_, ?_, hcapture,
      hdecode, hliteral, ?_⟩
    · rw [start_soundAt, Text.byteLength_append, byteLength_tagText]
      omega
    · rw [List.append_assoc]
      rfl
    · rw [htake, List.append_assoc]
  · rw [hobject]
    rw [hread] at hreach
    simp only [Occurrence.hides, Bool.and_eq_true, decide_eq_true_eq] at hides
    refine ⟨[], tagText name ++ covered, rest, by simp, ?_, rfl, hides.2.1, hides.2.2⟩
    rw [List.append_assoc, row_tagText_append hname, row_eq_of_length hreach]

theorem hides_sound {offset p : Nat} {name covered : List Char} {kind : Kind} {entry : Entry} :
    (soundAt offset name covered kind entry).hides p = true ↔
      offset < p ∧ p < offset + Text.byteLength (tagText name ++ covered) := by
  simp [Occurrence.hides, soundAt, Except.isOk, Except.toBool]

/-- Every marker of a text is accounted for by its tags. -/
theorem Scanned.accounted {offset : Nat} {text : List Char} {os : List Occurrence}
    (h : Scanned offset text os) : ∀ {before behind : List Char},
      text = before ++ tagText behind →
        Accounted offset text os (offset + Text.byteLength before) := by
  induction h with
  | nil _ =>
      intro before behind htext
      simp [tagText] at htext
  | @pass offset c cs os hpass _ ih =>
      intro before behind htext
      cases before with
      | nil =>
          rw [htext] at hpass
          cases hpass
      | cons d before =>
          obtain ⟨rfl, htail⟩ := List.cons.inj htext
          have hlater : Accounted (offset + Text.byteLength [c]) cs os
              (offset + c.utf8Size + Text.byteLength before) := ih htail
          rw [Text.byteLength_cons, ← Nat.add_assoc]
          exact hlater.append_left
  | @flawed offset name behind' o os hname hflaw hflawed hrest ih =>
      intro before behind htext
      have hpairwise := (Scanned.flawed hname hflaw hflawed hrest).pairwise
      obtain ⟨-, -, ⟨covered, rest, -, hspan⟩, ⟨problem, hproblem, -, -⟩⟩ := hflawed
      have hstart : o.span.start = offset := by rw [hspan]
      rcases marker_cut hname.1 htext with rfl | ⟨between, rfl, hbehind⟩
      · rw [Text.byteLength_nil, Nat.add_zero, ← hstart]
        exact accounted_head fun o' ho' => ((List.pairwise_cons.1 hpairwise).1 o' ho').1
      · rw [Text.byteLength_append, ← Nat.add_assoc]
        refine (ih hbehind).append_left.cons ?_ ?_
        · rw [hstart, byteLength_tagText]
          omega
        · simp [Occurrence.hides, hproblem, Except.isOk, Except.toBool]
  | @sound offset name covered rest kind entry os hname hkind hread hrest ih =>
      intro before behind htext
      have hpairwise := (Scanned.sound hname hkind hread hrest).pairwise
      rcases marker_cut hname.1 htext with rfl | ⟨between, rfl, hbehind⟩
      · exact accounted_head fun o' ho' => ((List.pairwise_cons.1 hpairwise).1 o' ho').1
      have hlater := (List.pairwise_cons.1 hpairwise).1
      rcases Nat.lt_or_ge between.length covered.length with hin | hge
      · have hbytes : Text.byteLength between < Text.byteLength covered :=
          Text.byteLength_lt_of_append hbehind hin
        have hides : (soundAt offset name covered kind entry).hides
            (offset + Text.byteLength (tagText name ++ between)) = true := by
          rw [hides_sound]
          simp only [Text.byteLength_append, byteLength_tagText]
          omega
        refine accounted_hidden hides (conceals_sound hname.1 hread hbehind hin hides) ?_
        intro o' ho'
        have hstop := (hlater o' ho').2 rfl
        rw [stop_soundAt] at hstop
        rw [Text.byteLength_append, byteLength_tagText]
        omega
      · obtain ⟨beyond, rfl, hbeyond⟩ := Text.exists_append_of_length_le hbehind hge
        have haccounted := (ih hbeyond).append_left
        have hplace : offset + Text.byteLength (tagText name ++ covered) +
            Text.byteLength beyond =
              offset + Text.byteLength (tagText name ++ (covered ++ beyond)) := by
          simp only [Text.byteLength_append]
          omega
        rw [List.append_assoc, hplace] at haccounted
        refine haccounted.cons ?_ ?_
        · rw [start_soundAt, Text.byteLength_append, byteLength_tagText]
          omega
        · rw [← Bool.not_eq_true, hides_sound]
          simp only [Text.byteLength_append]
          omega

/-- The tags of a text: each is where its span says, later ones start later and behind what
well-formed ones cover, and every marker of the text either starts exactly one tag or is
strictly inside exactly one well-formed tag, in a string literal of its object or on the
rest of its line. -/
theorem scan_spans (text : List Char) :
    (scan text).Pairwise (fun o o' => o.span.start < o'.span.start ∧
        (o.result.isOk = true → o.span.stop ≤ o'.span.start)) ∧
      (∀ o ∈ scan text,
        (∃ before name behind, text = before ++ (tagText name ++ behind) ∧
          IsName name behind ∧ o.name = String.ofList name ∧
            o.span.start = Text.byteLength before) ∧
        o.span.start + 4 + Text.byteLength o.name.toList ≤ o.span.stop ∧
        o.span.stop ≤ Text.byteLength text ∧
        Text.IsBoundary text o.span.start ∧ Text.IsBoundary text o.span.stop ∧
        ∀ problem, o.result = .error problem →
          problem.span.start = o.span.start ∧ problem.span.stop ≤ o.span.stop) ∧
      ∀ before behind, text = before ++ tagText behind →
        (scan text).countP (Occurrence.startsAt (Text.byteLength before)) +
            (scan text).countP (Occurrence.hides (Text.byteLength before)) = 1 ∧
          ∀ o ∈ scan text, o.hides (Text.byteLength before) = true →
            Conceals 0 text o (Text.byteLength before) := by
  have hscanned := scanned_scan text
  refine ⟨hscanned.pairwise, ?_, ?_⟩
  · intro o ho
    obtain ⟨⟨before, name, behind, htext, hname, heq, hstart⟩, hle,
      ⟨left, right, hcut, hstop⟩, hproblem⟩ := hscanned.placed o ho
    rw [Nat.zero_add] at hstart hstop
    have hbound : o.span.stop ≤ Text.byteLength text := by
      rw [hstop, hcut, Text.byteLength_append]
      exact Nat.le_add_right _ _
    exact ⟨⟨before, name, behind, htext, hname, heq, hstart⟩, hle, hbound,
      ⟨before, tagText name ++ behind, htext, hstart⟩, ⟨left, right, hcut, hstop⟩, hproblem⟩
  · intro before behind htext
    have haccounted := hscanned.accounted htext
    rw [Nat.zero_add] at haccounted
    exact ⟨haccounted.once, haccounted.concealed⟩

example :
    (scan "@LRDerror 404 \x7b\"a\": \"@LRDenum\"\x7d\n@LRDdeprecated @LRD".toList).map
      (fun o => o.span) = [⟨0, 31⟩, ⟨32, 51⟩] := by decide

end Tag

end ApiNotes
