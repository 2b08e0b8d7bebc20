import ApiNotes.Proofs.Tag.Arguments
import ApiNotes.Proofs.Text.Cut
import ApiNotes.Tag.Scan

/-!
# The search for tags, tag by tag

The search walks over characters and carries how many of them it passes over. Seen from
tag to tag it is simpler: at a marker with its name, a well-formed tag is followed by the
search behind its arguments, a flawed one by the search behind its name, and where no
marker begins the search goes on with the next character. `Scanned` is this reading of the
search as a relation, and its induction is the one that proofs about all tags of a text
follow.
-/

namespace ApiNotes

namespace Tag

/-- `name` is all the letters before `behind`. -/
def IsName (name behind : List Char) : Prop :=
  (∀ c ∈ name, c.isAlpha = true) ∧ ∀ c ∈ behind.head?, c.isAlpha = false

/-- A tag as it is written: the marker and a name. -/
def tagText (name : List Char) : List Char :=
  '@' :: 'L' :: 'R' :: 'D' :: name

theorem length_tagText (name : List Char) : (tagText name).length = 4 + name.length := by
  simp [tagText]
  omega

theorem byteLength_tagText (name : List Char) :
    Text.byteLength (tagText name) = 4 + Text.byteLength name := by
  simp only [tagText, Text.byteLength_cons]
  change 1 + (1 + (1 + (1 + Text.byteLength name))) = _
  omega

theorem mem_tagText {name : List Char} (hname : ∀ c ∈ name, c.isAlpha = true) {c : Char}
    (hc : c ∈ tagText name) : c = '@' ∨ c.isAlpha = true := by
  simp only [tagText, List.mem_cons] at hc
  rcases hc with hc | rfl | rfl | rfl | hc
  · exact Or.inl hc
  · exact Or.inr rfl
  · exact Or.inr rfl
  · exact Or.inr rfl
  · exact Or.inr (hname c hc)

theorem tagName?_tagText {name behind : List Char} (h : IsName name behind) :
    tagName? (tagText name ++ behind) = some name := by
  change some ((name ++ behind).takeWhile Char.isAlpha) = some name
  rw [(Text.span_append h.1 h.2).1]

/-- A text has a tag at its start when it begins with the marker and a name. -/
theorem exists_of_tagName?_eq_some {text name : List Char} (h : tagName? text = some name) :
    ∃ behind, text = tagText name ++ behind ∧ IsName name behind := by
  unfold tagName? at h
  split at h
  · next cs =>
    obtain rfl := Option.some.inj h
    refine ⟨cs.dropWhile Char.isAlpha, ?_, ?_, Text.head?_dropWhile Char.isAlpha cs⟩
    · simp [tagText]
    · intro c hc
      exact List.mem_takeWhile_imp hc
  · cases h

/-! ### From tag to tag -/

theorem scanFrom_skip (skip offset : Nat) (text : List Char) :
    scanFrom skip offset text =
      scanFrom 0 (offset + Text.byteLength (text.take skip)) (text.drop skip) := by
  induction text generalizing skip offset with
  | nil => simp [scanFrom]
  | cons c cs ih =>
      cases skip with
      | zero => simp
      | succ skip =>
          rw [scanFrom, ih, List.take_succ_cons, List.drop_succ_cons, Text.byteLength_cons,
            Nat.add_assoc]

theorem scanFrom_pass {c : Char} {cs : List Char} (h : tagName? (c :: cs) = none)
    (offset : Nat) : scanFrom 0 offset (c :: cs) = scanFrom 0 (offset + c.utf8Size) cs := by
  rw [scanFrom, h]

theorem scanFrom_tagText {name covered rest : List Char} (h : IsName name (covered ++ rest))
    {offset : Nat}
    (hresume : (examine offset name (covered ++ rest)).resume =
      4 + name.length + covered.length) :
    scanFrom 0 offset (tagText name ++ (covered ++ rest)) =
      (examine offset name (covered ++ rest)).occurrence ::
        scanFrom 0 (offset + Text.byteLength (tagText name ++ covered)) rest := by
  have hname := tagName?_tagText h
  rw [tagText, List.cons_append] at hname ⊢
  rw [scanFrom, hname]
  have hbehind : ('L' :: 'R' :: 'D' :: name ++ (covered ++ rest)).drop (3 + name.length) =
      covered ++ rest := by
    rw [Nat.add_comm]
    simp
  simp only [hbehind, hresume]
  congr 1
  rw [scanFrom_skip]
  have hlength : 4 + name.length + covered.length - 1 =
      ('L' :: 'R' :: 'D' :: name ++ covered).length := by
    simp only [List.length_append, List.length_cons]
    omega
  have htext : 'L' :: 'R' :: 'D' :: name ++ (covered ++ rest) =
      ('L' :: 'R' :: 'D' :: name ++ covered) ++ rest := by simp
  rw [hlength, htext, List.take_left, List.drop_left]
  congr 1
  simp [Nat.add_assoc]

/-- The occurrence that a well-formed tag gives. -/
def soundAt (offset : Nat) (name covered : List Char) (kind : Kind) (entry : Entry) :
    Occurrence :=
  ⟨String.ofList name, some kind,
    ⟨offset, offset + Text.byteLength (tagText name ++ covered)⟩, .ok entry⟩

@[simp] theorem start_soundAt (offset : Nat) (name covered : List Char) (kind : Kind)
    (entry : Entry) : (soundAt offset name covered kind entry).span.start = offset := rfl

@[simp] theorem stop_soundAt (offset : Nat) (name covered : List Char) (kind : Kind)
    (entry : Entry) : (soundAt offset name covered kind entry).span.stop =
      offset + (4 + Text.byteLength name + Text.byteLength covered) := by
  rw [soundAt, Text.byteLength_append, byteLength_tagText]

/-- Behind a well-formed tag the search goes on after its arguments. -/
theorem scanFrom_sound {name covered rest : List Char} (h : IsName name (covered ++ rest))
    {kind : Kind} (hkind : Kind.ofName? (String.ofList name) = some kind) {entry : Entry}
    (hread : readArguments kind (covered ++ rest) = ⟨.ok entry, covered.length⟩) (offset : Nat) :
    scanFrom 0 offset (tagText name ++ (covered ++ rest)) =
      soundAt offset name covered kind entry ::
        scanFrom 0 (offset + Text.byteLength (tagText name ++ covered)) rest := by
  have hexamine : examine offset name (covered ++ rest) =
      ⟨soundAt offset name covered kind entry, 4 + name.length + covered.length⟩ := by
    simp [examine, soundAt, hkind, hread, byteLength_tagText, Nat.add_assoc]
  rw [scanFrom_tagText h (by rw [hexamine]), hexamine]

/-- What a flawed tag leaves: it starts at its marker, covers some of the text behind its
name, and names a problem within what it covers. -/
structure FlawedAt (offset : Nat) (name behind : List Char) (o : Occurrence) : Prop where
  name_eq : o.name = String.ofList name
  kind_eq : o.kind = Kind.ofName? (String.ofList name)
  span_eq : ∃ covered rest, behind = covered ++ rest ∧
    o.span = ⟨offset, offset + Text.byteLength (tagText name ++ covered)⟩
  problem : ∃ p, o.result = .error p ∧ p.span.start = offset ∧ p.span.stop ≤ o.span.stop

theorem examine_flawed {name behind : List Char}
    (h : ∀ kind, Kind.ofName? (String.ofList name) = some kind →
      ∃ flaw, (readArguments kind behind).result = .error flaw) (offset : Nat) :
    FlawedAt offset name behind (examine offset name behind).occurrence ∧
      (examine offset name behind).resume = 4 + name.length := by
  cases hkind : Kind.ofName? (String.ofList name) with
  | none =>
      simp only [examine, hkind]
      refine ⟨⟨rfl, hkind.symm, ?_, _, rfl, rfl, ?_⟩, trivial⟩
      · exact ⟨behind.take (Text.row behind).length, behind.drop (Text.row behind).length,
          (List.take_append_drop _ _).symm, by simp [byteLength_tagText, Nat.add_assoc]⟩
      · simp
  | some kind =>
      obtain ⟨flaw, hflaw⟩ := h kind hkind
      simp only [examine, hkind, hflaw]
      refine ⟨⟨rfl, hkind.symm, ?_, _, rfl, rfl, Nat.le_refl _⟩, trivial⟩
      exact ⟨behind.take (readArguments kind behind).reach,
        behind.drop (readArguments kind behind).reach, (List.take_append_drop _ _).symm,
        by simp [byteLength_tagText, Nat.add_assoc]⟩

/-- Behind a flawed tag the search goes on after its name. -/
theorem scanFrom_flawed {name behind : List Char} (h : IsName name behind)
    (hflaw : ∀ kind, Kind.ofName? (String.ofList name) = some kind →
      ∃ flaw, (readArguments kind behind).result = .error flaw) (offset : Nat) :
    ∃ o, FlawedAt offset name behind o ∧
      scanFrom 0 offset (tagText name ++ behind) =
        o :: scanFrom 0 (offset + Text.byteLength (tagText name)) behind := by
  obtain ⟨ho, hresume⟩ := examine_flawed hflaw offset
  have hscan : scanFrom 0 offset (tagText name ++ ([] ++ behind)) = _ ::
      scanFrom 0 (offset + Text.byteLength (tagText name ++ [])) behind :=
    scanFrom_tagText h hresume
  rw [List.append_nil] at hscan
  exact ⟨_, ho, hscan⟩

/-! ### The search as a relation -/

/-- The tags of a text that starts at byte `offset`. -/
inductive Scanned : Nat → List Char → List Occurrence → Prop where
  | nil (offset : Nat) : Scanned offset [] []
  | pass {offset : Nat} {c : Char} {cs : List Char} {os : List Occurrence} :
      tagName? (c :: cs) = none → Scanned (offset + c.utf8Size) cs os →
        Scanned offset (c :: cs) os
  | flawed {offset : Nat} {name behind : List Char} {o : Occurrence} {os : List Occurrence} :
      IsName name behind →
        (∀ kind, Kind.ofName? (String.ofList name) = some kind →
          ∃ flaw, (readArguments kind behind).result = .error flaw) →
        FlawedAt offset name behind o →
        Scanned (offset + Text.byteLength (tagText name)) behind os →
        Scanned offset (tagText name ++ behind) (o :: os)
  | sound {offset : Nat} {name covered rest : List Char} {kind : Kind} {entry : Entry}
      {os : List Occurrence} :
      IsName name (covered ++ rest) →
        Kind.ofName? (String.ofList name) = some kind →
        readArguments kind (covered ++ rest) = ⟨.ok entry, covered.length⟩ →
        Scanned (offset + Text.byteLength (tagText name ++ covered)) rest os →
        Scanned offset (tagText name ++ (covered ++ rest))
          (soundAt offset name covered kind entry :: os)

theorem scanned_scanFrom (offset : Nat) (text : List Char) :
    Scanned offset text (scanFrom 0 offset text) := by
  cases htag : tagName? text with
  | none =>
      cases text with
      | nil => exact .nil offset
      | cons c cs =>
          rw [scanFrom_pass htag]
          exact .pass htag (scanned_scanFrom _ cs)
  | some name =>
      obtain ⟨behind, htext, hname⟩ := exists_of_tagName?_eq_some htag
      have hshort : behind.length < text.length := by
        rw [htext, List.length_append, length_tagText]
        omega
      by_cases hsound : ∃ kind entry, Kind.ofName? (String.ofList name) = some kind ∧
          (readArguments kind behind).result = .ok entry
      · obtain ⟨kind, entry, hkind, hentry⟩ := hsound
        have hreach := reach_readArguments_le kind behind
        -- The text behind the name is cut where the arguments end.
        obtain ⟨covered, rest, rfl, hcovered⟩ : ∃ covered rest, behind = covered ++ rest ∧
            covered.length = (readArguments kind behind).reach :=
          ⟨behind.take _, behind.drop _, (List.take_append_drop _ _).symm,
            by rw [List.length_take, Nat.min_eq_left hreach]⟩
        have hread : readArguments kind (covered ++ rest) = ⟨.ok entry, covered.length⟩ := by
          rw [hcovered, ← hentry]
        have hrest : rest.length < text.length := by
          rw [List.length_append] at hshort
          omega
        rw [htext, scanFrom_sound hname hkind hread]
        exact .sound hname hkind hread (scanned_scanFrom _ rest)
      · have hflaw : ∀ kind, Kind.ofName? (String.ofList name) = some kind →
            ∃ flaw, (readArguments kind behind).result = .error flaw := by
          intro kind hkind
          cases hresult : (readArguments kind behind).result with
          | error flaw => exact ⟨flaw, rfl⟩
          | ok entry => exact absurd ⟨kind, entry, hkind, hresult⟩ hsound
        obtain ⟨o, ho, hscan⟩ := scanFrom_flawed hname hflaw offset
        rw [htext, hscan]
        exact .flawed hname hflaw ho (scanned_scanFrom _ behind)
termination_by text.length

theorem scanned_scan (text : List Char) : Scanned 0 text (scan text) :=
  scanned_scanFrom 0 text

/-! ### What was read of a tag -/

/-- In a text that starts at byte `offset`, an occurrence is where its span says, and its kind
and its entry are those of the name and of what stands behind the name. -/
def ReadFrom (offset : Nat) (text : List Char) (o : Occurrence) : Prop :=
  ∃ before name behind, text = before ++ (tagText name ++ behind) ∧ IsName name behind ∧
    o.name = String.ofList name ∧ o.kind = Kind.ofName? (String.ofList name) ∧
      o.span.start = offset + Text.byteLength before ∧
        ∀ entry, o.result = .ok entry →
          ∃ kind, o.kind = some kind ∧ (readArguments kind behind).result = .ok entry

theorem ReadFrom.append_left {offset : Nat} {pre text : List Char} {o : Occurrence}
    (h : ReadFrom (offset + Text.byteLength pre) text o) : ReadFrom offset (pre ++ text) o := by
  obtain ⟨before, name, behind, rfl, hname, heq, hkind, hstart, hentry⟩ := h
  refine ⟨pre ++ before, name, behind, by simp, hname, heq, hkind, ?_, hentry⟩
  rw [hstart, Text.byteLength_append, Nat.add_assoc]

/-- Every occurrence is read from the text. -/
theorem Scanned.readFrom {offset : Nat} {text : List Char} {os : List Occurrence}
    (h : Scanned offset text os) : ∀ o ∈ os, ReadFrom offset text o := by
  induction h with
  | nil _ => simp
  | @pass offset c cs os _ _ ih =>
      intro o ho
      have hread : ReadFrom (offset + Text.byteLength [c]) cs o := ih o ho
      exact hread.append_left
  | @flawed offset name behind o os hname _ hflawed _ ih =>
      intro o' ho'
      rcases List.mem_cons.1 ho' with rfl | ho'
      · obtain ⟨covered, rest, -, hspan⟩ := hflawed.span_eq
        obtain ⟨problem, hproblem, -, -⟩ := hflawed.problem
        refine ⟨[], name, behind, rfl, hname, hflawed.name_eq, hflawed.kind_eq, ?_, ?_⟩
        · rw [hspan]
          rfl
        · intro entry hentry
          rw [hproblem] at hentry
          cases hentry
      · exact (ih o' ho').append_left
  | @sound offset name covered rest kind entry os hname hkind hread _ ih =>
      intro o' ho'
      rcases List.mem_cons.1 ho' with rfl | ho'
      · refine ⟨[], name, covered ++ rest, rfl, hname, rfl, hkind.symm, rfl, ?_⟩
        intro entry' hentry'
        cases hentry'
        exact ⟨kind, rfl, congrArg Reading.result hread⟩
      · rw [← List.append_assoc]
        exact (ih o' ho').append_left

end Tag

end ApiNotes
