import ApiNotes.Proofs.Capture.Grammar
import ApiNotes.Proofs.Editor.Agreement
import ApiNotes.Proofs.Tag.Isolated

/-!
# Warnings about repeated names and the comments they are in

A diagnosis carries the names that occurred in the comment so far. They are the names of the tags
from which on no text between two tags led to another comment (`Recalls`), one tag after the other,
so a tag is warned about exactly when it repeats the name of one of these (`Repeats`).

Two tags of one block comment have no `*/` between their markers, except in string literals. The
text between two tags is looked at, and what the tags themselves cover is not. So a warning stays
within a block comment exactly when no `*/` is covered by a tag without an object: such a tag covers
a line to its end, and with it the `*/` that closes the comment there (`sameComment_iff`).
-/

namespace ApiNotes

namespace Editor

open Tag

variable {text : List Char} {previous : Option Nat} {seen : Seen} {kept : Named} {name : String}
  {o o' : Occurrence} {os front between : List Occurrence} {ds : List Diagnostic} {d : Diagnostic}

/-- A well-formed tag with an entry that is kept under a name. -/
def Names (kept : Named) (name : String) (o : Occurrence) : Prop :=
  ∃ entry, o.result = .ok entry ∧ Named.ofEntry? entry = some (kept, name)

/-- No text between two tags that follow each other leads to another comment. -/
def Unbroken (text : List Char) (os : List Occurrence) : Prop :=
  os.IsChain fun o o' => startsNewComment (slice text o.span.stop o'.span.start) = false

/-- One of the tags before a tag has the name, and from there on the comment is not left. -/
def Repeats (text : List Char) (front : List Occurrence) (o : Occurrence) (kept : Named)
    (name : String) : Prop :=
  ∃ before o' between, front = before ++ o' :: between ∧ Names kept name o' ∧
    Unbroken text (o' :: (between ++ [o]))

/-- One of the tags has the name, and from there on the comment is not left. -/
def Occurs (text : List Char) (os : List Occurrence) (kept : Named) (name : String) : Prop :=
  ∃ before o' between, os = before ++ o' :: between ∧ Names kept name o' ∧
    Unbroken text (o' :: between)

theorem not_names_of_error {problem : Problem} (h : o.result = .error problem) :
    ¬ Names kept name o := by
  rintro ⟨entry, hentry, -⟩
  rw [h] at hentry
  cases hentry

theorem names_iff_of_ok {entry : Entry} (h : o.result = .ok entry) :
    Names kept name o ↔ Named.ofEntry? entry = some (kept, name) := by
  simp [Names, h]

/-! ### The names that count -/

theorem repeats_iff : Repeats text front o kept name ↔
    Occurs text front kept name ∧ ∀ last ∈ front.getLast?,
      startsNewComment (slice text last.span.stop o.span.start) = false := by
  have hchain (o' : Occurrence) (before between : List Occurrence) :
      Unbroken text (o' :: (between ++ [o])) ↔ Unbroken text (o' :: between) ∧
        ∀ last ∈ (before ++ o' :: between).getLast?,
          startsNewComment (slice text last.span.stop o.span.start) = false := by
    rw [Unbroken, ← List.cons_append, List.isChain_append, List.getLast?_append]
    simp [Unbroken]
  constructor
  · rintro ⟨before, o', between, rfl, hnames, hunbroken⟩
    obtain ⟨hfirst, hlast⟩ := (hchain o' before between).1 hunbroken
    exact ⟨⟨before, o', between, rfl, hnames, hfirst⟩, hlast⟩
  · rintro ⟨⟨before, o', between, rfl, hnames, hfirst⟩, hlast⟩
    exact ⟨before, o', between, rfl, hnames, (hchain o' before between).2 ⟨hfirst, hlast⟩⟩

theorem occurs_append_singleton : Occurs text (front ++ [o]) kept name ↔
    Names kept name o ∨ Repeats text front o kept name := by
  constructor
  · rintro ⟨before, o', between, hfront, hnames, hunbroken⟩
    rcases List.eq_nil_or_concat between with rfl | ⟨between, last, rfl⟩
    · obtain ⟨-, hsame⟩ := List.append_inj' hfront rfl
      obtain rfl := List.singleton_inj.1 hsame
      exact Or.inl hnames
    · have hcut : front ++ [o] = (before ++ o' :: between) ++ [last] := by
        rw [hfront]
        simp
      obtain ⟨rfl, hsame⟩ := List.append_inj' hcut rfl
      obtain rfl := List.singleton_inj.1 hsame
      rw [List.concat_eq_append] at hunbroken
      exact Or.inr ⟨before, o', between, rfl, hnames, hunbroken⟩
  · rintro (hnames | ⟨before, o', between, rfl, hnames, hunbroken⟩)
    · exact ⟨front, o, [], rfl, hnames, List.isChain_singleton _⟩
    · exact ⟨before, o', between ++ [o], by simp, hnames, hunbroken⟩

/-- The names that a diagnosis has behind some tags are those that occur among them. -/
structure Recalls (text : List Char) (front : List Occurrence) (previous : Option Nat)
    (seen : Seen) : Prop where
  previous_eq : previous = front.getLast?.map fun o => o.span.stop
  mem_seen_iff : ∀ kept name, name ∈ Named.seen kept seen ↔ Occurs text front kept name

theorem recalls_nil (text : List Char) : Recalls text [] none .empty := by
  refine ⟨rfl, fun kept name => iff_of_false ?_ ?_⟩
  · cases kept <;> exact List.not_mem_nil
  · rintro ⟨before, o', between, hnil, -, -⟩
    simp at hnil

/-- The names that count at a tag are those that it could repeat. -/
theorem Recalls.mem_seenAt_iff (h : Recalls text front previous seen) (o : Occurrence)
    (kept : Named) (name : String) :
    name ∈ kept.seen (seenAt text previous seen o) ↔ Repeats text front o kept name := by
  rw [repeats_iff, ← h.mem_seen_iff, seenAt, h.previous_eq]
  cases hlast : front.getLast? with
  | none => simp
  | some last =>
      cases hstarts : startsNewComment (slice text last.span.stop o.span.start) with
      | false => simp [hstarts]
      | true =>
          have hempty : name ∉ kept.seen .empty := by cases kept <;> exact List.not_mem_nil
          simp [hstarts, hempty]

theorem mem_seen_remark_iff (o : Occurrence) (kept : Named) (name : String) :
    name ∈ kept.seen (remark seen o).2 ↔ Names kept name o ∨ name ∈ kept.seen seen := by
  cases hresult : o.result with
  | error problem =>
      have hsame : (remark seen o).2 = seen := by
        cases hkind : o.kind with
        | none => rw [remark_of_unknown hresult hkind]
        | some kind => rw [remark_of_flawed hresult hkind]
      rw [hsame, or_iff_right (not_names_of_error hresult)]
  | ok entry =>
      rw [names_iff_of_ok hresult]
      cases hentry : Named.ofEntry? entry with
      | none => simp [remark_of_ofEntry?_eq_none hresult hentry]
      | some named =>
          obtain ⟨other, name'⟩ := named
          simp only [Option.some.injEq, Prod.mk.injEq]
          by_cases hmem : name' ∈ other.seen seen
          · rw [remark_of_mem_seen hresult hentry hmem]
            refine ⟨Or.inr, ?_⟩
            rintro (⟨rfl, rfl⟩ | hseen)
            · exact hmem
            · exact hseen
          · rw [remark_of_not_mem_seen hresult hentry hmem]
            by_cases hother : kept = other
            · subst hother
              rw [Named.seen_see, List.mem_cons]
              simp [eq_comm]
            · rw [Named.seen_see_of_ne hother]
              simp [Ne.symm hother]

/-- One more tag: the names that occur are those that a diagnosis has behind it. -/
theorem Recalls.append_singleton (h : Recalls text front previous seen) (o : Occurrence) :
    Recalls text (front ++ [o]) (some o.span.stop) (remark (seenAt text previous seen o) o).2 := by
  refine ⟨by simp, fun kept name => ?_⟩
  rw [mem_seen_remark_iff, h.mem_seenAt_iff, occurs_append_singleton]

/-- A tag is warned about when it has a name that counts. -/
theorem noted?_isRepeat_iff :
    noted? text o (remark seen o).1 = some d ∧ kept.isRepeat d = true ↔
      ∃ name, Names kept name o ∧ name ∈ kept.seen seen ∧
        d = diagnosticAt text o.span .warning (kept.message name) := by
  cases hresult : o.result with
  | error problem =>
      refine iff_of_false ?_ fun ⟨name, hnames, _⟩ => not_names_of_error hresult hnames
      rintro ⟨hd, hrepeat⟩
      cases hkind : o.kind with
      | none =>
          rw [remark_of_unknown hresult hkind] at hd
          obtain rfl := Option.some.inj hd
          simp [Named.isRepeat_unknownMessage] at hrepeat
      | some kind =>
          rw [remark_of_flawed hresult hkind] at hd
          obtain rfl := Option.some.inj hd
          cases hrepeat
  | ok entry =>
      simp only [names_iff_of_ok hresult]
      cases hentry : Named.ofEntry? entry with
      | none => simp [remark_of_ofEntry?_eq_none hresult hentry, noted?]
      | some named =>
          obtain ⟨other, name⟩ := named
          simp only [Option.some.injEq, Prod.mk.injEq]
          by_cases hmem : name ∈ other.seen seen
          · rw [remark_of_mem_seen hresult hentry hmem]
            constructor
            · rintro ⟨hd, hrepeat⟩
              obtain rfl := Option.some.inj hd
              rw [Named.isRepeat_message, decide_eq_true_eq] at hrepeat
              subst hrepeat
              exact ⟨name, ⟨rfl, rfl⟩, hmem, rfl⟩
            · rintro ⟨name', ⟨rfl, rfl⟩, -, rfl⟩
              exact ⟨rfl, by simp [Named.isRepeat_message]⟩
          · rw [remark_of_not_mem_seen hresult hentry hmem]
            refine iff_of_false (fun hd => by cases hd.1) ?_
            rintro ⟨name', ⟨rfl, rfl⟩, hmem', -⟩
            exact hmem hmem'

/-- The warnings about repeated names of one kind, along all tags. -/
theorem mem_diagnoseFrom?_isRepeat_iff (hrecalls : Recalls text front previous seen)
    (h : diagnoseFrom? text previous seen os = some ds) :
    d ∈ ds ∧ kept.isRepeat d = true ↔
      ∃ before o back name, os = before ++ o :: back ∧ Names kept name o ∧
        Repeats text (front ++ before) o kept name ∧
          d = diagnosticAt text o.span .warning (kept.message name) := by
  induction os generalizing front previous seen ds with
  | nil =>
      obtain rfl := Option.some.inj h
      simp
  | cons o os ih =>
      obtain ⟨-, later, hlater, rfl⟩ := exists_of_diagnoseFrom?_cons h
      rw [List.mem_append, or_and_right, Option.mem_toList, noted?_isRepeat_iff,
        ih (hrecalls.append_singleton o) hlater]
      constructor
      · rintro (⟨name, hnames, hmem, hd⟩ | ⟨before, o', back, name, rfl, hnames, hrepeats, hd⟩)
        · rw [hrecalls.mem_seenAt_iff] at hmem
          exact ⟨[], o, os, name, rfl, hnames, by rwa [List.append_nil], hd⟩
        · refine ⟨o :: before, o', back, name, rfl, hnames, ?_, hd⟩
          rwa [List.append_assoc, List.singleton_append] at hrepeats
      · rintro ⟨before, o', back, name, hos, hnames, hrepeats, hd⟩
        cases before with
        | nil =>
            obtain ⟨rfl, rfl⟩ := List.cons.inj hos
            rw [List.append_nil] at hrepeats
            exact Or.inl ⟨name, hnames, (hrecalls.mem_seenAt_iff _ _ _).2 hrepeats, hd⟩
        | cons first before =>
            obtain ⟨rfl, rfl⟩ := List.cons.inj hos
            refine Or.inr ⟨before, o', back, name, rfl, hnames, ?_, hd⟩
            rwa [List.append_assoc, List.singleton_append]

/-! ### Where comments are closed -/

/-- A `*/` starts at byte `p` of a text. -/
def ClosesAt (text : List Char) (p : Nat) : Prop :=
  ∃ before behind, text = before ++ '*' :: '/' :: behind ∧ p = Text.byteLength before

/-- Byte `p` is in a string literal of an object that is captured for a tag. -/
def InString (text : List Char) (p : Nat) : Prop :=
  ∃ o ∈ scan text, ∃ before object behind, Isolates text o before object behind ∧
    StandsInLiteral before object p

/-- Between the markers of two tags every `*/` is in a string literal. -/
def SameComment (text : List Char) (o o' : Occurrence) : Prop :=
  ∀ p, o.span.start ≤ p → p < o'.span.start → ClosesAt text p → InString text p

variable {p : Nat}

/-- A `*/` that starts in a part of a text is in the part, unless it ends behind it. -/
theorem ClosesAt.infix {before part behind : List Char}
    (h : ClosesAt (before ++ (part ++ behind)) p) (hle : Text.byteLength before ≤ p)
    (hlt : p < Text.byteLength (before ++ part)) (hbehind : behind.head? ≠ some '/') :
    ['*', '/'] <:+: part := by
  obtain ⟨pre, post, htext, rfl⟩ := h
  obtain ⟨inside, rfl, hpart⟩ := Text.exists_append_of_byteLength_le htext hle
  rcases List.append_eq_append_iff.1 hpart with ⟨more, rfl, -⟩ | ⟨more, rfl, hmore⟩
  · simp only [Text.byteLength_append] at hlt
    omega
  · match more, hmore with
    | [], _ => simp at hlt
    | [c], hmore =>
        obtain ⟨-, rfl⟩ := List.cons.inj hmore
        exact absurd rfl hbehind
    | c :: e :: more, hmore =>
        obtain ⟨rfl, htail⟩ := List.cons.inj hmore
        obtain ⟨rfl, -⟩ := List.cons.inj htail
        exact ⟨inside, more, by simp⟩

/-- A `*/` inside of a captured object is in one of its string literals. -/
theorem inLiteral_of_close {xs ys : List Char} {n : Nat}
    (h : objectLength (xs ++ '*' :: '/' :: ys) = .ok n) (hn : xs.length < n) :
    InLiteral ((xs ++ '*' :: '/' :: ys).take n) xs.length := by
  have hlexed : Lexed ((xs ++ '*' :: '/' :: ys).take n) := lexedFrom_take h
  have hnone := interruptionAt?_of_lengthToClose_eq_ok h hn
  rw [interruptionAt?_append] at hnone
  obtain ⟨k, rfl⟩ : ∃ k, n = xs.length + (k + 1) := ⟨n - xs.length - 1, by omega⟩
  have htake : (xs ++ '*' :: '/' :: ys).take (xs.length + (k + 1)) =
      xs ++ '*' :: ('/' :: ys).take k := by
    rw [List.take_length_add_append, List.take_succ_cons]
  refine hlexed.inLiteral htake (by decide) fun houtside => ?_
  rw [houtside] at hnone
  cases hnone

/-- No part of the marker and the name of a tag closes a comment. -/
theorem nameStop_le_of_closesAt (ho : o ∈ scan text) (hclose : ClosesAt text p)
    (hle : o.span.start ≤ p) : o.nameStop ≤ p := by
  obtain ⟨front, name, rest, htext, hname, heq, hstart⟩ := ((scanned_scan text).placed o ho).tag_at
  obtain ⟨pre, post, hpre, rfl⟩ := hclose
  rw [htext] at hpre
  obtain ⟨between, rfl, hbetween⟩ := Text.exists_append_of_byteLength_le hpre (by omega)
  have hstar : '*' ∉ tagText name := by
    intro hmem
    rcases mem_tagText hname.1 hmem with hc | hc <;> exact absurd hc (by decide)
  obtain ⟨inside, rfl, -⟩ := Text.exists_append_of_not_mem hstar hbetween
  rw [Occurrence.nameStop, hstart, heq, String.toList_ofList]
  simp only [Text.byteLength_append, byteLength_tagText]
  omega

/-- A tag that has an object covers a `*/` only in a string literal. -/
theorem standsInLiteral_of_closesAt {before object behind : List Char} (ho : o ∈ scan text)
    (h : Isolates text o before object behind) (hclose : ClosesAt text p)
    (hle : o.span.start ≤ p) (hlt : p < o.span.stop) : StandsInLiteral before object p := by
  have hbehind := nameStop_le_of_closesAt ho hclose hle
  rw [(h.covers ho).1] at hlt
  obtain ⟨pre, post, hpre, rfl⟩ := hclose
  obtain ⟨inside, hbytes, hobject, hinside⟩ :=
    h.exists_inside hpre hbehind hlt (by decide) (by decide) (by decide)
  obtain ⟨-, front, args, kind, -, -, -, hcaptures⟩ := h
  have hcloses := hcaptures.closes
  rw [hobject] at hcloses
  have hin := inLiteral_of_close hcloses hinside
  rw [← hobject, List.take_left] at hin
  exact ⟨inside.length, hin, hbytes⟩

/-- A tag without an object covers all of a `*/` that starts in its span. -/
theorem infix_slice_of_closesAt (ho : o ∈ scan text)
    (hnone : ¬ ∃ before object behind, Isolates text o before object behind)
    (hclose : ClosesAt text p) (hle : o.span.start ≤ p) (hlt : p < o.span.stop) :
    ['*', '/'] <:+: slice text o.span.start o.span.stop := by
  obtain ⟨before, part, behind, htext, hstart, hstop⟩ :=
    Text.exists_slice_of_isBoundary (isBoundary_start ho) (isBoundary_stop ho) (by omega)
  rcases exists_isolates_or_endsLine ho with hisolates | ⟨upTo, rest, hcut, hupTo, hends⟩
  · exact absurd hisolates hnone
  · have hsame : (before ++ part) ++ behind = upTo ++ rest := by
      rw [← hcut, htext, List.append_assoc]
    obtain ⟨-, rfl⟩ := Text.append_inj_of_byteLength_eq hsame (by omega)
    rw [hstart, hstop, htext, slice_append]
    rw [htext] at hclose
    refine hclose.infix (by omega) (by omega) fun hhead => ?_
    cases hends '/' hhead

/-- A `*/` between two tags closes the comment there. -/
theorem closesComment_of_closesAt (ho : o ∈ scan text) (ho' : o' ∈ scan text)
    (hclose : ClosesAt text p) (hle : o.span.stop ≤ p) (hlt : p < o'.span.start) :
    closesComment (slice text o.span.stop o'.span.start) = true := by
  obtain ⟨before, part, behind, htext, hstop, hstart⟩ :=
    Text.exists_slice_of_isBoundary (isBoundary_stop ho) (isBoundary_start ho') (by omega)
  obtain ⟨front, name, rest, htag, -, -, hfront⟩ := ((scanned_scan text).placed o' ho').tag_at
  have hsame : (before ++ part) ++ behind = front ++ (tagText name ++ rest) := by
    rw [← htag, htext, List.append_assoc]
  obtain ⟨-, rfl⟩ := Text.append_inj_of_byteLength_eq hsame (by omega)
  rw [closesComment_iff, hstart, hstop, htext, slice_append]
  rw [htext] at hclose
  refine hclose.infix (by omega) (by omega) fun hhead => ?_
  cases hhead

/-- What a tag covers of the text has a `*/` exactly where a `*/` starts in its span. -/
theorem exists_closesAt_of_infix (ho : o ∈ scan text)
    (h : ['*', '/'] <:+: slice text o.span.start o.span.stop) :
    ∃ p, ClosesAt text p ∧ o.span.start ≤ p ∧ p < o.span.stop := by
  have hle : o.span.start ≤ o.span.stop := by
    have := ((scanned_scan text).placed o ho).start_le
    omega
  obtain ⟨before, part, behind, htext, hstart, hstop⟩ :=
    Text.exists_slice_of_isBoundary (isBoundary_start ho) (isBoundary_stop ho) hle
  rw [hstart, hstop, htext, slice_append] at h
  obtain ⟨xs, ys, rfl⟩ := h
  refine ⟨Text.byteLength (before ++ xs), ⟨before ++ xs, ys ++ behind, ?_, rfl⟩, ?_, ?_⟩
  · rw [htext]
    simp
  · rw [hstart, Text.byteLength_append]
    omega
  · have hword : Text.byteLength ['*', '/'] = 2 := rfl
    rw [hstop]
    simp only [Text.byteLength_append, hword]
    omega

/-! ### Spans that do not overlap -/

/-- Where a text is diagnosed, every tag ends before the later ones start. -/
theorem stop_le_start_of_diagnose? {back : List Occurrence} (h : diagnose? text = some ds)
    (hscan : scan text = front ++ o :: back) (ho' : o' ∈ back) : o.span.stop ≤ o'.span.start := by
  have hchain : (scan text).IsChain fun o o' => o.span.stop ≤ o'.span.start := by
    have hsome : (diagnose? text).isSome := by rw [h]; rfl
    exact (isSome_diagnoseFrom?_iff.1 hsome).2
  have hpairwise := (scanned_scan text).pairwise
  cases back with
  | nil => cases ho'
  | cons next back =>
      rw [List.isChain_iff_forall_rel_of_append_cons_cons] at hchain
      have hnext := hchain hscan
      rw [hscan, List.pairwise_append, List.pairwise_cons, List.pairwise_cons] at hpairwise
      rcases List.mem_cons.1 ho' with rfl | hback
      · exact hnext
      · exact Nat.le_trans hnext (Nat.le_of_lt (hpairwise.2.1.2.1 o' hback).1)

/-- Where a text is diagnosed, no byte is covered by two tags. -/
theorem eq_of_covers (h : diagnose? text = some ds) (ho : o ∈ scan text) (ho' : o' ∈ scan text)
    (hle : o.span.start ≤ p) (hlt : p < o.span.stop) (hle' : o'.span.start ≤ p)
    (hlt' : p < o'.span.stop) : o' = o := by
  obtain ⟨front, back, hscan⟩ := List.append_of_mem ho
  rw [hscan, List.mem_append, List.mem_cons] at ho'
  rcases ho' with hfront | heq | hback
  · obtain ⟨first, last, rfl⟩ := List.append_of_mem hfront
    rw [List.append_assoc, List.cons_append] at hscan
    have hstop := stop_le_start_of_diagnose? h hscan
      (List.mem_append_right last (List.mem_cons_self : o ∈ o :: back))
    omega
  · exact heq
  · have hstop := stop_le_start_of_diagnose? h hscan hback
    omega

/-- A byte between the starts of two tags is between the starts of two that follow each other. -/
theorem exists_consecutive (hle : o.span.start ≤ p) (hlt : p < o'.span.start) :
    ∃ first t t' last, o :: (between ++ [o']) = first ++ t :: t' :: last ∧ t ∈ o :: between ∧
      t.span.start ≤ p ∧ p < t'.span.start := by
  induction between generalizing o with
  | nil => exact ⟨[], o, o', [], rfl, List.mem_cons_self, hle, hlt⟩
  | cons next between ih =>
      by_cases hnext : p < next.span.start
      · exact ⟨[], o, next, between ++ [o'], rfl, List.mem_cons_self, hle, hnext⟩
      · obtain ⟨first, t, t', last, hcut, hmem, hstart, hstart'⟩ := ih (Nat.le_of_not_lt hnext)
        refine ⟨o :: first, t, t', last, ?_, List.mem_cons_of_mem _ hmem, hstart, hstart'⟩
        rw [List.cons_append, List.cons_append, hcut]

/-- Two tags with no other comment between them are in one block comment exactly when none of the
tags from the first one on covers a `*/` without having an object. -/
theorem sameComment_iff {before back : List Occurrence} (h : diagnose? text = some ds)
    (hscan : scan text = before ++ o :: (between ++ o' :: back))
    (hunbroken : Unbroken text (o :: (between ++ [o']))) :
    SameComment text o o' ↔ ∀ t ∈ o :: between,
      ['*', '/'] <:+: slice text t.span.start t.span.stop →
        ∃ front object behind, Isolates text t front object behind := by
  have hmem : ∀ t ∈ o :: (between ++ [o']), t ∈ scan text := by
    intro t ht
    have hcut : scan text = before ++ ((o :: (between ++ [o'])) ++ back) := by
      rw [hscan]
      simp
    rw [hcut]
    exact List.mem_append_right _ (List.mem_append_left _ ht)
  have hfirst : ∀ t ∈ o :: between, t ∈ scan text := fun t ht =>
    hmem t (List.mem_append_left [o'] ht)
  constructor
  · intro hsame t ht hinfix
    obtain ⟨p, hclose, hle, hlt⟩ := exists_closesAt_of_infix (hfirst t ht) hinfix
    have hstart : o.span.start ≤ t.span.start := by
      have hpairwise := (scanned_scan text).pairwise
      rw [hscan, List.pairwise_append, List.pairwise_cons] at hpairwise
      rcases List.mem_cons.1 ht with rfl | hbetween
      · exact Nat.le_refl _
      · exact Nat.le_of_lt (hpairwise.2.1.1 t (List.mem_append_left _ hbetween)).1
    have hstop : t.span.stop ≤ o'.span.start := by
      obtain ⟨first, last, hcut⟩ := List.append_of_mem ht
      have hscan' : scan text = (before ++ first) ++ t :: (last ++ o' :: back) := by
        rw [hscan, ← List.cons_append, hcut]
        simp
      exact stop_le_start_of_diagnose? h hscan' (List.mem_append_right last List.mem_cons_self)
    obtain ⟨owner, howner, front, object, behind, hisolates, hin⟩ :=
      hsame p (Nat.le_trans hstart hle) (Nat.lt_of_lt_of_le hlt hstop) hclose
    -- The literal is covered by the tag of its object, so this is the tag that covers the `*/`.
    have hbounds := hin.mem_bounds
    rw [← (hisolates.covers howner).1] at hbounds
    have hbefore := hisolates.start_lt
    obtain rfl := eq_of_covers h (hfirst t ht) howner hle hlt (by omega) hbounds.2
    exact ⟨front, object, behind, hisolates⟩
  · intro hcovers p hle hlt hclose
    obtain ⟨first, t, t', last, hcut, ht, hstart, hstart'⟩ := exists_consecutive hle hlt
    by_cases hspan : p < t.span.stop
    · have hisolates : ∃ front object behind, Isolates text t front object behind := by
        by_contra hnone
        exact hnone (hcovers t ht
          (infix_slice_of_closesAt (hfirst t ht) hnone hclose hstart hspan))
      obtain ⟨front, object, behind, hisolates⟩ := hisolates
      exact ⟨t, hfirst t ht, front, object, behind, hisolates,
        standsInLiteral_of_closesAt (hfirst t ht) hisolates hclose hstart hspan⟩
    · have ht' : t' ∈ scan text := hmem t' (by rw [hcut]; simp)
      have hcloses := closesComment_of_closesAt (hfirst t ht) ht' hclose (Nat.le_of_not_lt hspan)
        hstart'
      have hstays : startsNewComment (slice text t.span.stop t'.span.start) = false :=
        List.isChain_iff_forall_rel_of_append_cons_cons.1 hunbroken hcut
      simp [startsNewComment, hcloses] at hstays

/-- The warnings about repeated names are those about tags that repeat a name without leaving the
comment. The two tags are in one block comment exactly when no tag from the first one on, up to the
second one, covers a `*/` without having an object. -/
theorem diagnose?_repeats (h : diagnose? text = some ds) :
    (∀ (kept : Named) (d : Diagnostic), d ∈ ds ∧ kept.isRepeat d = true ↔
      ∃ front o back name, scan text = front ++ o :: back ∧ Names kept name o ∧
        Repeats text front o kept name ∧
          d = diagnosticAt text o.span .warning (kept.message name)) ∧
    ∀ before o between o' back, scan text = before ++ o :: (between ++ o' :: back) →
      Unbroken text (o :: (between ++ [o'])) →
        (SameComment text o o' ↔ ∀ t ∈ o :: between,
          ['*', '/'] <:+: slice text t.span.start t.span.stop →
            ∃ front object behind, Isolates text t front object behind) := by
  refine ⟨fun kept d => ?_, fun before o between o' back hscan hunbroken =>
    sameComment_iff h hscan hunbroken⟩
  have hall : d ∈ ds ∧ kept.isRepeat d = true ↔ _ :=
    mem_diagnoseFrom?_isRepeat_iff (recalls_nil text) h
  simpa only [List.nil_append] using hall

/-- The names, kinds and spans of tags tell how many there are and what each of them is. -/
theorem exists_of_map_eq {a b : String × Option Kind × Span}
    (h : os.map (fun o => (o.name, o.kind, o.span)) = [a, b]) :
    ∃ o o', os = [o, o'] ∧ (o.name, o.kind, o.span) = a ∧ (o'.name, o'.kind, o'.span) = b := by
  obtain ⟨o, rest, rfl, ho, hrest⟩ := List.map_eq_cons_iff.1 h
  obtain ⟨o', rest, rfl, ho', hnil⟩ := List.map_eq_cons_iff.1 hrest
  rw [List.map_eq_nil_iff] at hnil
  exact ⟨o, o', by rw [hnil], ho, ho'⟩

/-- Two request bodies of one name in one block comment, with a `*/` in a string of the first. -/
theorem diagnose?_repeats_in_one_comment :
    let text := "/** @LRDexample a \x7b\"b\": \"*/\"\x7d @LRDexample a \x7b\x7d */".toList
    let d : Diagnostic := ⟨0, 30, 46, repeatedSample "a", .warning⟩
    diagnose? text = some [d] ∧
      (∃ front o back name, scan text = front ++ o :: back ∧ Names .sample name o ∧
        Repeats text front o .sample name ∧
          d = diagnosticAt text o.span .warning (Named.sample.message name)) ∧
      ∃ o o', scan text = [o, o'] ∧ SameComment text o o' := by
  intro text d
  have h : diagnose? text = some [d] := by decide +kernel
  have hscan : (scan text).map (fun o => (o.name, o.kind, o.span)) =
      [("example", some .sample, ⟨4, 29⟩), ("example", some .sample, ⟨30, 46⟩)] := by
    decide +kernel
  obtain ⟨o, o', hscan, ho, ho'⟩ := exists_of_map_eq hscan
  simp only [Prod.mk.injEq] at ho ho'
  obtain ⟨hname, hkind, hspan⟩ := ho
  have hunbroken : Unbroken text (o :: ([] ++ [o'])) := by
    refine List.isChain_pair.2 ?_
    rw [hspan, ho'.2.2]
    decide +kernel
  have hisolates : Isolates text o "/** @LRDexample a ".toList "\x7b\"b\": \"*/\"\x7d".toList
      " @LRDexample a \x7b\x7d */".toList := by
    refine ⟨by decide, "/** ".toList, " a ".toList, .sample, ?_, ?_, hkind,
      fixedArguments_sample ['a'] (by decide) (List.all_eq_true.1 rfl), by decide,
      by decide +kernel⟩
    · rw [hname]
      decide
    · rw [hspan]
      decide
  obtain ⟨hrepeats, hsame⟩ := diagnose?_repeats h
  refine ⟨h, (hrepeats .sample d).1 ⟨List.mem_singleton_self d, by decide +kernel⟩, o, o', hscan,
    (hsame [] o [] o' [] hscan hunbroken).2 ?_⟩
  intro t ht _
  obtain rfl := List.mem_singleton.1 ht
  exact ⟨_, _, _, hisolates⟩

/-- The enumeration of the first comment covers the `*/` that closes it, so the one of the second
comment is taken for a repetition. -/
theorem repeat_in_second_comment :
    let text := "/** @LRDenum sort a|b */\n/** @LRDenum sort a|b */".toList
    diagnose? text = some [⟨1, 4, 24, repeatedEnum "sort", .warning⟩] ∧
      ∃ o o', scan text = [o, o'] ∧ ¬ SameComment text o o' := by
  intro text
  have hscan : (scan text).map (fun o => (o.name, o.kind, o.span)) =
      [("enum", some .enumeration, ⟨4, 24⟩), ("enum", some .enumeration, ⟨29, 49⟩)] := by
    decide +kernel
  obtain ⟨o, o', hscan, ho, ho'⟩ := exists_of_map_eq hscan
  simp only [Prod.mk.injEq] at ho ho'
  refine ⟨by decide +kernel, o, o', hscan, fun hsame => ?_⟩
  have hclose : ClosesAt text 22 :=
    ⟨"/** @LRDenum sort a|b ".toList, "\n/** @LRDenum sort a|b */".toList, by decide, by decide⟩
  obtain ⟨owner, howner, _, _, _, ⟨-, _, _, kind, -, -, hkind, hcaptures⟩, -⟩ :=
    hsame 22 (by rw [ho.2.2]; decide) (by rw [ho'.2.2]; decide) hclose
  -- No tag of the text has an object.
  have henum : owner.kind = some .enumeration := by
    rw [hscan, List.mem_pair] at howner
    rcases howner with rfl | rfl
    · exact ho.2.1
    · exact ho'.2.1
  rw [henum] at hkind
  obtain rfl := Option.some.inj hkind
  exact hcaptures.fixed

end Editor

end ApiNotes
