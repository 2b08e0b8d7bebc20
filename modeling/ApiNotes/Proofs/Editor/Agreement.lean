import ApiNotes.Notes
import ApiNotes.Proofs.Editor.Block
import Mathlib.Data.List.ReduceOption

/-!
# Diagnostics and notes

The diagnostics of a text and its notes are taken from the same tags. Each tag leads to at most
one diagnostic (`Remarked`): an unknown one to a warning, a flawed one of a known kind to an
error, and a well-formed one to a warning or to nothing, where only request bodies and
enumerations, which the notes keep by name, are warned about.

In a text that is one comment, the names that a diagnosis has seen are the keys of the notes
taken so far (`Tracks`). So a tag is warned about exactly when its entry takes the place of
another one, and the warnings and the keys together are as many as the tags (`Agrees`). This is
proved for one tag, and `Agrees.append` carries it along all of them.
-/

namespace ApiNotes

open Tag

/-- What the notes of a comment keep by name. -/
inductive Named where
  | sample
  | enumeration
deriving Repr, DecidableEq

namespace Named

/-- The name under which an entry is kept, if it is kept by name. -/
def ofEntry? : Entry → Option (Named × String)
  | .sample note => some (sample, note.name)
  | .enumeration note => some (enumeration, note.field)
  | .response _ | .error _ | .deprecated _ => none

/-- The names in notes. -/
def keys : Named → Notes → List String
  | sample, notes => Table.keys notes.samples
  | enumeration, notes => Table.keys notes.enums

/-- The names that occurred so far in a comment. -/
def seen : Named → Editor.Seen → List String
  | sample, seen => seen.samples
  | enumeration, seen => seen.enums

/-- Adds a name to those that occurred so far. -/
def see (name : String) : Named → Editor.Seen → Editor.Seen
  | sample, seen => { seen with samples := name :: seen.samples }
  | enumeration, seen => { seen with enums := name :: seen.enums }

variable {kept other : Named} {entry : Entry} {name : String} {notes : Notes}

theorem seen_see (kept : Named) (name : String) (seen : Editor.Seen) :
    kept.seen (kept.see name seen) = name :: kept.seen seen := by
  cases kept with
  | sample => rfl
  | enumeration => rfl

theorem seen_see_of_ne (hne : other ≠ kept) (name : String) (seen : Editor.Seen) :
    other.seen (kept.see name seen) = other.seen seen := by
  cases kept with
  | sample =>
      cases other with
      | sample => exact absurd rfl hne
      | enumeration => rfl
  | enumeration =>
      cases other with
      | sample => rfl
      | enumeration => exact absurd rfl hne

/-- A name that is known stays where it is. -/
theorem keys_insert_of_mem (hentry : ofEntry? entry = some (kept, name))
    (hmem : name ∈ kept.keys notes) :
    kept.keys (notes.insert entry) = kept.keys notes := by
  cases entry with
  | sample note =>
      cases hentry
      exact (Table.keys_insert _ _ _).trans (if_pos hmem)
  | enumeration note =>
      cases hentry
      exact (Table.keys_insert _ _ _).trans (if_pos hmem)
  | response note | error note | deprecated note => cases hentry

/-- A new name goes to the end. -/
theorem keys_insert_of_not_mem (hentry : ofEntry? entry = some (kept, name))
    (hmem : name ∉ kept.keys notes) :
    kept.keys (notes.insert entry) = kept.keys notes ++ [name] := by
  cases entry with
  | sample note =>
      cases hentry
      exact (Table.keys_insert _ _ _).trans (if_neg hmem)
  | enumeration note =>
      cases hentry
      exact (Table.keys_insert _ _ _).trans (if_neg hmem)
  | response note | error note | deprecated note => cases hentry

/-- The names among which an entry is not kept stay as they are. -/
theorem keys_insert_of_ne (hentry : ofEntry? entry = some (kept, name)) (hne : other ≠ kept) :
    other.keys (notes.insert entry) = other.keys notes := by
  cases entry with
  | sample note =>
      cases hentry
      cases other with
      | sample => exact absurd rfl hne
      | enumeration => rfl
  | enumeration note =>
      cases hentry
      cases other with
      | sample => rfl
      | enumeration => exact absurd rfl hne
  | response note | error note | deprecated note => cases hentry

theorem keys_insert_of_eq_none (hentry : ofEntry? entry = none) :
    kept.keys (notes.insert entry) = kept.keys notes := by
  cases entry with
  | sample note | enumeration note => cases hentry
  | response note | error note | deprecated note => cases kept <;> rfl

/-! ### Warnings about repeated names -/

/-- How remarks about repeated names begin. -/
def opening : Named → String
  | sample => "Duplicate example '"
  | enumeration => "Duplicate enum field '"

/-- The remark about a repeated name. -/
def message : Named → String → String
  | sample => Editor.repeatedSample
  | enumeration => Editor.repeatedEnum

/-- Whether a diagnostic warns about a repeated name. -/
def isRepeat (kept : Named) (d : Editor.Diagnostic) : Bool :=
  d.severity == .warning && kept.opening.toList.isPrefixOf d.message.toList

variable {text : List Char} {span : Span}

theorem isRepeat_append (kept : Named) (start rest : String) :
    kept.isRepeat (Editor.diagnosticAt text span .warning (start ++ rest)) =
      kept.opening.toList.isPrefixOf (start.toList ++ rest.toList) := by
  rw [isRepeat, Editor.diagnosticAt, String.toList_append]
  rfl

/-- The remarks about repeated names are told apart by how they begin. -/
theorem isRepeat_message (kept other : Named) (name : String) :
    kept.isRepeat (Editor.diagnosticAt text span .warning (other.message name)) =
      decide (kept = other) := by
  obtain ⟨rest, hmessage⟩ : ∃ rest, other.message name = other.opening ++ rest := by
    cases other with
    | sample => exact ⟨_, String.append_assoc ..⟩
    | enumeration => exact ⟨_, String.append_assoc ..⟩
  rw [hmessage, isRepeat_append]
  cases kept <;> cases other <;> rfl

theorem isRepeat_unknownMessage (kept : Named) (name : String) :
    kept.isRepeat (Editor.diagnosticAt text span .warning (Editor.unknownMessage name)) =
      false := by
  obtain ⟨rest, hmessage⟩ :
      ∃ rest, Editor.unknownMessage name = "Unknown annotation '" ++ rest := by
    -- Which tag is suggested makes no difference to how the remark begins.
    rw [Editor.unknownMessage]
    generalize Editor.suggestion? name = suggested
    cases suggested with
    | none =>
        change ∃ rest, "Unknown annotation '" ++ marker ++ name ++
          "'\nnote: valid annotations are " ++ _ = _
        simp only [String.append_assoc]
        exact ⟨_, rfl⟩
    | some kind =>
        simp only [String.append_assoc]
        exact ⟨_, rfl⟩
  rw [hmessage, isRepeat_append]
  cases kept <;> rfl

theorem isRepeat_error (kept : Named) (message : String) :
    kept.isRepeat (Editor.diagnosticAt text span .error message) = false := rfl

end Named

namespace Notes

/-- The entry takes the place of one that the notes have. -/
def Replaces (notes : Notes) (entry : Entry) : Prop :=
  ∃ kept name, Named.ofEntry? entry = some (kept, name) ∧ name ∈ kept.keys notes

/-- Of the entries, recorded one after the other, none takes the place of another one. -/
def Keeps (notes : Notes) : List Entry → Prop
  | [] => True
  | entry :: entries => ¬ notes.Replaces entry ∧ (notes.insert entry).Keeps entries

theorem keeps_append (notes : Notes) (entries later : List Entry) :
    notes.Keeps (entries ++ later) ↔
      notes.Keeps entries ∧ (entries.foldl insert notes).Keeps later := by
  induction entries generalizing notes with
  | nil => simp [Keeps]
  | cons entry entries ih =>
      rw [List.cons_append, Keeps, Keeps, ih, List.foldl_cons, and_assoc]

end Notes

namespace Editor

variable {text : List Char} {previous : Option Nat} {seen : Seen} {notes : Notes}
  {o : Occurrence} {os : List Occurrence} {ds : List Diagnostic}

/-! ### What is remarked about one tag -/

/-- The diagnostic that a tag may lead to. -/
inductive Remarked (text : List Char) (o : Occurrence) : Option Diagnostic → Prop where
  | unknown {problem : Problem} : o.kind = none → o.result = .error problem →
      Remarked text o (some (diagnosticAt text o.span .warning (unknownMessage o.name)))
  | flawed {kind : Kind} {problem : Problem} : o.kind = some kind → o.result = .error problem →
      Remarked text o (some (diagnosticAt text o.span .error problem.flaw.message))
  | repeated {kind : Kind} {entry : Entry} {kept : Named} {name : String} :
      o.kind = some kind → o.result = .ok entry → Named.ofEntry? entry = some (kept, name) →
        Remarked text o (some (diagnosticAt text o.span .warning (kept.message name)))
  | silent {kind : Kind} {entry : Entry} : o.kind = some kind → o.result = .ok entry →
      Remarked text o none

section RemarkOfEntry

variable {entry : Entry} {kept : Named} {name : String}

theorem remark_of_ofEntry?_eq_none (hresult : o.result = .ok entry)
    (hentry : Named.ofEntry? entry = none) : remark seen o = (none, seen) := by
  cases entry with
  | sample note | enumeration note => cases hentry
  | response note | error note | deprecated note => simp [remark, hresult]

theorem remark_of_mem_seen (hresult : o.result = .ok entry)
    (hentry : Named.ofEntry? entry = some (kept, name)) (hmem : name ∈ kept.seen seen) :
    remark seen o = (some (.warning, kept.message name), seen) := by
  cases entry with
  | sample note =>
      cases hentry
      simp only [Named.seen] at hmem
      simp [remark, hresult, hmem, Named.message]
  | enumeration note =>
      cases hentry
      simp only [Named.seen] at hmem
      simp [remark, hresult, hmem, Named.message]
  | response note | error note | deprecated note => cases hentry

theorem remark_of_not_mem_seen (hresult : o.result = .ok entry)
    (hentry : Named.ofEntry? entry = some (kept, name)) (hmem : name ∉ kept.seen seen) :
    remark seen o = (none, kept.see name seen) := by
  cases entry with
  | sample note =>
      cases hentry
      simp only [Named.seen] at hmem
      simp [remark, hresult, hmem, Named.see]
  | enumeration note =>
      cases hentry
      simp only [Named.seen] at hmem
      simp [remark, hresult, hmem, Named.see]
  | response note | error note | deprecated note => cases hentry

theorem remark_of_unknown {problem : Problem} (hresult : o.result = .error problem)
    (hkind : o.kind = none) :
    remark seen o = (some (.warning, unknownMessage o.name), seen) := by
  simp [remark, hresult, hkind]

theorem remark_of_flawed {problem : Problem} {kind : Kind} (hresult : o.result = .error problem)
    (hkind : o.kind = some kind) :
    remark seen o = (some (.error, problem.flaw.message), seen) := by
  simp [remark, hresult, hkind]

end RemarkOfEntry

theorem remarked_remark (hkind : o.result.isOk = true → o.kind.isSome) (seen : Seen) :
    Remarked text o (noted? text o (remark seen o).1) := by
  cases hresult : o.result with
  | error problem =>
      cases hnone : o.kind with
      | none =>
          rw [remark_of_unknown hresult hnone]
          exact .unknown hnone hresult
      | some kind =>
          rw [remark_of_flawed hresult hnone]
          exact .flawed hnone hresult
  | ok entry =>
      rw [hresult] at hkind
      obtain ⟨kind, hsome⟩ := Option.isSome_iff_exists.1 (hkind rfl)
      cases hentry : Named.ofEntry? entry with
      | none =>
          rw [remark_of_ofEntry?_eq_none hresult hentry]
          exact .silent hsome hresult
      | some named =>
          obtain ⟨kept, name⟩ := named
          by_cases hmem : name ∈ kept.seen seen
          · rw [remark_of_mem_seen hresult hentry hmem]
            exact .repeated hsome hresult hentry
          · rw [remark_of_not_mem_seen hresult hentry hmem]
            exact .silent hsome hresult

/-- The diagnostics are those of the tags, one after the other. -/
theorem exists_remarked (hos : ∀ o ∈ os, o.result.isOk = true → o.kind.isSome)
    (h : diagnoseFrom? text previous seen os = some ds) :
    ∃ remarks, List.Forall₂ (Remarked text) os remarks ∧ ds = remarks.reduceOption := by
  induction os generalizing previous seen ds with
  | nil =>
      obtain rfl := Option.some.inj h
      exact ⟨[], .nil, rfl⟩
  | cons o os ih =>
      obtain ⟨-, later, hlater, rfl⟩ := exists_of_diagnoseFrom?_cons h
      obtain ⟨remarks, hremarks, rfl⟩ :=
        ih (fun o' ho' => hos o' (List.mem_cons_of_mem _ ho')) hlater
      have ho : Remarked text o (noted? text o (remark (seenAt text previous seen o) o).1) :=
        remarked_remark (hos o (List.mem_cons_self ..)) _
      refine ⟨_ :: remarks, .cons ho hremarks, ?_⟩
      cases noted? text o (remark (seenAt text previous seen o) o).1 with
      | none => rfl
      | some d => rfl

/-- Well-formed tags are of a known kind. -/
theorem isSome_kind_of_isOk {offset : Nat} (h : Scanned offset text os) :
    ∀ o ∈ os, o.result.isOk = true → o.kind.isSome := by
  induction h with
  | nil _ => simp
  | pass _ _ ih => exact ih
  | @flawed offset name behind o os _ _ hflawed _ ih =>
      intro o' ho' hok
      rcases List.mem_cons.1 ho' with rfl | ho'
      · obtain ⟨problem, hproblem, -, -⟩ := hflawed.problem
        rw [hproblem] at hok
        cases hok
      · exact ih o' ho' hok
  | @sound offset name covered rest kind entry os _ _ _ _ ih =>
      intro o' ho' hok
      rcases List.mem_cons.1 ho' with rfl | ho'
      · rfl
      · exact ih o' ho' hok

/-! ### Notes and warnings, tag by tag -/

/-- The names that occurred so far are the keys of the notes. -/
def Tracks (seen : Seen) (notes : Notes) : Prop :=
  ∀ (kept : Named) (name : String), name ∈ kept.seen seen ↔ name ∈ kept.keys notes

/-- The entries of the well-formed ones among tags. -/
def entriesOf (os : List Occurrence) : List Entry :=
  os.filterMap fun o => o.result.toOption

/-- Whether a tag is well-formed and its entry is kept among some names. -/
def isTagOf (kept : Named) (o : Occurrence) : Bool :=
  o.result.toOption.any fun entry => (Named.ofEntry? entry).any fun named => named.1 == kept

/-- The diagnostics of tags agree with what becomes of notes to which the tags are added. -/
structure Agrees (notes : Notes) (os : List Occurrence) (ds : List Diagnostic) : Prop where
  repeats : ∀ kept : Named,
    ds.countP kept.isRepeat + (kept.keys ((entriesOf os).foldl Notes.insert notes)).length =
      os.countP (isTagOf kept) + (kept.keys notes).length
  silent : ds = [] ↔ (∀ o ∈ os, o.result.isOk = true) ∧ notes.Keeps (entriesOf os)

theorem Agrees.append {os' : List Occurrence} {ds' : List Diagnostic} (h : Agrees notes os ds)
    (h' : Agrees ((entriesOf os).foldl Notes.insert notes) os' ds') :
    Agrees notes (os ++ os') (ds ++ ds') := by
  have hentries : entriesOf (os ++ os') = entriesOf os ++ entriesOf os' :=
    List.filterMap_append
  constructor
  · intro kept
    have hfirst := h.repeats kept
    have hlater := h'.repeats kept
    rw [hentries, List.foldl_append, List.countP_append, List.countP_append]
    omega
  · rw [List.append_eq_nil_iff, h.silent, h'.silent, hentries, Notes.keeps_append,
      List.forall_mem_append]
    exact and_and_and_comm

section OneTag

variable {entry : Entry} {kept : Named} {name : String}

theorem entriesOf_error {problem : Problem} (hresult : o.result = .error problem) :
    entriesOf [o] = [] := by
  simp [entriesOf, hresult, Except.toOption]

theorem entriesOf_ok (hresult : o.result = .ok entry) : entriesOf [o] = [entry] := by
  simp [entriesOf, hresult, Except.toOption]

theorem isTagOf_ok (hresult : o.result = .ok entry) :
    isTagOf kept o = (Named.ofEntry? entry).any fun named => named.1 == kept := by
  simp [isTagOf, hresult, Except.toOption]

theorem agrees_error {problem : Problem} (hresult : o.result = .error problem) {d : Diagnostic}
    (hd : ∀ kept : Named, kept.isRepeat d = false) : Agrees notes [o] [d] := by
  constructor
  · intro kept
    simp [entriesOf_error hresult, isTagOf, hresult, Except.toOption, hd kept]
  · simp [hresult, Except.isOk, Except.toBool]

/-- An entry that takes the place of another one is warned about. -/
theorem agrees_repeat (hresult : o.result = .ok entry)
    (hentry : Named.ofEntry? entry = some (kept, name)) (hmem : name ∈ kept.keys notes) :
    Agrees notes [o] [diagnosticAt text o.span .warning (kept.message name)] := by
  constructor
  · intro other
    rw [entriesOf_ok hresult, List.foldl_cons, List.foldl_nil, List.countP_singleton,
      List.countP_singleton, Named.isRepeat_message, isTagOf_ok hresult, hentry]
    by_cases hother : other = kept
    · subst hother
      simp [Named.keys_insert_of_mem hentry hmem]
    · simp [Named.keys_insert_of_ne hentry hother, hother, Ne.symm hother]
  · have hreplaces : notes.Replaces entry := ⟨kept, name, hentry, hmem⟩
    simp [entriesOf_ok hresult, Notes.Keeps, hreplaces]

/-- An entry that takes the place of no other one is not warned about. -/
theorem agrees_silent (hresult : o.result = .ok entry) (hnew : ¬ notes.Replaces entry) :
    Agrees notes [o] [] := by
  constructor
  · intro other
    rw [entriesOf_ok hresult, List.foldl_cons, List.foldl_nil, List.countP_singleton,
      isTagOf_ok hresult]
    cases hentry : Named.ofEntry? entry with
    | none => simp [Named.keys_insert_of_eq_none hentry]
    | some named =>
        obtain ⟨kept, name⟩ := named
        have hmem : name ∉ kept.keys notes := fun hmem => hnew ⟨kept, name, hentry, hmem⟩
        by_cases hother : other = kept
        · subst hother
          simp [Named.keys_insert_of_not_mem hentry hmem, Nat.add_comm]
        · simp [Named.keys_insert_of_ne hentry hother, Ne.symm hother]
  · simp [entriesOf_ok hresult, hresult, Notes.Keeps, hnew, Except.isOk, Except.toBool]

theorem Tracks.insert_of_mem (h : Tracks seen notes)
    (hentry : Named.ofEntry? entry = some (kept, name)) (hmem : name ∈ kept.keys notes) :
    Tracks seen (notes.insert entry) := by
  intro other name'
  by_cases hother : other = kept
  · rw [hother, Named.keys_insert_of_mem hentry hmem]
    exact h kept name'
  · rw [Named.keys_insert_of_ne hentry hother]
    exact h other name'

theorem Tracks.see (h : Tracks seen notes) (hentry : Named.ofEntry? entry = some (kept, name))
    (hmem : name ∉ kept.keys notes) : Tracks (kept.see name seen) (notes.insert entry) := by
  intro other name'
  by_cases hother : other = kept
  · rw [hother, Named.keys_insert_of_not_mem hentry hmem, Named.seen_see, List.mem_cons,
      List.mem_append, List.mem_singleton, h kept name', or_comm]
  · rw [Named.keys_insert_of_ne hentry hother, Named.seen_see_of_ne hother]
    exact h other name'

end OneTag

/-- The diagnostic of one tag agrees with the notes, and the names that occurred are again the
keys of the notes. -/
theorem agrees_remark (text : List Char) (o : Occurrence) (h : Tracks seen notes) :
    Agrees notes [o] (noted? text o (remark seen o).1).toList ∧
      Tracks (remark seen o).2 ((entriesOf [o]).foldl Notes.insert notes) := by
  cases hresult : o.result with
  | error problem =>
      rw [entriesOf_error hresult]
      cases hkind : o.kind with
      | none =>
          rw [remark_of_unknown hresult hkind]
          exact ⟨agrees_error hresult fun kept => kept.isRepeat_unknownMessage o.name, h⟩
      | some kind =>
          rw [remark_of_flawed hresult hkind]
          exact ⟨agrees_error hresult fun kept => kept.isRepeat_error _, h⟩
  | ok entry =>
      rw [entriesOf_ok hresult, List.foldl_cons, List.foldl_nil]
      cases hentry : Named.ofEntry? entry with
      | none =>
          have hnew : ¬ notes.Replaces entry := by
            rintro ⟨kept, name, hsome, -⟩
            rw [hentry] at hsome
            cases hsome
          rw [remark_of_ofEntry?_eq_none hresult hentry]
          refine ⟨agrees_silent hresult hnew, ?_⟩
          intro kept name
          rw [Named.keys_insert_of_eq_none hentry]
          exact h kept name
      | some named =>
          obtain ⟨kept, name⟩ := named
          by_cases hmem : name ∈ kept.keys notes
          · rw [remark_of_mem_seen hresult hentry ((h kept name).2 hmem)]
            exact ⟨agrees_repeat hresult hentry hmem, h.insert_of_mem hentry hmem⟩
          · have hnew : ¬ notes.Replaces entry := by
              rintro ⟨kept', name', hsome, hmem'⟩
              rw [hentry] at hsome
              cases hsome
              exact hmem hmem'
            rw [remark_of_not_mem_seen hresult hentry (mt (h kept name).1 hmem)]
            exact ⟨agrees_silent hresult hnew, h.see hentry hmem⟩

/-- In a text that is one comment, the diagnostics of tags agree with the notes that they
leave, whatever notes were taken before them. -/
theorem agrees_of_isBlock (htext : IsBlock text) (hos : ∀ o ∈ os, o ∈ scan text)
    (hprevious : ∀ stop ∈ previous, ∃ o ∈ scan text, o.span.stop = stop)
    (hseen : Tracks seen notes) (h : diagnoseFrom? text previous seen os = some ds) :
    Agrees notes os ds := by
  induction os generalizing previous seen notes ds with
  | nil =>
      obtain rfl := Option.some.inj h
      exact ⟨fun kept => rfl, by simp [entriesOf, Notes.Keeps]⟩
  | cons o os ih =>
      obtain ⟨hbehind, later, hlater, rfl⟩ := exists_of_diagnoseFrom?_cons h
      have ho : o ∈ scan text := hos o (List.mem_cons_self ..)
      -- The comment is not left, so the names that occurred before still count.
      have hsame : seenAt text previous seen o = seen := by
        cases previous with
        | none => rfl
        | some stop =>
            obtain ⟨o', ho', rfl⟩ := hprevious stop rfl
            have hstays := htext.startsNewComment_eq_false ho' ho (hbehind _ rfl)
            simp [seenAt, hstays]
      rw [hsame] at hlater ⊢
      obtain ⟨hfirst, htracks⟩ := agrees_remark text o hseen
      refine hfirst.append (ih ?_ ?_ htracks hlater)
      · exact fun o' ho' => hos o' (List.mem_cons_of_mem _ ho')
      · rintro stop ⟨⟩
        exact ⟨o, ho, rfl⟩

/-- The diagnostics of a text are those of its tags in order. In a text that is one comment,
the warnings about repeated names and the names in the notes are together as many as the tags
that have such names, and nothing is remarked exactly when all tags are well-formed and none of
them takes the place of another one. -/
theorem diagnose?_agrees {text : List Char} {ds : List Diagnostic}
    (h : diagnose? text = some ds) :
    (∃ remarks, List.Forall₂ (Remarked text) (scan text) remarks ∧ ds = remarks.reduceOption) ∧
      (IsBlock text →
        (∀ kept : Named,
          ds.countP kept.isRepeat +
              (kept.keys (Notes.ofComment (String.ofList text))).length =
            (scan text).countP (isTagOf kept)) ∧
        (ds = [] ↔ (∀ o ∈ scan text, o.result.isOk = true) ∧
          Notes.empty.Keeps (entries text))) := by
  refine ⟨exists_remarked (isSome_kind_of_isOk (scanned_scan text)) h, ?_⟩
  intro htext
  have hempty : Tracks .empty .empty := by
    intro kept name
    cases kept <;> exact Iff.rfl
  have hagrees := agrees_of_isBlock htext (fun o ho => ho) (by simp) hempty h
  refine ⟨?_, hagrees.silent⟩
  intro kept
  have hcount := hagrees.repeats kept
  have hnone : kept.keys Notes.empty = [] := by cases kept <;> rfl
  rw [hnone, List.length_nil, Nat.add_zero] at hcount
  rw [Notes.ofComment, String.toList_ofList]
  exact hcount

/-- One comment with an unknown tag between two request bodies of one name. -/
theorem diagnose?_agrees_repeated_sample :
    let text :=
      "/**\n * @LRDexample a \x7b\x7d\n * @LRDbogus\n * @LRDexample a \x7b\x7d\n */".toList
    let ds : List Diagnostic :=
      [⟨2, 3, 12, unknownMessage "bogus", .warning⟩, ⟨3, 3, 19, repeatedSample "a", .warning⟩]
    diagnose? text = some ds ∧ IsBlock text ∧
      ds.countP Named.sample.isRepeat +
        (Named.sample.keys (Notes.ofComment (String.ofList text))).length = 2 := by
  intro text ds
  have h : diagnose? text = some ds := by decide +kernel
  have htext : IsBlock text := ⟨by decide +kernel, by decide +kernel⟩
  have hcount : (scan text).countP (isTagOf .sample) = 2 := by decide +kernel
  exact ⟨h, htext, (((diagnose?_agrees h).2 htext).1 .sample).trans hcount⟩

end Editor

end ApiNotes
