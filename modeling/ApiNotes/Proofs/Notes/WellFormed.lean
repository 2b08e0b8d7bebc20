import ApiNotes.Endpoint.Document
import ApiNotes.Proofs.Tag.Written
import Mathlib.Data.List.Nodup

/-!
# The notes of a comment are well-formed

Whatever a comment looks like, what its tags document is well-formed. Each thing that can be
documented has its own conditions (`ResponseNote.WellFormed` and its likes), and for each of
them the reader of the arguments is the reason: it takes a status code only in range, a name
and a field only from word characters, an object only when the JSON is one, and it trims what
it keeps to the end of a line.

The values of an enumeration need the most care. They are taken from the line in one go, blanks
included, and split and trimmed afterwards. `takeValues_cases` cuts them at the pipes: each part
is one word with gaps around it, so trimming leaves no blank inside of a value.

Notes are well-formed when what they hold is, when each entry of a table is kept under its own
name and when no name is kept twice. Inserting a well-formed entry preserves this.
-/

namespace ApiNotes

open Tag

/-- A response that a tag can document. -/
structure ResponseNote.WellFormed (note : ResponseNote) : Prop where
  status_valid : 100 ≤ note.status ∧ note.status ≤ 599
  description_eq : note.description = Status.reason note.status
  schema_isObject : note.schema.isObject = true
  examples_eq : note.examples = none

/-- A request body that a tag can document. -/
structure SampleNote.WellFormed (note : SampleNote) : Prop where
  name_word : IsWord note.name
  value_isObject : note.value.isObject = true

/-- An enumeration that a tag can document. -/
structure EnumNote.WellFormed (note : EnumNote) : Prop where
  field_word : IsWord note.field
  values_ne_nil : note.values ≠ []
  value_chars : ∀ value ∈ note.values, ∀ c ∈ value.toList, Text.isBlank c = false ∧ c ≠ '|'
  description_trimmed : Text.trimmed note.description = note.description
  description_line : '\r' ∉ note.description.toList ∧ '\n' ∉ note.description.toList

/-- A deprecation that a tag can document. -/
structure Deprecation.WellFormed (note : Deprecation) : Prop where
  active_eq : note.active = true
  message_ne_empty : note.message ≠ ""
  message_trimmed : Text.trimmed note.message = note.message
  message_line : '\n' ∉ note.message.toList

/-- What a well-formed tag can say. -/
def Tag.Entry.WellFormed : Entry → Prop
  | .response note | .error note => note.WellFormed
  | .sample note => note.WellFormed
  | .enumeration note => note.WellFormed
  | .deprecated note => note.WellFormed

namespace Tag

/-! ### Objects and words -/

theorem isObject_of_readObject {kind : Kind} {text : List Char} {v : Json}
    (h : (readObject kind text).result = .ok v) : v.isObject = true := by
  obtain ⟨fixed, object, rest, -, -, -, -, hdecode⟩ := holdsObject_of_readObject h
  exact (decodeObject_eq_ok_iff.1 hdecode).2

theorem isWord_takeWhile {text : List Char} (h : text.takeWhile Text.isWordChar ≠ []) :
    IsWord (String.ofList (text.takeWhile Text.isWordChar)) := by
  refine ⟨?_, ?_⟩
  · intro hempty
    apply h
    rw [← String.toList_ofList (l := text.takeWhile Text.isWordChar), hempty]
    rfl
  · intro c hc
    rw [String.toList_ofList] at hc
    exact List.mem_takeWhile_imp hc

/-- What a response that is read consists of. -/
theorem readResponse_eq_ok {kind : Kind} {text : List Char} {note : ResponseNote}
    (h : (readResponse kind text).result = .ok note) :
    status? ((text.dropWhile Text.isBlank).takeWhile Text.isDigit) = some note.status ∧
      note.description = Status.reason note.status ∧ note.schema.isObject = true ∧
        note.examples = none := by
  simp only [readResponse] at h
  split at h
  · cases h
  · split at h
    · cases h
    · next status hstatus =>
      obtain ⟨schema, hschema, rfl⟩ := Reading.result_map_eq_ok_iff.1 h
      exact ⟨hstatus, rfl, isObject_of_readObject hschema, rfl⟩

theorem wellFormed_of_readResponse {kind : Kind} {text : List Char} {note : ResponseNote}
    (h : (readResponse kind text).result = .ok note) : note.WellFormed := by
  obtain ⟨hstatus, hdescription, hschema, hexamples⟩ := readResponse_eq_ok h
  obtain ⟨-, hvalid⟩ := Option.filter_eq_some_iff.1 hstatus
  refine ⟨?_, hdescription, hschema, hexamples⟩
  simpa [Status.isValid] using hvalid

theorem wellFormed_of_readSample {text : List Char} {note : SampleNote}
    (h : (readSample text).result = .ok note) : note.WellFormed := by
  simp only [readSample] at h
  split at h
  · cases h
  · next hfixed =>
    rw [not_or] at hfixed
    obtain ⟨value, hvalue, rfl⟩ := Reading.result_map_eq_ok_iff.1 h
    exact ⟨isWord_takeWhile hfixed.2, isObject_of_readObject hvalue⟩

/-! ### Texts to the end of a line -/

theorem mem_of_mem_stripClose {text : List Char} {c : Char} (h : c ∈ stripClose text) :
    c ∈ text := by
  simp only [stripClose] at h
  split at h
  · next rest hrest =>
    have hmem : c ∈ rest.reverse := (Text.dropEndWhile_isPrefix _ _).subset h
    apply Text.mem_of_mem_trim
    rw [← List.mem_reverse, hrest]
    exact List.mem_cons_of_mem _ (List.mem_cons_of_mem _ (List.mem_reverse.1 hmem))
  · exact Text.mem_of_mem_trim h

/-- What closes a comment is taken off together with the blanks before it. -/
theorem trim_stripClose (text : List Char) :
    Text.trim (stripClose text) = stripClose text := by
  simp only [stripClose]
  split
  · next rest hrest =>
    apply Text.trim_trimEnd
    intro c hc
    -- The text in front of the mark begins as the trimmed text does.
    have htext : Text.trim text = rest.reverse ++ ['*', '/'] := by
      rw [← List.reverse_reverse (Text.trim text), hrest]
      simp
    apply Text.isBlank_head?_of_trim (Text.trim_trim text)
    rw [htext, List.head?_append, hc]
    rfl
  · exact Text.trim_trim text

theorem trimmed_stripClose (text : List Char) :
    Text.trimmed (String.ofList (stripClose text)) = String.ofList (stripClose text) := by
  rw [Text.trimmed, String.toList_ofList, trim_stripClose]

theorem not_mem_row (text : List Char) : '\n' ∉ Text.row text :=
  not_mem_takeWhile (by decide) text

theorem describe_cases (text : List Char) :
    describe text = [] ∨ describe text = stripClose (text.takeWhile (· != '\r')) := by
  cases text with
  | nil => exact Or.inl rfl
  | cons c cs =>
      rw [describe]
      split
      · exact Or.inr rfl
      · exact Or.inl rfl

theorem trimmed_describe (text : List Char) :
    Text.trimmed (String.ofList (describe text)) = String.ofList (describe text) := by
  rcases describe_cases text with h | h
  · rw [h]
    rfl
  · rw [h, trimmed_stripClose]

theorem mem_of_mem_describe {text : List Char} {c : Char} (h : c ∈ describe text) :
    c ∈ text ∧ c ≠ '\r' := by
  rcases describe_cases text with hnil | hstrip
  · rw [hnil] at h
    cases h
  · rw [hstrip] at h
    have hmem := mem_of_mem_stripClose h
    refine ⟨(List.takeWhile_prefix _).subset hmem, ?_⟩
    simpa using List.mem_takeWhile_imp hmem

/-! ### The values of an enumeration -/

/-- A part of the values between two pipes: a word without blanks, and gaps around it. There
are gaps in front of the word only directly behind a pipe. -/
def IsPart (afterPipe : Bool) (part : List Char) : Prop :=
  ∃ left word right, part = left ++ (word ++ right) ∧ (∀ c ∈ left, Text.isGap c = true) ∧
    (∀ c ∈ word, Text.isBlank c = false ∧ c ≠ '|') ∧ (∀ c ∈ right, Text.isGap c = true) ∧
      (afterPipe = false → left = [])

theorem isBlank_of_isGap {c : Char} (h : Text.isGap c = true) : Text.isBlank c = true := by
  simp only [Text.isGap, Bool.or_eq_true, beq_iff_eq] at h
  rcases h with rfl | rfl <;> decide

theorem IsPart.not_mem {afterPipe : Bool} {part : List Char} (h : IsPart afterPipe part) :
    '|' ∉ part := by
  obtain ⟨left, word, right, rfl, hleft, hword, hright, -⟩ := h
  intro hmem
  rcases List.mem_append.1 hmem with hmem | hmem
  · exact absurd (hleft _ hmem) (by decide)
  rcases List.mem_append.1 hmem with hmem | hmem
  · exact (hword _ hmem).2 rfl
  · exact absurd (hright _ hmem) (by decide)

/-- Trimming leaves the word. -/
theorem IsPart.trim_chars {afterPipe : Bool} {part : List Char} (h : IsPart afterPipe part) :
    ∀ c ∈ Text.trim part, Text.isBlank c = false ∧ c ≠ '|' := by
  obtain ⟨left, word, right, rfl, hleft, hword, hright, -⟩ := h
  rw [Text.trim_padded (fun c hc => isBlank_of_isGap (hleft c hc)) (fun c hc => (hword c hc).1)
    (fun c hc => isBlank_of_isGap (hright c hc))]
  exact hword

theorem isPart_nil (afterPipe : Bool) : IsPart afterPipe [] :=
  ⟨[], [], [], rfl, by simp, by simp, by simp, fun _ => rfl⟩

/-- Gaps in front of a pipe belong to the values. -/
theorem takeValues_gaps {gaps : List Char} (hgaps : ∀ c ∈ gaps, Text.isGap c = true)
    (afterPipe : Bool) (rest : List Char) :
    takeValues afterPipe (gaps ++ '|' :: rest) = gaps ++ '|' :: takeValues true rest := by
  induction gaps with
  | nil => rfl
  | cons c gaps ih =>
      have hc : Text.isGap c = true := hgaps c List.mem_cons_self
      have hrest : ∀ d ∈ gaps, Text.isGap d = true :=
        fun d hd => hgaps d (List.mem_cons_of_mem c hd)
      have hpipe : c ≠ '|' := by
        rintro rfl
        exact absurd hc (by decide)
      have hahead : ((gaps ++ '|' :: rest).dropWhile Text.isGap).head? = some '|' := by
        rw [List.dropWhile_append_of_pos hrest]
        rfl
      rw [List.cons_append, takeValues, if_neg hpipe, if_pos (isBlank_of_isGap hc),
        if_pos ⟨hc, Or.inr hahead⟩, ih hrest, List.cons_append]

/-- The values are one part, or a part, a pipe and values behind the pipe. -/
theorem takeValues_cases (afterPipe : Bool) (text : List Char) :
    ∃ part, IsPart afterPipe part ∧
      (takeValues afterPipe text = part ∨
        ∃ rest, takeValues afterPipe text = part ++ '|' :: takeValues true rest ∧
          rest.length < text.length) := by
  induction text generalizing afterPipe with
  | nil => exact ⟨[], isPart_nil _, Or.inl rfl⟩
  | cons c cs ih =>
      by_cases hpipe : c = '|'
      · refine ⟨[], isPart_nil _, Or.inr ⟨cs, ?_, Nat.lt_succ_self _⟩⟩
        rw [takeValues, if_pos hpipe, hpipe]
        rfl
      cases hblank : Text.isBlank c with
      | false =>
          -- The word goes on, and no gap can come before it any more.
          obtain ⟨part, ⟨left, word, right, rfl, -, hword, hright, hleft⟩, hvalues⟩ := ih false
          obtain rfl := hleft rfl
          have hpart : IsPart afterPipe (c :: (word ++ right)) :=
            ⟨[], c :: word, right, rfl, by simp, List.forall_mem_cons.2 ⟨⟨hblank, hpipe⟩, hword⟩,
              hright, fun _ => rfl⟩
          rw [takeValues, if_neg hpipe, if_neg (by simp [hblank])]
          refine ⟨_, hpart, ?_⟩
          rcases hvalues with hvalues | ⟨rest, hvalues, hlength⟩
          · exact Or.inl (by rw [hvalues]; rfl)
          · exact Or.inr ⟨rest, by rw [hvalues]; rfl, Nat.lt_succ_of_lt hlength⟩
      | true =>
          rw [takeValues, if_neg hpipe, if_pos hblank]
          split
          · next hgap =>
            obtain ⟨hgap, hwhy⟩ := hgap
            by_cases hahead : (cs.dropWhile Text.isGap).head? = some '|'
            · -- Up to the pipe there are only gaps.
              obtain ⟨rest, hrest⟩ := List.head?_eq_some_iff.1 hahead
              have hcs : cs = cs.takeWhile Text.isGap ++ '|' :: rest := by
                rw [← hrest, List.takeWhile_append_dropWhile]
              have hgaps : ∀ d ∈ cs.takeWhile Text.isGap, Text.isGap d = true :=
                fun d hd => List.mem_takeWhile_imp hd
              refine ⟨c :: cs.takeWhile Text.isGap, ?_, Or.inr ⟨rest, ?_, ?_⟩⟩
              · exact ⟨[], [], _, rfl, by simp, by simp, List.forall_mem_cons.2 ⟨hgap, hgaps⟩,
                  fun _ => rfl⟩
              · conv_lhs => rw [hcs]
                rw [takeValues_gaps hgaps]
                rfl
              · rw [List.length_cons, hcs, List.length_append, List.length_cons]
                omega
            · obtain rfl : afterPipe = true := by simpa [hahead] using hwhy
              obtain ⟨part, ⟨left, word, right, rfl, hleft, hword, hright, -⟩, hvalues⟩ := ih true
              have hpart : IsPart true (c :: (left ++ (word ++ right))) :=
                ⟨c :: left, word, right, rfl, List.forall_mem_cons.2 ⟨hgap, hleft⟩, hword, hright,
                  by simp⟩
              refine ⟨_, hpart, ?_⟩
              rcases hvalues with hvalues | ⟨rest, hvalues, hlength⟩
              · exact Or.inl (by rw [hvalues])
              · exact Or.inr ⟨rest, by rw [hvalues]; rfl, Nat.lt_succ_of_lt hlength⟩
          · exact ⟨[], isPart_nil _, Or.inl rfl⟩

/-- Between the pipes stand parts. -/
theorem isPart_of_mem_splitOn (afterPipe : Bool) (text : List Char) :
    ∀ part ∈ (takeValues afterPipe text).splitOn '|', ∃ afterPipe, IsPart afterPipe part := by
  obtain ⟨first, hfirst, hvalues | ⟨rest, hvalues, hlength⟩⟩ := takeValues_cases afterPipe text
  · rw [hvalues, List.splitOn_eq_singleton hfirst.not_mem]
    exact List.forall_mem_singleton.2 ⟨afterPipe, hfirst⟩
  · rw [hvalues, List.splitOn_append_cons_self_of_not_mem hfirst.not_mem]
    exact List.forall_mem_cons.2 ⟨⟨afterPipe, hfirst⟩, isPart_of_mem_splitOn true rest⟩
termination_by text.length

theorem splitValues_chars (afterPipe : Bool) (text : List Char) :
    ∀ value ∈ splitValues (takeValues afterPipe text),
      ∀ c ∈ value.toList, Text.isBlank c = false ∧ c ≠ '|' := by
  intro value hvalue
  obtain ⟨part, hpart, rfl⟩ := List.mem_map.1 hvalue
  obtain ⟨_, hpart⟩ := isPart_of_mem_splitOn afterPipe text part hpart
  rw [String.toList_ofList]
  exact hpart.trim_chars

theorem wellFormed_of_readEnum {text : List Char} {note : EnumNote}
    (h : (readEnum text).result = .ok note) : note.WellFormed := by
  simp only [readEnum] at h
  split at h
  · cases h
  · next hfixed =>
    split at h
    · cases h
    · cases h
      rw [not_or] at hfixed
      refine ⟨isWord_takeWhile hfixed.2, ?_, splitValues_chars _ _, trimmed_describe _, ?_, ?_⟩
      · exact mt List.map_eq_nil_iff.1 (List.splitOn_ne_nil _ _)
      · rw [String.toList_ofList]
        intro hmem
        exact (mem_of_mem_describe hmem).2 rfl
      · rw [String.toList_ofList]
        intro hmem
        -- The description is a part of the line.
        have hbehind := (List.drop_suffix _ _).subset (mem_of_mem_describe hmem).1
        have hline := (List.dropWhile_suffix _).subset ((List.dropWhile_suffix _).subset hbehind)
        exact not_mem_row text ((List.dropWhile_suffix _).subset hline)

theorem wellFormed_ofMessage {message : String} (h : '\n' ∉ message.toList) :
    (Deprecation.ofMessage message).WellFormed := by
  rw [Deprecation.ofMessage]
  by_cases hempty : Text.trimmed message = ""
  · rw [if_pos hempty]
    exact ⟨rfl, by decide, by decide, by decide⟩
  · rw [if_neg hempty]
    refine ⟨rfl, hempty, ?_, ?_⟩
    · rw [Text.trimmed, Text.trimmed, String.toList_ofList, Text.trim_trim]
    · rw [Text.trimmed, String.toList_ofList]
      exact fun hmem => h (Text.mem_of_mem_trim hmem)

theorem wellFormed_of_readDeprecation {text : List Char} {note : Deprecation}
    (h : (readDeprecation text).result = .ok note) : note.WellFormed := by
  cases h
  apply wellFormed_ofMessage
  rw [String.toList_ofList]
  exact fun hmem => not_mem_row text (mem_of_mem_stripClose hmem)

/-! ### The entries of a comment -/

/-- Every entry that is read is well-formed. -/
theorem wellFormed_of_readArguments {kind : Kind} {text : List Char} {entry : Entry}
    (h : (readArguments kind text).result = .ok entry) : entry.WellFormed := by
  cases kind with
  | response =>
      obtain ⟨note, hnote, rfl⟩ := Reading.result_map_eq_ok_iff.1 h
      exact wellFormed_of_readResponse hnote
  | error =>
      obtain ⟨note, hnote, rfl⟩ := Reading.result_map_eq_ok_iff.1 h
      exact wellFormed_of_readResponse hnote
  | sample =>
      obtain ⟨note, hnote, rfl⟩ := Reading.result_map_eq_ok_iff.1 h
      exact wellFormed_of_readSample hnote
  | enumeration =>
      obtain ⟨note, hnote, rfl⟩ := Reading.result_map_eq_ok_iff.1 h
      exact wellFormed_of_readEnum hnote
  | deprecated =>
      obtain ⟨note, hnote, rfl⟩ := Reading.result_map_eq_ok_iff.1 h
      exact wellFormed_of_readDeprecation hnote

theorem wellFormed_of_mem_entries {text : List Char} {entry : Entry}
    (h : entry ∈ entries text) : entry.WellFormed := by
  obtain ⟨o, ho, hresult⟩ := List.mem_filterMap.1 h
  have hok : o.result = .ok entry := by
    cases hcase : o.result with
    | error problem =>
        rw [hcase] at hresult
        cases hresult
    | ok found =>
        rw [hcase] at hresult
        cases hresult
        rfl
  obtain ⟨before, name, behind, -, -, -, -, -, hentry⟩ := (scanned_scan text).readFrom o ho
  obtain ⟨kind, -, hread⟩ := hentry entry hok
  exact wellFormed_of_readArguments hread

end Tag

/-! ### Tables of notes -/

namespace Table

variable {α : Type}

theorem nodup_keys_insert {t : Table α} (h : (keys t).Nodup) (k : String) (v : α) :
    (keys (insert k v t)).Nodup := by
  rw [keys_insert]
  split
  · exact h
  · next hk =>
    refine List.nodup_append.2 ⟨h, List.nodup_singleton k, ?_⟩
    rintro a ha b hb rfl
    rw [List.mem_singleton] at hb
    exact hk (hb ▸ ha)

theorem mem_insert {t : Table α} {k : String} {v : α} {e : String × α}
    (h : e ∈ insert k v t) : e = (k, v) ∨ e ∈ t := by
  induction t with
  | nil => exact Or.inl (by simpa using h)
  | cons e' t ih =>
      obtain ⟨k', w⟩ := e'
      rw [insert_cons] at h
      split at h
      · rcases List.mem_cons.1 h with rfl | h
        · exact Or.inl rfl
        · exact Or.inr (List.mem_cons_of_mem _ h)
      · rcases List.mem_cons.1 h with rfl | h
        · exact Or.inr List.mem_cons_self
        · exact (ih h).imp id (List.mem_cons_of_mem _)

/-- A table whose keys are distinct, each of them the name of the value that it stands for,
and whose values are all well-formed. -/
structure KeptBy (name : α → String) (good : α → Prop) (t : Table α) : Prop where
  nodup : (keys t).Nodup
  key_eq : ∀ e ∈ t, e.1 = name e.2
  values : ∀ e ∈ t, good e.2

theorem keptBy_nil (name : α → String) (good : α → Prop) : KeptBy name good [] :=
  ⟨List.nodup_nil, by simp, by simp⟩

theorem KeptBy.insert {name : α → String} {good : α → Prop} {t : Table α}
    (h : KeptBy name good t) {v : α} (hv : good v) :
    KeptBy name good (Table.insert (name v) v t) := by
  refine ⟨nodup_keys_insert h.nodup _ _, ?_, ?_⟩
  · intro e he
    rcases mem_insert he with rfl | he
    · rfl
    · exact h.key_eq e he
  · intro e he
    rcases mem_insert he with rfl | he
    · exact hv
    · exact h.values e he

end Table

namespace Notes

/-- Notes that the tags of a comment can amount to. -/
structure WellFormed (notes : Notes) : Prop where
  responses : ∀ note ∈ notes.responses, note.WellFormed
  errors : ∀ note ∈ notes.errors, note.WellFormed
  samples : notes.samples.KeptBy SampleNote.name SampleNote.WellFormed
  enums : notes.enums.KeptBy EnumNote.field EnumNote.WellFormed
  deprecation : ∀ note ∈ notes.deprecation, note.WellFormed

theorem wellFormed_empty : Notes.empty.WellFormed :=
  ⟨by simp [empty], by simp [empty], Table.keptBy_nil _ _, Table.keptBy_nil _ _,
    by simp [empty]⟩

/-- Recording a well-formed entry keeps notes well-formed. -/
theorem WellFormed.insert {notes : Notes} (h : notes.WellFormed) {entry : Entry}
    (hentry : entry.WellFormed) : (notes.insert entry).WellFormed := by
  obtain ⟨hresponses, herrors, hsamples, henums, hdeprecation⟩ := h
  cases entry with
  | response note =>
      exact ⟨List.forall_mem_append.2 ⟨hresponses, List.forall_mem_singleton.2 hentry⟩, herrors,
        hsamples, henums, hdeprecation⟩
  | error note =>
      exact ⟨hresponses, List.forall_mem_append.2 ⟨herrors, List.forall_mem_singleton.2 hentry⟩,
        hsamples, henums, hdeprecation⟩
  | sample note => exact ⟨hresponses, herrors, hsamples.insert hentry, henums, hdeprecation⟩
  | enumeration note => exact ⟨hresponses, herrors, hsamples, henums.insert hentry, hdeprecation⟩
  | deprecated note =>
      refine ⟨hresponses, herrors, hsamples, henums, ?_⟩
      rintro _ ⟨⟩
      exact hentry

theorem WellFormed.foldl_insert {notes : Notes} (h : notes.WellFormed) {entries : List Entry}
    (hentries : ∀ entry ∈ entries, entry.WellFormed) :
    (entries.foldl Notes.insert notes).WellFormed := by
  induction entries generalizing notes with
  | nil => exact h
  | cons entry entries ih =>
      obtain ⟨hentry, hentries⟩ := List.forall_mem_cons.1 hentries
      exact ih (h.insert hentry) hentries

/-- The notes of every comment are well-formed, and so are those of a document that is made
from the comment. -/
theorem wellFormed_ofComment (comment : String) :
    (ofComment comment).WellFormed ∧
      ∀ (uri : String) (method : Method) (requiresAuth : Bool),
        (Document.ofComment uri method requiresAuth comment).notes.WellFormed := by
  have hnotes : (ofComment comment).WellFormed :=
    wellFormed_empty.foldl_insert fun _ => wellFormed_of_mem_entries
  exact ⟨hnotes, fun _ _ _ => hnotes⟩

end Notes

end ApiNotes
