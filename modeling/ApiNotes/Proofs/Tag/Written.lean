import ApiNotes.Notes
import ApiNotes.Proofs.Capture.Decoration
import ApiNotes.Proofs.Json.RoundTrip
import ApiNotes.Proofs.Tag.Scan
import ApiNotes.Proofs.Text.Lines

/-!
# Comments that are written out

`comment` writes entries as a block comment with one tag for each entry. An object is
written compactly, or with one entry a line, and then every line of it is decorated as the
lines of the comment are. Searching the comment gives the entries back, in order.

`Entry.Writable` says which entries these are. Its conditions are what the spelling of an
entry cannot express: a status code gives its description, a value of an enumeration ends
with a blank or a pipe, and trimming takes the blanks and the end of a comment off a
message.

Each reader of arguments is run on the text that was written for it, with any text on the
next lines; the search then goes from tag to tag.
-/

namespace ApiNotes

namespace Tag

/-- How an object is spelled. -/
inductive Spelling where
  | compact
  | pretty
deriving Repr, DecidableEq

/-- A text with the decoration of a block comment on each row but the first. -/
def decorate (text : List Char) : List Char :=
  text.flatMap fun c => if c = '\n' then ['\n', ' ', '*', ' '] else [c]

/-- An object as it stands in a comment. -/
def Spelling.write (spelling : Spelling) (v : Json) : List Char :=
  match spelling with
  | .compact => Json.write v
  | .pretty => decorate (Json.writePretty 0 v)

/-- An entry to be written, with the spelling of its object. -/
structure Item where
  entry : Entry
  spelling : Spelling

/-- A text behind a space, if there is any. -/
def remark (s : String) : List Char :=
  if s = "" then [] else ' ' :: s.toList

namespace Item

/-- The arguments of the tag of an item. -/
def arguments (item : Item) : List Char :=
  match item.entry with
  | .response note | .error note =>
    Text.digits note.status ++ ' ' :: item.spelling.write note.schema
  | .sample note => note.name.toList ++ ' ' :: item.spelling.write note.value
  | .enumeration note =>
    note.field.toList ++ ' ' :: (['|'].intercalate (note.values.map String.toList) ++
      remark note.description)
  | .deprecated note => note.message.toList

/-- The line of an item in a block comment. -/
def line (item : Item) : List Char :=
  [' ', '*', ' '] ++ (item.entry.kind.tag.toList ++ (' ' :: item.arguments ++ ['\n']))

end Item

/-- A block comment with a tag for each item. -/
def comment (items : List Item) : List Char :=
  ['/', '*', '*', '\n'] ++ (items.flatMap Item.line ++ [' ', '*', '/'])

/-- An object that is read back: its keys are distinct, its numbers are integers in range,
and at most 127 containers are nested. -/
def WritableObject (v : Json) : Prop :=
  v.isObject = true ∧ v.Plain Json.depthLimit

/-- Letters, digits and underscores, at least one. -/
def IsWord (s : String) : Prop :=
  s ≠ "" ∧ ∀ c ∈ s.toList, Text.isWordChar c = true

/-- A text that can stand at the end of a line. -/
def IsRemark (s : String) : Prop :=
  '\n' ∉ s.toList ∧ Text.trimmed s = s ∧ ¬ ['*', '/'] <:+ s.toList

/-- The entries that a comment can express. -/
def Entry.Writable : Entry → Prop
  | .response note | .error note =>
    (100 ≤ note.status ∧ note.status ≤ 599) ∧ note.description = Status.reason note.status ∧
      note.examples = none ∧ WritableObject note.schema
  | .sample note => IsWord note.name ∧ WritableObject note.value
  | .enumeration note =>
    IsWord note.field ∧ note.values ≠ [] ∧
      (∀ value ∈ note.values, value ≠ "" ∧
        ∀ c ∈ value.toList, Text.isBlank c = false ∧ c ≠ '|') ∧
      IsRemark note.description ∧ '\r' ∉ note.description.toList ∧
      note.description.toList.head? ≠ some '|'
  | .deprecated note => note.active = true ∧ note.message ≠ "" ∧ IsRemark note.message

/-! ### Objects -/

theorem decorated_decorate (text : List Char) : Decorated text (decorate text) := by
  have hstar : IsDecoration [' ', '*', ' '] :=
    ⟨[' '], ['*'], [' '], rfl, by simp [Text.isGap], by simp [marks], by simp [Text.isGap]⟩
  induction text with
  | nil => exact .nil
  | cons c text ih =>
      rw [decorate, List.flatMap_cons]
      by_cases hc : c = '\n'
      · rw [if_pos hc, hc]
        exact .row hstar ih
      · rw [if_neg hc]
        exact .keep c ih

/-- A spelling of an object is a decorated text that is read as the object. -/
theorem exists_decorated_write {v : Json} (h : WritableObject v) (spelling : Spelling) :
    ∃ text, Json.parse text = .ok v ∧ text.head? = some '{' ∧ text.getLast? = some '}' ∧
      Decorated text (spelling.write v) := by
  obtain ⟨hobject, hplain⟩ := h
  obtain ⟨hcompact, hpretty⟩ := Json.parse_written hplain
  cases v with
  | obj members =>
      cases spelling with
      | compact =>
          have hsame := Decorated.keep_append (Json.write (.obj members)) .nil
          simp only [List.append_nil] at hsame
          exact ⟨_, hcompact, rfl, List.getLast?_concat, hsame⟩
      | pretty =>
          cases members with
          | nil => exact ⟨_, hpretty, rfl, rfl, decorated_decorate _⟩
          | cons m members =>
              exact ⟨_, hpretty, rfl, List.getLast?_concat, decorated_decorate _⟩
  | _ => cases hobject

/-- The object behind the fixed arguments is read back. -/
theorem readObject_write {v : Json} (h : WritableObject v) (spelling : Spelling) (kind : Kind)
    (rest : List Char) :
    readObject kind (' ' :: (spelling.write v ++ rest)) =
      ⟨.ok v, (spelling.write v).length + 1⟩ := by
  obtain ⟨text, hparse, hfirst, hlast, hdecorated⟩ := exists_decorated_write h spelling
  obtain ⟨body, hbody⟩ := List.head?_eq_some_iff.1 (hdecorated.head?_eq.trans hfirst)
  have hlength := objectLength_decorated hparse hfirst hlast hdecorated rest
  have hdecode := decodeObject_decorated hparse h.1 hfirst hlast hdecorated
  have hblanks : (' ' :: (spelling.write v ++ rest)).takeWhile Text.isBlank = [' '] := by
    rw [hbody]
    rfl
  have hbehind : (' ' :: (spelling.write v ++ rest)).dropWhile Text.isBlank =
      spelling.write v ++ rest := by
    rw [hbody]
    rfl
  have hread : readOpen kind (spelling.write v ++ rest) = ⟨.ok v, (spelling.write v).length⟩ := by
    simp only [readOpen, hlength, List.take_left, hdecode]
  rw [readObject_eq, hblanks, hbehind, if_pos ⟨by simp, by rw [hbody]; rfl⟩, hread]
  simp [Reading.after, Nat.add_comm]

/-! ### Words -/

theorem isBlank_of_isDigit {c : Char} (h : c.isDigit = true) : Text.isBlank c = false := by
  have hc : 48 ≤ c.toNat ∧ c.toNat ≤ 57 := by
    simpa [Char.isDigit, UInt32.le_iff_toNat_le] using h
  simp only [Text.isBlank, Bool.or_eq_false_iff, Bool.and_eq_false_iff, decide_eq_false_iff_not,
    beq_eq_false_iff_ne]
  omega

theorem isBlank_of_isWordChar {c : Char} (h : Text.isWordChar c = true) :
    Text.isBlank c = false := by
  have hc : (48 ≤ c.toNat ∧ c.toNat ≤ 57) ∨ (65 ≤ c.toNat ∧ c.toNat ≤ 90) ∨
      (97 ≤ c.toNat ∧ c.toNat ≤ 122) ∨ c.toNat = 95 := by
    delta Text.isWordChar Char.isAlphanum Char.isAlpha Char.isUpper Char.isLower Char.isDigit at h
    simp only [Bool.or_eq_true, Bool.and_eq_true, decide_eq_true_eq, beq_iff_eq, ge_iff_le,
      UInt32.le_iff_toNat_le] at h
    rcases h with ((h | h) | h) | rfl
    · exact Or.inr (Or.inl h)
    · exact Or.inr (Or.inr (Or.inl h))
    · exact Or.inl h
    · exact Or.inr (Or.inr (Or.inr rfl))
  simp only [Text.isBlank, Bool.or_eq_false_iff, Bool.and_eq_false_iff, decide_eq_false_iff_not,
    beq_eq_false_iff_ne]
  omega

theorem isGap_of_not_blank {c : Char} (h : Text.isBlank c = false) : Text.isGap c = false := by
  cases hgap : Text.isGap c with
  | false => rfl
  | true =>
      simp only [Text.isGap, Bool.or_eq_true, beq_iff_eq] at hgap
      rcases hgap with rfl | rfl <;> exact absurd h (by decide)

/-- A word between two spaces is cut out by the class of its characters. -/
theorem span_word {p q : Char → Bool} {word : List Char} (hne : word ≠ [])
    (hword : ∀ c ∈ word, p c = true) (hq : ∀ c ∈ word, q c = false) (hblank : q ' ' = true)
    (hspace : p ' ' = false) (more : List Char) :
    (' ' :: (word ++ ' ' :: more)).takeWhile q = [' '] ∧
      (' ' :: (word ++ ' ' :: more)).dropWhile q = word ++ ' ' :: more ∧
      (word ++ ' ' :: more).takeWhile p = word ∧
      (word ++ ' ' :: more).dropWhile p = ' ' :: more := by
  have hstart : ∀ c ∈ (word ++ ' ' :: more).head?, q c = false := by
    cases word with
    | nil => exact absurd rfl hne
    | cons d word =>
        intro c hc
        obtain rfl := Option.some.inj hc
        exact hq d List.mem_cons_self
  have hone : ∀ c ∈ [' '], q c = true := by simp [hblank]
  have hend : ∀ c ∈ (' ' :: more).head?, p c = false := by simp [hspace]
  obtain ⟨htake, hdrop⟩ := Text.span_append hone hstart
  obtain ⟨htake', hdrop'⟩ := Text.span_append hword hend
  exact ⟨htake, hdrop, htake', hdrop'⟩

theorem toList_ne_nil {s : String} (h : s ≠ "") : s.toList ≠ [] := by
  intro hnil
  exact h (by rw [← String.ofList_toList (s := s), hnil])

theorem readResponse_written {note : ResponseNote} (hrange : 100 ≤ note.status ∧ note.status ≤ 599)
    (hdescription : note.description = Status.reason note.status)
    (hexamples : note.examples = none) (hobject : WritableObject note.schema)
    (spelling : Spelling) (kind : Kind) (rest : List Char) :
    readResponse kind (' ' :: (Text.digits note.status ++
        ' ' :: (spelling.write note.schema ++ rest))) =
      ⟨.ok note, (Text.digits note.status ++ ' ' :: spelling.write note.schema).length + 1⟩ := by
  have hne : Text.digits note.status ≠ [] := Nat.toDigits_ne_nil
  obtain ⟨hblanks, hrest, hdigits, hbehind⟩ := span_word hne
    (fun c hc => Text.isDigit_of_ascii (Text.isDigit_of_mem_digits hc))
    (fun c hc => isBlank_of_isDigit (Text.isDigit_of_mem_digits hc)) (by decide) (by decide)
    (spelling.write note.schema ++ rest)
  have hstatus : status? (Text.digits note.status) = some note.status := by
    simp [status?, Text.decimal?_digits, Status.isValid, hrange.1, hrange.2]
  have hread : (readObject kind (' ' :: (spelling.write note.schema ++ rest))).map
      (fun schema => (⟨note.status, Status.reason note.status, schema, none⟩ : ResponseNote)) =
        ⟨.ok note, (spelling.write note.schema).length + 1⟩ := by
    rw [readObject_write hobject, ← hdescription, ← hexamples]
    rfl
  simp only [readResponse, hblanks, hrest, hdigits, hbehind, hne, hstatus, hread]
  simp [Reading.after]
  omega

theorem readSample_written {note : SampleNote} (hname : IsWord note.name)
    (hobject : WritableObject note.value) (spelling : Spelling) (rest : List Char) :
    readSample (' ' :: (note.name.toList ++ ' ' :: (spelling.write note.value ++ rest))) =
      ⟨.ok note, (note.name.toList ++ ' ' :: spelling.write note.value).length + 1⟩ := by
  have hne := toList_ne_nil hname.1
  obtain ⟨hblanks, hrest, hword, hbehind⟩ := span_word hne hname.2
    (fun c hc => isBlank_of_isWordChar (hname.2 c hc)) (by decide) (by decide)
    (spelling.write note.value ++ rest)
  have hread : (readObject .sample (' ' :: (spelling.write note.value ++ rest))).map
      (fun value => (⟨String.ofList note.name.toList, value⟩ : SampleNote)) =
        ⟨.ok note, (spelling.write note.value).length + 1⟩ := by
    rw [readObject_write hobject, String.ofList_toList]
    rfl
  simp only [readSample, hblanks, hrest, hword, hbehind, hne, hread]
  simp [Reading.after]
  omega

/-! ### Lines -/

/-- Behind a space, a trimmed text that does not close a comment stays as it is. -/
theorem stripClose_space {text : List Char} (htrim : Text.trim text = text)
    (hclose : ¬ ['*', '/'] <:+ text) : stripClose (' ' :: text) = text := by
  have hspace : Text.trim (' ' :: text) = text := htrim
  simp only [stripClose, hspace]
  split
  · next rest hrest =>
    refine absurd ⟨rest.reverse, ?_⟩ hclose
    rw [← List.reverse_reverse text, hrest]
    simp
  · rfl

theorem trim_toList {s : String} (h : Text.trimmed s = s) : Text.trim s.toList = s.toList := by
  have hlist := congrArg String.toList h
  rwa [Text.trimmed, String.toList_ofList] at hlist

theorem readDeprecation_written {note : Deprecation} (hactive : note.active = true)
    (hne : note.message ≠ "") (hremark : IsRemark note.message) (rest : List Char) :
    readDeprecation (' ' :: (note.message.toList ++ '\n' :: rest)) =
      ⟨.ok note, note.message.toList.length + 1⟩ := by
  obtain ⟨hline, htrim, hclose⟩ := hremark
  have hrow : Text.row (' ' :: (note.message.toList ++ '\n' :: rest)) =
      ' ' :: note.message.toList := by
    rw [← List.cons_append]
    exact Text.row_append_of_not_mem (by simp [hline]) rest
  have hmessage : Deprecation.ofMessage note.message = note := by
    obtain ⟨active, message⟩ := note
    simp only [Deprecation.ofMessage, htrim, if_neg hne]
    rw [← hactive]
  simp only [readDeprecation, hrow, stripClose_space (trim_toList htrim) hclose,
    String.ofList_toList, hmessage, List.length_cons]

/-! ### Enumerations -/

/-- A value of an enumeration as it is written. -/
def IsValue (value : List Char) : Prop :=
  value ≠ [] ∧ ∀ c ∈ value, Text.isBlank c = false ∧ c ≠ '|'

theorem takeValues_append {value : List Char} (h : IsValue value) (afterPipe : Bool)
    (more : List Char) :
    takeValues afterPipe (value ++ more) = value ++ takeValues false more := by
  obtain ⟨hne, hvalue⟩ := h
  induction value generalizing afterPipe with
  | nil => exact absurd rfl hne
  | cons c value ih =>
      obtain ⟨hblank, hpipe⟩ := hvalue c List.mem_cons_self
      rw [List.cons_append, takeValues, if_neg hpipe, if_neg (by simp [hblank]), List.cons_append]
      cases value with
      | nil => rfl
      | cons d value =>
          rw [ih false (by simp) fun e he => hvalue e (List.mem_cons_of_mem c he)]

/-- The values are taken up to what follows them. -/
theorem takeValues_intercalate {values : List (List Char)} (hne : values ≠ [])
    (hvalues : ∀ value ∈ values, IsValue value) (afterPipe : Bool) (more : List Char) :
    takeValues afterPipe (['|'].intercalate values ++ more) =
      ['|'].intercalate values ++ takeValues false more := by
  induction values generalizing afterPipe with
  | nil => exact absurd rfl hne
  | cons value values ih =>
      have hvalue := hvalues value List.mem_cons_self
      cases values with
      | nil =>
          rw [List.intercalate_singleton]
          exact takeValues_append hvalue afterPipe more
      | cons value' values =>
          have hlater := ih (by simp) (fun v hv => hvalues v (List.mem_cons_of_mem value hv)) true
          rw [List.intercalate_cons_cons, List.append_assoc, List.append_assoc,
            takeValues_append hvalue, List.append_assoc]
          rw [List.singleton_append, takeValues, if_pos rfl, hlater]
          simp

theorem not_mem_intercalate {values : List (List Char)} {c : Char} (hc : c ≠ '|')
    (h : ∀ value ∈ values, c ∉ value) : c ∉ ['|'].intercalate values := by
  induction values with
  | nil => simp
  | cons value values ih =>
      have hvalue := h value List.mem_cons_self
      have hlater := ih fun v hv => h v (List.mem_cons_of_mem value hv)
      cases values with
      | nil => simpa using hvalue
      | cons value' values =>
          rw [List.intercalate_cons_cons]
          simp [hvalue, hc, hlater]

theorem splitValues_intercalate {values : List String} (hne : values ≠ [])
    (hvalues : ∀ value ∈ values, IsValue value.toList) :
    splitValues (['|'].intercalate (values.map String.toList)) = values := by
  have hpipe : ∀ value ∈ values.map String.toList, '|' ∉ value := by
    intro value hvalue hmem
    obtain ⟨s, hs, rfl⟩ := List.mem_map.1 hvalue
    exact ((hvalues s hs).2 '|' hmem).2 rfl
  rw [splitValues, List.splitOn_intercalate '|' hpipe (by simpa using hne), List.map_map]
  refine (List.map_congr_left fun value hvalue => ?_).trans (List.map_id values)
  have htrim := Text.trim_of_not_blank fun c hc => ((hvalues value hvalue).2 c hc).1
  simp only [Function.comp_apply, htrim, String.ofList_toList]
  rfl

/-- What stands behind the values: nothing, or a space and the description. -/
theorem takeValues_description {text : List Char} (htrim : Text.trim text = text)
    (hpipe : text.head? ≠ some '|') : takeValues false (' ' :: text) = [] := by
  have hskip : text.dropWhile Text.isGap = text := by
    cases text with
    | nil => rfl
    | cons c text =>
        have hblank := Text.isBlank_head?_of_trim htrim c rfl
        exact List.dropWhile_cons_of_neg (by simp [isGap_of_not_blank hblank])
  rw [takeValues, if_neg (by decide), if_pos (by decide), if_neg]
  rw [hskip]
  simp [hpipe]

theorem describe_space {text : List Char} (htrim : Text.trim text = text)
    (hreturn : '\r' ∉ text) (hclose : ¬ ['*', '/'] <:+ text) : describe (' ' :: text) = text := by
  have hall : (' ' :: text).takeWhile (· != '\r') = ' ' :: text := by
    rw [List.takeWhile_eq_self_iff]
    intro c hc
    rw [bne_iff_ne]
    rintro rfl
    rcases List.mem_cons.1 hc with hc | hc
    · exact absurd hc (by decide)
    · exact hreturn hc
  rw [describe, if_pos (by decide), hall]
  exact stripClose_space htrim hclose

theorem takeValues_remark {s : String} (h : IsRemark s) (hpipe : s.toList.head? ≠ some '|') :
    takeValues false (remark s) = [] := by
  unfold remark
  split
  · rfl
  · exact takeValues_description (trim_toList h.2.1) hpipe

theorem describe_remark {s : String} (h : IsRemark s) (hreturn : '\r' ∉ s.toList) :
    describe (remark s) = s.toList := by
  unfold remark
  split
  · next hempty =>
    rw [hempty]
    rfl
  · exact describe_space (trim_toList h.2.1) hreturn h.2.2

theorem not_mem_remark {s : String} (h : '\n' ∉ s.toList) : '\n' ∉ remark s := by
  unfold remark
  split
  · simp
  · simp [h]

theorem exists_intercalate_eq_cons {values : List (List Char)} (hne : values ≠ [])
    (hvalues : ∀ value ∈ values, IsValue value) :
    ∃ c cs, ['|'].intercalate values = c :: cs ∧ Text.isBlank c = false := by
  cases values with
  | nil => exact absurd rfl hne
  | cons value values =>
      obtain ⟨hvalue, hblank⟩ := hvalues value List.mem_cons_self
      cases value with
      | nil => exact absurd rfl hvalue
      | cons c value =>
          exact ⟨c, _, List.intercalate_cons_cons_left, (hblank c List.mem_cons_self).1⟩

/-- The arguments of an enumeration stay on their line. -/
theorem not_mem_enumeration {note : EnumNote} (hfield : IsWord note.field)
    (hvalues : ∀ value ∈ note.values.map String.toList, IsValue value)
    (hremark : IsRemark note.description) :
    '\n' ∉ ' ' :: (note.field.toList ++ ' ' ::
      (['|'].intercalate (note.values.map String.toList) ++ remark note.description)) := by
  have hword : '\n' ∉ note.field.toList := by
    intro hmem
    exact absurd (hfield.2 _ hmem) (by decide)
  have hlist : '\n' ∉ ['|'].intercalate (note.values.map String.toList) := by
    apply not_mem_intercalate (by decide)
    intro value hvalue hmem
    exact absurd ((hvalues value hvalue).2 '\n' hmem).1 (by decide)
  simp [hword, hlist, not_mem_remark hremark.1]

theorem readEnum_written {note : EnumNote} (hfield : IsWord note.field) (hne : note.values ≠ [])
    (hvalues : ∀ value ∈ note.values, IsValue value.toList) (hremark : IsRemark note.description)
    (hreturn : '\r' ∉ note.description.toList)
    (hpipe : note.description.toList.head? ≠ some '|') (rest : List Char) :
    readEnum (' ' :: (note.field.toList ++ ' ' ::
        (['|'].intercalate (note.values.map String.toList) ++ remark note.description)) ++
          '\n' :: rest) =
      ⟨.ok note, (note.field.toList ++ ' ' :: (['|'].intercalate
        (note.values.map String.toList) ++ remark note.description)).length + 1⟩ := by
  have htexts : ∀ value ∈ note.values.map String.toList, IsValue value := by
    intro value hvalue
    obtain ⟨s, hs, rfl⟩ := List.mem_map.1 hvalue
    exact hvalues s hs
  have hsome : note.values.map String.toList ≠ [] := by simpa using hne
  obtain ⟨c, cs, hcons, hblank⟩ := exists_intercalate_eq_cons hsome htexts
  have htake := takeValues_intercalate hsome htexts false (remark note.description)
  rw [takeValues_remark hremark hpipe, List.append_nil] at htake
  have hsplit := splitValues_intercalate hne hvalues
  have hline := not_mem_enumeration hfield htexts hremark
  generalize ['|'].intercalate (note.values.map String.toList) = values at *
  have hword := toList_ne_nil hfield.1
  obtain ⟨hgaps, hrest, hname, hbehind⟩ := span_word hword hfield.2
    (fun c hc => isGap_of_not_blank (isBlank_of_isWordChar (hfield.2 c hc))) (by decide)
    (by decide) (values ++ remark note.description)
  have hgap : (' ' :: (values ++ remark note.description)).takeWhile Text.isGap = [' '] ∧
      (' ' :: (values ++ remark note.description)).dropWhile Text.isGap =
        values ++ remark note.description := by
    have hone : ∀ c ∈ [' '], Text.isGap c = true := by simp [Text.isGap]
    exact Text.span_append hone (by simp [hcons, isGap_of_not_blank hblank])
  have hvalues' : values ≠ [] := by simp [hcons]
  simp only [readEnum, Text.row_append_of_not_mem hline, hgaps, hrest, hname, hbehind, hgap.1,
    hgap.2, htake, hword, hvalues', List.drop_left, describe_remark hremark hreturn, hsplit,
    String.ofList_toList]
  simp

/-! ### Comments -/

/-- The arguments of an item are read back, whatever the next lines hold. -/
theorem readArguments_written {item : Item} (h : item.entry.Writable) (rest : List Char) :
    readArguments item.entry.kind (' ' :: item.arguments ++ '\n' :: rest) =
      ⟨.ok item.entry, item.arguments.length + 1⟩ := by
  obtain ⟨entry, spelling⟩ := item
  cases entry with
  | response note =>
      obtain ⟨hrange, hdescription, hexamples, hobject⟩ := h
      have hread := readResponse_written hrange hdescription hexamples hobject spelling .response
        ('\n' :: rest)
      simp only [readArguments, Entry.kind, Item.arguments, List.cons_append, List.append_assoc,
        hread]
      rfl
  | error note =>
      obtain ⟨hrange, hdescription, hexamples, hobject⟩ := h
      have hread := readResponse_written hrange hdescription hexamples hobject spelling .error
        ('\n' :: rest)
      simp only [readArguments, Entry.kind, Item.arguments, List.cons_append, List.append_assoc,
        hread]
      rfl
  | sample note =>
      obtain ⟨hname, hobject⟩ := h
      have hread := readSample_written hname hobject spelling ('\n' :: rest)
      simp only [readArguments, Entry.kind, Item.arguments, List.cons_append, List.append_assoc,
        hread]
      rfl
  | enumeration note =>
      obtain ⟨hfield, hne, hvalues, hremark, hreturn, hpipe⟩ := h
      have htexts : ∀ value ∈ note.values, IsValue value.toList := fun value hvalue =>
        ⟨toList_ne_nil (hvalues value hvalue).1, (hvalues value hvalue).2⟩
      have hread := readEnum_written hfield hne htexts hremark hreturn hpipe rest
      simp only [readArguments, Entry.kind, Item.arguments, hread]
      rfl
  | deprecated note =>
      obtain ⟨hactive, hne, hremark⟩ := h
      have hread := readDeprecation_written hactive hne hremark rest
      simp only [readArguments, Entry.kind, Item.arguments, List.cons_append, hread]
      rfl

theorem toList_tag (kind : Kind) : kind.tag.toList = tagText kind.name.toList := by
  cases kind <;> rfl

theorem isName_name (kind : Kind) (rest : List Char) : IsName kind.name.toList (' ' :: rest) := by
  refine ⟨?_, by simp⟩
  have hletters : kind.name.toList.all Char.isAlpha = true := by cases kind <;> decide
  exact List.all_eq_true.1 hletters

/-- The tag of an item in a text that starts at byte `offset`. -/
def Item.foundAt (offset : Nat) (item : Item) : Occurrence :=
  soundAt (offset + 3) item.entry.kind.name.toList (' ' :: item.arguments) item.entry.kind
    item.entry

/-- The tags of the lines of items that start at byte `offset`. -/
def foundFrom (offset : Nat) : List Item → List Occurrence
  | [] => []
  | item :: items =>
    item.foundAt offset :: foundFrom (offset + Text.byteLength item.line) items

/-- The search finds the tag of a line and goes on behind the line. -/
theorem scanFrom_line {item : Item} (h : item.entry.Writable) (offset : Nat)
    (rest : List Char) :
    scanFrom 0 offset (item.line ++ rest) =
      item.foundAt offset :: scanFrom 0 (offset + Text.byteLength item.line) rest := by
  have hread := readArguments_written h rest
  have hkind : Kind.ofName? (String.ofList item.entry.kind.name.toList) = some item.entry.kind := by
    rw [String.ofList_toList]
    exact Kind.ofName?_name _
  have hsound := scanFrom_sound (isName_name item.entry.kind (item.arguments ++ '\n' :: rest))
    hkind hread (offset + 3)
  have hline : item.line ++ rest = ' ' :: '*' :: ' ' ::
      (tagText item.entry.kind.name.toList ++ (' ' :: item.arguments ++ '\n' :: rest)) := by
    simp [Item.line, toList_tag]
  have hbytes : Text.byteLength item.line =
      3 + (Text.byteLength (tagText item.entry.kind.name.toList ++ ' ' :: item.arguments) + 1) := by
    have hspace : ' '.utf8Size = 1 := rfl
    have hstar : '*'.utf8Size = 1 := rfl
    have hfeed : '\n'.utf8Size = 1 := rfl
    simp only [Item.line, toList_tag, Text.byteLength_append, Text.byteLength_cons,
      Text.byteLength_nil, hspace, hstar, hfeed]
    omega
  rw [hline, scanFrom_pass rfl, scanFrom_pass rfl, scanFrom_pass rfl]
  change scanFrom 0 (offset + 3) _ = _
  rw [hsound, scanFrom_pass rfl, hbytes]
  change _ :: scanFrom 0 (_ + 1) rest = _
  rw [Nat.add_assoc, Nat.add_assoc]
  rfl

/-- The search finds the tags of all lines. -/
theorem scanFrom_lines {items : List Item} (h : ∀ item ∈ items, item.entry.Writable)
    (offset : Nat) (rest : List Char) :
    scanFrom 0 offset (items.flatMap Item.line ++ rest) =
      foundFrom offset items ++
        scanFrom 0 (offset + Text.byteLength (items.flatMap Item.line)) rest := by
  induction items generalizing offset with
  | nil => rfl
  | cons item items ih =>
      have hitem := h item List.mem_cons_self
      have hitems := ih fun i hi => h i (List.mem_cons_of_mem item hi)
      rw [List.flatMap_cons, List.append_assoc, scanFrom_line hitem, hitems, foundFrom,
        Text.byteLength_append, Nat.add_assoc, List.cons_append]

theorem result_foundFrom (offset : Nat) (items : List Item) :
    (foundFrom offset items).map Occurrence.result = items.map fun item => .ok item.entry := by
  induction items generalizing offset with
  | nil => rfl
  | cons item items ih =>
      rw [foundFrom, List.map_cons, List.map_cons, ih]
      rfl

/-- Searching a comment undoes writing it: there is one tag for each item, in order, each
well-formed, with its kind and its place, and the notes are those of the entries. -/
theorem scan_comment (items : List Item) (h : ∀ item ∈ items, item.entry.Writable) :
    scan (comment items) = foundFrom 4 items ∧
      (scan (comment items)).map Occurrence.result = items.map (fun item => .ok item.entry) ∧
      Notes.ofComment (String.ofList (comment items)) = Notes.ofEntries (items.map Item.entry) := by
  have hscan : scan (comment items) = foundFrom 4 items := by
    have hopen : scan (comment items) = scanFrom 0 4 (items.flatMap Item.line ++ [' ', '*', '/']) :=
      rfl
    rw [hopen, scanFrom_lines h]
    exact List.append_nil _
  refine ⟨hscan, by rw [hscan, result_foundFrom], ?_⟩
  have hentries : entries (comment items) = items.map Item.entry := by
    have hresults : entries (comment items) =
        ((scan (comment items)).map Occurrence.result).filterMap Except.toOption := by
      rw [List.filterMap_map]
      rfl
    rw [hresults, hscan, result_foundFrom, List.filterMap_map]
    exact congrFun (List.filterMap_eq_map (f := Item.entry)) items
  rw [Notes.ofComment, String.toList_ofList, hentries]

theorem scan_comment_mixed :
    (scan (comment
        [⟨.error ⟨404, "Not Found", .obj [("*/", .arr [.str "@LRD\x7d\"", .int (-1)])], none⟩,
            .pretty⟩,
          ⟨.enumeration ⟨"state", ["on", "off"], ""⟩, .compact⟩,
          ⟨.deprecated ⟨true, "see @LRDerror"⟩, .compact⟩])).map Occurrence.result =
      [.ok (.error ⟨404, "Not Found", .obj [("*/", .arr [.str "@LRD\x7d\"", .int (-1)])], none⟩),
        .ok (.enumeration ⟨"state", ["on", "off"], ""⟩),
        .ok (.deprecated ⟨true, "see @LRDerror"⟩)] := by
  have hitems : ∀ v ∈ [Json.str "@LRD\x7d\"", .int (-1)], v.Plain 125 := by
    simp only [List.forall_mem_cons, List.not_mem_nil, false_implies, implies_true, and_true]
    exact ⟨.str 125 _, .int 125 ⟨by decide, by decide⟩⟩
  have hplain : Json.Plain 127 (.obj [("*/", .arr [.str "@LRD\x7d\"", .int (-1)])]) := by
    refine .obj (by decide) ?_
    simp only [List.forall_mem_cons, List.not_mem_nil, false_implies, implies_true, and_true]
    exact .arr hitems
  have hword : ∀ c ∈ ['s', 't', 'a', 't', 'e'], Text.isWordChar c = true := by
    simp [Text.isWordChar]
  have hon : ∀ c ∈ ['o', 'n'], Text.isBlank c = false ∧ c ≠ '|' := by simp [Text.isBlank]
  have hoff : ∀ c ∈ ['o', 'f', 'f'], Text.isBlank c = false ∧ c ≠ '|' := by simp [Text.isBlank]
  refine (scan_comment _ ?_).2.1
  simp only [List.forall_mem_cons, List.not_mem_nil, false_implies, implies_true, and_true]
  refine ⟨⟨by decide, rfl, rfl, rfl, hplain⟩, ⟨⟨by decide, hword⟩, by decide, ?_,
    ⟨by decide, by decide, by decide⟩, by decide, by decide⟩,
    ⟨rfl, by decide, by decide, by decide, by decide⟩⟩
  exact List.forall_mem_cons.2 ⟨⟨by decide, hon⟩, List.forall_mem_cons.2 ⟨⟨by decide, hoff⟩,
    by simp⟩⟩

end Tag

end ApiNotes
