import ApiNotes.Proofs.Tag.Markers
import ApiNotes.Proofs.Tag.Written

/-!
# Objects that are isolated before they are read

A tag with an object is read in two steps: behind its fixed arguments an object is captured, and
what is captured is decoded. `Isolates` tells where the captured object of a tag stands, whether or
not it is decoded afterwards. Either way the tag covers all of the object, and it is well-formed
exactly when the object is decoded (`Isolates.covers`). A tag without such an object covers some
line to its end (`exists_isolates_or_endsLine`).
-/

namespace ApiNotes

namespace Tag

variable {kind : Kind} {text args body object behind before : List Char} {o : Occurrence}

/-- A word of one class of characters with blanks on both sides. -/
def Spaced (p : Char → Bool) (word args : List Char) : Prop :=
  ∃ left right, args = left ++ (word ++ right) ∧ left ≠ [] ∧ word ≠ [] ∧ right ≠ [] ∧
    (∀ c ∈ left, Text.isBlank c = true) ∧ (∀ c ∈ word, p c = true) ∧
      ∀ c ∈ right, Text.isBlank c = true

/-- What stands between the name of a tag and its object. -/
def FixedArguments : Kind → List Char → Prop
  | .response, args | .error, args =>
    ∃ digits, Spaced Text.isDigit digits args ∧ (status? digits).isSome
  | .sample, args => ∃ name, Spaced Text.isWordChar name args
  | .enumeration, _ | .deprecated, _ => False

/-- Behind the fixed arguments of a tag, an object is captured. -/
structure Captures (kind : Kind) (args object behind : List Char) : Prop where
  fixed : FixedArguments kind args
  opens : object.head? = some '{'
  closes : objectLength (object ++ behind) = .ok object.length

/-- The object that is captured for a tag, with the text in front of it and behind it. -/
def Isolates (text : List Char) (o : Occurrence) (before object behind : List Char) : Prop :=
  text = before ++ (object ++ behind) ∧
    ∃ front args kind, before = front ++ (tagText o.name.toList ++ args) ∧
      o.span.start = Text.byteLength front ∧ o.kind = some kind ∧
        Captures kind args object behind

/-- Byte `p` of a text is in a string literal of an object with the given text before it. -/
def StandsInLiteral (before object : List Char) (p : Nat) : Prop :=
  ∃ i, InLiteral object i ∧ p = Text.byteLength (before ++ object.take i)

/-! ### Fixed arguments -/

theorem isBlank_of_isDigitChar {c : Char} (h : Text.isDigit c = true) :
    Text.isBlank c = false := by
  cases hblank : Text.isBlank c with
  | false => rfl
  | true =>
      rw [Text.isDigit_of_isBlank hblank] at h
      cases h

theorem Spaced.not_mem {p : Char → Bool} {word : List Char} {c : Char} (h : Spaced p word args)
    (hblank : Text.isBlank c = false) (hp : p c = false) : c ∉ args := by
  obtain ⟨left, right, rfl, -, -, -, hleft, hword, hright⟩ := h
  simp only [List.mem_append, not_or]
  refine ⟨fun hmem => ?_, fun hmem => ?_, fun hmem => ?_⟩
  · simp [hleft c hmem] at hblank
  · simp [hword c hmem] at hp
  · simp [hright c hmem] at hblank

/-- The fixed argument of a request body with single blanks around it. -/
theorem fixedArguments_sample (name : List Char) (hne : name ≠ [])
    (hname : ∀ c ∈ name, Text.isWordChar c = true) :
    FixedArguments .sample (' ' :: (name ++ [' '])) := by
  have hblank : ∀ c ∈ [' '], Text.isBlank c = true := List.all_eq_true.1 rfl
  exact ⟨name, [' '], [' '], rfl, by simp, hne, by simp, hblank, hname, hblank⟩

/-- Fixed arguments are made of blanks, digits and letters. -/
theorem FixedArguments.not_mem {c : Char} (h : FixedArguments kind args)
    (hblank : Text.isBlank c = false) (hdigit : Text.isDigit c = false)
    (hword : Text.isWordChar c = false) : c ∉ args := by
  cases kind with
  | response | error =>
      obtain ⟨digits, hspaced, -⟩ := h
      exact hspaced.not_mem hblank hdigit
  | sample =>
      obtain ⟨name, hspaced⟩ := h
      exact hspaced.not_mem hblank hword
  | enumeration | deprecated => exact h.elim

/-- The word and the blanks around it are cut out of the text one after the other. -/
theorem Spaced.exists_spans {p : Char → Bool} {word : List Char} (h : Spaced p word args)
    (hp : ∀ c, p c = true → Text.isBlank c = false) (body : List Char) :
    ∃ left right, args = left ++ (word ++ right) ∧ left ≠ [] ∧ word ≠ [] ∧ right ≠ [] ∧
      (∀ c ∈ right, Text.isBlank c = true) ∧
      (args ++ body).takeWhile Text.isBlank = left ∧
      ((args ++ body).dropWhile Text.isBlank).takeWhile p = word ∧
      ((args ++ body).dropWhile Text.isBlank).dropWhile p = right ++ body := by
  obtain ⟨left, right, rfl, hleft, hword, hright, hblanks, hclass, hgap⟩ := h
  obtain ⟨c, cs, rfl⟩ := List.exists_cons_of_ne_nil hword
  obtain ⟨d, ds, rfl⟩ := List.exists_cons_of_ne_nil hright
  have hstart : ∀ e ∈ (c :: cs ++ (d :: ds ++ body)).head?, Text.isBlank e = false := by
    rintro e ⟨⟩
    exact hp c (hclass c List.mem_cons_self)
  have hend : ∀ e ∈ (d :: ds ++ body).head?, p e = false := by
    rintro e ⟨⟩
    cases hpe : p d with
    | false => rfl
    | true => exact absurd (hgap d List.mem_cons_self) (by simp [hp d hpe])
  have htext : left ++ (c :: cs ++ d :: ds) ++ body = left ++ (c :: cs ++ (d :: ds ++ body)) := by
    simp
  obtain ⟨htake, hdrop⟩ := Text.span_append hblanks hstart
  obtain ⟨htake', hdrop'⟩ := Text.span_append hclass hend
  rw [htext, hdrop]
  exact ⟨left, d :: ds, rfl, hleft, hword, hright, hgap, htake, htake', hdrop'⟩

theorem readObject_append {right : List Char} (hright : right ≠ [])
    (hblank : ∀ c ∈ right, Text.isBlank c = true) (hbody : body.head? = some '{') (kind : Kind) :
    readObject kind (right ++ body) = (readOpen kind body).after right.length := by
  have hstart : ∀ c ∈ body.head?, Text.isBlank c = false := by
    rw [hbody]
    rintro c ⟨⟩
    decide
  obtain ⟨htake, hdrop⟩ := Text.span_append hblank hstart
  rw [readObject_eq, htake, hdrop, if_pos ⟨hright, hbody⟩]

theorem Reading.map_map {α β γ : Type} (f : α → β) (g : β → γ) (r : Reading α) :
    (r.map f).map g = r.map (g ∘ f) := by
  simp only [map]
  cases r.result <;> rfl

theorem Spaced.exists_readResponse_eq {digits : List Char} (h : Spaced Text.isDigit digits args)
    (hstatus : (status? digits).isSome) (hbody : body.head? = some '{') (kind : Kind) :
    ∃ f, readResponse kind (args ++ body) = ((readOpen kind body).after args.length).map f := by
  obtain ⟨left, right, rfl, hleft, hword, hright, hgap, htake, htake', hdrop⟩ :=
    h.exists_spans (fun c => isBlank_of_isDigitChar) body
  obtain ⟨status, hstatus⟩ := Option.isSome_iff_exists.1 hstatus
  refine ⟨fun schema => ⟨status, Status.reason status, schema, none⟩, ?_⟩
  simp only [readResponse, htake, htake', hdrop, hleft, hword, or_self, if_false, hstatus,
    readObject_append hright hgap hbody, Reading.map, Reading.after, List.length_append,
    Nat.add_assoc]

theorem Spaced.exists_readSample_eq {name : List Char} (h : Spaced Text.isWordChar name args)
    (hbody : body.head? = some '{') :
    ∃ f, readSample (args ++ body) = ((readOpen .sample body).after args.length).map f := by
  obtain ⟨left, right, rfl, hleft, hword, hright, hgap, htake, htake', hdrop⟩ :=
    h.exists_spans (fun c => isBlank_of_isWordChar) body
  refine ⟨fun value => ⟨String.ofList name, value⟩, ?_⟩
  simp only [readSample, htake, htake', hdrop, hleft, hword, or_self, if_false,
    readObject_append hright hgap hbody, Reading.map, Reading.after, List.length_append,
    Nat.add_assoc]

/-- Behind its fixed arguments, all that is left to read of a tag is its object. -/
theorem exists_readArguments_eq (h : FixedArguments kind args) (hbody : body.head? = some '{') :
    ∃ f : Json → Entry,
      readArguments kind (args ++ body) = ((readOpen kind body).after args.length).map f := by
  cases kind with
  | response | error =>
      obtain ⟨digits, hspaced, hstatus⟩ := h
      obtain ⟨f, hf⟩ := hspaced.exists_readResponse_eq hstatus hbody _
      rw [readArguments, hf, Reading.map_map]
      exact ⟨_, rfl⟩
  | sample =>
      obtain ⟨name, hspaced⟩ := h
      obtain ⟨f, hf⟩ := hspaced.exists_readSample_eq hbody
      rw [readArguments, hf, Reading.map_map]
      exact ⟨_, rfl⟩
  | enumeration | deprecated => exact h.elim

/-- No part of a text is left on the line where its first `n` characters end. -/
def EndsLine (text : List Char) (n : Nat) : Prop :=
  ∀ c ∈ (text.drop n).head?, c = '\n'

theorem endsLine_row (text : List Char) : EndsLine text (Text.row text).length := by
  intro c hc
  have hdrop : (Text.row text ++ text.dropWhile (· != '\n')).drop (Text.row text).length =
      text.dropWhile (· != '\n') := List.drop_left
  rw [Text.row, List.takeWhile_append_dropWhile] at hdrop
  rw [Text.row, hdrop] at hc
  simpa using Text.head?_dropWhile _ text c hc

theorem EndsLine.append_left {n : Nat} (h : EndsLine text n) (pre : List Char) :
    EndsLine (pre ++ text) (pre.length + n) := by
  rwa [EndsLine, List.drop_length_add_append]

/-- An object that is opened is captured, or else it is flawed up to the end of its line. -/
theorem readOpen_cases (kind : Kind) (hbody : body.head? = some '{') :
    (∃ object behind, body = object ++ behind ∧ object.head? = some '{' ∧
        objectLength (object ++ behind) = .ok object.length) ∨
      EndsLine body (readOpen kind body).reach := by
  cases hlength : objectLength body with
  | error why =>
      right
      rw [readOpen, hlength]
      exact endsLine_row body
  | ok n =>
      left
      obtain ⟨inner, rest, rfl, rfl, -⟩ := exists_of_lengthToClose_eq_ok hlength
      refine ⟨inner ++ ['}'], rest, by simp, ?_, by simpa using hlength⟩
      cases inner with
      | nil => simp at hbody
      | cons c inner => simpa using hbody

/-- Behind a run of characters, an object is opened or else the line is flawed to its end. -/
theorem readObject_cases (kind : Kind) (text : List Char) :
    (∃ right body, text = right ++ body ∧ right ≠ [] ∧ (∀ c ∈ right, Text.isBlank c = true) ∧
        body.head? = some '{') ∨
      EndsLine text (readObject kind text).reach := by
  rw [readObject_eq]
  split
  · next hopen =>
    exact Or.inl ⟨_, _, List.takeWhile_append_dropWhile.symm, hopen.1,
      fun c hc => List.mem_takeWhile_imp hc, hopen.2⟩
  · exact Or.inr (endsLine_row text)

/-- Where a word with blanks in front of it is read and an object behind it, the object is opened
behind the word, or else some line is flawed to its end. -/
theorem exists_spaced_or_endsLine {p : Char → Bool} {text : List Char} (kind : Kind)
    (hblanks : text.takeWhile Text.isBlank ≠ [])
    (hword : (text.dropWhile Text.isBlank).takeWhile p ≠ []) :
    (∃ args body, text = args ++ body ∧
        Spaced p ((text.dropWhile Text.isBlank).takeWhile p) args ∧ body.head? = some '{') ∨
      EndsLine text ((text.takeWhile Text.isBlank).length +
        ((text.dropWhile Text.isBlank).takeWhile p).length +
          (readObject kind ((text.dropWhile Text.isBlank).dropWhile p)).reach) := by
  have htext : text = text.takeWhile Text.isBlank ++ (text.dropWhile Text.isBlank).takeWhile p ++
      (text.dropWhile Text.isBlank).dropWhile p := by
    rw [List.append_assoc, List.takeWhile_append_dropWhile, List.takeWhile_append_dropWhile]
  rcases readObject_cases kind ((text.dropWhile Text.isBlank).dropWhile p) with
    ⟨right, body, hcut, hright, hgap, hbody⟩ | hends
  · refine Or.inl ⟨_, body, ?_, ⟨_, right, rfl, hblanks, hword, hright,
      fun c hc => List.mem_takeWhile_imp hc, fun c hc => List.mem_takeWhile_imp hc, hgap⟩, hbody⟩
    rw [hcut] at htext
    simpa using htext
  · right
    have hall := hends.append_left
      (text.takeWhile Text.isBlank ++ (text.dropWhile Text.isBlank).takeWhile p)
    rwa [← htext, List.length_append] at hall

/-- The arguments of a tag open an object behind fixed ones, or else they reach to the end of a
line. -/
theorem exists_fixed_or_endsLine (kind : Kind) (text : List Char) :
    (∃ args body, text = args ++ body ∧ FixedArguments kind args ∧ body.head? = some '{') ∨
      EndsLine text (readArguments kind text).reach := by
  cases kind with
  | response | error =>
      rw [readArguments, Reading.reach_map]
      simp only [readResponse]
      split
      · exact Or.inr (endsLine_row text)
      · next hargs =>
        rw [not_or] at hargs
        split
        · exact Or.inr (endsLine_row text)
        · next status hstatus =>
          rcases exists_spaced_or_endsLine _ hargs.1 hargs.2 with ⟨args, body, htext, h, hbody⟩ | h
          · exact Or.inl ⟨args, body, htext, ⟨_, h, by rw [hstatus]; rfl⟩, hbody⟩
          · exact Or.inr h
  | sample =>
      rw [readArguments, Reading.reach_map]
      simp only [readSample]
      split
      · exact Or.inr (endsLine_row text)
      · next hargs =>
        rw [not_or] at hargs
        rcases exists_spaced_or_endsLine _ hargs.1 hargs.2 with ⟨args, body, htext, h, hbody⟩ | h
        · exact Or.inl ⟨args, body, htext, ⟨_, h⟩, hbody⟩
        · exact Or.inr h
  | enumeration =>
      right
      rw [readArguments, Reading.reach_map, reach_readEnum]
      exact endsLine_row text
  | deprecated => exact Or.inr (endsLine_row text)

/-- The arguments of a tag are fixed ones and an object that is captured, or else they reach to the
end of a line. -/
theorem exists_captures_or_endsLine (kind : Kind) (text : List Char) :
    (∃ args object behind, text = args ++ (object ++ behind) ∧
        Captures kind args object behind) ∨
      EndsLine text (readArguments kind text).reach := by
  rcases exists_fixed_or_endsLine kind text with ⟨args, body, rfl, hfixed, hbody⟩ | hends
  · rcases readOpen_cases kind hbody with ⟨object, behind, rfl, hopens, hcloses⟩ | hends
    · exact Or.inl ⟨args, object, behind, rfl, hfixed, hopens, hcloses⟩
    · obtain ⟨f, hread⟩ := exists_readArguments_eq hfixed hbody
      right
      rw [hread]
      exact hends.append_left args
  · exact Or.inr hends

/-- An object that is captured is covered, and all depends on how it is decoded. -/
theorem Captures.readArguments (h : Captures kind args object behind) :
    (readArguments kind (args ++ (object ++ behind))).reach = (args ++ object).length ∧
      ((readArguments kind (args ++ (object ++ behind))).result.isOk = true ↔
        ∃ v, decodeObject object = .ok v) := by
  have hbody : (object ++ behind).head? = some '{' := by
    rw [List.head?_append, h.opens, Option.some_or]
  obtain ⟨f, hread⟩ := exists_readArguments_eq h.fixed hbody
  rw [hread]
  simp only [readOpen, h.closes, List.take_left]
  cases hdecode : decodeObject object with
  | error why => simp [Reading.map, Except.map, Except.isOk, Except.toBool]
  | ok v => simp [Reading.map, Except.map, Except.isOk, Except.toBool]

/-! ### The object of an occurrence -/

/-- Every occurrence is what the tag at its place is examined to be. -/
theorem exists_of_mem_scanFrom {skip offset : Nat} (ho : o ∈ scanFrom skip offset text) :
    ∃ front name rest, text = front ++ (tagText name ++ rest) ∧
      o = (examine (offset + Text.byteLength front) name rest).occurrence := by
  induction text generalizing skip offset with
  | nil => cases ho
  | cons c cs ih =>
      have hlater : ∀ {skip}, o ∈ scanFrom skip (offset + c.utf8Size) cs →
          ∃ front name rest, c :: cs = front ++ (tagText name ++ rest) ∧
            o = (examine (offset + Text.byteLength front) name rest).occurrence := by
        intro skip ho
        obtain ⟨front, name, rest, rfl, rfl⟩ := ih ho
        refine ⟨c :: front, name, rest, rfl, ?_⟩
        rw [Text.byteLength_cons, Nat.add_assoc]
      cases skip with
      | succ skip => exact hlater ho
      | zero =>
          rw [scanFrom] at ho
          split at ho
          · exact hlater ho
          · next name hname =>
            rcases List.mem_cons.1 ho with rfl | ho
            · obtain ⟨rest, htext, -⟩ := exists_of_tagName?_eq_some hname
              have hrest : cs.drop (3 + name.length) = rest := by
                rw [(List.cons.inj htext).2, Nat.add_comm]
                simp
              refine ⟨[], name, rest, htext, ?_⟩
              rw [hrest]
              rfl
            · exact hlater ho

theorem exists_of_mem_scan (ho : o ∈ scan text) :
    ∃ front name rest, text = front ++ (tagText name ++ rest) ∧
      o = (examine (Text.byteLength front) name rest).occurrence := by
  obtain ⟨front, name, rest, htext, rfl⟩ := exists_of_mem_scanFrom ho
  exact ⟨front, name, rest, htext, by rw [Nat.zero_add]⟩

theorem occurrence_examine (start : Nat) (name rest : List Char) :
    (examine start name rest).occurrence.name = String.ofList name ∧
      (examine start name rest).occurrence.kind = Kind.ofName? (String.ofList name) ∧
      (examine start name rest).occurrence.span.start = start := by
  rw [examine]
  cases Kind.ofName? (String.ofList name) with
  | none => exact ⟨rfl, rfl, rfl⟩
  | some kind =>
      dsimp only
      cases (readArguments kind rest).result <;> exact ⟨rfl, rfl, rfl⟩

/-- The span and the result of a tag of a known kind are those of its arguments. -/
theorem exists_reading (ho : o ∈ scan text) (hkind : o.kind = some kind) :
    ∃ front rest, text = front ++ (tagText o.name.toList ++ rest) ∧
      o.span = ⟨Text.byteLength front, Text.byteLength (front ++ (tagText o.name.toList ++
        rest.take (readArguments kind rest).reach))⟩ ∧
      o.result.isOk = (readArguments kind rest).result.isOk := by
  obtain ⟨front, name, rest, htext, rfl⟩ := exists_of_mem_scan ho
  rw [(occurrence_examine _ _ _).2.1] at hkind
  refine ⟨front, rest, ?_⟩
  simp only [examine, hkind]
  cases (readArguments kind rest).result with
  | error flaw =>
      simp [htext, byteLength_tagText, Nat.add_assoc, Except.isOk, Except.toBool]
  | ok entry =>
      simp [htext, byteLength_tagText, Nat.add_assoc, Except.isOk, Except.toBool]

/-- A tag covers all of its object, and it is well-formed exactly when the object is decoded. -/
theorem Isolates.covers (h : Isolates text o before object behind) (ho : o ∈ scan text) :
    o.span.stop = Text.byteLength (before ++ object) ∧
      (o.result.isOk = true ↔ ∃ v, decodeObject object = .ok v) := by
  obtain ⟨htext, front, args, kind, rfl, hstart, hkind, hcaptures⟩ := h
  obtain ⟨front', rest, htext', hspan, hok⟩ := exists_reading ho hkind
  -- Both ways to cut the text come from the start of the tag.
  have hcut : front ++ (tagText o.name.toList ++ (args ++ (object ++ behind))) =
      front' ++ (tagText o.name.toList ++ rest) := by
    rw [← htext', htext]
    simp
  have hfront : Text.byteLength front = Text.byteLength front' := by
    rw [← hstart, hspan]
  obtain ⟨rfl, htail⟩ := Text.append_inj_of_byteLength_eq hcut hfront
  obtain rfl := List.append_cancel_left htail
  obtain ⟨hreach, hdecode⟩ := hcaptures.readArguments
  have htake : (args ++ (object ++ behind)).take (args ++ object).length = args ++ object := by
    rw [← List.append_assoc, List.take_left]
  refine ⟨?_, by rw [hok, hdecode]⟩
  rw [hspan, hreach, htake]
  simp

/-- A tag whose object is not captured covers some line to its end. -/
theorem exists_isolates_or_endsLine (ho : o ∈ scan text) :
    (∃ before object behind, Isolates text o before object behind) ∨
      ∃ upTo rest, text = upTo ++ rest ∧ o.span.stop = Text.byteLength upTo ∧
        ∀ c ∈ rest.head?, c = '\n' := by
  cases hkind : o.kind with
  | some kind =>
      obtain ⟨front, rest, htext, hspan, -⟩ := exists_reading ho hkind
      rcases exists_captures_or_endsLine kind rest with
        ⟨args, object, behind, rfl, hcaptures⟩ | hends
      · refine Or.inl ⟨front ++ (tagText o.name.toList ++ args), object, behind, ?_, front, args,
          kind, rfl, by rw [hspan], hkind, hcaptures⟩
        rw [htext]
        simp
      · refine Or.inr ⟨_, rest.drop _, ?_, congrArg Span.stop hspan, hends⟩
        rw [htext]
        simp
  | none =>
      right
      obtain ⟨front, name, rest, htext, rfl⟩ := exists_of_mem_scan ho
      rw [(occurrence_examine _ _ _).2.1] at hkind
      refine ⟨front ++ (tagText name ++ rest.take (Text.row rest).length),
        rest.drop (Text.row rest).length, ?_, ?_, endsLine_row rest⟩
      · rw [htext]
        simp
      · simp [examine, hkind, byteLength_tagText, Nat.add_assoc]

/-- The tag that opens a text isolates the object that is captured behind its name. -/
theorem exists_isolates_of_captures {name : List Char}
    (hname : IsName name (args ++ (object ++ behind)))
    (hkind : Kind.ofName? (String.ofList name) = some kind)
    (h : Captures kind args object behind) :
    ∃ o ∈ scan ((tagText name ++ args) ++ (object ++ behind)),
      Isolates ((tagText name ++ args) ++ (object ++ behind)) o (tagText name ++ args) object
        behind := by
  obtain ⟨heq, hkind', hstart⟩ := occurrence_examine 0 name (args ++ (object ++ behind))
  refine ⟨(examine 0 name (args ++ (object ++ behind))).occurrence, ?_, rfl, [], args, kind, ?_,
    hstart, hkind'.trans hkind, h⟩
  · have htag := tagName?_tagText hname
    have hbehind : ('L' :: 'R' :: 'D' :: (name ++ (args ++ (object ++ behind)))).drop
        (3 + name.length) = args ++ (object ++ behind) := by
      rw [Nat.add_comm]
      simp
    rw [List.append_assoc, scan]
    rw [tagText, List.cons_append] at htag ⊢
    rw [scanFrom, htag]
    simp only [List.cons_append, hbehind]
    exact List.mem_cons_self
  · rw [heq, String.toList_ofList]
    rfl

/-! ### Positions in its literals -/

/-- A position in a literal is followed by the quote that closes the literal. -/
theorem InLiteral.exists_drop_eq {i : Nat} (h : InLiteral object i) :
    i < object.length ∧ ∃ inside rest, object.drop i = inside ++ '"' :: rest := by
  obtain ⟨first, inside, last, rfl, -, -, -, hlt, hle⟩ := h
  obtain ⟨k, rfl⟩ : ∃ k, i = (first ++ ['"']).length + k :=
    ⟨i - first.length - 1, by rw [List.length_append, List.length_singleton]; omega⟩
  rw [List.length_append, List.length_singleton] at hle
  refine ⟨?_, inside.drop k, last, ?_⟩
  · simp only [List.length_append, List.length_cons, List.length_nil]
    omega
  · have hcut : first ++ '"' :: inside ++ '"' :: last =
        (first ++ ['"']) ++ (inside ++ '"' :: last) := by simp
    rw [hcut, List.drop_length_add_append, List.drop_append_of_le_length (by omega)]

/-- What is in a literal of an object is in the object. -/
theorem StandsInLiteral.mem_bounds {p : Nat} (h : StandsInLiteral before object p) :
    Text.byteLength before ≤ p ∧ p < Text.byteLength (before ++ object) := by
  obtain ⟨i, hin, rfl⟩ := h
  obtain ⟨hlt, -⟩ := hin.exists_drop_eq
  have hcut : object ++ [] = object.take i ++ object.drop i := by simp
  have hbytes := Text.byteLength_lt_of_append hcut (by rw [List.length_take]; omega)
  simp only [Text.byteLength_append]
  omega

/-- The object stands behind the name of its tag. -/
theorem Isolates.nameStop_le (h : Isolates text o before object behind) :
    o.nameStop ≤ Text.byteLength before := by
  obtain ⟨-, front, args, kind, rfl, hstart, -, -⟩ := h
  rw [Occurrence.nameStop, hstart, Text.byteLength_append, Text.byteLength_append,
    byteLength_tagText]
  omega

theorem Isolates.start_lt (h : Isolates text o before object behind) :
    o.span.start < Text.byteLength before := by
  have hle := h.nameStop_le
  rw [Occurrence.nameStop] at hle
  omega

/-- Between the name of a tag and the end of its object, a character that fixed arguments do not
have is in the object. -/
theorem Isolates.exists_inside {pre post : List Char} {c : Char}
    (h : Isolates text o before object behind) (htext : text = pre ++ c :: post)
    (hle : o.nameStop ≤ Text.byteLength pre)
    (hlt : Text.byteLength pre < Text.byteLength (before ++ object))
    (hblank : Text.isBlank c = false) (hdigit : Text.isDigit c = false)
    (hword : Text.isWordChar c = false) :
    ∃ inside, Text.byteLength pre = Text.byteLength (before ++ object.take inside.length) ∧
      object ++ behind = inside ++ c :: post ∧ inside.length < object.length := by
  obtain ⟨htext', front, args, kind, rfl, hstart, -, hcaptures⟩ := h
  have hcut : (front ++ tagText o.name.toList) ++ (args ++ (object ++ behind)) =
      pre ++ c :: post := by
    rw [← htext, htext']
    simp
  have hname : Text.byteLength (front ++ tagText o.name.toList) ≤ Text.byteLength pre := by
    rw [Occurrence.nameStop, hstart] at hle
    rw [Text.byteLength_append, byteLength_tagText]
    omega
  obtain ⟨between, rfl, hargs⟩ := Text.exists_append_of_byteLength_le hcut hname
  have hc : c ∉ args := hcaptures.fixed.not_mem hblank hdigit hword
  obtain ⟨inside, rfl, hobject⟩ := Text.exists_append_of_not_mem hc hargs
  have hinside : inside.length < object.length := by
    by_contra hge
    obtain ⟨more, rfl, -⟩ := Text.exists_append_of_length_le hobject (Nat.le_of_not_lt hge)
    simp only [Text.byteLength_append] at hlt
    omega
  have htake : object.take inside.length = inside := by
    have hboth := congrArg (List.take inside.length) hobject
    rwa [List.take_append_of_le_length (Nat.le_of_lt hinside), List.take_left] at hboth
  refine ⟨inside, ?_, hobject, hinside⟩
  rw [htake]
  simp

end Tag

end ApiNotes
