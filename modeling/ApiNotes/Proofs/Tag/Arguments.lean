import ApiNotes.Proofs.Capture.Walk
import ApiNotes.Tag.Arguments
import Mathlib.Data.List.TakeWhile

/-!
# How far the arguments of a tag reach

A reading never covers more than its text. When it succeeds, what it covers is known: the
tags with an object cover some fixed arguments, in which no tag can begin, and the object
that was captured (`HoldsObject`); the others cover the rest of the line.
-/

namespace ApiNotes

namespace Tag

/-- The object that an entry carries. -/
def Entry.object? : Entry → Option Json
  | .response note | .error note => some note.schema
  | .sample note => some note.value
  | .enumeration _ | .deprecated _ => none

/-- A text whose first `n` characters are fixed arguments and then an object with the
value `v`. -/
def HoldsObject (text : List Char) (n : Nat) (v : Json) : Prop :=
  ∃ fixed object rest, text = fixed ++ object ++ rest ∧ n = fixed.length + object.length ∧
    '@' ∉ fixed ∧ objectLength (object ++ rest) = .ok object.length ∧ decodeObject object = .ok v

theorem HoldsObject.append_left {text : List Char} {n : Nat} {v : Json}
    (h : HoldsObject text n v) {pre : List Char} (hpre : '@' ∉ pre) :
    HoldsObject (pre ++ text) (pre.length + n) v := by
  obtain ⟨fixed, object, rest, rfl, rfl, hfixed, hlength, hdecode⟩ := h
  refine ⟨pre ++ fixed, object, rest, by simp, ?_, by simp [hpre, hfixed], hlength, hdecode⟩
  rw [List.length_append]
  omega

namespace Reading

@[simp] theorem result_after {α : Type} (n : Nat) (r : Reading α) :
    (r.after n).result = r.result := rfl

@[simp] theorem reach_after {α : Type} (n : Nat) (r : Reading α) :
    (r.after n).reach = n + r.reach := rfl

@[simp] theorem reach_map {α β : Type} (f : α → β) (r : Reading α) :
    (r.map f).reach = r.reach := rfl

@[simp] theorem result_failLine {α : Type} (flaw : Flaw) (text : List Char) :
    (failLine flaw text : Reading α).result = .error flaw := rfl

theorem result_map_eq_ok_iff {α β : Type} {f : α → β} {r : Reading α} {b : β} :
    (r.map f).result = .ok b ↔ ∃ a, r.result = .ok a ∧ f a = b := by
  cases h : r.result with
  | error flaw => simp [map, h, Except.map]
  | ok a => simp [map, h, Except.map]

theorem reach_failLine_le {α : Type} (flaw : Flaw) (text : List Char) :
    (failLine flaw text : Reading α).reach ≤ text.length :=
  (List.takeWhile_prefix _).length_le

end Reading

/-! ### What the readers cover -/

theorem objectLength_le {text : List Char} {n : Nat} (h : objectLength text = .ok n) :
    n ≤ text.length := by
  obtain ⟨body, rest, rfl, rfl, -⟩ := exists_of_lengthToClose_eq_ok h
  simp

theorem length_takeWhile_add_dropWhile (p : Char → Bool) (text : List Char) :
    (text.takeWhile p).length + (text.dropWhile p).length = text.length := by
  rw [← List.length_append, List.takeWhile_append_dropWhile]

theorem not_mem_takeWhile {p : Char → Bool} {c : Char} (hc : p c = false) (text : List Char) :
    c ∉ text.takeWhile p := by
  intro hmem
  rw [List.mem_takeWhile_imp hmem] at hc
  cases hc

/-- An object that opens at the start of a text. -/
def readOpen (kind : Kind) (body : List Char) : Reading Json :=
  match objectLength body with
  | .error why => .failLine (.openObject kind why) body
  | .ok n =>
    match decodeObject (body.take n) with
    | .error why => ⟨.error (.wrongObject why), n⟩
    | .ok v => ⟨.ok v, n⟩

theorem readObject_eq (kind : Kind) (text : List Char) :
    readObject kind text =
      if text.takeWhile Text.isBlank ≠ [] ∧ (text.dropWhile Text.isBlank).head? = some '{' then
        .after (text.takeWhile Text.isBlank).length (readOpen kind (text.dropWhile Text.isBlank))
      else .failLine (.missingObject kind) text := rfl

theorem reach_readOpen_le (kind : Kind) (body : List Char) :
    (readOpen kind body).reach ≤ body.length := by
  unfold readOpen
  split
  · exact Reading.reach_failLine_le _ body
  · next n h =>
    split
    · exact objectLength_le h
    · exact objectLength_le h

/-- An opened object is read when it is closed and what is captured is an object. -/
theorem readOpen_eq_ok_iff {kind : Kind} {body : List Char} {v : Json} :
    (readOpen kind body).result = .ok v ↔
      ∃ n, objectLength body = .ok n ∧ decodeObject (body.take n) = .ok v ∧
        (readOpen kind body).reach = n := by
  unfold readOpen
  split
  · next h => simp [h]
  · next n h =>
    split
    · next hdecode => simp [h, hdecode]
    · next hdecode => simp [h, hdecode]

theorem reach_readObject_le (kind : Kind) (text : List Char) :
    (readObject kind text).reach ≤ text.length := by
  have hlength := length_takeWhile_add_dropWhile Text.isBlank text
  have hopen := reach_readOpen_le kind (text.dropWhile Text.isBlank)
  rw [readObject_eq]
  split
  · rw [Reading.reach_after]
    omega
  · exact Reading.reach_failLine_le _ text

theorem reach_readResponse_le (kind : Kind) (text : List Char) :
    (readResponse kind text).reach ≤ text.length := by
  have hblanks := length_takeWhile_add_dropWhile Text.isBlank text
  have hdigits := length_takeWhile_add_dropWhile Text.isDigit (text.dropWhile Text.isBlank)
  simp only [readResponse]
  split
  · exact Reading.reach_failLine_le _ text
  · split
    · exact Reading.reach_failLine_le _ text
    · have hobject := reach_readObject_le kind
        ((text.dropWhile Text.isBlank).dropWhile Text.isDigit)
      rw [Reading.reach_after, Reading.reach_map]
      omega

theorem reach_readSample_le (text : List Char) : (readSample text).reach ≤ text.length := by
  have hblanks := length_takeWhile_add_dropWhile Text.isBlank text
  have hname := length_takeWhile_add_dropWhile Text.isWordChar (text.dropWhile Text.isBlank)
  simp only [readSample]
  split
  · exact Reading.reach_failLine_le _ text
  · have hobject := reach_readObject_le .sample
      ((text.dropWhile Text.isBlank).dropWhile Text.isWordChar)
    rw [Reading.reach_after, Reading.reach_map]
    omega

/-- An enumeration covers the rest of its line, whether it is well-formed or not. -/
theorem reach_readEnum (text : List Char) : (readEnum text).reach = (Text.row text).length := by
  simp only [readEnum]
  split
  · rfl
  · split <;> rfl

theorem reach_readArguments_le (kind : Kind) (text : List Char) :
    (readArguments kind text).reach ≤ text.length := by
  have hline : (Text.row text).length ≤ text.length := (List.takeWhile_prefix _).length_le
  cases kind with
  | response => exact reach_readResponse_le .response text
  | error => exact reach_readResponse_le .error text
  | sample => exact reach_readSample_le text
  | enumeration => exact (reach_readEnum text).trans_le hline
  | deprecated => exact hline

/-! ### What well-formed tags are made of -/

theorem holdsObject_of_readObject {kind : Kind} {text : List Char} {v : Json}
    (h : (readObject kind text).result = .ok v) :
    HoldsObject text (readObject kind text).reach v := by
  rw [readObject_eq] at h ⊢
  split at h
  · next hopen =>
    obtain ⟨n, hlength, hdecode, hreach⟩ := readOpen_eq_ok_iff.1 h
    have hn := objectLength_le hlength
    have hbody : HoldsObject (text.dropWhile Text.isBlank) n v :=
      ⟨[], (text.dropWhile Text.isBlank).take n, (text.dropWhile Text.isBlank).drop n,
        by simp, by simp [Nat.min_eq_left hn], by simp, by simp [hlength, Nat.min_eq_left hn],
        hdecode⟩
    rw [if_pos hopen, Reading.reach_after, hreach]
    have hall := hbody.append_left (not_mem_takeWhile (p := Text.isBlank) (by decide) text)
    rwa [List.takeWhile_append_dropWhile] at hall
  · cases h

theorem holdsObject_of_readResponse {kind : Kind} {text : List Char} {note : ResponseNote}
    (h : (readResponse kind text).result = .ok note) :
    HoldsObject text (readResponse kind text).reach note.schema := by
  simp only [readResponse] at h ⊢
  split at h
  · cases h
  · next hfixed =>
    rw [if_neg hfixed]
    split at h
    · cases h
    · next status hstatus =>
      obtain ⟨schema, hschema, rfl⟩ := Reading.result_map_eq_ok_iff.1 h
      have hobject := holdsObject_of_readObject hschema
      have hdigits := hobject.append_left (not_mem_takeWhile (p := Text.isDigit) (by decide)
        (text.dropWhile Text.isBlank))
      rw [List.takeWhile_append_dropWhile] at hdigits
      have hall := hdigits.append_left (not_mem_takeWhile (p := Text.isBlank) (by decide) text)
      rw [List.takeWhile_append_dropWhile] at hall
      simpa [Nat.add_assoc] using hall

theorem holdsObject_of_readSample {text : List Char} {note : SampleNote}
    (h : (readSample text).result = .ok note) :
    HoldsObject text (readSample text).reach note.value := by
  simp only [readSample] at h ⊢
  split at h
  · cases h
  · next hfixed =>
    rw [if_neg hfixed]
    obtain ⟨value, hvalue, rfl⟩ := Reading.result_map_eq_ok_iff.1 h
    have hobject := holdsObject_of_readObject hvalue
    have hname := hobject.append_left (not_mem_takeWhile (p := Text.isWordChar) (by decide)
      (text.dropWhile Text.isBlank))
    rw [List.takeWhile_append_dropWhile] at hname
    have hall := hname.append_left (not_mem_takeWhile (p := Text.isBlank) (by decide) text)
    rw [List.takeWhile_append_dropWhile] at hall
    simpa [Nat.add_assoc] using hall

/-- A well-formed tag covers fixed arguments and its object, or the rest of its line. -/
theorem readArguments_covers {kind : Kind} {text : List Char} {entry : Entry}
    (h : (readArguments kind text).result = .ok entry) :
    (∃ v, entry.object? = some v ∧ HoldsObject text (readArguments kind text).reach v) ∨
      entry.object? = none ∧ (readArguments kind text).reach = (Text.row text).length := by
  cases kind with
  | response =>
      obtain ⟨note, hnote, rfl⟩ := Reading.result_map_eq_ok_iff.1 h
      exact Or.inl ⟨note.schema, rfl, holdsObject_of_readResponse hnote⟩
  | error =>
      obtain ⟨note, hnote, rfl⟩ := Reading.result_map_eq_ok_iff.1 h
      exact Or.inl ⟨note.schema, rfl, holdsObject_of_readResponse hnote⟩
  | sample =>
      obtain ⟨note, hnote, rfl⟩ := Reading.result_map_eq_ok_iff.1 h
      exact Or.inl ⟨note.value, rfl, holdsObject_of_readSample hnote⟩
  | enumeration =>
      obtain ⟨note, -, rfl⟩ := Reading.result_map_eq_ok_iff.1 h
      exact Or.inr ⟨rfl, reach_readEnum text⟩
  | deprecated =>
      obtain ⟨note, -, rfl⟩ := Reading.result_map_eq_ok_iff.1 h
      exact Or.inr ⟨rfl, rfl⟩

end Tag

end ApiNotes
