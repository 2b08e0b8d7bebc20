import ApiNotes.OpenApi.Export
import ApiNotes.Proofs.Notes.WellFormed
import ApiNotes.Proofs.Table
import Mathlib.Data.List.Perm.Subperm

/-!
# Responses by status code

Notes are added to the responses one after the other. What one note does is said once: it opens the
response of its status code or files a variant there, and leaves the other codes as they are
(`lookup_addResponse`). So the response of a code is told by the notes for this code alone
(`lookup_responses`).

A variant is named by a number, and the number is two more than the count of the names that begin
as those of variants do. Each variant that is filed under a new name raises the count by one
(`nextNumber_fileVariant`), so the numbers go up along the notes (`foldl_fileVariant`).

The names that come with the first note share the table with the variants and are counted too. As
long as none of them begins as a variant does, the variants are numbered from two. Otherwise the
numbers start higher, and may reach a name that is taken. The example that it stands for is then
replaced, the count stays, and all further variants go to the same place.
-/

namespace ApiNotes

namespace ResponseNote

/-- The named examples of a note. -/
def named (note : ResponseNote) : Table Json :=
  note.examples.getD []

/-- All bodies that a note documents: its own and the named ones. -/
def bodies (note : ResponseNote) : List Json :=
  note.schema :: note.named.values

end ResponseNote

/-- The notes of a document for a status code, responses before errors. -/
def Document.notesFor (d : Document) (code : Nat) : List ResponseNote :=
  (d.notes.responses ++ d.notes.errors).filter fun note => note.status = code

namespace OpenApi

/-- All bodies that a response shows: the example and the named ones. -/
def Response.bodies (response : Response) : List Json :=
  response.media.example?.toList ++ response.media.examples.values

/-- The name of the variant with a number. -/
def variantName (n : Nat) : String :=
  "variant_" ++ toString n

/-- Whether a name begins as those of variants do. -/
def isVariantName (name : String) : Bool :=
  "variant_".toList.isPrefixOf name.toList

/-- The number of the next variant among named examples. -/
def nextNumber (examples : Table Json) : Nat :=
  (examples.keys.filter isVariantName).length + 2

/-- The bodies of notes as variants that are numbered from `n` on. -/
def variants (n : Nat) (notes : List ResponseNote) : Table Json :=
  (notes.zipIdx n).map fun e => (variantName e.2, e.1.schema)

/-- Files the body of a note among named examples. -/
def fileVariant (examples : Table Json) (note : ResponseNote) : Table Json :=
  Table.insert (nextVariant examples) note.schema examples

theorem fileVariant_eq (examples : Table Json) (note : ResponseNote) :
    fileVariant examples note =
      Table.insert (variantName (nextNumber examples)) note.schema examples := rfl

/-! ### Names of variants -/

theorem isVariantName_variantName (n : Nat) : isVariantName (variantName n) = true := by
  rw [isVariantName, variantName, String.toList_append, List.isPrefixOf_iff_prefix]
  exact List.prefix_append _ _

theorem variantName_injective {m n : Nat} (h : variantName m = variantName n) : m = n := by
  have hdigits : Nat.toDigits 10 m = Nat.toDigits 10 n := by
    have hstrings : toString m = toString n := (String.append_right_inj _).1 h
    rw [Nat.toString_eq_ofList_toDigits, Nat.toString_eq_ofList_toDigits] at hstrings
    exact String.ofList_inj.1 hstrings
  calc m = Nat.ofDigitChars 10 (Nat.toDigits 10 m) 0 := Nat.ofDigitChars_ten_toDigits.symm
    _ = Nat.ofDigitChars 10 (Nat.toDigits 10 n) 0 := by rw [hdigits]
    _ = n := Nat.ofDigitChars_ten_toDigits

theorem variants_cons (n : Nat) (note : ResponseNote) (notes : List ResponseNote) :
    variants n (note :: notes) = (variantName n, note.schema) :: variants (n + 1) notes := by
  rw [variants, List.zipIdx_cons, List.map_cons, variants]

theorem values_variants (n : Nat) (notes : List ResponseNote) :
    (variants n notes).values = notes.map ResponseNote.schema := by
  induction notes generalizing n with
  | nil => rfl
  | cons note notes ih =>
      rw [variants_cons, Table.values, List.map_cons, List.map_cons, ← ih (n + 1), Table.values]

/-! ### Filing variants -/

/-- The number moves on when the variant gets a name that is not taken. -/
theorem nextNumber_fileVariant (examples : Table Json) (note : ResponseNote) :
    nextNumber (fileVariant examples note) =
      if variantName (nextNumber examples) ∈ examples.keys then nextNumber examples
      else nextNumber examples + 1 := by
  rw [nextNumber, fileVariant_eq, Table.keys_insert]
  split
  · rfl
  · rw [List.filter_append, List.length_append, List.filter_singleton, isVariantName_variantName]
    rfl

/-- Variants whose names are not taken go to the end, numbered one after the other. -/
theorem foldl_fileVariant {examples : Table Json} {notes : List ResponseNote}
    (h : ∀ i < notes.length, variantName (nextNumber examples + i) ∉ examples.keys) :
    notes.foldl fileVariant examples = examples ++ variants (nextNumber examples) notes := by
  induction notes generalizing examples with
  | nil => exact (List.append_nil _).symm
  | cons note notes ih =>
      have hnew : variantName (nextNumber examples) ∉ examples.keys := h 0 (Nat.succ_pos _)
      have hfile : fileVariant examples note =
          examples ++ [(variantName (nextNumber examples), note.schema)] :=
        Table.insert_of_not_mem hnew
      have hnext : nextNumber (fileVariant examples note) = nextNumber examples + 1 := by
        rw [nextNumber_fileVariant, if_neg hnew]
      rw [List.foldl_cons, ih, hnext, hfile, variants_cons, List.append_assoc]
      · rfl
      · intro i hi hmem
        rw [hnext, hfile, Table.keys, List.map_append, List.mem_append] at hmem
        rcases hmem with hmem | hmem
        · refine h (i + 1) (Nat.succ_lt_succ hi) ?_
          rw [← Nat.add_assoc, Nat.add_right_comm]
          exact hmem
        · have hnumber := variantName_injective (List.mem_singleton.1 hmem)
          omega

theorem length_foldl_fileVariant_le (notes : List ResponseNote) (examples : Table Json) :
    (notes.foldl fileVariant examples).length ≤ examples.length + notes.length := by
  induction notes generalizing examples with
  | nil => exact Nat.le_refl _
  | cons note notes ih =>
      have hstep : (fileVariant examples note).length ≤ examples.length + 1 := by
        rw [fileVariant_eq, Table.length_insert]
        split <;> omega
      have hrest := ih (fileVariant examples note)
      rw [List.foldl_cons, List.length_cons]
      omega

/-- When a number reaches a name that is taken, there are fewer examples in the end. -/
theorem length_foldl_fileVariant_lt {examples : Table Json} {notes : List ResponseNote} {i : Nat}
    (hi : i < notes.length) (htaken : variantName (nextNumber examples + i) ∈ examples.keys) :
    (notes.foldl fileVariant examples).length < examples.length + notes.length := by
  induction notes generalizing examples i with
  | nil => cases hi
  | cons note notes ih =>
      have hlength := Table.length_insert (variantName (nextNumber examples)) note.schema examples
      rw [← fileVariant_eq] at hlength
      rw [List.foldl_cons, List.length_cons]
      by_cases hnow : variantName (nextNumber examples) ∈ examples.keys
      · rw [if_pos hnow] at hlength
        have hrest := length_foldl_fileVariant_le notes (fileVariant examples note)
        omega
      · rw [if_neg hnow] at hlength
        -- The number moves on with the count, so the name that is taken comes one step closer.
        cases i with
        | zero => exact absurd htaken hnow
        | succ i =>
            have hlater : variantName (nextNumber (fileVariant examples note) + i) ∈
                (fileVariant examples note).keys := by
              rw [nextNumber_fileVariant, if_neg hnow, Nat.add_right_comm, fileVariant_eq,
                Table.keys_insert, if_neg hnow]
              exact List.mem_append_left _ htaken
            have hrest := ih (Nat.lt_of_succ_lt_succ hi) hlater
            omega

/-- Filing leaves the examples alone whose names are not among the next numbers. -/
theorem get?_foldl_fileVariant {examples : Table Json} {notes : List ResponseNote} {name : String}
    (h : ∀ i < notes.length, name ≠ variantName (nextNumber examples + i)) :
    (notes.foldl fileVariant examples).get? name = examples.get? name := by
  induction notes generalizing examples with
  | nil => rfl
  | cons note notes ih =>
      have hnow : name ≠ variantName (nextNumber examples) := h 0 (Nat.succ_pos _)
      rw [List.foldl_cons, ih, fileVariant_eq, Table.get?_insert, if_neg hnow]
      intro i hi
      rw [nextNumber_fileVariant]
      split
      · exact h i (Nat.lt_succ_of_lt hi)
      · rw [Nat.add_right_comm]
        exact h (i + 1) (Nat.succ_lt_succ hi)

/-! ### The response of a status code -/

/-- The response that notes for one status code amount to. -/
def Response.ofNotes (first : ResponseNote) (more : List ResponseNote) : Response :=
  ⟨first.description, some first.schema, more.foldl fileVariant (Table.collect first.named)⟩

theorem ofNotes_append_singleton (first : ResponseNote) (more : List ResponseNote)
    (note : ResponseNote) :
    Response.ofNotes first (more ++ [note]) = (Response.ofNotes first more).addVariant note := by
  rw [Response.ofNotes, List.foldl_append, List.foldl_cons, List.foldl_nil]
  rfl

/-- A note opens the response of its status code, or files a variant there. -/
theorem lookup_addResponse (note : ResponseNote) (rs : List (Nat × Response)) (code : Nat) :
    (addResponse note rs).lookup code =
      if note.status = code then
        some (((rs.lookup code).map fun response => response.addVariant note).getD (.ofNote note))
      else rs.lookup code := by
  induction rs with
  | nil => grind [addResponse]
  | cons r rs ih => grind [addResponse]

/-- A new status code goes to the end, a known one stays where it is. -/
theorem codes_addResponse (note : ResponseNote) (rs : List (Nat × Response)) :
    (addResponse note rs).map Prod.fst =
      if note.status ∈ rs.map Prod.fst then rs.map Prod.fst
      else rs.map Prod.fst ++ [note.status] := by
  induction rs with
  | nil => rfl
  | cons r rs ih => grind [addResponse]

theorem responses_append_singleton (notes : List ResponseNote) (note : ResponseNote) :
    responses (notes ++ [note]) = addResponse note (responses notes) := by
  rw [responses, List.foldl_append, List.foldl_cons, List.foldl_nil, responses]

theorem codes_responses (notes : List ResponseNote) :
    (responses notes).map Prod.fst = (notes.map ResponseNote.status).eraseDups := by
  induction notes using List.reverseRecOn with
  | nil => rfl
  | append_singleton notes note ih =>
      rw [responses_append_singleton, codes_addResponse, ih, List.map_append, List.map_singleton,
        Search.eraseDups_append_singleton]
      simp only [List.mem_eraseDups]

/-- The response of a status code comes from the notes for this code. -/
theorem lookup_responses (notes : List ResponseNote) (code : Nat) :
    (responses notes).lookup code =
      match notes.filter fun note => note.status = code with
      | [] => none
      | first :: more => some (.ofNotes first more) := by
  induction notes using List.reverseRecOn with
  | nil => rfl
  | append_singleton notes note ih =>
      rw [responses_append_singleton, lookup_addResponse, ih, List.filter_append]
      by_cases hcode : note.status = code
      · have hnote : [note].filter (fun note => note.status = code) = [note] := by simp [hcode]
        rw [if_pos hcode, hnote]
        cases notes.filter fun note => note.status = code with
        | nil => rfl
        | cons first more => exact congrArg some (ofNotes_append_singleton first more note).symm
      · have hnote : [note].filter (fun note => note.status = code) = [] := by simp [hcode]
        rw [if_neg hcode, hnote, List.append_nil]

theorem lookup_operation (d : Document) (code : Nat) :
    (operation d).responses.lookup code =
      match d.notesFor code with
      | [] => none
      | first :: more => some (.ofNotes first more) :=
  lookup_responses _ _

theorem ofNotes_of_nodup {first : ResponseNote} (hnodup : first.named.keys.Nodup)
    (more : List ResponseNote) :
    Response.ofNotes first more =
      ⟨first.description, some first.schema, more.foldl fileVariant first.named⟩ := by
  rw [Response.ofNotes, Table.collect_of_nodup hnodup]

theorem ofNotes_of_free {first : ResponseNote} {more : List ResponseNote}
    (hnodup : first.named.keys.Nodup)
    (hfree : ∀ i < more.length, variantName (nextNumber first.named + i) ∉ first.named.keys) :
    Response.ofNotes first more =
      ⟨first.description, some first.schema,
        first.named ++ variants (nextNumber first.named) more⟩ := by
  rw [ofNotes_of_nodup hnodup, foldl_fileVariant hfree]

end OpenApi

/-! ### Names that leave the numbers alone -/

open OpenApi

/-- Named examples with distinct names, none of which begins as the name of a variant does. -/
structure ResponseNote.PlainNames (note : ResponseNote) : Prop where
  nodup : note.named.keys.Nodup
  plain : ∀ name ∈ note.named.keys, isVariantName name = false

namespace ResponseNote.PlainNames

variable {note : ResponseNote}

theorem of_examples (h : note.examples = none) : note.PlainNames := by
  have hnamed : note.named = [] := by
    rw [named, h]
    rfl
  constructor
  · rw [hnamed]
    exact List.nodup_nil
  · rw [hnamed]
    simp [Table.keys]

theorem nextNumber_eq (h : note.PlainNames) : nextNumber note.named = 2 := by
  have hnone : note.named.keys.filter isVariantName = [] :=
    List.filter_eq_nil_iff.2 fun name hname => by simp [h.plain name hname]
  rw [nextNumber, hnone]
  rfl

theorem variantName_not_mem (h : note.PlainNames) (n : Nat) :
    variantName n ∉ note.named.keys := by
  intro hmem
  have hplain := h.plain _ hmem
  rw [isVariantName_variantName] at hplain
  cases hplain

end ResponseNote.PlainNames

/-- A document all of whose responses and errors have plain names. -/
def Document.PlainNames (d : Document) : Prop :=
  ∀ note ∈ d.notes.responses ++ d.notes.errors, note.PlainNames

/-- The tags of a comment give no named examples. -/
theorem Document.plainNames_ofComment (uri : String) (method : Method) (requiresAuth : Bool)
    (comment : String) : (ofComment uri method requiresAuth comment).PlainNames := by
  have hnotes : (Notes.ofComment comment).WellFormed :=
    Notes.wellFormed_empty.foldl_insert fun _ => Tag.wellFormed_of_mem_entries
  refine List.forall_mem_append.2 ⟨?_, ?_⟩
  · exact fun note hnote => .of_examples (hnotes.responses note hnote).examples_eq
  · exact fun note hnote => .of_examples (hnotes.errors note hnote).examples_eq

namespace OpenApi

/-- The responses of an operation stand in the order in which their status codes first appear. A
code has a response exactly when there is a note for it: with the description and the body of the
first note, and as named examples those of the first note and then the bodies of the further
notes, numbered from two. This is so for every document whose named examples have plain names, and
so for every document that is made from a comment. -/
theorem responses_by_status :
    (∀ d : Document, d.PlainNames →
      (operation d).responses.map Prod.fst =
        ((d.notes.responses ++ d.notes.errors).map ResponseNote.status).eraseDups ∧
      ∀ code, (operation d).responses.lookup code =
        match d.notesFor code with
        | [] => none
        | first :: more =>
            some ⟨first.description, some first.schema, first.named ++ variants 2 more⟩) ∧
    ∀ (uri : String) (method : Method) (requiresAuth : Bool) (comment : String),
      (Document.ofComment uri method requiresAuth comment).PlainNames := by
  refine ⟨?_, Document.plainNames_ofComment⟩
  intro d hd
  refine ⟨codes_responses _, ?_⟩
  intro code
  rw [lookup_operation]
  cases hnotes : d.notesFor code with
  | nil => rfl
  | cons first more =>
      have hfirst : first.PlainNames := by
        apply hd
        apply List.mem_of_mem_filter
        rw [← Document.notesFor, hnotes]
        exact List.mem_cons_self
      have hresponse := ofNotes_of_free hfirst.nodup fun i (_ : i < more.length) =>
        hfirst.variantName_not_mem _
      rw [hfirst.nextNumber_eq] at hresponse
      exact congrArg some hresponse

/-- Two responses and an error for one status code: the two further bodies become variants. -/
theorem responses_by_status_repeated :
    let first : ResponseNote := ⟨200, "OK", .null, some [("basic", .bool true)]⟩
    let d := Document.ofNotes "/" .get false ""
      { Notes.empty with
        responses := [first, ⟨404, "Not Found", .null, none⟩, ⟨200, "Fine", .int 1, none⟩]
        errors := [⟨200, "Odd", .int 2, none⟩] }
    d.PlainNames ∧ (operation d).responses.map Prod.fst = [200, 404] ∧
      (operation d).responses.lookup 200 =
        some ⟨"OK", some .null,
          [("basic", .bool true), ("variant_2", .int 1), ("variant_3", .int 2)]⟩ := by
  intro first d
  have hplain : d.PlainNames :=
    List.forall_mem_cons.2 ⟨⟨by decide, by decide⟩,
      List.forall_mem_cons.2 ⟨.of_examples rfl, List.forall_mem_cons.2 ⟨.of_examples rfl,
        List.forall_mem_singleton.2 (.of_examples rfl)⟩⟩⟩
  obtain ⟨hcodes, hlookup⟩ := responses_by_status.1 d hplain
  exact ⟨hplain, hcodes, hlookup 200⟩

/-! ### What is lost -/

/-- Notes document one body each, and their named examples besides. -/
theorem length_flatMap_bodies (notes : List ResponseNote) :
    (notes.flatMap ResponseNote.bodies).length =
      notes.length + (notes.flatMap ResponseNote.named).length := by
  induction notes with
  | nil => rfl
  | cons note notes ih =>
      rw [List.flatMap_cons, List.length_append, ih, ResponseNote.bodies, List.length_cons,
        Table.values, List.length_map, List.flatMap_cons, List.length_append, List.length_cons]
      omega

theorem flatMap_bodies_of_named {notes : List ResponseNote} (h : ∀ note ∈ notes, note.named = []) :
    notes.flatMap ResponseNote.bodies = notes.map ResponseNote.schema := by
  rw [List.map_eq_flatMap]
  apply List.flatMap_congr
  intro note hnote
  rw [ResponseNote.bodies, h note hnote]
  rfl

/-- The response has a place for each body only when the further notes have no named examples and no
number reaches a name that is taken. -/
theorem subperm_bodies_ofNotes_iff {first : ResponseNote} {more : List ResponseNote}
    (hnodup : first.named.keys.Nodup) :
    ((first :: more).flatMap ResponseNote.bodies).Subperm (Response.ofNotes first more).bodies ↔
      (∀ note ∈ more, note.named = []) ∧
        ∀ i < more.length, variantName (nextNumber first.named + i) ∉ first.named.keys := by
  constructor
  · intro hkept
    have hlength := hkept.length_le
    have hplaces : (Response.ofNotes first more).bodies.length =
        (more.foldl fileVariant first.named).length + 1 := by
      rw [ofNotes_of_nodup hnodup]
      exact congrArg Nat.succ (List.length_map _)
    have hfiled := length_foldl_fileVariant_le more first.named
    rw [length_flatMap_bodies, hplaces, List.length_cons, List.flatMap_cons,
      List.length_append] at hlength
    refine ⟨?_, ?_⟩
    · have hnone : (more.flatMap ResponseNote.named).length = 0 := by omega
      exact List.flatMap_eq_nil_iff.1 (List.length_eq_zero_iff.1 hnone)
    · intro i hi htaken
      have hless := length_foldl_fileVariant_lt hi htaken
      omega
  · rintro ⟨hnamed, hfree⟩
    have hbodies : (Response.ofNotes first more).bodies =
        first.schema :: (first.named.values ++ more.map ResponseNote.schema) := by
      rw [ofNotes_of_free hnodup hfree, ← values_variants (nextNumber first.named) more]
      exact congrArg (first.schema :: ·) List.map_append
    rw [hbodies, List.flatMap_cons, flatMap_bodies_of_named hnamed, ResponseNote.bodies,
      List.cons_append]

/-- What a response keeps of the notes for its status code. Nothing is lost, each body counted as
often as it is documented, exactly when only the first note has named examples and none of them has
the name of a variant that is filed. The examples of the first note that do not have such a name are
kept in any case. -/
theorem keeps_bodies_iff {d : Document} {code : Nat} {first : ResponseNote}
    {more : List ResponseNote} (hnotes : d.notesFor code = first :: more)
    (hnodup : first.named.keys.Nodup) :
    ∃ response, (operation d).responses.lookup code = some response ∧
      (((first :: more).flatMap ResponseNote.bodies).Subperm response.bodies ↔
        (∀ note ∈ more, note.named = []) ∧
          ∀ i < more.length, variantName (nextNumber first.named + i) ∉ first.named.keys) ∧
      ∀ name, (∀ i < more.length, name ≠ variantName (nextNumber first.named + i)) →
        response.media.examples.get? name = first.named.get? name := by
  refine ⟨.ofNotes first more, ?_, subperm_bodies_ofNotes_iff hnodup, ?_⟩
  · rw [lookup_operation, hnotes]
  · intro name hname
    rw [ofNotes_of_nodup hnodup]
    exact get?_foldl_fileVariant hname

/-- A name that begins as a variant does, and that no variant reaches: nothing is lost. -/
theorem keeps_bodies_iff_variant_2 :
    let first : ResponseNote := ⟨200, "OK", .int 1, some [("variant_2", .int 2)]⟩
    let second : ResponseNote := ⟨200, "OK", .int 3, none⟩
    let d := Document.ofNotes "/a" .get false ""
      { Notes.empty with responses := [first], errors := [second] }
    d.notesFor 200 = [first, second] ∧ first.named.keys.Nodup ∧
      ∃ response, (operation d).responses.lookup 200 = some response ∧
        ([first, second].flatMap ResponseNote.bodies).Subperm response.bodies := by
  intro first second d
  have hnotes : d.notesFor 200 = [first, second] := rfl
  have hnodup : first.named.keys.Nodup := by decide
  obtain ⟨response, hlookup, hkept, -⟩ := keeps_bodies_iff hnotes hnodup
  refine ⟨hnotes, hnodup, response, hlookup, hkept.2 ⟨?_, ?_⟩⟩
  · exact List.forall_mem_singleton.2 rfl
  · decide

/-- The second body takes the place of a named example, and the examples of the second note are
nowhere. -/
theorem bodies_lost :
    let first : ResponseNote :=
      ⟨200, "OK", .obj [("a", .int 1)], some [("variant_3", .obj [("b", .int 2)])]⟩
    let second : ResponseNote :=
      ⟨200, "OK", .obj [("c", .int 3)], some [("other", .obj [("d", .int 4)])]⟩
    let d := Document.ofNotes "/a" .get false "" { Notes.empty with responses := [first, second] }
    ∃ response, (operation d).responses.lookup 200 = some response ∧
      (∃ body ∈ first.bodies, body ∉ response.bodies) ∧
        ∃ body ∈ second.bodies, body ∉ response.bodies := by
  intro first second d
  have hname : variantName (nextNumber first.named) = "variant_3" := by decide
  have hresponse : Response.ofNotes first [second] =
      ⟨"OK", some (.obj [("a", .int 1)]), [("variant_3", .obj [("c", .int 3)])]⟩ := by
    rw [ofNotes_of_nodup (by decide), List.foldl_cons, List.foldl_nil, fileVariant_eq, hname]
    rfl
  have hlookup := (lookup_operation d 200).trans (congrArg some hresponse)
  refine ⟨_, hlookup, ⟨.obj [("b", .int 2)], ?_, ?_⟩, .obj [("d", .int 4)], ?_, ?_⟩
  · simp [first, ResponseNote.bodies, ResponseNote.named, Table.values]
  · simp [Response.bodies, Table.values]
  · simp [second, ResponseNote.bodies, ResponseNote.named, Table.values]
  · simp [Response.bodies, Table.values]

end OpenApi

end ApiNotes
