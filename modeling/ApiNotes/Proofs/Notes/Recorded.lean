import ApiNotes.Proofs.Table
import ApiNotes.Snippet.Request

/-!
# What is recorded of the entries

Entries are recorded one after the other, and each touches the notes of its own kind only. So the
notes are told by the five lists of entries of one kind: responses and errors are kept in full,
request bodies and enumerations are collected by name, and the last deprecation counts
(`ofEntries_eq`). How the kinds are mixed does not matter.

The body that snippets send is the first one of the table. Its name is the first name that the
comment gives to a request body, and its value is the last one that the comment gives to this name.
-/

namespace ApiNotes

namespace Tag

namespace Entry

/-- The response that an entry documents. -/
@[simp] def response? : Entry → Option ResponseNote
  | response note => some note
  | _ => none

/-- The error that an entry documents. -/
@[simp] def error? : Entry → Option ResponseNote
  | error note => some note
  | _ => none

/-- The request body that an entry documents. -/
@[simp] def sample? : Entry → Option SampleNote
  | sample note => some note
  | _ => none

/-- The enumeration that an entry documents. -/
@[simp] def enumeration? : Entry → Option EnumNote
  | enumeration note => some note
  | _ => none

/-- The deprecation that an entry documents. -/
@[simp] def deprecated? : Entry → Option Deprecation
  | deprecated note => some note
  | _ => none

/-- What is read off the entries of one kind is read off the list of them. -/
theorem filterMap_filter_kind {α : Type} {read : Entry → Option α} {kind : Kind}
    (h : ∀ entry, entry.kind ≠ kind → read entry = none) (entries : List Entry) :
    (entries.filter fun entry => entry.kind = kind).filterMap read = entries.filterMap read := by
  rw [List.filterMap_filter]
  apply List.filterMap_congr
  intro entry _
  by_cases hkind : entry.kind = kind
  · simp [hkind]
  · simp [hkind, h entry hkind]

end Entry

/-- The request bodies that the well-formed tags of a text document, in order. -/
def sampleNotes (text : List Char) : List SampleNote :=
  (entries text).filterMap Entry.sample?

end Tag

namespace Table

variable {α : Type}

/-- The table that values amount to when each is inserted under its name. -/
def file (name : α → String) (values : List α) : Table α :=
  collect (values.map fun v => (name v, v))

theorem file_append_singleton (name : α → String) (values : List α) (v : α) :
    file name (values ++ [v]) = insert (name v) v (file name values) := by
  rw [file, List.map_append, List.map_singleton, collect_append_singleton, file]

/-- A table of values by name: the names in the order of their first appearance, each with the
last value of this name. -/
structure KeepsLast (name : α → String) (values : List α) (t : Table α) : Prop where
  keys_eq : keys t = (values.map name).eraseDups
  get?_eq : ∀ k, get? t k = values.findRev? fun v => name v = k

theorem keepsLast_file (name : α → String) (values : List α) :
    KeepsLast name values (file name values) := by
  constructor
  · rw [file, keys_collect, List.map_map]
    rfl
  · intro k
    rw [file, get?_collect, List.findRev?_eq_find?_reverse, List.findRev?_eq_find?_reverse,
      ← List.map_reverse, List.find?_map, Option.map_map]
    exact Option.map_id'

/-- The first value of such a table has the name of the first value filed, and is the last one of
this name. -/
theorem KeepsLast.head?_values {name : α → String} {values : List α} {t : Table α}
    (h : KeepsLast name values t) :
    t.values.head? =
      values.head?.bind fun first => values.findRev? fun v => name v = name first := by
  rw [Table.head?_values, h.keys_eq]
  cases values with
  | nil => rfl
  | cons first values =>
      rw [List.map_cons, List.eraseDups_cons, List.head?_cons, Option.bind_some, h.get?_eq]
      rfl

end Table

namespace Notes

open Tag

/-- The notes, from the lists of entries of one kind. -/
theorem ofEntries_eq (entries : List Entry) :
    ofEntries entries =
      ⟨entries.filterMap Entry.response?,
        Table.file SampleNote.name (entries.filterMap Entry.sample?),
        entries.filterMap Entry.error?,
        Table.file EnumNote.field (entries.filterMap Entry.enumeration?),
        (entries.filterMap Entry.deprecated?).getLast?⟩ := by
  induction entries using List.reverseRecOn with
  | nil => rfl
  | append_singleton entries entry ih =>
      rw [ofEntries_append, List.foldl_cons, List.foldl_nil, ih]
      simp only [List.filterMap_append, List.filterMap_cons, List.filterMap_nil]
      cases entry with
      | response note => simp [insert]
      | error note => simp [insert]
      | sample note => simp [insert, Table.file_append_singleton]
      | enumeration note => simp [insert, Table.file_append_singleton]
      | deprecated note => simp [insert]

/-- What the notes of entries are: all responses and all errors, the last request body and the last
enumeration of each name, and the last deprecation. -/
structure Records (notes : Notes) (entries : List Entry) : Prop where
  responses : notes.responses = entries.filterMap Entry.response?
  errors : notes.errors = entries.filterMap Entry.error?
  samples : notes.samples.KeepsLast SampleNote.name (entries.filterMap Entry.sample?)
  enums : notes.enums.KeepsLast EnumNote.field (entries.filterMap Entry.enumeration?)
  deprecation : notes.deprecation = (entries.filterMap Entry.deprecated?).getLast?

theorem records_ofEntries (entries : List Entry) : (ofEntries entries).Records entries := by
  rw [ofEntries_eq]
  exact ⟨rfl, rfl, Table.keepsLast_file _ _, Table.keepsLast_file _ _, rfl⟩

/-- Entries that are the same kind by kind amount to the same notes. -/
theorem ofEntries_congr {entries other : List Entry}
    (h : ∀ kind, entries.filter (fun entry => entry.kind = kind) =
      other.filter fun entry => entry.kind = kind) :
    ofEntries entries = ofEntries other := by
  have hread : ∀ {α : Type} (read : Entry → Option α) (kind : Kind),
      (∀ entry, entry.kind ≠ kind → read entry = none) →
        entries.filterMap read = other.filterMap read := by
    intro α read kind hkind
    rw [← Entry.filterMap_filter_kind hkind entries, h kind, Entry.filterMap_filter_kind hkind]
  rw [ofEntries_eq, ofEntries_eq, hread Entry.response? .response, hread Entry.sample? .sample,
    hread Entry.error? .error, hread Entry.enumeration? .enumeration,
    hread Entry.deprecated? .deprecated]
  all_goals
    intro entry hkind
    cases entry <;> first | rfl | exact absurd rfl hkind

/-- The body of a request is that of the last well-formed tag with the name that the first one
has. -/
theorem body_of_ofComment {method : Method} (hmethod : method.carriesBody = true) (uri : String)
    (requiresAuth : Bool) (comment base : String) :
    (Snippet.Request.of (.ofComment uri method requiresAuth comment) base).body =
      ((sampleNotes comment.toList).head?.bind fun first =>
        (sampleNotes comment.toList).findRev? fun s => s.name = first.name).map
          SampleNote.value := by
  have hrecords := records_ofEntries (entries comment.toList)
  rw [sampleNotes, ← hrecords.samples.head?_values, Snippet.Request.of]
  exact if_pos hmethod

theorem body_eq_none_iff {method : Method} (hmethod : method.carriesBody = true) (uri : String)
    (requiresAuth : Bool) (comment base : String) :
    (Snippet.Request.of (.ofComment uri method requiresAuth comment) base).body = none ↔
      sampleNotes comment.toList = [] := by
  rw [body_of_ofComment hmethod, Option.map_eq_none_iff]
  cases sampleNotes comment.toList with
  | nil => simp
  | cons first others =>
      -- The first tag has its own name, so the search from the end finds one.
      have hfound : ((first :: others).findRev? fun s => s.name = first.name).isSome = true := by
        rw [List.findRev?_eq_find?_reverse, List.find?_isSome]
        exact ⟨first, by simp, by simp⟩
      rw [List.head?_cons, Option.bind_some]
      constructor
      · intro hnone
        rw [hnone] at hfound
        cases hfound
      · intro hnil
        cases hnil

/-- Recording keeps the responses and the errors in full and in order, the names of request bodies
and enumerations in the order of their first appearance with the last entry of each name, and the
last deprecation; only the order among the entries of one kind matters. The body of a request is
the last one with the name that the comment documents first, and there is none exactly when the
comment documents none. -/
theorem recorded_by_kind :
    (∀ entries, (ofEntries entries).Records entries) ∧
    (∀ entries other : List Entry,
      (∀ kind, entries.filter (fun entry => entry.kind = kind) =
        other.filter fun entry => entry.kind = kind) → ofEntries entries = ofEntries other) ∧
    ∀ (method : Method) (uri : String) (requiresAuth : Bool) (comment base : String),
      method.carriesBody = true →
        let body := (Snippet.Request.of (.ofComment uri method requiresAuth comment) base).body
        body = ((sampleNotes comment.toList).head?.bind fun first =>
          (sampleNotes comment.toList).findRev? fun s => s.name = first.name).map SampleNote.value ∧
        (body = none ↔ sampleNotes comment.toList = []) := by
  refine ⟨records_ofEntries, fun entries other => ofEntries_congr, ?_⟩
  intro method uri requiresAuth comment base hmethod
  exact ⟨body_of_ofComment hmethod uri requiresAuth comment base,
    body_eq_none_iff hmethod uri requiresAuth comment base⟩

/-- Three tags under two names: the body has the name of the first tag and the value of the last. -/
theorem recorded_by_kind_repeated :
    Method.put.carriesBody = true ∧
      (Snippet.Request.of (.ofComment "/" .put false
        "@LRDexample a \x7b\x7d\n@LRDexample b \x7b\x7d\n@LRDexample a \x7b\"v\":2\x7d") "").body =
          some (.obj [("v", .int 2)]) := by
  refine ⟨rfl, (recorded_by_kind.2.2 .put "/" false _ "" rfl).1.trans ?_⟩
  rfl

end Notes

end ApiNotes
