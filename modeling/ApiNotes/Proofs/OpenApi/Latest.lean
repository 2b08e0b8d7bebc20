import ApiNotes.OpenApi.Export
import ApiNotes.Proofs.Search
import Mathlib.Data.List.Induction

/-!
# The latest document of an endpoint is exported

The export adds one document after the other to a table of paths. What one document does to the
table is said once: it sets the slot of its method at its URI and leaves every other slot as it
is (`slot_addDocument`), and its URI goes to the end of the paths unless it is there already
(`keys_addDocument`). So after all documents the paths stand in the order in which their URIs
first appeared, and each slot holds the operation of the last document for it
(`ofDocuments_latest`).

The security scheme is defined when some document needs it, also one whose operation was replaced
later. References to the scheme and its definition are looked up in the JSON forms.
-/

namespace ApiNotes

/-- Whether a document is for a method at a URI. -/
def Document.isFor (method : Method) (uri : String) (d : Document) : Bool :=
  d.method = method ∧ d.uri = uri

theorem Document.isFor_iff {method : Method} {uri : String} {d : Document} :
    d.isFor method uri = true ↔ d.method = method ∧ d.uri = uri :=
  decide_eq_true_iff

namespace OpenApi

/-- The operation of a method at a path. -/
def slot (paths : Table PathItem) (method : Method) (uri : String) : Option Operation :=
  (Table.get? paths uri).bind fun item => item.operation? method

/-! ### One document -/

theorem keys_addDocument (paths : Table PathItem) (d : Document) :
    (addDocument paths d).keys =
      if d.uri ∈ paths.keys then paths.keys else paths.keys ++ [d.uri] :=
  Table.keys_insert _ _ _

/-- A document sets its own slot and no other. -/
theorem slot_addDocument (paths : Table PathItem) (d : Document) (method : Method) (uri : String) :
    slot (addDocument paths d) method uri =
      if d.isFor method uri then some (operation d) else slot paths method uri := by
  rw [slot, addDocument, Table.get?_insert]
  by_cases huri : uri = d.uri
  · subst huri
    rw [if_pos rfl, Option.bind_some, PathItem.operation?_set]
    by_cases hmethod : method = d.method
    · rw [if_pos hmethod, if_pos (Document.isFor_iff.2 ⟨hmethod.symm, rfl⟩)]
    · rw [if_neg hmethod, if_neg fun hfor => hmethod (Document.isFor_iff.1 hfor).1.symm, slot]
      -- A path that is new has no operations.
      cases Table.get? paths d.uri with
      | none => cases method <;> rfl
      | some item => rfl
  · rw [if_neg huri, if_neg fun hfor => huri (Document.isFor_iff.1 hfor).2.symm, slot]

/-! ### All documents -/

theorem keys_foldl_addDocument (documents : List Document) :
    (documents.foldl addDocument []).keys = (documents.map Document.uri).eraseDups := by
  induction documents using List.reverseRecOn with
  | nil => rfl
  | append_singleton documents d ih =>
      rw [List.foldl_append, List.foldl_cons, List.foldl_nil, keys_addDocument, ih,
        List.map_append, List.map_singleton, Search.eraseDups_append_singleton]
      simp only [List.mem_eraseDups]

theorem slot_foldl_addDocument (documents : List Document) (method : Method) (uri : String) :
    slot (documents.foldl addDocument []) method uri =
      (documents.findRev? (Document.isFor method uri)).map operation := by
  induction documents using List.reverseRecOn with
  | nil => rfl
  | append_singleton documents d ih =>
      rw [List.foldl_append, List.foldl_cons, List.foldl_nil, slot_addDocument, ih,
        Search.findRev?_append_singleton]
      cases d.isFor method uri with
      | true => rfl
      | false => rfl

/-! ### The security scheme -/

/-- The JSON form of an operation lists a security scheme among its requirements. -/
def Requires (operation : Json) (scheme : String) : Prop :=
  ∃ requirements, operation.field? "security" = some (.arr requirements) ∧
    ∃ requirement ∈ requirements, (requirement.field? scheme).isSome = true

/-- The JSON form of a document defines a security scheme. -/
def Defines (api : Json) (scheme : String) : Prop :=
  ∃ components schemes, api.field? "components" = some components ∧
    components.field? "securitySchemes" = some schemes ∧ (schemes.field? scheme).isSome = true

theorem lookup_member? {key other : String} (hne : (other == key) = false) (v : Option Json) :
    List.lookup other (member? key v) = none := by
  cases v with
  | none => rfl
  | some v => simp only [member?, List.lookup_cons, List.lookup_nil, hne]

theorem requires_toJson_iff (operation : Operation) :
    Requires operation.toJson schemeName ↔ operation.secured = true := by
  have hfield : operation.toJson.field? "security" =
      if operation.secured then some (.arr [.obj [(schemeName, .arr [])]]) else none := by
    simp only [Operation.toJson, Json.field?, Table.get?, List.lookup_append]
    rw [lookup_member? (by decide), lookup_member? (by decide)]
    cases operation.responses.isEmpty <;> cases operation.deprecated <;>
      cases operation.secured <;> cases operation.enums.isEmpty <;> rfl
  rw [Requires, hfield]
  cases operation.secured with
  | false => simp
  | true => simp [Json.field?, Table.get?]

theorem defines_toJson_iff (api : Api) :
    Defines api.toJson schemeName ↔ api.bearerScheme = true := by
  have hfield : api.toJson.field? "components" =
      if api.bearerScheme then some componentsJson else none := by
    simp only [Api.toJson, Json.field?, Table.get?, List.lookup_append]
    cases api.servers.isEmpty <;> cases api.bearerScheme <;> rfl
  rw [Defines, hfield]
  cases api.bearerScheme with
  | false => simp
  | true => simp [componentsJson, Json.field?, Table.get?]

/-- An exported operation that needs authentication comes from a document that does. -/
theorem exists_requiresAuth {documents : List Document} {method : Method} {uri : String}
    {op : Operation} (hslot : slot (documents.foldl addDocument []) method uri = some op)
    (hsecured : op.secured = true) : ∃ d ∈ documents, d.requiresAuth = true := by
  rw [slot_foldl_addDocument] at hslot
  obtain ⟨d, hd, rfl⟩ := Option.map_eq_some_iff.1 hslot
  rw [List.findRev?_eq_find?_reverse] at hd
  exact ⟨d, List.mem_reverse.1 (List.mem_of_find?_eq_some hd), hsecured⟩

/-- The paths of an export are the URIs of the documents in the order of their first appearance.
Each slot holds the operation of the last document for it, and is empty if there is none. A
security scheme that an operation requires is defined. -/
theorem ofDocuments_latest (documents : List Document) (config : Config) :
    (ofDocuments documents config).paths.keys = (documents.map Document.uri).eraseDups ∧
      (∀ method uri, slot (ofDocuments documents config).paths method uri =
        (documents.findRev? (Document.isFor method uri)).map operation) ∧
      ∀ method uri op, slot (ofDocuments documents config).paths method uri = some op →
        Requires op.toJson schemeName →
          Defines (ofDocuments documents config).toJson schemeName := by
  refine ⟨keys_foldl_addDocument documents, slot_foldl_addDocument documents, ?_⟩
  intro method uri op hslot hrequires
  rw [defines_toJson_iff]
  exact List.any_eq_true.2 (exists_requiresAuth hslot ((requires_toJson_iff op).1 hrequires))

end OpenApi

end ApiNotes
