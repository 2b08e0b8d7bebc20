import ApiNotes.Proofs.Endpoint.Published
import ApiNotes.Proofs.OpenApi.Latest
import ApiNotes.Site.Serve

/-!
# Which document a site shows

A query for a snippet names a method and a URI. The URI is published before the documents are
searched, and the first document for the method at the published URI is shown. Documents have
published URIs themselves, but publishing a second time can shorten a URI: a document is found
under its own URI exactly when the URI does not end in a blank (`shows_first_iff`). Where it does,
the answer is about a shorter URI, and as the comment of a snippet for `curl` shows the URL, no
document for the shorter URI can stand in for the one asked for.

The export of the same site keeps the last document for a method at a URI. So the two views of an
endpoint come from one document exactly when the endpoint is documented once and can be found
(`shownAt_and_exportedAt_iff`).
-/

namespace ApiNotes

/-! ### Snippets of URIs with a blank at their end -/

namespace Snippet

/-- The comment of a snippet for `curl` shows the URL, and a command follows. -/
theorem exists_toList_renderCurl (r : Request) :
    ∃ command, (renderCurl r).toList =
      ("# " ++ r.method.upper ++ " ").toList ++ (r.url.toList ++ '\n' :: 'c' :: command) := by
  obtain ⟨rest, hrest⟩ : ∃ rest, curlArguments r =
      ("curl -X " ++ r.method.upper) :: ("  " ++ shellQuoted r.url) :: rest := ⟨_, rfl⟩
  rw [renderCurl, hrest]
  simp only [String.toList_append, String.toList_intercalate, List.map_cons,
    List.intercalate_cons_cons, List.append_assoc]
  exact ⟨_, rfl⟩

theorem renderCurl_ne {r r' : Request} (hmethod : r.method = r'.method) {ending : List Char}
    (hne : ending ≠ []) (hending : ∀ c ∈ ending, Uri.isSlash c = true ∨ Text.isBlank c = true)
    (hurl : r.url.toList = r'.url.toList ++ ending) : renderCurl r ≠ renderCurl r' := by
  intro heq
  obtain ⟨command, hcommand⟩ := exists_toList_renderCurl r
  obtain ⟨command', hcommand'⟩ := exists_toList_renderCurl r'
  rw [heq, hcommand', hmethod, hurl, List.append_assoc] at hcommand
  have hrest := List.append_cancel_left (List.append_cancel_left hcommand)
  -- Even if the ending begins with a line break, the command does not follow there.
  cases ending with
  | nil => exact hne rfl
  | cons c ending =>
      cases ending with
      | nil => simp at hrest
      | cons d ending =>
          obtain rfl : 'c' = d := (List.cons.inj (List.cons.inj hrest).2).1
          exact absurd (hending 'c' (by simp)) (by decide)

theorem generate_curl_ne {d d' : Document} (hmethod : d.method = d'.method) {uri : String}
    (huri : d.uri = Uri.normalize uri) (hblank : Uri.endsBlank d.uri = true)
    (huri' : d'.uri = Uri.normalize d.uri) (base : String) :
    generate d base .curl ≠ generate d' base .curl := by
  rw [huri] at hblank
  obtain ⟨ending, hne, hchars, hurl⟩ := Uri.exists_join_route_append hblank base
  rw [← huri, ← huri'] at hurl
  exact renderCurl_ne hmethod hne hchars hurl

end Snippet

theorem Method.parse_upper (method : Method) : Method.parse method.upper = .ok method := by
  cases method <;> rfl

namespace Site

/-! ### Finding a document by its own URI -/

/-- A query is answered with the snippets of a document. -/
def Shows (site : Site) (query : SnippetQuery) (d : Document) : Prop :=
  ∀ name language, Snippet.Language.parse name = .ok language →
    site.snippet name query = .text 200 (Snippet.generate d site.config.baseUrl language)

variable {site : Site} {method : Method} {uri : String} {d e : Document}

theorem shows_of_find? (h : site.find? method (Uri.normalize uri) = some d) :
    site.Shows ⟨method.upper, uri⟩ d := by
  intro name language hlanguage
  simp only [snippet, hlanguage, Method.parse_upper, h]

theorem exists_find?_of_shows (h : site.Shows ⟨method.upper, uri⟩ d) :
    ∃ e, site.find? method (Uri.normalize uri) = some e ∧
      Snippet.generate e site.config.baseUrl .curl =
        Snippet.generate d site.config.baseUrl .curl := by
  have hcurl : Snippet.Language.parse "curl" = .ok .curl := by rfl
  have hsnippet := h "curl" .curl hcurl
  simp only [snippet, hcurl, Method.parse_upper] at hsnippet
  cases hfind : site.find? method (Uri.normalize uri) with
  | none =>
      rw [hfind] at hsnippet
      have hstatus : 404 = 200 := congrArg Reply.status hsnippet
      exact absurd hstatus (by decide)
  | some e =>
      rw [hfind] at hsnippet
      exact ⟨e, rfl, congrArg Reply.body hsnippet⟩

theorem isFor_of_find? (h : site.find? method uri = some d) :
    d.method = method ∧ d.uri = uri := by
  simpa using List.find?_some h

theorem exists_find? (hd : d ∈ site.documents) :
    ∃ first, site.find? d.method d.uri = some first := by
  rw [← Option.isSome_iff_exists, find?, List.find?_isSome]
  exact ⟨d, hd, by simp⟩

/-- A document is found under its own URI exactly when the URI does not end in a blank. What is
shown is the first document for the method at the URI. -/
theorem shows_first_iff (site : Site) {d : Document} (hd : d ∈ site.documents) {uri : String}
    (huri : d.uri = Uri.normalize uri) :
    (∃ first, site.find? d.method d.uri = some first ∧
      (site.Shows ⟨d.method.upper, d.uri⟩ first ↔ Uri.endsBlank d.uri = false)) ∧
      (Uri.normalize d.uri = d.uri ↔ Uri.endsBlank d.uri = false) := by
  have hfixed := Uri.normalize_eq_self_iff huri
  obtain ⟨first, hfirst⟩ := exists_find? hd
  obtain ⟨hmethod, hfirstUri⟩ := isFor_of_find? hfirst
  refine ⟨⟨first, hfirst, ?_, ?_⟩, hfixed⟩
  · intro hshows
    rw [Bool.eq_false_iff]
    intro hblank
    obtain ⟨e, he, hsame⟩ := exists_find?_of_shows hshows
    obtain ⟨hmethod', huri'⟩ := isFor_of_find? he
    rw [← hfirstUri] at huri hblank huri'
    exact Snippet.generate_curl_ne (hmethod.trans hmethod'.symm) huri hblank huri' _ hsame.symm
  · intro hblank
    apply shows_of_find?
    rw [hfixed.2 hblank, hfirst]

/-- Two documents for one endpoint: a query for the second shows the first. -/
theorem shows_first_iff_repeated :
    let first := Document.ofComment "users/" .get true ""
    let second := Document.ofComment " /users" .get false ""
    let site : Site := ⟨[first, second], .default⟩
    second.uri = "/users" ∧ site.Shows ⟨"GET", "/users"⟩ first := by
  intro first second site
  have hd : second ∈ site.documents := by simp [site]
  have huri : second.uri = Uri.normalize " /users" := rfl
  obtain ⟨⟨shown, hfind, hshows⟩, -⟩ := shows_first_iff site hd huri
  have hfirst : site.find? second.method second.uri = some first := by rfl
  obtain rfl : shown = first := Option.some.inj (hfind.symm.trans hfirst)
  have hblank : Uri.endsBlank second.uri = false := by decide
  exact ⟨by decide, hshows.2 hblank⟩

/-- A document that is published with a blank at its end cannot be found under its own URI. -/
theorem snippet_blank_end :
    let d := Document.ofComment "a /" .get false ""
    let site : Site := ⟨[d], .default⟩
    d.uri = "/a " ∧ Uri.normalize d.uri = "/a" ∧
      site.snippet "curl" ⟨"GET", d.uri⟩ = .text 404 "No documented endpoint for GET /a" := by
  decide

/-! ### The two views of an endpoint -/

/-- The document that a query for a method at a URI shows stands at place `i`: it is the first one
for the URI as the query publishes it. -/
def ShownAt (site : Site) (method : Method) (uri : String) (i : Nat) : Prop :=
  IsLeast (Search.places (Document.isFor method (Uri.normalize uri)) site.documents) i

/-- The document whose operation is exported for a method at a URI stands at place `i`: it is the
last one. -/
def ExportedAt (site : Site) (method : Method) (uri : String) (i : Nat) : Prop :=
  IsGreatest (Search.places (Document.isFor method uri) site.documents) i

theorem ShownAt.shows {i : Nat} (h : site.ShownAt method uri i)
    (hd : site.documents[i]? = some d) : site.Shows ⟨method.upper, uri⟩ d :=
  shows_of_find? (Search.find?_of_isLeast h hd)

theorem ExportedAt.slot_eq {i : Nat} (h : site.ExportedAt method uri i)
    (hd : site.documents[i]? = some d) :
    OpenApi.slot (OpenApi.ofDocuments site.documents site.config).paths method uri =
      some (OpenApi.operation d) := by
  rw [OpenApi.ofDocuments, OpenApi.slot_foldl_addDocument, Search.findRev?_of_isGreatest h hd,
    Option.map_some]

/-- A request sends what an operation documents: the credential if the operation is secured, and
the first of the documented bodies. -/
structure Describes (operation : OpenApi.Operation) (request : Snippet.Request) : Prop where
  secured_eq : operation.secured = request.requiresAuth
  body_eq : request.body = operation.requestBody.bind fun bodies => bodies.values.head?

theorem describes_operation (d : Document) (base : String) :
    Describes (OpenApi.operation d) (.of d base) := by
  refine ⟨rfl, ?_⟩
  simp only [Snippet.Request.of, OpenApi.operation, Document.firstSample?]
  cases d.method.carriesBody with
  | false => rfl
  | true =>
      cases d.notes.samples with
      | nil => rfl
      | cons entry entries => rfl

/-- A query shows the first document of an endpoint, and the export keeps the last one. Both are
at the same place exactly when the URI does not end in a blank and no other document is for the
same method at the same URI. -/
theorem shownAt_and_exportedAt_iff (site : Site) {d : Document} (hd : d ∈ site.documents)
    {uri : String} (huri : d.uri = Uri.normalize uri) :
    (∀ i e, site.documents[i]? = some e → site.ShownAt d.method d.uri i →
      site.Shows ⟨d.method.upper, d.uri⟩ e) ∧
    (∀ i e, site.documents[i]? = some e → site.ExportedAt d.method d.uri i →
      OpenApi.slot (OpenApi.ofDocuments site.documents site.config).paths d.method d.uri =
        some (OpenApi.operation e)) ∧
    (∀ e, Describes (OpenApi.operation e) (.of e site.config.baseUrl)) ∧
    ((∃ i, site.ShownAt d.method d.uri i ∧ site.ExportedAt d.method d.uri i) ↔
      Uri.endsBlank d.uri = false ∧
        site.documents.countP (Document.isFor d.method d.uri) = 1) := by
  refine ⟨fun i e he h => h.shows he, fun i e he h => h.slot_eq he,
    fun e => describes_operation e _, ?_⟩
  have hfixed := Uri.normalize_eq_self_iff huri
  constructor
  · rintro ⟨i, hshown, hexported⟩
    -- One document at the place is for both URIs, so publishing the URI leaves it alone.
    have hsame : Uri.normalize d.uri = d.uri := by
      obtain ⟨e, he, hfor⟩ := hshown.1
      obtain ⟨e', he', hfor'⟩ := hexported.1
      obtain rfl : e = e' := Option.some.inj (he.symm.trans he')
      rw [← (Document.isFor_iff.1 hfor).2, (Document.isFor_iff.1 hfor').2]
    refine ⟨hfixed.1 hsame, ?_⟩
    obtain ⟨before, e, after, hdocuments, rfl, hfor⟩ :=
      Search.exists_append_of_mem_places hexported.1
    rw [ShownAt, hsame, hdocuments] at hshown
    rw [ExportedAt, hdocuments] at hexported
    rw [hdocuments]
    exact (Search.countP_eq_one_iff hfor).2 ⟨hshown, hexported⟩
  · rintro ⟨hblank, hcount⟩
    obtain ⟨before, after, hdocuments⟩ := List.append_of_mem hd
    have hfor : d.isFor d.method d.uri = true := Document.isFor_iff.2 ⟨rfl, rfl⟩
    refine ⟨before.length, ?_⟩
    rw [ShownAt, ExportedAt, hfixed.2 hblank, hdocuments]
    rw [hdocuments] at hcount
    exact (Search.countP_eq_one_iff hfor).1 hcount

/-- Of two endpoints, the one that is documented once has one document for both views. -/
theorem shownAt_and_exportedAt_iff_once :
    let d := Document.ofComment "users/" .post true ""
    let site : Site :=
      ⟨[.ofComment "/users" .get true "", d, .ofComment "/users" .get false ""], .default⟩
    ∃ i, site.ShownAt d.method d.uri i ∧ site.ExportedAt d.method d.uri i := by
  intro d site
  have hd : d ∈ site.documents := by simp [site]
  have huri : d.uri = Uri.normalize "users/" := rfl
  have hblank : Uri.endsBlank d.uri = false := by decide
  have hcount : site.documents.countP (Document.isFor d.method d.uri) = 1 := by decide
  exact (shownAt_and_exportedAt_iff site hd huri).2.2.2.2 ⟨hblank, hcount⟩

/-- Of two documents for one endpoint, a query shows the one that requires a credential, and the
export keeps the operation of the other. -/
theorem snippet_repeated :
    let first := Document.ofComment "/a" .get true ""
    let second := Document.ofComment "/a" .get false ""
    let site : Site := ⟨[first, second], .default⟩
    site.Shows ⟨"GET", "/a"⟩ first ∧ ¬ site.Shows ⟨"GET", "/a"⟩ second ∧
      OpenApi.slot (OpenApi.ofDocuments site.documents site.config).paths .get "/a" =
        some (OpenApi.operation second) ∧
      (OpenApi.operation first).secured = true ∧ (OpenApi.operation second).secured = false := by
  intro first second site
  refine ⟨?_, ?_, rfl, rfl, rfl⟩
  · have hfind : site.find? .get (Uri.normalize "/a") = some first := by rfl
    have hshows : site.Shows ⟨Method.get.upper, "/a"⟩ first := shows_of_find? hfind
    exact hshows
  · intro hshows
    have hsnippet := hshows "curl" .curl rfl
    revert hsnippet
    decide +kernel

end Site

end ApiNotes
