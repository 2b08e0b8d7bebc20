import ApiNotes.Proofs.Snippet.Mention

/-!
# The credential in a snippet

A snippet has the placeholder of the credential once when the endpoint needs a token, and
not at all otherwise. The URL may have braces of any kind, and the body any strings but the
placeholder itself.

Each rendering is taken apart from its left: fixed text without an opening brace begins no
placeholder, and what is put into it is followed by a character that is part of none.
-/

namespace ApiNotes

namespace Snippet

/-- How often the placeholder of the credential stands in a string. -/
def tokens (s : String) : Nat :=
  mentions s.toList

/-- The URL and the body of a request are free of the placeholder. -/
structure Discreet (r : Request) : Prop where
  url : tokens r.url = 0
  body : ∀ v ∈ r.body, v.Avoids token.toList

/-! ### Strings put together -/

theorem tokens_of_not_mem {s : String} (h : '{' ∉ s.toList) : tokens s = 0 :=
  mentions_of_not_mem h

/-- Fixed text without an opening brace does not count. -/
theorem tokens_fixed_append {s : String} (h : '{' ∉ s.toList) (t : String) :
    tokens (s ++ t) = tokens t := by
  rw [tokens, String.toList_append]
  exact mentions_append_of_not_mem h t.toList

/-- A string that begins with a character that is not in the placeholder. -/
def BeginsClear (s : String) : Prop :=
  ∃ c cs, s.toList = c :: cs ∧ c ∉ token.toList

theorem BeginsClear.append {s : String} (h : BeginsClear s) (t : String) :
    BeginsClear (s ++ t) := by
  obtain ⟨c, cs, hs, hc⟩ := h
  exact ⟨c, cs ++ t.toList, by rw [String.toList_append, hs, List.cons_append], hc⟩

theorem tokens_append {t : String} (h : BeginsClear t) (s : String) :
    tokens (s ++ t) = tokens s + tokens t := by
  obtain ⟨c, cs, ht, hc⟩ := h
  have hbrace : '{' ≠ c := by
    rintro rfl
    exact hc (by decide)
  rw [tokens, tokens, tokens, String.toList_append, ht, mentions_append_cons hc,
    mentions_cons hbrace]

/-- What is put before fixed text is counted apart. -/
theorem tokens_part_append {fixed : String} (h : BeginsClear fixed) (s t : String) :
    tokens (s ++ (fixed ++ t)) = tokens s + tokens (fixed ++ t) :=
  tokens_append (h.append t) s

/-- Fixed text that ends a line is counted apart. -/
theorem tokens_line_append {s : String} (h : ∃ cs, s.toList = cs ++ ['\n']) (t : String) :
    tokens (s ++ t) = tokens s + tokens t := by
  obtain ⟨cs, hs⟩ := h
  rw [tokens, tokens, tokens, String.toList_append, hs, List.append_assoc, List.singleton_append,
    mentions_append_cons (by decide), mentions_append_singleton (by decide)]

theorem tokens_intercalate {sep : String} (hne : sep.toList ≠ [])
    (h : sep.toList.all (fun c => !token.toList.contains c) = true) (parts : List String) :
    tokens (sep.intercalate parts) = (parts.map tokens).sum := by
  have hsep : ∀ c ∈ sep.toList, c ∉ token.toList := by
    intro c hc
    simpa using List.all_eq_true.1 h c hc
  rw [tokens, String.toList_intercalate]
  have hcount := Text.occurrences_intercalate token_ne_nil hne hsep (parts.map String.toList)
  rwa [List.map_map] at hcount

/-- The placeholder between fixed text and a quote. -/
theorem tokens_token {s : String} (h : '{' ∉ s.toList) : tokens (s ++ token ++ "'") = 1 := by
  rw [String.append_assoc, tokens_fixed_append h]
  decide

theorem tokens_shellQuoted (s : String) : tokens (shellQuoted s) = tokens s := by
  rw [tokens, shellQuoted, String.toList_ofList, mentions_quoteWith guards_shellChar]
  rfl

theorem tokens_scriptQuoted (s : String) : tokens (scriptQuoted s) = tokens s := by
  rw [tokens, scriptQuoted, String.toList_ofList, mentions_quoteWith guards_scriptChar]
  rfl

theorem tokens_phpQuoted (s : String) : tokens (phpQuoted s) = tokens s := by
  rw [tokens, phpQuoted, String.toList_ofList, mentions_phpQuote]
  rfl

section Values

variable {v : Json}

theorem tokens_pretty (h : v.Avoids token.toList) : tokens v.pretty = 0 := by
  rw [tokens, Json.pretty, String.toList_ofList]
  exact mentions_writePretty h 0

theorem tokens_indentContinuation (h : v.Avoids token.toList) (n : Nat) :
    tokens (indentContinuation n v.pretty) = 0 := by
  rw [tokens, mentions_indentContinuation]
  exact tokens_pretty h

theorem tokens_phpLiteral (h : v.Avoids token.toList) (indent : Nat) :
    tokens (phpLiteral indent v) = 0 := by
  rw [tokens, phpLiteral, String.toList_ofList]
  exact mentions_writePhp h indent

theorem tokens_pythonLiteral (h : v.Avoids token.toList) (indent : Nat) :
    tokens (pythonLiteral indent v) = 0 := by
  rw [tokens, pythonLiteral, String.toList_ofList]
  exact mentions_writePython h indent

end Values

theorem not_mem_upper (method : Method) : '{' ∉ method.upper.toList := by
  cases method <;> decide

theorem not_mem_lower (method : Method) : '{' ∉ method.lower.toList := by
  cases method <;> decide

/-! ### The renderings -/

variable {r : Request}

theorem tokens_curlArguments (h : Discreet r) :
    ((curlArguments r).map tokens).sum = if r.requiresAuth then 1 else 0 := by
  have hcall : tokens ("curl -X " ++ r.method.upper) = 0 := by
    rw [tokens_fixed_append (by decide)]
    exact tokens_of_not_mem (not_mem_upper r.method)
  have hurl : tokens ("  " ++ shellQuoted r.url) = 0 := by
    rw [tokens_fixed_append (by decide), tokens_shellQuoted, h.url]
  have hcontent : tokens "  -H 'Content-Type: application/json'" = 0 :=
    tokens_of_not_mem (by decide)
  have haccept : tokens "  -H 'Accept: application/json'" = 0 := tokens_of_not_mem (by decide)
  have hauth : tokens ("  -H 'Authorization: Bearer " ++ token ++ "'") = 1 :=
    tokens_token (by decide)
  have hbody : ∀ v ∈ r.body, tokens ("  -d " ++ shellQuoted v.pretty) = 0 := by
    intro v hv
    rw [tokens_fixed_append (by decide), tokens_shellQuoted, tokens_pretty (h.body v hv)]
  rw [curlArguments]
  cases r.requiresAuth with
  | false => cases hcase : r.body <;> simp [hcall, hurl, hcontent, haccept, hbody, hcase]
  | true => cases hcase : r.body <;> simp [hcall, hurl, hcontent, haccept, hauth, hbody, hcase]

theorem tokens_renderCurl (h : Discreet r) :
    tokens (renderCurl r) = if r.requiresAuth then 1 else 0 := by
  simp only [renderCurl, String.append_assoc]
  rw [tokens_fixed_append (by decide), tokens_fixed_append (not_mem_upper _),
    tokens_fixed_append (by decide), tokens_part_append ⟨_, _, rfl, by decide⟩, h.url,
    tokens_fixed_append (by decide), tokens_intercalate (by decide) (by decide),
    tokens_curlArguments h, Nat.zero_add]

theorem tokens_headerEntries (r : Request) :
    tokens (headerEntries r) = if r.requiresAuth then 1 else 0 := by
  have hcontent : tokens "    'Content-Type': 'application/json'" = 0 :=
    tokens_of_not_mem (by decide)
  have haccept : tokens "    'Accept': 'application/json'" = 0 := tokens_of_not_mem (by decide)
  have hauth : tokens ("    'Authorization': 'Bearer " ++ token ++ "'") = 1 :=
    tokens_token (by decide)
  rw [headerEntries, tokens_intercalate (by decide) (by decide)]
  cases r.requiresAuth <;> simp [hcontent, haccept, hauth]

theorem tokens_renderJavaScript (h : Discreet r) :
    tokens (renderJavaScript r) = if r.requiresAuth then 1 else 0 := by
  have hmethod : tokens ("  method: '" ++ (r.method.upper ++ "'")) = 0 := by
    rw [tokens_fixed_append (by decide), tokens_fixed_append (not_mem_upper _),
      tokens_of_not_mem (by decide)]
  have hheaders : tokens ("  headers: \x7b\n" ++ (headerEntries r ++ "\n  \x7d")) =
      if r.requiresAuth then 1 else 0 := by
    have hopen : tokens "  headers: \x7b\n" = 0 := by decide
    have hclose : tokens "\n  \x7d" = 0 := by decide
    rw [tokens_line_append ⟨"  headers: \x7b".toList, rfl⟩, tokens_append ⟨_, _, rfl, by decide⟩,
      tokens_headerEntries, hopen, hclose, Nat.zero_add, Nat.add_zero]
  have hbody : ∀ v ∈ r.body,
      tokens ("  body: JSON.stringify(" ++ (indentContinuation 2 v.pretty ++ ")")) = 0 := by
    intro v hv
    rw [tokens_fixed_append (by decide), tokens_append ⟨_, _, rfl, by decide⟩,
      tokens_indentContinuation (h.body v hv), tokens_of_not_mem (by decide)]
  have hopen : tokens ", \x7b\n" = 0 := by decide
  simp only [renderJavaScript, String.append_assoc]
  rw [tokens_fixed_append (by decide), tokens_part_append ⟨_, _, rfl, by decide⟩,
    tokens_scriptQuoted, h.url, tokens_line_append ⟨", \x7b".toList, rfl⟩, hopen,
    tokens_part_append ⟨_, _, rfl, by decide⟩, tokens_intercalate (by decide) (by decide),
    tokens_fixed_append (by decide), tokens_fixed_append (by decide),
    tokens_fixed_append (by decide), tokens_of_not_mem (by decide)]
  cases hcase : r.body <;> simp [hmethod, hheaders, hbody, hcase]

theorem tokens_renderPhp (h : Discreet r) :
    tokens (renderPhp r) = if r.requiresAuth then 1 else 0 := by
  have hreceiver : ∀ call, tokens call = 0 →
      tokens ((if r.requiresAuth then "Http::withToken('" ++ (token ++ "')\n    ->")
        else "Http::") ++ call) = if r.requiresAuth then 1 else 0 := by
    intro call hcall
    have hone : tokens token = 1 := by decide
    cases r.requiresAuth with
    | false => rw [if_neg (by decide), if_neg (by decide), tokens_fixed_append (by decide), hcall]
    | true =>
        rw [if_pos rfl, if_pos rfl, String.append_assoc, String.append_assoc,
          tokens_fixed_append (by decide), tokens_part_append ⟨_, _, rfl, by decide⟩, hone,
          tokens_fixed_append (by decide), hcall]
  have hcall : ∀ behind, BeginsClear behind → tokens behind = 0 →
      tokens (r.method.lower ++ ("(" ++ (phpQuoted r.url ++ behind))) = 0 := by
    intro behind hclear hbehind
    rw [tokens_fixed_append (not_mem_lower _), tokens_fixed_append (by decide),
      tokens_append hclear, tokens_phpQuoted, h.url, hbehind]
  have hend : tokens (");\n\n" ++ "$data = $response->json();") = 0 := by
    rw [tokens_fixed_append (by decide), tokens_of_not_mem (by decide)]
  unfold renderPhp
  simp only [String.append_assoc]
  rw [tokens_fixed_append (by decide), tokens_fixed_append (by decide)]
  apply hreceiver
  apply hcall
  · cases r.body with
    | none =>
        rw [String.empty_append]
        exact BeginsClear.append ⟨_, _, rfl, by decide⟩ _
    | some body => exact (BeginsClear.append ⟨_, _, rfl, by decide⟩ _).append _
  · cases hcase : r.body with
    | none => rw [String.empty_append, hend]
    | some body =>
        rw [String.append_assoc, tokens_fixed_append (by decide),
          tokens_part_append ⟨_, _, rfl, by decide⟩, tokens_phpLiteral (h.body body hcase), hend]

theorem tokens_renderPython (h : Discreet r) :
    tokens (renderPython r) = if r.requiresAuth then 1 else 0 := by
  have hopen : tokens "\nheaders = \x7b\n" = 0 := by decide
  have hclose : tokens "\n\x7d\n\n" = 0 := by decide
  have hcall : ∀ arguments, '{' ∉ arguments.toList →
      tokens ("response = requests." ++ (r.method.lower ++ ("(url, headers=headers" ++
        (arguments ++ "print(response.json())")))) = 0 := by
    intro arguments harguments
    rw [tokens_fixed_append (by decide), tokens_fixed_append (not_mem_lower _),
      tokens_fixed_append (by decide), tokens_fixed_append harguments,
      tokens_of_not_mem (by decide)]
  unfold renderPython
  simp only [String.append_assoc]
  rw [tokens_fixed_append (by decide), tokens_part_append ⟨_, _, rfl, by decide⟩,
    tokens_scriptQuoted, h.url, tokens_line_append ⟨"\nheaders = \x7b".toList, rfl⟩, hopen,
    tokens_part_append ⟨_, _, rfl, by decide⟩, tokens_headerEntries,
    tokens_line_append ⟨"\n\x7d\n".toList, rfl⟩, hclose]
  simp only [Nat.zero_add, Nat.add_eq_left]
  cases hcase : r.body with
  | none =>
      simp only [String.append_assoc]
      exact hcall ")\n" (by decide)
  | some body =>
      simp only [String.append_assoc]
      rw [tokens_fixed_append (by decide), tokens_part_append ⟨_, _, rfl, by decide⟩,
        tokens_pythonLiteral (h.body body hcase), tokens_fixed_append (by decide),
        hcall ", json=data)\n" (by decide)]

theorem tokens_render (h : Discreet r) (language : Language) :
    tokens (render language r) = if r.requiresAuth then 1 else 0 := by
  cases language with
  | curl => exact tokens_renderCurl h
  | javascript => exact tokens_renderJavaScript h
  | php => exact tokens_renderPhp h
  | python => exact tokens_renderPython h

theorem discreet_of {d : Document} {base : String} (hbase : ¬ token.toList <:+: base.toList)
    (hsample : ∀ note, d.firstSample? = some note → note.value.Avoids token.toList) :
    Discreet (.of d base) := by
  refine ⟨mentions_url hbase d.uri, ?_⟩
  intro v hv
  simp only [Request.of] at hv
  split_ifs at hv
  · obtain ⟨note, hnote, rfl⟩ := Option.map_eq_some_iff.1 hv
    exact hsample note hnote
  · cases hv

/-- The snippet for any document, under a base URL without the placeholder of the credential
and with a request body whose strings and keys are without it, has the placeholder exactly
once if the endpoint needs a token, and not at all otherwise. -/
theorem occurrences_token_generate (d : Document) (base : String) (language : Language)
    (hbase : ¬ token.toList <:+: base.toList)
    (hsample : ∀ note, d.firstSample? = some note → note.value.Avoids token.toList) :
    Text.occurrences token.toList (generate d base language).toList =
      if d.requiresAuth then 1 else 0 :=
  tokens_render (discreet_of hbase hsample) language

theorem occurrences_token_generate_reset :
    Text.occurrences token.toList
      (generate (.ofNotes "/reset/\x7btoken\x7d/\x7b\x7btoken\x7d\x7d" .post true ""
          { Notes.empty with
            samples := [("a", ⟨"a", .obj [("\x7btoke", .str "n\x7d")]⟩)] })
        "https://api.test/\x7btoken" .javascript).toList = 1 := by
  apply occurrences_token_generate
  · decide
  · intro note hnote
    obtain rfl := Option.some.inj hnote
    refine .obj ?_ ?_
    · decide
    · intro m hm
      obtain rfl := List.mem_singleton.1 hm
      exact .str (by decide)

end Snippet

end ApiNotes
