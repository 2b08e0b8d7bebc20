import ApiNotes.Proofs.Endpoint.Placeholder
import ApiNotes.Proofs.Text.Trim
import ApiNotes.Snippet.Request

/-!
# The parameters of URIs, routes and URLs

A parameter is a placeholder whose content is an identifier, with an optional question mark behind
it (`parameterOf?`). So the parameters of a URI are found among the placeholders that its route
writes with a colon (`Rewrites.parameters_eq`).

A route has no parameters. What could be read as one in it has no colon, so it lies in a text
between two placeholders, and it would have been a placeholder itself
(`Rewrites.parameters_result`). In a URL the slash behind the base keeps the two apart.
-/

namespace ApiNotes

namespace Uri

variable {x name front rest behind text result : List Char} {xs : List (List Char)}

/-! ### The parameter of a placeholder -/

/-- Whether a text is an identifier: a letter or an underscore, and then such or digits. -/
def isIdentifier : List Char → Bool
  | [] => false
  | c :: cs => (c.isAlpha || c == '_') && cs.all fun d => d.isAlphanum || d == '_'

/-- The parameter of a placeholder whose content is an identifier, with an optional question mark
behind it. -/
def parameterOf? (x : List Char) : Option (List Char) :=
  let name := if x.getLast? = some '?' then x.dropLast else x
  if isIdentifier name then some name else none

theorem isAlpha_or_of_isWordChar {c : Char} (h : Text.isWordChar c = true) :
    (c.isAlpha || c == '_') = !c.isDigit := by
  rw [Text.isWordChar, Char.isAlphanum] at h
  cases hdigit : c.isDigit with
  | false => simpa [hdigit] using h
  | true =>
      have hbounds : 48 ≤ c.toNat ∧ c.toNat ≤ 57 := by
        simpa [Char.isDigit, UInt32.le_iff_toNat_le] using hdigit
      have hline : c ≠ '_' := by
        rintro rfl
        exact absurd hbounds (by decide)
      have halpha : c.isAlpha = false := by
        have hletters : ¬ (65 ≤ c.toNat ∧ c.toNat ≤ 90) ∧ ¬ (97 ≤ c.toNat ∧ c.toNat ≤ 122) := by
          omega
        delta Char.isAlpha Char.isUpper Char.isLower
        simpa [UInt32.le_iff_toNat_le] using hletters
      simp [halpha, hline]

/-- An identifier is a run of word characters that does not begin with a digit. -/
theorem isIdentifier_eq (name : List Char) : (∀ c ∈ name, Text.isWordChar c = true) →
    isIdentifier name = match name with
      | [] => false
      | c :: _ => !c.isDigit := by
  intro hname
  cases name with
  | nil => rfl
  | cons c cs =>
      obtain ⟨hc, hcs⟩ := List.forall_mem_cons.1 hname
      have hall : (cs.all fun d => d.isAlphanum || d == '_') = true := List.all_eq_true.2 hcs
      rw [isIdentifier, isAlpha_or_of_isWordChar hc, hall, Bool.and_true]

theorem isWordChar_of_isIdentifier (h : isIdentifier name = true) :
    ∀ c ∈ name, Text.isWordChar c = true := by
  cases name with
  | nil => exact fun c hc => absurd hc List.not_mem_nil
  | cons c cs =>
      rw [isIdentifier, Bool.and_eq_true, List.all_eq_true] at h
      refine List.forall_mem_cons.2 ⟨?_, h.2⟩
      rw [Text.isWordChar, Char.isAlphanum, Bool.or_right_comm, h.1, Bool.true_or]

theorem parameterOf?_eq_some_iff : parameterOf? x = some name ↔
    isIdentifier name = true ∧ (x = name ∨ x = name ++ ['?']) := by
  rw [parameterOf?]
  constructor
  · intro h
    split_ifs at h with hmark hname hname
    · obtain rfl := Option.some.inj h
      obtain ⟨front, rfl⟩ := List.getLast?_eq_some_iff.1 hmark
      rw [List.dropLast_concat] at hname ⊢
      exact ⟨hname, Or.inr rfl⟩
    · obtain rfl := Option.some.inj h
      exact ⟨hname, Or.inl rfl⟩
  · rintro ⟨hname, rfl | rfl⟩
    · have hmark : x.getLast? ≠ some '?' := by
        intro hlast
        have hword := isWordChar_of_isIdentifier hname _ (List.mem_of_getLast? hlast)
        exact absurd hword (by decide)
      simp [hmark, hname]
    · simp [hname]

theorem parameter?_brace (cs : List Char) :
    parameter? ('{' :: cs) =
      match cs.dropWhile Text.isWordChar with
      | '}' :: _ =>
        if isIdentifier (cs.takeWhile Text.isWordChar) then some (cs.takeWhile Text.isWordChar)
        else none
      | '?' :: '}' :: _ =>
        if isIdentifier (cs.takeWhile Text.isWordChar) then some (cs.takeWhile Text.isWordChar)
        else none
      | _ => none := by
  rw [isIdentifier_eq _ fun c hc => List.mem_takeWhile_imp hc]
  rfl

theorem exists_of_parameter? (h : parameter? text = some name) :
    isIdentifier name = true ∧ ∃ x behind, (x = name ∨ x = name ++ ['?']) ∧
      text = placeholder x ++ behind := by
  obtain ⟨cs, rfl⟩ : ∃ cs, text = '{' :: cs := by
    unfold parameter? at h
    split at h
    · next cs => exact ⟨cs, rfl⟩
    · cases h
  have hcs : cs.takeWhile Text.isWordChar ++ cs.dropWhile Text.isWordChar = cs :=
    List.takeWhile_append_dropWhile
  rw [parameter?_brace] at h
  split at h
  · next behind hbehind =>
    split_ifs at h with hname
    obtain rfl := Option.some.inj h
    refine ⟨hname, _, behind, Or.inl rfl, ?_⟩
    rw [placeholder_append, ← hbehind, hcs]
  · next behind hbehind =>
    split_ifs at h with hname
    obtain rfl := Option.some.inj h
    refine ⟨hname, _, behind, Or.inr rfl, ?_⟩
    rw [placeholder_append, List.append_assoc, List.singleton_append, ← hbehind, hcs]
  · cases h

theorem parameter?_placeholder (hname : isIdentifier name = true)
    (hx : x = name ∨ x = name ++ ['?']) (behind : List Char) :
    parameter? (placeholder x ++ behind) = some name := by
  have hword := isWordChar_of_isIdentifier hname
  rw [placeholder_append, parameter?_brace]
  rcases hx with rfl | rfl
  · have hstop : ∀ c ∈ ('}' :: behind).head?, Text.isWordChar c = false := by
      simp [Text.isWordChar]
    obtain ⟨htake, hdrop⟩ := Text.span_append hword hstop
    simp only [htake, hdrop, if_pos hname]
  · have hstop : ∀ c ∈ ('?' :: '}' :: behind).head?, Text.isWordChar c = false := by
      simp [Text.isWordChar]
    obtain ⟨htake, hdrop⟩ := Text.span_append hword hstop
    rw [List.append_assoc, List.singleton_append]
    simp only [htake, hdrop, if_pos hname]

theorem parameter?_eq_some_iff : parameter? text = some name ↔
    isIdentifier name = true ∧ ∃ x behind, (x = name ∨ x = name ++ ['?']) ∧
      text = placeholder x ++ behind := by
  constructor
  · exact exists_of_parameter?
  · rintro ⟨hname, x, behind, hx, rfl⟩
    exact parameter?_placeholder hname hx behind

theorem ne_of_mem_parameter {c d : Char} (hname : isIdentifier name = true)
    (hx : x = name ∨ x = name ++ ['?']) (hc : c ∈ x) (hd : Text.isWordChar d = false)
    (hmark : d ≠ '?') : c ≠ d := by
  rintro rfl
  have hword : c ∉ name := by
    intro hmem
    rw [isWordChar_of_isIdentifier hname c hmem] at hd
    cases hd
  rcases hx with rfl | rfl
  · exact hword hc
  · rcases List.mem_append.1 hc with hc | hc
    · exact hword hc
    · exact hmark (List.mem_singleton.1 hc)

theorem isContent_of_parameter (hname : isIdentifier name = true)
    (hx : x = name ∨ x = name ++ ['?']) : IsContent x := by
  constructor
  · rintro rfl
    rcases hx with rfl | hx
    · cases hname
    · simp at hx
  · intro c hc
    exact ⟨ne_of_mem_parameter hname hx hc (by decide) (by decide),
      ne_of_mem_parameter hname hx hc (by decide) (by decide),
      ne_of_mem_parameter hname hx hc (by decide) (by decide)⟩

/-- A parameter ends before a character that it cannot hold. -/
theorem exists_of_parameter_append {c : Char} (hname : isIdentifier name = true)
    (hx : x = name ∨ x = name ++ ['?']) (hc : Text.isWordChar c = false)
    (hmarks : c ∉ ['?', '{', '}']) (h : front ++ c :: rest = placeholder x ++ behind) :
    ∃ between, front = placeholder x ++ between := by
  simp only [List.mem_cons, List.not_mem_nil, or_false, not_or] at hmarks
  have hmem : c ∉ x := fun hcx => ne_of_mem_parameter hname hx hcx hc hmarks.1 rfl
  have hplaceholder : c ∉ placeholder x := by
    simp [placeholder, hmem, hmarks.2.1, hmarks.2.2]
  obtain ⟨between, hfront, -⟩ := Text.exists_append_of_not_mem hplaceholder h.symm
  exact ⟨between, hfront⟩

theorem IsContent.parameter?_eq (hx : IsContent x) (behind : List Char) :
    parameter? (placeholder x ++ behind) = parameterOf? x := by
  refine Option.ext fun name => ?_
  rw [parameter?_eq_some_iff, parameterOf?_eq_some_iff]
  constructor
  · rintro ⟨hname, y, behind', hy, htext⟩
    have hcontent := isContent_of_parameter hname hy
    obtain ⟨rfl, -⟩ := placeholder_inj hx.not_mem_close hcontent.not_mem_close htext
    exact ⟨hname, hy⟩
  · rintro ⟨hname, hx⟩
    exact ⟨hname, x, behind, hx, rfl⟩

theorem opens_of_parameter? (h : parameter? text = some name) : Opens text := by
  obtain ⟨hname, x, behind, hx, htext⟩ := parameter?_eq_some_iff.1 h
  exact ⟨x, behind, isContent_of_parameter hname hx, htext⟩

/-! ### The parameters of a text -/

theorem parameters_cons (c : Char) (cs : List Char) :
    parameters (c :: cs) =
      ((parameter? (c :: cs)).map String.ofList).toList ++ parameters cs := by
  rw [parameters]
  cases parameter? (c :: cs) with
  | none => rfl
  | some name => rfl

/-- Text in which no parameter starts adds none. -/
theorem parameters_append
    (h : ∀ part, part <:+ front → part ≠ [] → parameter? (part ++ rest) = none) :
    parameters (front ++ rest) = parameters rest := by
  induction front with
  | nil => rfl
  | cons c front ih =>
      have hc := h (c :: front) List.suffix_rfl (List.cons_ne_nil c front)
      rw [List.cons_append] at hc
      rw [List.cons_append, parameters_cons, hc]
      exact ih fun part hpart hne => h part (hpart.trans (List.suffix_cons c front)) hne

theorem parameters_append_of_not_mem (h : '{' ∉ front) (rest : List Char) :
    parameters (front ++ rest) = parameters rest := by
  refine parameters_append fun part hpart hne => ?_
  obtain ⟨c, part, rfl⟩ := List.exists_cons_of_ne_nil hne
  have hc : c ≠ '{' := by
    rintro rfl
    exact h (hpart.subset List.mem_cons_self)
  rw [List.cons_append, parameter?]
  rintro cs hcs
  exact hc (List.cons.inj hcs).1

theorem Unopened.parameters_append (h : Unopened front rest) :
    parameters (front ++ rest) = parameters rest := by
  refine Uri.parameters_append fun part hpart hne => ?_
  refine Option.eq_none_iff_forall_ne_some.2 fun name hname => ?_
  exact h part hpart hne (opens_of_parameter? hname)

theorem IsContent.parameters_append (hx : IsContent x) (behind : List Char) :
    parameters (placeholder x ++ behind) =
      ((parameterOf? x).map String.ofList).toList ++ parameters behind := by
  have hmem : '{' ∉ x ++ ['}'] := by
    simp [hx.not_mem_open]
  have hparameter := hx.parameter?_eq behind
  rw [placeholder, List.cons_append] at hparameter ⊢
  rw [parameters_cons, hparameter, parameters_append_of_not_mem hmem]

theorem parameters_suffix (front rest : List Char) :
    parameters rest <:+ parameters (front ++ rest) := by
  induction front with
  | nil => exact List.suffix_rfl
  | cons c front ih =>
      rw [List.cons_append, parameters_cons]
      exact ih.trans (List.suffix_append _ _)

/-- A text without parameters holds the placeholder of none. -/
theorem not_infix_of_parameters_eq_nil (h : parameters text = [])
    (hx : parameterOf? x = some name) : ¬ placeholder x <:+: text := by
  rintro ⟨front, behind, rfl⟩
  have hcontent : IsContent x := by
    obtain ⟨hname, hx⟩ := parameterOf?_eq_some_iff.1 hx
    exact isContent_of_parameter hname hx
  have hsuffix := parameters_suffix front (placeholder x ++ behind)
  rw [← List.append_assoc, h, hcontent.parameters_append, hx] at hsuffix
  exact absurd (List.suffix_nil.1 hsuffix) (by simp)

/-! ### URIs, routes and URLs -/

/-- The parameters of a text are those of its placeholders. -/
theorem Rewrites.parameters_eq (h : Rewrites text xs result) :
    parameters text = (xs.filterMap parameterOf?).map String.ofList := by
  induction h with
  | rest hnone =>
      have hall := hnone.parameters_append
      rwa [List.append_nil] at hall
  | @next front x behind result xs hx hfront _ ih =>
      rw [hfront.parameters_append, hx.parameters_append, ih, List.filterMap_cons]
      cases parameterOf? x with
      | none => rfl
      | some name => rfl

/-- What is left in place of placeholders is no parameter. -/
theorem Rewrites.parameters_result (h : Rewrites text xs result) : parameters result = [] := by
  induction h with
  | rest hnone =>
      have hall := hnone.parameters_append
      rwa [List.append_nil] at hall
  | @next front x behind result xs hx hfront _ ih =>
      have hopen : '{' ∉ ':' :: x := by
        simp [hx.not_mem_open]
      have hcolon : ∀ part, part <:+ front → part ≠ [] →
          parameter? (part ++ (':' :: x ++ result)) = none := by
        intro part hpart hne
        refine Option.eq_none_iff_forall_ne_some.2 fun name hread => ?_
        -- A parameter has no colon, so it lies before the colon that was put here.
        obtain ⟨hname, y, behind', hy, htext⟩ := parameter?_eq_some_iff.1 hread
        obtain ⟨between, rfl⟩ :=
          exists_of_parameter_append hname hy (by decide) (by decide) htext
        refine hfront _ hpart hne ⟨y, between ++ (placeholder x ++ behind), ?_, ?_⟩
        · exact isContent_of_parameter hname hy
        · rw [List.append_assoc]
      rw [parameters_append hcolon, parameters_append_of_not_mem hopen, ih]

theorem Rewrites.infix_result (h : Rewrites text xs result) (hx : x ∈ xs) :
    ':' :: x <:+: result := by
  induction h with
  | rest => cases hx
  | @next front y behind result xs _ _ _ ih =>
      rcases List.mem_cons.1 hx with rfl | hx
      · exact ⟨front, result, by simp⟩
      · exact (ih hx).trans ((List.suffix_append _ _).trans (List.suffix_append _ _)).isInfix

theorem Rewrites.infix_of_mem_parameters (h : Rewrites text xs result) {name : String}
    (hname : name ∈ parameters text) : ':' :: name.toList <:+: result := by
  rw [h.parameters_eq, List.mem_map] at hname
  obtain ⟨chars, hchars, rfl⟩ := hname
  obtain ⟨x, hx, hchars⟩ := List.mem_filterMap.1 hchars
  have hpre : chars <+: x := by
    obtain ⟨-, rfl | rfl⟩ := parameterOf?_eq_some_iff.1 hchars
    · exact List.prefix_rfl
    · exact List.prefix_append chars ['?']
  rw [String.toList_ofList]
  exact (List.cons_prefix_cons.2 ⟨rfl, hpre⟩).isInfix.trans (h.infix_result hx)

theorem parameter?_append_slash (xs ys : List Char) :
    parameter? (xs ++ '/' :: ys) = parameter? xs := by
  refine Option.ext fun name => ?_
  rw [parameter?_eq_some_iff, parameter?_eq_some_iff]
  constructor
  · rintro ⟨hname, x, behind, hx, htext⟩
    obtain ⟨between, hxs⟩ := exists_of_parameter_append hname hx (by decide) (by decide) htext
    exact ⟨hname, x, between, hx, hxs⟩
  · rintro ⟨hname, x, behind, hx, rfl⟩
    exact ⟨hname, x, behind ++ '/' :: ys, hx, List.append_assoc _ _ _⟩

theorem parameters_slash_cons (ys : List Char) : parameters ('/' :: ys) = parameters ys := by
  have hslash : '{' ∉ ['/'] := by decide
  exact parameters_append_of_not_mem hslash ys

/-- A slash is in no parameter. -/
theorem parameters_append_slash (xs ys : List Char) :
    parameters (xs ++ '/' :: ys) = parameters xs ++ parameters ys := by
  induction xs with
  | nil => exact parameters_slash_cons ys
  | cons c xs ih =>
      have hhead := parameter?_append_slash (c :: xs) ys
      rw [List.cons_append] at hhead ⊢
      rw [parameters_cons, parameters_cons, hhead, ih, List.append_assoc]

theorem parameters_dropWhile_isSlash (text : List Char) :
    parameters (text.dropWhile isSlash) = parameters text := by
  induction text with
  | nil => rfl
  | cons c text ih =>
      rw [List.dropWhile_cons]
      split_ifs with hslash
      · rw [ih, beq_iff_eq.1 hslash, parameters_slash_cons]
      · rfl

theorem parameters_dropEndWhile_isSlash (text : List Char) :
    parameters (Text.dropEndWhile isSlash text) = parameters text := by
  obtain ⟨slashes, htext, hslashes⟩ := Text.exists_dropEndWhile_append isSlash text
  have hnone : parameters slashes = [] := by
    rw [← parameters_dropWhile_isSlash, List.dropWhile_eq_nil_iff.2 hslashes, parameters]
  cases slashes with
  | nil =>
      rw [List.append_nil] at htext
      rw [← htext]
  | cons c slashes =>
      obtain rfl : c = '/' := beq_iff_eq.1 (hslashes c List.mem_cons_self)
      rw [parameters_slash_cons] at hnone
      calc parameters (Text.dropEndWhile isSlash text)
          = parameters (Text.dropEndWhile isSlash text ++ '/' :: slashes) := by
            rw [parameters_append_slash, hnone, List.append_nil]
        _ = parameters text := by rw [← htext]

theorem parameters_join (base uri : String) :
    parameters (join base uri).toList = parameters base.toList ++ parameters uri.toList := by
  rw [join, String.toList_ofList, parameters_append_slash, parameters_dropEndWhile_isSlash,
    parameters_dropWhile_isSlash]

/-- The parameters of a URI are the identifiers among the placeholders that its route writes with a
colon, and each of them is in the route so. No parameter and no placeholder of one is left in the
route, and a snippet's URL has the parameters of the base URL only. -/
theorem parameters_route (uri : String) :
    (∃ contents,
      (∀ xs result, Rewrites uri.toList xs result ↔
        xs = contents ∧ result = (route uri).toList) ∧
      parameters uri.toList = (contents.filterMap parameterOf?).map String.ofList) ∧
    (∀ name ∈ parameters uri.toList, ':' :: name.toList <:+: (route uri).toList) ∧
    parameters (route uri).toList = [] ∧
    (∀ x name, parameterOf? x = some name → ¬ placeholder x <:+: (route uri).toList) ∧
    ∀ (d : Document) (base : String), d.uri = uri →
      parameters (Snippet.Request.of d base).url.toList = parameters base.toList := by
  obtain ⟨contents, hcontents⟩ := rewrites_iff uri.toList
  have hroute : (route uri).toList = colonForm false uri.toList := String.toList_ofList
  rw [← hroute] at hcontents
  have hrewrites : Rewrites uri.toList contents (route uri).toList :=
    (hcontents contents _).2 ⟨rfl, rfl⟩
  refine ⟨⟨contents, hcontents, hrewrites.parameters_eq⟩,
    fun name => hrewrites.infix_of_mem_parameters, hrewrites.parameters_result,
    fun x name => not_infix_of_parameters_eq_nil hrewrites.parameters_result, ?_⟩
  rintro d base rfl
  rw [Snippet.Request.of, parameters_join, hrewrites.parameters_result, List.append_nil]

/-- Nested, repeated, adjacent and unbalanced braces. -/
theorem parameters_route_nested :
    parameters "/\x7b\x7bid\x7dx\x7d\x7bid?\x7d\x7b".toList = ["id", "id"] ∧
      ':' :: "id".toList <:+: (route "/\x7b\x7bid\x7dx\x7d\x7bid?\x7d\x7b").toList ∧
        parameters (route "/\x7b\x7bid\x7dx\x7d\x7bid?\x7d\x7b").toList = [] := by
  obtain ⟨-, hoccurs, hnone, -, -⟩ := parameters_route "/\x7b\x7bid\x7dx\x7d\x7bid?\x7d\x7b"
  have hparameters :
      parameters "/\x7b\x7bid\x7dx\x7d\x7bid?\x7d\x7b".toList = ["id", "id"] := by decide
  exact ⟨hparameters, hoccurs "id" (by rw [hparameters]; exact List.mem_cons_self), hnone⟩

end Uri

end ApiNotes
