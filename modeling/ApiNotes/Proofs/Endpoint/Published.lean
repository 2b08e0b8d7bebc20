import ApiNotes.Endpoint.Uri
import ApiNotes.Proofs.Text.Cut
import ApiNotes.Proofs.Text.Trim

/-!
# Publishing a published URI

Blanks are taken off a URI before slashes are, once each. A slash that is taken off the end can
leave a blank there, and then publishing the result again takes more off: only slashes and blanks,
and only at the end (`exists_normalize_append`). A published URI is its own published form exactly
when it does not end in a blank (`normalize_eq_self_iff`).

What is lost at the end of a URI holds no braces, so a route and a URL lose it as well
(`exists_join_route_append`).
-/

namespace ApiNotes

namespace Uri

/-- Whether a text ends in a blank. -/
def endsBlank (uri : String) : Bool :=
  uri.toList.getLast?.any Text.isBlank

/-! ### Fixed points -/

theorem toList_normalize (uri : String) : (normalize uri).toList = '/' :: core uri.toList :=
  String.toList_ofList

theorem head?_core (uri : List Char) : ∀ c ∈ (core uri).head?, isSlash c = false :=
  fun c hc => Text.head?_dropWhile isSlash _ c (Text.head?_dropEndWhile hc)

theorem getLast?_core (uri : List Char) : ∀ c ∈ (core uri).getLast?, isSlash c = false :=
  Text.getLast?_dropEndWhile isSlash _

/-- Behind one slash, text is only taken off at the end. -/
theorem core_slash_cons {cs : List Char} (hcs : ∀ c ∈ cs.head?, isSlash c = false) :
    core ('/' :: cs) = Text.dropEndWhile isSlash (Text.trimEnd cs) := by
  have htrim : Text.trim ('/' :: cs) = '/' :: Text.trimEnd cs := by
    rw [Text.trim, Text.trimStart_of_head? rfl (by decide)]
    exact Text.dropEndWhile_cons_of_neg (by decide) cs
  have hhead : ∀ c ∈ (Text.trimEnd cs).head?, isSlash c = false :=
    fun c hc => hcs c (Text.head?_dropEndWhile hc)
  have hkeep : (Text.trimEnd cs).dropWhile isSlash = Text.trimEnd cs := by
    cases htext : Text.trimEnd cs with
    | nil => rfl
    | cons d ds => exact List.dropWhile_cons_of_neg (by simp [hhead d (by rw [htext]; rfl)])
  rw [core, htrim, List.dropWhile_cons_of_pos (by decide), hkeep]

theorem getLast?_slash_cons {cs : List Char} :
    (∀ c ∈ ('/' :: cs).getLast?, Text.isBlank c = false) ↔
      ∀ c ∈ cs.getLast?, Text.isBlank c = false := by
  cases cs with
  | nil => exact iff_of_true (by simp; decide) (by simp)
  | cons d ds => rw [List.getLast?_cons_cons]

/-- A published URI is its own published form exactly when it does not end in a blank. -/
theorem normalize_eq_self_iff {published uri : String} (h : published = normalize uri) :
    normalize published = published ↔ endsBlank published = false := by
  subst h
  have hends : endsBlank (normalize uri) = false ↔
      Text.trimEnd (core uri.toList) = core uri.toList := by
    rw [endsBlank, Option.any_eq_false, toList_normalize, Text.trimEnd,
      Text.dropEndWhile_eq_self_iff]
    exact getLast?_slash_cons
  rw [hends, ← String.toList_inj, toList_normalize, toList_normalize, List.cons.injEq,
    core_slash_cons (head?_core _)]
  constructor
  · rintro ⟨-, h⟩
    -- The text that is left lies between the whole and what slashes leave of it.
    refine (Text.dropEndWhile_isPrefix _ _).eq_of_length_le ?_
    calc (core uri.toList).length
        = (Text.dropEndWhile isSlash (Text.trimEnd (core uri.toList))).length := by rw [h]
      _ ≤ (Text.trimEnd (core uri.toList)).length := (Text.dropEndWhile_isPrefix _ _).length_le
  · intro h
    rw [h]
    exact ⟨rfl, Text.dropEndWhile_eq_self_iff.2 (getLast?_core _)⟩

/-- Publishing again takes slashes and blanks off the end. -/
theorem exists_normalize_append (uri : String) :
    ∃ ending, (normalize uri).toList = (normalize (normalize uri)).toList ++ ending ∧
      ∀ c ∈ ending, isSlash c = true ∨ Text.isBlank c = true := by
  obtain ⟨blanks, hblanks, hblank⟩ :=
    Text.exists_dropEndWhile_append Text.isBlank (core uri.toList)
  obtain ⟨slashes, hslashes, hslash⟩ :=
    Text.exists_dropEndWhile_append isSlash (Text.trimEnd (core uri.toList))
  refine ⟨slashes ++ blanks, ?_, ?_⟩
  · rw [toList_normalize, toList_normalize, toList_normalize, core_slash_cons (head?_core _),
      List.cons_append, ← List.append_assoc, ← hslashes, Text.trimEnd, ← hblanks]
  · intro c hc
    exact (List.mem_append.1 hc).imp (hslash c) (hblank c)

/-! ### Routes and URLs -/

variable {ending : List Char}

theorem closes_append (hending : ∀ c ∈ ending, c ≠ '{' ∧ c ≠ '}') (cs : List Char) :
    closes (cs ++ ending) = closes cs := by
  cases hrest : cs.dropWhile isPlaceholderChar with
  | nil =>
      -- The ending does not close the placeholder either.
      have hcs : ∀ c ∈ cs, isPlaceholderChar c = true := List.dropWhile_eq_nil_iff.1 hrest
      have hopen : (ending.dropWhile isPlaceholderChar).head? ≠ some '}' := by
        intro hclose
        have hmem := (List.dropWhile_suffix _).subset (List.mem_of_mem_head? hclose)
        exact (hending _ hmem).2 rfl
      rw [closes, closes, List.dropWhile_append_of_pos hcs, hrest]
      simp [hopen]
  | cons d rest =>
      obtain ⟨htake, hdrop⟩ :=
        Text.span_append_of_ne_nil (p := isPlaceholderChar) (by rw [hrest]; simp) ending
      rw [closes, closes, htake, hdrop, hrest]
      rfl

theorem colonForm_eq_self (hending : ∀ c ∈ ending, c ≠ '{' ∧ c ≠ '}') (inside : Bool) :
    colonForm inside ending = ending := by
  induction ending with
  | nil => rfl
  | cons c ending ih =>
      obtain ⟨hc, hrest⟩ := List.forall_mem_cons.1 hending
      rw [colonForm, if_neg fun h => hc.1 h.1, if_neg fun h => hc.2 h.2, ih hrest]

/-- Placeholders are written alike whatever text without braces follows. -/
theorem colonForm_append (hending : ∀ c ∈ ending, c ≠ '{' ∧ c ≠ '}') (inside : Bool)
    (cs : List Char) : colonForm inside (cs ++ ending) = colonForm inside cs ++ ending := by
  induction cs generalizing inside with
  | nil => exact colonForm_eq_self hending inside
  | cons c cs ih =>
      rw [List.cons_append, colonForm, colonForm, closes_append hending]
      split_ifs with hopen hclose
      · rw [ih, List.cons_append]
      · exact ih false
      · rw [ih, List.cons_append]

/-- What follows a text whose first slashes are dropped. -/
theorem exists_dropWhile_append (xs : List Char) (hending : ∃ c ∈ ending, isSlash c = false) :
    ∃ kept, kept ≠ [] ∧ kept <:+ ending ∧
      (xs ++ ending).dropWhile isSlash = xs.dropWhile isSlash ++ kept := by
  rw [List.dropWhile_append]
  split
  · next hempty =>
    refine ⟨ending.dropWhile isSlash, ?_, List.dropWhile_suffix _, ?_⟩
    · obtain ⟨c, hc, hslash⟩ := hending
      intro hnil
      simp [List.dropWhile_eq_nil_iff.1 hnil c hc] at hslash
    · rw [List.isEmpty_iff.1 hempty, List.nil_append]
  · obtain ⟨c, hc, -⟩ := hending
    exact ⟨ending, List.ne_nil_of_mem hc, List.suffix_rfl, rfl⟩

/-- A URL that is made of a URI with a blank at its end is longer than that of the URI as it is
published again, by slashes and blanks. -/
theorem exists_join_route_append {uri : String} (huri : endsBlank (normalize uri) = true)
    (base : String) :
    ∃ ending, ending ≠ [] ∧ (∀ c ∈ ending, isSlash c = true ∨ Text.isBlank c = true) ∧
      (join base (route (normalize uri))).toList =
        (join base (route (normalize (normalize uri)))).toList ++ ending := by
  obtain ⟨lost, hlost, hchars⟩ := exists_normalize_append uri
  have hbraces : ∀ c ∈ lost, c ≠ '{' ∧ c ≠ '}' := by
    intro c hc
    constructor
    · rintro rfl
      exact absurd (hchars _ hc) (by decide)
    · rintro rfl
      exact absurd (hchars _ hc) (by decide)
  have hblank : ∃ c ∈ lost, isSlash c = false := by
    have hne : lost ≠ [] := by
      rintro rfl
      rw [List.append_nil] at hlost
      rw [(normalize_eq_self_iff rfl).1 (String.toList_inj.1 hlost).symm] at huri
      cases huri
    obtain ⟨c, hc, hblank⟩ := (Option.any_eq_true _ _).1 huri
    obtain ⟨front, hfront⟩ := List.getLast?_eq_some_iff.1 hc
    rw [hlost] at hfront
    refine ⟨c, Text.mem_of_concat_eq_append hfront.symm hne, ?_⟩
    rw [isSlash, beq_eq_false_iff_ne]
    rintro rfl
    exact absurd hblank (by decide)
  obtain ⟨kept, hne, hsuffix, hkept⟩ := exists_dropWhile_append
    (colonForm false (normalize (normalize uri)).toList) hblank
  refine ⟨kept, hne, fun c hc => hchars c (hsuffix.subset hc), ?_⟩
  simp only [join, route, String.toList_ofList]
  rw [hlost, colonForm_append hbraces, hkept, List.append_assoc, List.cons_append]

end Uri

end ApiNotes
