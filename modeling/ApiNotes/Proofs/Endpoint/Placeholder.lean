import ApiNotes.Endpoint.Uri
import ApiNotes.Proofs.Text.Cut

/-!
# Placeholders and routes

`Rewrites` tells what it is to write the placeholders of a text with a colon: the first one is
written so, and then those of what follows it. Every text has a first placeholder or none
(`unopened_or_exists`), so this can be done, and in one way only. A route is the result
(`rewrites_iff`): at every opening brace `colonForm` looks ahead for a placeholder that starts
there, which is what `Opens` says.
-/

namespace ApiNotes

namespace Uri

/-! ### Placeholders -/

/-- What stands in a placeholder: neither braces nor slashes, and not nothing. -/
structure IsContent (x : List Char) : Prop where
  ne_nil : x ≠ []
  chars : ∀ c ∈ x, c ≠ '/' ∧ c ≠ '{' ∧ c ≠ '}'

/-- The placeholder with the given content. -/
def placeholder (x : List Char) : List Char :=
  '{' :: (x ++ ['}'])

/-- A text that begins with a placeholder. -/
def Opens (text : List Char) : Prop :=
  ∃ x behind, IsContent x ∧ text = placeholder x ++ behind

/-- No placeholder starts in `front`, with `rest` behind it. -/
def Unopened (front rest : List Char) : Prop :=
  ∀ part, part <:+ front → part ≠ [] → ¬ Opens (part ++ rest)

/-- A text with its placeholders written with a colon, the first one first, and what stood in
them. -/
inductive Rewrites : List Char → List (List Char) → List Char → Prop
  | rest {text : List Char} : Unopened text [] → Rewrites text [] text
  | next {front x behind result : List Char} {xs : List (List Char)} : IsContent x →
      Unopened front (placeholder x ++ behind) → Rewrites behind xs result →
        Rewrites (front ++ (placeholder x ++ behind)) (x :: xs) (front ++ (':' :: x ++ result))

variable {x y name front rest behind behind' text result : List Char} {xs : List (List Char)}

theorem placeholder_append (x behind : List Char) :
    placeholder x ++ behind = '{' :: (x ++ '}' :: behind) := by
  simp [placeholder]

theorem IsContent.not_mem_open (h : IsContent x) : '{' ∉ x :=
  fun hmem => (h.chars _ hmem).2.1 rfl

theorem IsContent.not_mem_close (h : IsContent x) : '}' ∉ x :=
  fun hmem => (h.chars _ hmem).2.2 rfl

theorem IsContent.isPlaceholderChar (h : IsContent x) :
    ∀ c ∈ x, isPlaceholderChar c = true := by
  intro c hc
  obtain ⟨hslash, hopen, hclose⟩ := h.chars c hc
  simp [Uri.isPlaceholderChar, hslash, hopen, hclose]

theorem placeholder_inj (hx : '}' ∉ x) (hy : '}' ∉ y)
    (h : placeholder x ++ behind = placeholder y ++ behind') : x = y ∧ behind = behind' := by
  rw [placeholder_append, placeholder_append, List.cons.injEq] at h
  obtain ⟨between, rfl, hrest⟩ := Text.exists_append_of_not_mem hx h.2
  cases between with
  | nil => exact ⟨(List.append_nil x).symm, (List.cons.inj hrest).2⟩
  | cons c between =>
      obtain ⟨rfl, -⟩ := List.cons.inj hrest
      simp at hy

theorem unopened_nil (rest : List Char) : Unopened [] rest :=
  fun _ hpart hne => absurd (List.suffix_nil.1 hpart) hne

theorem Unopened.of_cons {c : Char} (h : Unopened (c :: front) rest) :
    ¬ Opens (c :: (front ++ rest)) ∧ Unopened front rest := by
  refine ⟨h _ List.suffix_rfl (List.cons_ne_nil c front), ?_⟩
  intro part hpart hne
  exact h part (hpart.trans (List.suffix_cons c front)) hne

theorem Unopened.cons {c : Char} (hc : ¬ Opens (c :: (front ++ rest)))
    (h : Unopened front rest) : Unopened (c :: front) rest := by
  intro part hpart hne
  rcases List.suffix_cons_iff.1 hpart with rfl | hpart
  · exact hc
  · exact h part hpart hne

theorem IsContent.not_unopened (hx : IsContent x) :
    ¬ Unopened (front ++ (placeholder x ++ behind)) [] := by
  intro h
  refine h (placeholder x ++ behind) (List.suffix_append _ _) ?_
    ⟨x, behind, hx, List.append_nil _⟩
  rw [placeholder_append]
  exact List.cons_ne_nil _ _

/-- A text has no placeholder or a first one. -/
theorem unopened_or_exists (text : List Char) :
    Unopened text [] ∨ ∃ front x behind, IsContent x ∧
      Unopened front (placeholder x ++ behind) ∧ text = front ++ (placeholder x ++ behind) := by
  induction text with
  | nil => exact Or.inl (unopened_nil [])
  | cons c text ih =>
      by_cases hopen : Opens (c :: text)
      · obtain ⟨x, behind, hx, htext⟩ := hopen
        exact Or.inr ⟨[], x, behind, hx, unopened_nil _, htext⟩
      · rcases ih with hnone | ⟨front, x, behind, hx, hfront, rfl⟩
        · exact Or.inl (hnone.cons (by rwa [List.append_nil]))
        · exact Or.inr ⟨c :: front, x, behind, hx, hfront.cons hopen, rfl⟩

theorem exists_rewrites (text : List Char) : ∃ xs result, Rewrites text xs result := by
  rcases unopened_or_exists text with hnone | ⟨front, x, behind, hx, hfront, htext⟩
  · exact ⟨[], text, .rest hnone⟩
  · have hshort : behind.length < text.length := by
      rw [htext, placeholder_append]
      simp only [List.length_append, List.length_cons]
      omega
    obtain ⟨xs, result, hrest⟩ := exists_rewrites behind
    rw [htext]
    exact ⟨x :: xs, _, .next hx hfront hrest⟩
termination_by text.length

/-! ### Routes -/

theorem closes_iff {cs : List Char} :
    closes cs = true ↔ ∃ x behind, IsContent x ∧ cs = x ++ '}' :: behind := by
  rw [closes, Bool.and_eq_true, bne_iff_ne, beq_iff_eq]
  constructor
  · rintro ⟨hne, hclose⟩
    obtain ⟨behind, hbehind⟩ := List.head?_eq_some_iff.1 hclose
    refine ⟨cs.takeWhile isPlaceholderChar, behind, ⟨hne, ?_⟩, ?_⟩
    · intro c hc
      have hchar := List.mem_takeWhile_imp hc
      simpa [isPlaceholderChar, and_assoc] using hchar
    · rw [← hbehind, List.takeWhile_append_dropWhile]
  · rintro ⟨x, behind, hx, rfl⟩
    have hstop : ∀ c ∈ ('}' :: behind).head?, isPlaceholderChar c = false := by
      simp [isPlaceholderChar]
    obtain ⟨htake, hdrop⟩ := Text.span_append hx.isPlaceholderChar hstop
    rw [htake, hdrop]
    exact ⟨hx.ne_nil, rfl⟩

theorem opens_cons_iff {c : Char} {cs : List Char} :
    Opens (c :: cs) ↔ c = '{' ∧ closes cs = true := by
  rw [closes_iff, Opens]
  simp only [placeholder_append, List.cons.injEq]
  constructor
  · rintro ⟨x, behind, hx, hc, hcs⟩
    exact ⟨hc, x, behind, hx, hcs⟩
  · rintro ⟨hc, x, behind, hx, hcs⟩
    exact ⟨x, behind, hx, hc, hcs⟩

theorem Unopened.colonForm_append (h : Unopened front rest) :
    colonForm false (front ++ rest) = front ++ colonForm false rest := by
  induction front with
  | nil => rfl
  | cons c front ih =>
      obtain ⟨hc, hfront⟩ := h.of_cons
      rw [opens_cons_iff] at hc
      rw [List.cons_append, colonForm, if_neg hc, if_neg (by simp), ih hfront, List.cons_append]

theorem colonForm_content (hx : ∀ c ∈ x, c ≠ '/' ∧ c ≠ '{' ∧ c ≠ '}') (behind : List Char) :
    colonForm true (x ++ '}' :: behind) = x ++ colonForm false behind := by
  induction x with
  | nil => rw [List.nil_append, colonForm, if_neg (by simp), if_pos ⟨rfl, rfl⟩, List.nil_append]
  | cons c x ih =>
      obtain ⟨hc, hx⟩ := List.forall_mem_cons.1 hx
      rw [List.cons_append, colonForm, if_neg fun h => hc.2.1 h.1, if_neg fun h => hc.2.2 h.2,
        ih hx, List.cons_append]

theorem IsContent.colonForm_placeholder (hx : IsContent x) (behind : List Char) :
    colonForm false (placeholder x ++ behind) = ':' :: x ++ colonForm false behind := by
  have hcloses : closes (x ++ '}' :: behind) = true := closes_iff.2 ⟨x, behind, hx, rfl⟩
  rw [placeholder_append, colonForm, if_pos ⟨rfl, hcloses⟩, colonForm_content hx.chars,
    List.cons_append]

theorem Rewrites.colonForm_eq (h : Rewrites text xs result) : colonForm false text = result := by
  induction h with
  | @rest text hnone =>
      have hall := hnone.colonForm_append
      rwa [List.append_nil, colonForm, List.append_nil] at hall
  | next hx hfront _ ih => rw [hfront.colonForm_append, hx.colonForm_placeholder, ih]

/-- The first placeholder is the same however the text is cut. -/
theorem Unopened.front_unique {front' : List Char} (hx : IsContent x) (hy : IsContent y)
    (hfront : Unopened front (placeholder x ++ behind))
    (hfront' : Unopened front' (placeholder y ++ behind'))
    (h : front ++ (placeholder x ++ behind) = front' ++ (placeholder y ++ behind')) :
    front = front' := by
  rcases List.append_eq_append_iff.1 h with ⟨part, rfl, hpart⟩ | ⟨part, rfl, hpart⟩
  · by_contra hne
    refine hfront' part (List.suffix_append front part) ?_ ⟨x, behind, hx, hpart.symm⟩
    rintro rfl
    exact hne (List.append_nil front).symm
  · by_contra hne
    refine hfront part (List.suffix_append front' part) ?_ ⟨y, behind', hy, hpart.symm⟩
    rintro rfl
    exact hne (List.append_nil front')

theorem Rewrites.contents_unique (h : Rewrites text xs result) {ys : List (List Char)}
    {result' : List Char} (h' : Rewrites text ys result') : xs = ys := by
  induction h generalizing ys result' with
  | rest hnone =>
      cases h' with
      | rest => rfl
      | next hy => exact absurd hnone hy.not_unopened
  | @next front x behind result xs hx hfront _ ih =>
      generalize htext : front ++ (placeholder x ++ behind) = text at h'
      cases h' with
      | rest hnone =>
          rw [← htext] at hnone
          exact absurd hnone hx.not_unopened
      | next hy hfront' hrest =>
          obtain rfl := hfront.front_unique hx hy hfront' htext
          obtain ⟨rfl, rfl⟩ :=
            placeholder_inj hx.not_mem_close hy.not_mem_close (List.append_cancel_left htext)
          rw [ih hrest]

/-- A route is the one text that its URI can be rewritten to. -/
theorem rewrites_iff (text : List Char) : ∃ contents, ∀ xs result,
    Rewrites text xs result ↔ xs = contents ∧ result = colonForm false text := by
  obtain ⟨contents, written, h⟩ := exists_rewrites text
  refine ⟨contents, fun xs result => ⟨fun h' => ?_, ?_⟩⟩
  · exact ⟨h'.contents_unique h, h'.colonForm_eq.symm⟩
  · rintro ⟨rfl, rfl⟩
    rwa [h.colonForm_eq]

end Uri

end ApiNotes
