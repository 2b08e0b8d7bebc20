import ApiNotes.Proofs.Editor.Distance

/-!
# Suggested tags

The search for the nearest name goes through the kinds once. What it holds of the kinds seen so
far (`BestOf`) is the first of those with the fewest changes, or that each takes more than two;
one more kind keeps this (`BestOf.append_singleton`). The names of two kinds are at least three
changes apart, so a word that is one change away from a name is nearer to it than to any other
name, and the order of the kinds does not matter (`isFirstNearest_of_le_one`).

Names are ASCII, and a word takes as many changes to such a name whatever its other characters
are (`distance_congr`). So nothing has to be known of the small forms of most characters, only
that they are not ASCII: `Lowers` leaves them open.
-/

namespace ApiNotes

namespace Editor

open Tag (Kind)

/-! ### Small forms -/

/-- A text and its form in small letters. Of the characters that are not ASCII, only the capital I
with a dot and the Kelvin sign have ASCII letters in their small forms, and only the former has a
small form of two characters. The others have one character that is not ASCII, which may depend on
the text around it. -/
inductive Lowers : List Char → List Char → Prop
  | nil : Lowers [] []
  | ascii {c : Char} {text low : List Char} : c.toNat < 128 → Lowers text low →
      Lowers (c :: text) (c.toLower :: low)
  | dotted {text low : List Char} : Lowers text low →
      Lowers ('\u0130' :: text) ('i' :: '\u0307' :: low)
  | kelvin {text low : List Char} : Lowers text low → Lowers ('\u212A' :: text) ('k' :: low)
  | other {c d : Char} {text low : List Char} : 128 ≤ c.toNat → c ≠ '\u0130' → c ≠ '\u212A' →
      128 ≤ d.toNat → Lowers text low → Lowers (c :: text) (d :: low)

/-- Two characters that are the same or both not ASCII. -/
def Alike (c d : Char) : Prop :=
  c = d ∨ 128 ≤ c.toNat ∧ 128 ≤ d.toNat

theorem Alike.eq_iff {c d e : Char} (h : Alike c d) (he : e.toNat < 128) : c = e ↔ d = e := by
  rcases h with rfl | ⟨hc, hd⟩
  · exact Iff.rfl
  · constructor
    · rintro rfl
      omega
    · rintro rfl
      omega

theorem lowerChar_of_ne {c : Char} (hdotted : c ≠ '\u0130') (hkelvin : c ≠ '\u212A') :
    lowerChar c = [c.toLower] := by
  have hdotted' : c.toNat ≠ 0x130 := fun h => hdotted (Char.toNat_inj.1 h)
  have hkelvin' : c.toNat ≠ 0x212A := fun h => hkelvin (Char.toNat_inj.1 h)
  rw [lowerChar, if_neg hdotted', if_neg hkelvin']

theorem toLower_of_le {c : Char} (hc : 128 ≤ c.toNat) : c.toLower = c := by
  refine dif_neg ?_
  rintro ⟨-, hle⟩
  have hsmall : c.toNat ≤ 90 := UInt32.le_iff_toNat_le.1 hle
  omega

theorem Lowers.alike {text low : List Char} (h : Lowers text low) :
    List.Forall₂ Alike low (text.flatMap lowerChar) := by
  induction h with
  | nil => exact .nil
  | @ascii c text low hc _ ih =>
      have hne : ∀ d : Char, 128 ≤ d.toNat → c ≠ d := by
        rintro d hd rfl
        omega
      rw [List.flatMap_cons, lowerChar_of_ne (hne _ (by decide)) (hne _ (by decide))]
      exact .cons (Or.inl rfl) ih
  | dotted _ ih =>
      rw [List.flatMap_cons]
      exact .cons (Or.inl rfl) (.cons (Or.inl rfl) ih)
  | kelvin _ ih =>
      rw [List.flatMap_cons]
      exact .cons (Or.inl rfl) ih
  | other hc hdotted hkelvin hd _ ih =>
      rw [List.flatMap_cons, lowerChar_of_ne hdotted hkelvin, toLower_of_le hc]
      exact .cons (Or.inr ⟨hd, hc⟩) ih

variable {s s' t : List Char}

theorem nextEntries_congr {c d : Char} (h : Alike c d) (ht : ∀ e ∈ t, e.toNat < 128)
    (left diagonal : Nat) (row : List Nat) :
    nextEntries c left diagonal t row = nextEntries d left diagonal t row := by
  induction t generalizing left diagonal row with
  | nil => rfl
  | cons e t ih =>
      obtain ⟨he, ht⟩ := List.forall_mem_cons.1 ht
      cases row with
      | nil => rfl
      | cons up row =>
          rw [nextEntries, nextEntries, if_congr (h.eq_iff he) rfl rfl, ih ht]

theorem nextRow_congr {c d : Char} (h : Alike c d) (ht : ∀ e ∈ t, e.toNat < 128)
    (row : List Nat) : nextRow t row c = nextRow t row d := by
  cases row with
  | nil => rfl
  | cons first row => rw [nextRow, nextRow, nextEntries_congr h ht]

/-- To an ASCII word, characters that are not ASCII are all the same. -/
theorem distance_congr (h : List.Forall₂ Alike s s') (ht : ∀ e ∈ t, e.toNat < 128) :
    distance s t = distance s' t := by
  have hrows : ∀ row, s.foldl (nextRow t) row = s'.foldl (nextRow t) row := by
    induction h with
    | nil => exact fun _ => rfl
    | cons hchar _ ih =>
        intro row
        rw [List.foldl_cons, List.foldl_cons, nextRow_congr hchar ht, ih]
  rw [distance, distance, hrows]

/-! ### The search -/

/-- The first of the kinds for which `f` is least. -/
def IsFirstNearest (f : Kind → Nat) (kinds : List Kind) (kind : Kind) : Prop :=
  ∃ before behind, kinds = before ++ kind :: behind ∧ (∀ k ∈ before, f kind < f k) ∧
    ∀ k ∈ behind, f kind ≤ f k

theorem IsFirstNearest.mem {f : Kind → Nat} {kinds : List Kind} {kind : Kind}
    (h : IsFirstNearest f kinds kind) : kind ∈ kinds := by
  obtain ⟨before, behind, rfl, -, -⟩ := h
  exact List.mem_append_right before List.mem_cons_self

/-- Of two first nearest kinds, none comes before the other. -/
theorem eq_of_first_nearest {f : Kind → Nat} {kind kind' : Kind}
    {between before' behind behind' : List Kind}
    (hcut : kind :: behind = between ++ kind' :: behind') (hbetween : between <:+ before')
    (hbefore' : ∀ k ∈ before', f kind' < f k) (hbehind : ∀ k ∈ behind, f kind ≤ f k) :
    kind = kind' := by
  cases between with
  | nil => exact (List.cons.inj hcut).1
  | cons k between =>
      obtain ⟨rfl, rfl⟩ := List.cons.inj hcut
      have hlt := hbefore' kind (hbetween.subset List.mem_cons_self)
      have hle := hbehind kind' (List.mem_append_right between List.mem_cons_self)
      omega

theorem IsFirstNearest.unique {f : Kind → Nat} {kinds : List Kind} {kind kind' : Kind}
    (h : IsFirstNearest f kinds kind) (h' : IsFirstNearest f kinds kind') : kind = kind' := by
  obtain ⟨before, behind, rfl, hbefore, hbehind⟩ := h
  obtain ⟨before', behind', heq, hbefore', hbehind'⟩ := h'
  rcases List.append_eq_append_iff.1 heq with ⟨between, rfl, hcut⟩ | ⟨between, rfl, hcut⟩
  · exact eq_of_first_nearest hcut (List.suffix_append _ _) hbefore' hbehind
  · exact (eq_of_first_nearest hcut (List.suffix_append _ _) hbefore hbehind').symm

/-- What a search holds of the kinds it has seen: the first of the nearest and its number of
changes, unless all take more than two. -/
def BestOf (f : Kind → Nat) (seen : List Kind) : Option (Kind × Nat) → Prop
  | none => ∀ k ∈ seen, 2 < f k
  | some (kind, n) => n = f kind ∧ n ≤ 2 ∧ IsFirstNearest f seen kind

theorem BestOf.append_singleton {f : Kind → Nat} {seen : List Kind} {best : Option (Kind × Nat)}
    (h : BestOf f seen best) (kind : Kind) :
    BestOf f (seen ++ [kind])
      (if f kind ≤ 2 ∧ best.all (fun b => f kind < b.2) then some (kind, f kind) else best) := by
  cases best with
  | none =>
      split_ifs with hnear
      · refine ⟨rfl, hnear.1, seen, [], rfl, ?_, by simp⟩
        intro k hk
        exact Nat.lt_of_le_of_lt hnear.1 (h k hk)
      · intro k hk
        rcases List.mem_append.1 hk with hk | hk
        · exact h k hk
        · rw [List.mem_singleton.1 hk]
          simpa using hnear
  | some best =>
      obtain ⟨nearest, n⟩ := best
      obtain ⟨rfl, htwo, before, behind, rfl, hbefore, hbehind⟩ := h
      split_ifs with hnear
      · have hlt : f kind < f nearest := by simpa using hnear.2
        refine ⟨rfl, hnear.1, before ++ nearest :: behind, [], rfl, ?_, by simp⟩
        intro k hk
        rcases List.mem_append.1 hk with hk | hk
        · exact Nat.lt_trans hlt (hbefore k hk)
        · rcases List.mem_cons.1 hk with rfl | hk
          · exact hlt
          · exact Nat.lt_of_lt_of_le hlt (hbehind k hk)
      · have hle : f nearest ≤ f kind := by
          by_contra hlt
          rw [Nat.not_le] at hlt
          exact hnear ⟨Nat.le_trans (Nat.le_of_lt hlt) htwo, by simpa using hlt⟩
        refine ⟨rfl, htwo, before, behind ++ [kind], by simp, hbefore, ?_⟩
        intro k hk
        rcases List.mem_append.1 hk with hk | hk
        · exact hbehind k hk
        · rw [List.mem_singleton.1 hk]
          exact hle

theorem BestOf.nearest {word : List Char} {f : Kind → Nat}
    (hf : ∀ kind, distance word kind.name.toList = f kind) {seen : List Kind}
    {best : Option (Kind × Nat)} (h : BestOf f seen best) (kinds : List Kind) :
    BestOf f (seen ++ kinds) (nearest word best kinds) := by
  induction kinds generalizing seen best with
  | nil => rwa [List.append_nil]
  | cons kind kinds ih =>
      have hstep := ih (h.append_singleton kind)
      rw [← List.append_cons] at hstep
      rw [Editor.nearest, hf]
      split_ifs at hstep ⊢ with hnear
      · exact hstep
      · exact hstep

theorem BestOf.map_eq_none_iff {f : Kind → Nat} {kinds : List Kind} {best : Option (Kind × Nat)}
    (h : BestOf f kinds best) : best.map Prod.fst = none ↔ ∀ k ∈ kinds, 2 < f k := by
  cases best with
  | none => exact iff_of_true rfl h
  | some best =>
      obtain ⟨hbest, htwo, hnearest⟩ := h
      rw [hbest] at htwo
      refine iff_of_false (by simp) fun hall => ?_
      exact Nat.not_lt.2 htwo (hall _ hnearest.mem)

theorem BestOf.map_eq_some_iff {f : Kind → Nat} {kinds : List Kind} {best : Option (Kind × Nat)}
    (h : BestOf f kinds best) (kind : Kind) :
    best.map Prod.fst = some kind ↔ f kind ≤ 2 ∧ IsFirstNearest f kinds kind := by
  cases best with
  | none =>
      refine iff_of_false (by simp) ?_
      rintro ⟨htwo, hnearest⟩
      exact Nat.not_lt.2 htwo (h kind hnearest.mem)
  | some best =>
      obtain ⟨hbest, htwo, hnearest⟩ := h
      rw [hbest] at htwo
      rw [Option.map_some, Option.some.injEq]
      constructor
      · rintro rfl
        exact ⟨htwo, hnearest⟩
      · rintro ⟨-, hkind⟩
        exact hnearest.unique hkind

/-! ### The names of the kinds -/

theorem toNat_lt_of_mem_name (kind : Kind) : ∀ c ∈ kind.name.toList, c.toNat < 128 := by
  cases kind <;> simp [Kind.name]

/-- The names of two kinds are at least three changes apart. -/
theorem two_lt_distance_name {kind kind' : Kind} (h : kind ≠ kind') :
    2 < distance kind.name.toList kind'.name.toList := by
  have hall : ∀ k ∈ Kind.all, ∀ k' ∈ Kind.all, k ≠ k' →
      2 < distance k.name.toList k'.name.toList := by decide
  exact hall kind kind.mem_all kind' kind'.mem_all h

/-- The least number of changes that turn a word into the name of a kind. -/
noncomputable def changesTo (word : List Char) (kind : Kind) : Nat :=
  leastChanges word kind.name.toList

theorem distance_name {name : String} {low : List Char} (h : Lowers name.toList low)
    (kind : Kind) :
    distance (name.toList.flatMap lowerChar) kind.name.toList = changesTo low kind := by
  rw [changesTo, ← distance_eq_leastChanges, distance_congr h.alike (toNat_lt_of_mem_name kind)]

theorem two_lt_changesTo_add {kind kind' : Kind} (h : kind ≠ kind') (word : List Char) :
    2 < changesTo word kind + changesTo word kind' := by
  -- The word lies on a way from one name to the other.
  have hfar := two_lt_distance_name h
  have htriangle := distance_triangle kind.name.toList word kind'.name.toList
  rw [distance_comm _ word, distance_eq_leastChanges word, distance_eq_leastChanges word]
    at htriangle
  exact Nat.lt_of_lt_of_le hfar htriangle

/-- A name one change away is the nearest, in whatever order the kinds are. -/
theorem isFirstNearest_of_le_one {word : List Char} {kind : Kind}
    (h : changesTo word kind ≤ 1) {kinds : List Kind} (hkinds : kind ∈ kinds) :
    IsFirstNearest (changesTo word) kinds kind := by
  have hother : ∀ k, kind ≠ k → changesTo word kind < changesTo word k := by
    intro k hk
    have hsum := two_lt_changesTo_add hk word
    omega
  obtain ⟨before, behind, rfl, hbefore⟩ := List.eq_append_cons_of_mem hkinds
  refine ⟨before, behind, rfl, ?_, ?_⟩
  · intro k hk
    refine hother k ?_
    rintro rfl
    exact hbefore hk
  · intro k hk
    by_cases heq : kind = k
    · rw [heq]
    · exact Nat.le_of_lt (hother k heq)

/-- A name suggests the first of the tags that take the fewest changes, if these are two at most.
A tag that is one change away is suggested in whatever order the tags are searched. -/
theorem suggestion?_nearest {name : String} {low : List Char} (hlow : Lowers name.toList low) :
    (suggestion? name = none ↔ ∀ kind ∈ Kind.all, 2 < changesTo low kind) ∧
      (∀ kind, suggestion? name = some kind ↔
        changesTo low kind ≤ 2 ∧ IsFirstNearest (changesTo low) Kind.all kind) ∧
      ∀ kind, changesTo low kind ≤ 1 → ∀ kinds, kinds.Perm Kind.all →
        (nearest (name.toList.flatMap lowerChar) none kinds).map Prod.fst = some kind := by
  have hsearch : ∀ kinds, BestOf (changesTo low) kinds
      (nearest (name.toList.flatMap lowerChar) none kinds) := by
    intro kinds
    have hnone : BestOf (changesTo low) [] none := fun k hk => absurd hk List.not_mem_nil
    exact hnone.nearest (distance_name hlow) kinds
  refine ⟨(hsearch _).map_eq_none_iff, (hsearch _).map_eq_some_iff, ?_⟩
  intro kind hone kinds hperm
  have hmem : kind ∈ kinds := hperm.mem_iff.2 kind.mem_all
  exact ((hsearch kinds).map_eq_some_iff kind).2
    ⟨Nat.le_succ_of_le hone, isFirstNearest_of_le_one hone hmem⟩

/-- An accent is one change. -/
theorem suggestion?_nearest_accent :
    changesTo "énum".toList .enumeration ≤ 1 ∧ suggestion? "ÉNUM" = some .enumeration := by
  have hlow : Lowers "ÉNUM".toList "énum".toList :=
    .other (by decide) (by decide) (by decide) (by decide)
      (.ascii (by decide) (.ascii (by decide) (.ascii (by decide) .nil)))
  have hone : changesTo "énum".toList .enumeration ≤ 1 := by
    rw [changesTo, ← distance_eq_leastChanges]
    decide
  exact ⟨hone, (suggestion?_nearest hlow).2.2 .enumeration hone Kind.all (.refl _)⟩

end Editor

end ApiNotes
