import ApiNotes.Tag.Object

/-!
# The capturing walk, one character at a time

`lengthToClose` is a walk of three outcomes at each character: the object closes here, the
walk is interrupted here, or it goes on in another region and at another depth.
`lengthToClose_cons` says so in one equation, and every fact about the walk is read off
it by induction on the text.

The region depends on the characters alone: `Region.after` folds `Region.next` over a
text, whatever the depth and whether or not the walk would stop. The look at the text
behind a character is confined to `interruption?`.
-/

namespace ApiNotes

namespace Tag

namespace Region

/-- The region behind one more character. -/
def next : Region → Char → Region
  | .outside, c => if c = '"' then .inString else .outside
  | .inString, c => if c = '\\' then .escaped else if c = '"' then .outside else .inString
  | .escaped, _ => .inString

/-- The region that a text leads to. -/
def after (region : Region) (text : List Char) : Region :=
  text.foldl next region

@[simp] theorem after_nil (region : Region) : region.after [] = region := rfl

@[simp] theorem after_cons (region : Region) (c : Char) (cs : List Char) :
    region.after (c :: cs) = (region.next c).after cs := rfl

@[simp] theorem after_append (region : Region) (xs ys : List Char) :
    region.after (xs ++ ys) = (region.after xs).after ys :=
  List.foldl_append

/-- Without quotes a text stays outside of strings. -/
theorem after_outside_of_not_mem {text : List Char} (h : '"' ∉ text) :
    Region.outside.after text = .outside := by
  induction text with
  | nil => rfl
  | cons c cs ih =>
      rw [List.mem_cons, not_or] at h
      rw [after_cons, next, if_neg (Ne.symm h.1)]
      exact ih h.2

end Region

/-- The depth behind one more character. -/
def nextDepth (region : Region) (depth : Nat) (c : Char) : Nat :=
  match region with
  | .outside => if c = '{' then depth + 1 else if c = '}' then depth - 1 else depth
  | .inString | .escaped => depth

/-- Whether a character closes the object. -/
def Closes (region : Region) (depth : Nat) (c : Char) : Prop :=
  region = .outside ∧ c = '}' ∧ depth ≤ 1

instance (region : Region) (depth : Nat) (c : Char) : Decidable (Closes region depth c) :=
  inferInstanceAs (Decidable (_ ∧ _ ∧ _))

/-- What interrupts the walk at a character, with `cs` behind it. -/
def interruption? (region : Region) (c : Char) (cs : List Char) : Option Interruption :=
  match region with
  | .outside =>
    if c = '*' ∧ cs.head? = some '/' then some .commentEnd
    else if c = '@' ∧ ['L', 'R', 'D'].isPrefixOf cs then some .tag
    else none
  | .inString => if c = '\n' then some .openString else none
  | .escaped => none

theorem lengthToClose_nil (region : Region) (depth : Nat) :
    lengthToClose region depth [] = .error .textEnd := rfl

/-- The walk closes, is interrupted, or goes on. -/
theorem lengthToClose_cons (region : Region) (depth : Nat) (c : Char) (cs : List Char) :
    lengthToClose region depth (c :: cs) =
      if Closes region depth c then .ok 1
      else
        match interruption? region c cs with
        | some why => .error why
        | none => (lengthToClose (region.next c) (nextDepth region depth c) cs).map (· + 1) := by
  cases region with
  | escaped => simp [lengthToClose, Closes, interruption?, Region.next, nextDepth]
  | inString =>
      by_cases hb : c = '\\'
      · simp [lengthToClose, Closes, interruption?, Region.next, nextDepth, hb]
      by_cases hq : c = '"'
      · simp [lengthToClose, Closes, interruption?, Region.next, nextDepth, hq]
      by_cases hn : c = '\n'
      · simp [lengthToClose, Closes, interruption?, hn]
      · simp [lengthToClose, Closes, interruption?, Region.next, nextDepth, hb, hq, hn]
  | outside =>
      by_cases hq : c = '"'
      · simp [lengthToClose, Closes, interruption?, Region.next, nextDepth, hq]
      by_cases ho : c = '{'
      · simp [lengthToClose, Closes, interruption?, Region.next, nextDepth, ho]
      by_cases hc : c = '}'
      · by_cases hd : depth ≤ 1
        · simp [lengthToClose, Closes, hc, hd]
        · simp [lengthToClose, Closes, interruption?, Region.next, nextDepth, hc, hd]
      · simp only [lengthToClose, Closes, interruption?, Region.next, nextDepth, hq, ho, hc,
          if_false, true_and, false_and]
        split
        · rfl
        split <;> rfl

/-- The two ways in which a walk that starts with `c` finds the closing brace. -/
theorem lengthToClose_cons_eq_ok_iff {region : Region} {depth : Nat} {c : Char}
    {cs : List Char} {n : Nat} :
    lengthToClose region depth (c :: cs) = .ok n ↔
      (Closes region depth c ∧ n = 1) ∨
        (¬ Closes region depth c ∧ interruption? region c cs = none ∧
          ∃ m, lengthToClose (region.next c) (nextDepth region depth c) cs = .ok m ∧
            n = m + 1) := by
  rw [lengthToClose_cons]
  by_cases hc : Closes region depth c
  · simp [hc, eq_comm]
  cases hi : interruption? region c cs with
  | some why => simp [hc]
  | none =>
      cases hw : lengthToClose (region.next c) (nextDepth region depth c) cs with
      | error why => simp [hc, Except.map]
      | ok m => simp [hc, Except.map, eq_comm]

/-- The walk ends behind a closing brace outside of strings. -/
theorem exists_of_lengthToClose_eq_ok {region : Region} {depth n : Nat} {text : List Char}
    (h : lengthToClose region depth text = .ok n) :
    ∃ body rest, text = body ++ '}' :: rest ∧ n = body.length + 1 ∧
      region.after body = .outside := by
  induction text generalizing region depth n with
  | nil => simp [lengthToClose_nil] at h
  | cons c cs ih =>
      obtain ⟨⟨hr, hc, -⟩, rfl⟩ | ⟨-, -, m, hm, rfl⟩ := lengthToClose_cons_eq_ok_iff.1 h
      · exact ⟨[], cs, by rw [hc, List.nil_append], rfl, hr⟩
      · obtain ⟨body, rest, rfl, rfl, hb⟩ := ih hm
        exact ⟨c :: body, rest, rfl, rfl, hb⟩

/-- A marker that the walk passes is inside a string. -/
theorem after_ne_outside_of_marker {region : Region} {depth n : Nat} {xs ys : List Char}
    (h : lengthToClose region depth (xs ++ '@' :: 'L' :: 'R' :: 'D' :: ys) = .ok n)
    (hn : xs.length < n) : region.after xs ≠ .outside := by
  induction xs generalizing region depth n with
  | nil =>
      rintro rfl
      obtain ⟨⟨-, hc, -⟩, -⟩ | ⟨-, hi, -⟩ := lengthToClose_cons_eq_ok_iff.1 h
      · exact absurd hc (by decide)
      · simp [interruption?] at hi
  | cons c cs ih =>
      obtain ⟨-, rfl⟩ | ⟨-, -, m, hm, rfl⟩ := lengthToClose_cons_eq_ok_iff.1 h
      · simp at hn
      · exact ih hm (by simpa using hn)

/-- A marker that begins behind a text in which the walk closes is none of its
characters' concern. -/
theorem interruption?_append {region : Region} {depth n : Nat} {c : Char} {cs : List Char}
    (h : lengthToClose (region.next c) depth cs = .ok n) (more : List Char)
    (hi : interruption? region c cs = none) : interruption? region c (cs ++ more) = none := by
  -- Only an outside character looks ahead, and behind it a walk of at most two characters
  -- that are no brace never closes.
  cases region with
  | escaped => rfl
  | inString => exact hi
  | outside =>
      match cs, h with
      | [], h => simp [lengthToClose_nil] at h
      | [d], h =>
          obtain ⟨body, rest, hb, -, -⟩ := exists_of_lengthToClose_eq_ok h
          cases body <;> simp_all [interruption?, List.isPrefixOf]
      | [d, e], h =>
          obtain ⟨body, rest, hb, -, -⟩ := exists_of_lengthToClose_eq_ok h
          cases body with
          | nil => simp_all [interruption?, List.isPrefixOf]
          | cons b body => cases body <;> simp_all [interruption?, List.isPrefixOf]
      | d :: e :: f :: cs, h => simpa [interruption?, List.isPrefixOf] using hi

/-- What stands behind the closing brace does not matter. -/
theorem lengthToClose_append {region : Region} {depth n : Nat} {text : List Char}
    (h : lengthToClose region depth text = .ok n) (more : List Char) :
    lengthToClose region depth (text ++ more) = .ok n := by
  induction text generalizing region depth n with
  | nil => simp [lengthToClose_nil] at h
  | cons c cs ih =>
      rw [List.cons_append, lengthToClose_cons_eq_ok_iff]
      obtain ⟨hc, rfl⟩ | ⟨hc, hi, m, hm, rfl⟩ := lengthToClose_cons_eq_ok_iff.1 h
      · exact Or.inl ⟨hc, rfl⟩
      · exact Or.inr ⟨hc, interruption?_append hm more hi, m, ih hm, rfl⟩

end Tag

end ApiNotes
