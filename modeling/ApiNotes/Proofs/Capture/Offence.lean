import ApiNotes.Proofs.Capture.Grammar
import Mathlib.Data.List.Induction
import Mathlib.Order.Bounds.Basic

/-!
# Why no object is captured

A place of a text offends when a marker or the end of a comment stands there outside of strings,
or when a string literal that is open runs into a line feed there. Where a text begins with no
clear object, the walk reports what is wrong at the first place that offends, and the end of the
text if no place does (`objectLength_eq_error_iff`).

`Offends` speaks of string literals only. The walk knows the region instead, and the two agree up
to the first offence: as long as no line feed has been met inside of a string, what is behind the
walk is lexed but for the literal that is still open (`LexedUpTo`). Later places do not matter.
-/

namespace ApiNotes

namespace Tag

/-- What is wrong at index `i` of a text. -/
def Offends (text : List Char) (i : Nat) : Interruption → Prop
  | .tag => StandsOutside ['@', 'L', 'R', 'D'] text i
  | .commentEnd => StandsOutside ['*', '/'] text i
  | .openString => ∃ before body behind, text = before ++ '"' :: (body ++ '\n' :: behind) ∧
      (before ++ '"' :: body).length = i ∧ Lexed before ∧ LiteralBody body
  | .textEnd => False

/-- The places of a text that offend. -/
def offences (text : List Char) : Set Nat :=
  {i | ∃ why, Offends text i why}

/-- The offence at the first place that offends, or the end of the text if there is no such
place. -/
def IsFirstOffence (text : List Char) (why : Interruption) : Prop :=
  (∃ i, IsLeast (offences text) i ∧ Offends text i why) ∨
    (why = .textEnd ∧ offences text = ∅)

variable {region : Region} {depth i : Nat} {why : Interruption} {text before : List Char}

/-- The walk is interrupted by every offence. -/
theorem Offends.interruptionAt?_eq (h : Offends text i why) :
    interruptionAt? .outside text i = some why := by
  cases why with
  | textEnd => exact absurd h id
  | tag =>
      obtain ⟨behind, hbehind⟩ := StandsOutside.exists_interruptionAt?_eq h []
      rw [List.append_nil] at hbehind
      rw [hbehind]
      simp [interruption?]
  | commentEnd =>
      obtain ⟨behind, hbehind⟩ := StandsOutside.exists_interruptionAt?_eq h []
      rw [List.append_nil] at hbehind
      rw [hbehind]
      rfl
  | openString =>
      obtain ⟨before, body, behind, rfl, rfl, hbefore, hbody⟩ := h
      have hcut : before ++ '"' :: (body ++ '\n' :: behind) =
          (before ++ '"' :: body) ++ '\n' :: behind := by simp
      rw [hcut, interruptionAt?_append, Region.after_append, hbefore.after_eq, Region.after_cons]
      change interruption? (Region.inString.after body) _ _ = _
      rw [hbody.after_eq]
      rfl

theorem Offends.unique {why' : Interruption} (h : Offends text i why) (h' : Offends text i why') :
    why = why' :=
  Option.some.inj (h.interruptionAt?_eq.symm.trans h'.interruptionAt?_eq)

/-! ### The text behind the walk -/

theorem LiteralBody.append {xs ys : List Char} (hxs : LiteralBody xs) (hys : LiteralBody ys) :
    LiteralBody (xs ++ ys) := by
  induction hxs with
  | nil => exact hys
  | plain hquote hslash hfeed _ ih => exact .plain hquote hslash hfeed ih
  | escape _ ih => exact .escape ih

/-- A text that is lexed up to the literal that a region is in. -/
def LexedUpTo : Region → List Char → Prop
  | .outside, text => Lexed text
  | .inString, text => ∃ before body, text = before ++ '"' :: body ∧ Lexed before ∧ LiteralBody body
  | .escaped, text => ∃ before body, text = before ++ '"' :: (body ++ ['\\']) ∧ Lexed before ∧
      LiteralBody body

theorem LexedUpTo.append_singleton (h : LexedUpTo region text) {c : Char}
    (hn : region = .inString → c ≠ '\n') : LexedUpTo (region.next c) (text ++ [c]) := by
  cases region with
  | outside =>
      by_cases hquote : c = '"'
      · subst hquote
        exact ⟨text, [], rfl, h, .nil⟩
      · rw [Region.next, if_neg hquote]
        exact Lexed.append h (.plain hquote .nil)
  | escaped =>
      obtain ⟨before, body, rfl, hbefore, hbody⟩ := h
      exact ⟨before, body ++ ['\\', c], by simp, hbefore, hbody.append (.escape .nil)⟩
  | inString =>
      obtain ⟨before, body, rfl, hbefore, hbody⟩ := h
      by_cases hslash : c = '\\'
      · subst hslash
        exact ⟨before, body, by simp, hbefore, hbody⟩
      by_cases hquote : c = '"'
      · subst hquote
        have hliteral : Lexed ('"' :: body ++ ['"']) := .literal hbody .nil
        rw [List.append_assoc]
        exact hbefore.append hliteral
      · rw [Region.next, if_neg hslash, if_neg hquote]
        have hplain : LiteralBody [c] := .plain hquote hslash (hn rfl) .nil
        exact ⟨before, body ++ [c], by simp, hbefore, hbody.append hplain⟩

/-- Text without an interruption is lexed up to the literal that it ends in. -/
theorem lexedUpTo_after {behind : List Char}
    (h : ∀ j < before.length, interruptionAt? .outside (before ++ behind) j = none) :
    LexedUpTo (Region.outside.after before) before := by
  induction before using List.reverseRecOn generalizing behind with
  | nil => exact Lexed.nil
  | append_singleton before c ih =>
      have hcut : before ++ [c] ++ behind = before ++ c :: behind := by simp
      rw [List.length_append, List.length_singleton, hcut] at h
      rw [Region.after_append, Region.after_cons, Region.after_nil]
      refine LexedUpTo.append_singleton (ih fun j hj => h j (by omega)) ?_
      rintro hregion rfl
      have hnone := h before.length (by omega)
      rw [interruptionAt?_append, hregion] at hnone
      cases hnone

theorem exists_of_interruptionAt?_eq_some (h : interruptionAt? region text i = some why) :
    ∃ before c behind, text = before ++ c :: behind ∧ before.length = i ∧
      interruption? (region.after before) c behind = some why := by
  induction text generalizing region i with
  | nil => cases h
  | cons c cs ih =>
      cases i with
      | zero => exact ⟨[], c, cs, rfl, rfl, h⟩
      | succ i =>
          obtain ⟨before, d, behind, rfl, rfl, hwhy⟩ := ih h
          exact ⟨c :: before, d, behind, rfl, rfl, hwhy⟩

/-- The first interruption is an offence. -/
theorem offends_of_interruptionAt? (h : interruptionAt? .outside text i = some why)
    (hfirst : ∀ j < i, interruptionAt? .outside text j = none) : Offends text i why := by
  obtain ⟨before, c, behind, rfl, rfl, hwhy⟩ := exists_of_interruptionAt?_eq_some h
  have hlexed := lexedUpTo_after hfirst
  cases hregion : Region.outside.after before with
  | escaped =>
      rw [hregion] at hwhy
      cases hwhy
  | inString =>
      rw [hregion] at hwhy hlexed
      rw [interruption?] at hwhy
      split at hwhy
      · next hfeed =>
        subst hfeed
        cases hwhy
        obtain ⟨lexed, body, rfl, hbefore, hbody⟩ := hlexed
        exact ⟨lexed, body, behind, by simp, rfl, hbefore, hbody⟩
      · cases hwhy
  | outside =>
      rw [hregion] at hwhy hlexed
      rw [interruption?] at hwhy
      split at hwhy
      · next hclose =>
        obtain ⟨rfl, hhead⟩ := hclose
        obtain ⟨rest, rfl⟩ := List.head?_eq_some_iff.1 hhead
        cases hwhy
        exact ⟨before, rest, rfl, rfl, hlexed⟩
      · split at hwhy
        · next htag =>
          obtain ⟨rfl, hprefix⟩ := htag
          obtain ⟨rest, rfl⟩ := List.isPrefixOf_iff_prefix.1 hprefix
          cases hwhy
          exact ⟨before, rest, rfl, rfl, hlexed⟩
        · cases hwhy

/-! ### The walk -/

/-- A walk that fails is interrupted at the first place where it can be, or reaches the end. -/
theorem interruptionAt?_of_lengthToClose_eq_error
    (h : lengthToClose region depth text = .error why) :
    (∃ i, interruptionAt? region text i = some why ∧
      ∀ j < i, interruptionAt? region text j = none) ∨
      (why = .textEnd ∧ ∀ i, interruptionAt? region text i = none) := by
  induction text generalizing region depth with
  | nil =>
      cases h
      exact Or.inr ⟨rfl, fun _ => rfl⟩
  | cons c cs ih =>
      rw [lengthToClose_cons] at h
      split at h
      · cases h
      cases hi : interruption? region c cs with
      | some reason =>
          rw [hi] at h
          cases h
          exact Or.inl ⟨0, hi, by simp⟩
      | none =>
          rw [hi] at h
          have hrest :
              lengthToClose (region.next c) (nextDepth region depth c) cs = .error why := by
            cases hwalk : lengthToClose (region.next c) (nextDepth region depth c) cs with
            | error reason =>
                rw [hwalk] at h
                exact h
            | ok n =>
                rw [hwalk] at h
                cases h
          obtain ⟨i, hwhy, hfirst⟩ | ⟨rfl, hnone⟩ := ih hrest
          · refine Or.inl ⟨i + 1, hwhy, ?_⟩
            rintro (_ | j) hj
            · exact hi
            · exact hfirst j (by omega)
          · refine Or.inr ⟨rfl, ?_⟩
            rintro (_ | j)
            · exact hi
            · exact hnone j

theorem isFirstOffence_of_objectLength (h : objectLength text = .error why) :
    IsFirstOffence text why := by
  obtain ⟨i, hwhy, hfirst⟩ | ⟨rfl, hnone⟩ := interruptionAt?_of_lengthToClose_eq_error h
  · have hoffends := offends_of_interruptionAt? hwhy hfirst
    refine Or.inl ⟨i, ⟨⟨why, hoffends⟩, ?_⟩, hoffends⟩
    rintro j ⟨reason, hreason⟩
    by_contra hlt
    have hnone := hfirst j (Nat.lt_of_not_le hlt)
    rw [hreason.interruptionAt?_eq] at hnone
    cases hnone
  · refine Or.inr ⟨rfl, Set.eq_empty_of_forall_notMem ?_⟩
    rintro i ⟨reason, hreason⟩
    have hnone := hnone i
    rw [hreason.interruptionAt?_eq] at hnone
    cases hnone

theorem IsFirstOffence.unique {why' : Interruption} (h : IsFirstOffence text why)
    (h' : IsFirstOffence text why') : why = why' := by
  obtain ⟨i, hi, hwhy⟩ | ⟨rfl, hempty⟩ := h
  · obtain ⟨j, hj, hwhy'⟩ | ⟨-, hempty⟩ := h'
    · obtain rfl := hi.unique hj
      exact hwhy.unique hwhy'
    · rw [hempty] at hi
      exact absurd hi.1 (Set.notMem_empty i)
  · obtain ⟨j, hj, -⟩ | ⟨rfl, -⟩ := h'
    · rw [hempty] at hj
      exact absurd hj.1 (Set.notMem_empty j)
    · rfl

/-- Without a clear object at the start of the text, the walk reports the first offence. -/
theorem objectLength_eq_error_iff (hopen : text.head? = some '{') :
    objectLength text = .error why ↔
      (∀ object, object <+: text → IsObject object → ¬ Clear object) ∧ IsFirstOffence text why := by
  constructor
  · intro h
    refine ⟨?_, isFirstOffence_of_objectLength h⟩
    intro object hprefix hobject hclear
    have hok := (objectLength_eq_ok_iff hopen).2 ⟨object, hprefix, rfl, hobject, hclear⟩
    rw [h] at hok
    cases hok
  · rintro ⟨hnone, hfirst⟩
    cases h : objectLength text with
    | ok n =>
        obtain ⟨object, hprefix, -, hobject, hclear⟩ := (objectLength_eq_ok_iff hopen).1 h
        exact absurd hclear (hnone object hprefix hobject)
    | error reason => rw [(isFirstOffence_of_objectLength h).unique hfirst]

end Tag

end ApiNotes
