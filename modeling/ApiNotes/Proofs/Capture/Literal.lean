import ApiNotes.Proofs.Capture.Walk

/-!
# String literals of a captured object

`LiteralBody` is what may stand between the quotes of a string literal, and `Lexed` is a
text in which every literal that opens also closes. A position is `InLiteral` when it lies
between the quotes of one of the literals of such a text. The three say nothing of a walk.

The walk and the grammar are tied together twice: what the walk captures is lexed, and in
a lexed text the positions with a region other than `outside` are the ones in a literal.
-/

namespace ApiNotes

namespace Tag

/-- The inside of a string literal: a backslash goes with the character behind it, and
neither a quote nor a line feed stands alone. -/
inductive LiteralBody : List Char → Prop where
  | nil : LiteralBody []
  | plain {c : Char} {cs : List Char} :
      c ≠ '"' → c ≠ '\\' → c ≠ '\n' → LiteralBody cs → LiteralBody (c :: cs)
  | escape {c : Char} {cs : List Char} : LiteralBody cs → LiteralBody ('\\' :: c :: cs)

/-- A text whose string literals are all closed. -/
inductive Lexed : List Char → Prop where
  | nil : Lexed []
  | plain {c : Char} {cs : List Char} : c ≠ '"' → Lexed cs → Lexed (c :: cs)
  | literal {body cs : List Char} :
      LiteralBody body → Lexed cs → Lexed ('"' :: body ++ '"' :: cs)

/-- The character with index `i` stands inside a string literal of a text. -/
def InLiteral (text : List Char) (i : Nat) : Prop :=
  ∃ before body behind,
    text = before ++ '"' :: body ++ '"' :: behind ∧
      Lexed before ∧ LiteralBody body ∧ Lexed behind ∧
        before.length < i ∧ i ≤ before.length + body.length

/-- A position keeps its place in a literal when text that opens none comes before. -/
theorem InLiteral.append_left {text : List Char} {i : Nat} (h : InLiteral text i)
    (pre : List Char) (hp : ∀ before, Lexed before → Lexed (pre ++ before)) :
    InLiteral (pre ++ text) (pre.length + i) := by
  obtain ⟨before, body, behind, rfl, hbefore, hbody, hbehind, hlt, hle⟩ := h
  refine ⟨pre ++ before, body, behind, by simp, hp before hbefore, hbody, hbehind, ?_, ?_⟩
  · rw [List.length_append]
    omega
  · rw [List.length_append]
    omega

theorem LiteralBody.after_eq {body : List Char} (h : LiteralBody body) :
    Region.inString.after body = .inString := by
  induction h with
  | nil => rfl
  | plain hq hb _ _ ih => simpa [Region.next, hq, hb] using ih
  | escape _ ih => simpa [Region.next] using ih

/-- In a lexed text, a character that is no quote and is not outside is in a literal. -/
theorem Lexed.inLiteral {text xs ys : List Char} {c : Char} (h : Lexed text)
    (ht : text = xs ++ c :: ys) (hc : c ≠ '"')
    (hr : Region.outside.after xs ≠ .outside) : InLiteral text xs.length := by
  induction h generalizing xs with
  | nil => simp at ht
  | @plain d cs hd _ ih =>
      cases xs with
      | nil => exact absurd rfl hr
      | cons x xs =>
          obtain ⟨rfl, rfl⟩ := List.cons.inj ht
          have htail : InLiteral (xs ++ c :: ys) xs.length :=
            ih rfl (by simpa [Region.next, hd] using hr)
          have h := htail.append_left [d] fun _ hb => .plain hd hb
          rwa [List.length_singleton, Nat.add_comm] at h
  | @literal body cs hbody hcs ih =>
      cases xs with
      | nil => exact absurd rfl hr
      | cons x xs =>
          obtain ⟨rfl, hbehind⟩ := List.cons.inj ht
          -- The position is behind the closing quote, or else it is in the body.
          rcases List.append_eq_append_iff.1 hbehind with ⟨as, rfl, has⟩ | ⟨bs, rfl, hbs⟩
          · cases as with
            | nil => exact absurd (List.cons.inj has).1.symm hc
            | cons a as =>
                obtain ⟨rfl, rfl⟩ := List.cons.inj has
                have htail : InLiteral (as ++ c :: ys) as.length :=
                  ih rfl (by simpa [Region.next, hbody.after_eq] using hr)
                have h := htail.append_left ('"' :: body ++ ['"']) fun before hb => by
                  rw [List.append_assoc]
                  exact .literal hbody hb
                simpa [Nat.add_comm, Nat.add_left_comm, Nat.add_assoc] using h
          · cases bs with
            | nil => exact absurd (List.cons.inj hbs).1 hc
            | cons b bs =>
                refine ⟨[], xs ++ b :: bs, cs, rfl, .nil, hbody, hcs, ?_, ?_⟩
                · simp
                · simp only [List.length_nil, List.length_append, List.length_cons]
                  omega

/-- What closes the literal that a text starts in: the rest of it, a quote, and lexed text. -/
def ClosesLiteral (text : List Char) : Prop :=
  ∃ body rest, text = body ++ '"' :: rest ∧ LiteralBody body ∧ Lexed rest

/-- The text that a walk may capture from a region on. -/
def LexedFrom : Region → List Char → Prop
  | .outside, text => Lexed text
  | .inString, text => ClosesLiteral text
  | .escaped, text => ∃ c rest, text = c :: rest ∧ ClosesLiteral rest

/-- One character of a text that a walk may capture. -/
theorem LexedFrom.cons {region : Region} {c : Char} {cs : List Char}
    (hn : region = .inString → c ≠ '\n') (h : LexedFrom (region.next c) cs) :
    LexedFrom region (c :: cs) := by
  cases region with
  | escaped => exact ⟨c, cs, rfl, h⟩
  | outside =>
      by_cases hq : c = '"'
      · subst hq
        obtain ⟨body, rest, rfl, hbody, hrest⟩ := h
        exact Lexed.literal hbody hrest
      · rw [Region.next, if_neg hq] at h
        exact Lexed.plain hq h
  | inString =>
      by_cases hb : c = '\\'
      · subst hb
        obtain ⟨d, rest, rfl, body, behind, rfl, hbody, hbehind⟩ := h
        exact ⟨'\\' :: d :: body, behind, rfl, .escape hbody, hbehind⟩
      by_cases hq : c = '"'
      · subst hq
        exact ⟨[], cs, rfl, .nil, h⟩
      · rw [Region.next, if_neg hb, if_neg hq] at h
        obtain ⟨body, behind, rfl, hbody, hbehind⟩ := h
        exact ⟨c :: body, behind, rfl, .plain hq hb (hn rfl) hbody, hbehind⟩

/-- What the walk captures is lexed. -/
theorem lexedFrom_take {region : Region} {depth n : Nat} {text : List Char}
    (h : lengthToClose region depth text = .ok n) : LexedFrom region (text.take n) := by
  induction text generalizing region depth n with
  | nil => simp [lengthToClose_nil] at h
  | cons c cs ih =>
      obtain ⟨⟨rfl, rfl, -⟩, rfl⟩ | ⟨-, hi, m, hm, rfl⟩ := lengthToClose_cons_eq_ok_iff.1 h
      · exact Lexed.plain (by decide) .nil
      · rw [List.take_succ_cons]
        refine LexedFrom.cons ?_ (ih hm)
        rintro rfl rfl
        simp [interruption?] at hi

/-- A marker inside a captured object stands in one of its string literals. -/
theorem inLiteral_of_marker {xs ys : List Char} {n : Nat}
    (h : objectLength (xs ++ '@' :: 'L' :: 'R' :: 'D' :: ys) = .ok n) (hn : xs.length < n) :
    InLiteral ((xs ++ '@' :: 'L' :: 'R' :: 'D' :: ys).take n) xs.length := by
  have hlexed : Lexed ((xs ++ '@' :: 'L' :: 'R' :: 'D' :: ys).take n) := lexedFrom_take h
  obtain ⟨k, rfl⟩ : ∃ k, n = xs.length + (k + 1) := ⟨n - xs.length - 1, by omega⟩
  have htake : (xs ++ '@' :: 'L' :: 'R' :: 'D' :: ys).take (xs.length + (k + 1)) =
      xs ++ '@' :: ('L' :: 'R' :: 'D' :: ys).take k := by
    rw [List.take_length_add_append, List.take_succ_cons]
  exact hlexed.inLiteral htake (by decide) (after_ne_outside_of_marker h hn)

end Tag

end ApiNotes
