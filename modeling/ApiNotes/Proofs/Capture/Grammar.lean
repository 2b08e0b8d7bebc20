import ApiNotes.Proofs.Capture.Literal

/-!
# The grammar of captured objects

An object is a pair of braces around its content: characters that are neither quotes nor braces,
string literals, and further objects (`Content`, `IsObject`). The walk captures an object exactly
when neither the end of a comment nor a marker stands outside of its string literals
(`objectLength_eq_ok_iff`).

The walk passes over content that is clear of the two words and comes back to the depth at which
it entered, so it closes an object at its last brace. For the converse the open braces are pending:
what the walk captures at depth `d` is `d` times content and a closing brace (`Closing`). Each
character of the walk extends what is captured behind it.
-/

namespace ApiNotes

namespace Tag

/-- What stands between the braces of an object. -/
inductive Content : List Char → Prop where
  | nil : Content []
  | plain {c : Char} {cs : List Char} :
      c ≠ '{' → c ≠ '}' → c ≠ '"' → Content cs → Content (c :: cs)
  | literal {body cs : List Char} :
      LiteralBody body → Content cs → Content ('"' :: body ++ '"' :: cs)
  | object {inner cs : List Char} :
      Content inner → Content cs → Content ('{' :: inner ++ '}' :: cs)

/-- A text that is one object: content between braces. -/
def IsObject (text : List Char) : Prop :=
  ∃ inner, Content inner ∧ text = '{' :: inner ++ ['}']

/-- A word stands at index `i` of a text, outside of its string literals. -/
def StandsOutside (word text : List Char) (i : Nat) : Prop :=
  ∃ before behind, text = before ++ (word ++ behind) ∧ before.length = i ∧ Lexed before

/-- Neither the end of a comment nor a marker stands outside of the string literals of a text. -/
structure Clear (text : List Char) : Prop where
  commentEnd : ∀ i, ¬ StandsOutside ['*', '/'] text i
  tag : ∀ i, ¬ StandsOutside ['@', 'L', 'R', 'D'] text i

theorem Lexed.append {xs ys : List Char} (hxs : Lexed xs) (hys : Lexed ys) : Lexed (xs ++ ys) := by
  induction hxs with
  | nil => exact hys
  | plain hc _ ih => exact .plain hc ih
  | @literal body cs hbody _ ih =>
      rw [List.append_assoc, List.cons_append]
      exact .literal hbody ih

theorem Lexed.after_eq {text : List Char} (h : Lexed text) :
    Region.outside.after text = .outside := by
  induction h with
  | nil => rfl
  | plain hc _ ih => simpa [Region.next, hc] using ih
  | literal hbody _ ih => simpa [Region.next, hbody.after_eq] using ih

theorem Content.lexed {text : List Char} (h : Content text) : Lexed text := by
  induction h with
  | nil => exact .nil
  | plain _ _ hc _ ih => exact .plain hc ih
  | literal hbody _ ih => exact .literal hbody ih
  | object _ _ ihInner ih => exact .plain (by decide) (ihInner.append (.plain (by decide) ih))

theorem StandsOutside.append_left {pre word text : List Char} {i : Nat} (hpre : Lexed pre)
    (h : StandsOutside word text i) : StandsOutside word (pre ++ text) (pre.length + i) := by
  obtain ⟨before, behind, rfl, rfl, hbefore⟩ := h
  exact ⟨pre ++ before, behind, by simp, by simp, hpre.append hbefore⟩

/-- Behind text that leaves no string open, clear text stays clear. -/
theorem Clear.of_append {pre text : List Char} (hpre : Lexed pre) (h : Clear (pre ++ text)) :
    Clear text :=
  ⟨fun _ hi => h.commentEnd _ (hi.append_left hpre), fun _ hi => h.tag _ (hi.append_left hpre)⟩

theorem Clear.interruption?_eq_none {c : Char} {cs : List Char} (h : Clear (c :: cs)) :
    interruption? .outside c cs = none := by
  rw [interruption?, if_neg, if_neg]
  · rintro ⟨rfl, hprefix⟩
    obtain ⟨behind, rfl⟩ := List.isPrefixOf_iff_prefix.1 hprefix
    exact h.tag 0 ⟨[], behind, rfl, rfl, .nil⟩
  · rintro ⟨rfl, hhead⟩
    obtain ⟨behind, rfl⟩ := List.head?_eq_some_iff.1 hhead
    exact h.commentEnd 0 ⟨[], behind, rfl, rfl, .nil⟩

/-! ### The walk over content -/

theorem map_add_map_add (result : Except Interruption Nat) (m n : Nat) :
    (result.map (· + m)).map (· + n) = result.map (· + (m + n)) := by
  cases result with
  | error why => rfl
  | ok k => simp [Except.map, Nat.add_assoc]

/-- The walk goes on behind a character that neither closes the object nor interrupts. -/
theorem lengthToClose_cons_of_next {region : Region} {depth : Nat} {c : Char} {cs : List Char}
    (hclose : ¬ Closes region depth c) (hi : interruption? region c cs = none) :
    lengthToClose region depth (c :: cs) =
      (lengthToClose (region.next c) (nextDepth region depth c) cs).map (· + 1) := by
  rw [lengthToClose_cons, if_neg hclose, hi]

theorem LiteralBody.lengthToClose_append {body : List Char} (h : LiteralBody body)
    (rest : List Char) (depth : Nat) :
    lengthToClose .inString depth (body ++ '"' :: rest) =
      (lengthToClose .outside depth rest).map (· + (body.length + 1)) := by
  have hclose : ∀ region c, region ≠ Region.outside → ¬ Closes region depth c :=
    fun region c hr hclose => hr hclose.1
  induction h with
  | nil => exact lengthToClose_cons_of_next (hclose _ _ (by decide)) rfl
  | @plain c cs hquote hslash hfeed _ ih =>
      have hi : interruption? .inString c (cs ++ '"' :: rest) = none := if_neg hfeed
      have hnext : Region.inString.next c = .inString := by simp [Region.next, hquote, hslash]
      rw [List.cons_append, lengthToClose_cons_of_next (hclose _ _ (by decide)) hi, hnext]
      change (lengthToClose .inString depth _).map _ = _
      rw [ih, map_add_map_add, List.length_cons]
  | @escape c cs _ ih =>
      have hwalk : lengthToClose .inString depth ('\\' :: c :: (cs ++ '"' :: rest)) =
          ((lengthToClose .inString depth (cs ++ '"' :: rest)).map (· + 1)).map (· + 1) := by
        rw [lengthToClose_cons_of_next (hclose _ _ (by decide)) rfl]
        change (lengthToClose .escaped depth _).map _ = _
        rw [lengthToClose_cons_of_next (hclose _ _ (by decide)) rfl]
        rfl
      rw [List.cons_append, List.cons_append, hwalk, ih, map_add_map_add, map_add_map_add,
        List.length_cons, List.length_cons]

/-- Inside of an object the walk passes over content and keeps the depth. -/
theorem Content.lengthToClose_append {content : List Char} (h : Content content) {rest : List Char}
    (hclear : Clear (content ++ rest)) (depth : Nat) :
    lengthToClose .outside (depth + 1) (content ++ rest) =
      (lengthToClose .outside (depth + 1) rest).map (· + content.length) := by
  induction h generalizing depth rest with
  | nil =>
      rw [List.nil_append]
      cases lengthToClose .outside (depth + 1) rest <;> rfl
  | @plain c cs hopen hbrace hquote _ ih =>
      rw [List.cons_append] at hclear
      have hclose : ¬ Closes .outside (depth + 1) c := fun hclose => hbrace hclose.2.1
      have hnext : Region.outside.next c = .outside := if_neg hquote
      have hdepth : nextDepth .outside (depth + 1) c = depth + 1 := by
        simp [nextDepth, hopen, hbrace]
      have htail : Clear (cs ++ rest) := Clear.of_append (.plain hquote .nil) hclear
      rw [List.cons_append, lengthToClose_cons_of_next hclose hclear.interruption?_eq_none, hnext,
        hdepth, ih htail, map_add_map_add, List.length_cons]
  | @literal body cs hbody _ ih =>
      have htext : ('"' :: body ++ '"' :: cs) ++ rest = ('"' :: body ++ ['"']) ++ (cs ++ rest) := by
        simp
      have hclose : ¬ Closes .outside (depth + 1) '"' := fun hclose => by cases hclose.2.1
      have htail : Clear (cs ++ rest) := by
        rw [htext] at hclear
        exact hclear.of_append (.literal hbody .nil)
      have hwalk : lengthToClose .outside (depth + 1) ('"' :: (body ++ '"' :: (cs ++ rest))) =
          (lengthToClose .inString (depth + 1) (body ++ '"' :: (cs ++ rest))).map (· + 1) :=
        lengthToClose_cons_of_next hclose rfl
      rw [List.cons_append, List.cons_append, List.append_assoc, List.cons_append, hwalk,
        hbody.lengthToClose_append, ih htail, map_add_map_add, map_add_map_add]
      congr 2
      funext n
      simp only [List.length_cons, List.length_append]
      omega
  | @object inner cs hinner _ ihInner ih =>
      have htext : ('{' :: inner ++ '}' :: cs) ++ rest =
          ('{' :: inner ++ ['}']) ++ (cs ++ rest) := by simp
      have hlexed : Lexed ('{' :: inner ++ ['}']) :=
        .plain (by decide) (hinner.lexed.append (.plain (by decide) .nil))
      have hopened : Clear (inner ++ '}' :: (cs ++ rest)) := by
        have hcut : ('{' :: inner ++ '}' :: cs) ++ rest =
            ['{'] ++ (inner ++ '}' :: (cs ++ rest)) := by simp
        rw [hcut] at hclear
        exact hclear.of_append (.plain (by decide) .nil)
      have htail : Clear (cs ++ rest) := by
        rw [htext] at hclear
        exact hclear.of_append hlexed
      have hopenWalk : lengthToClose .outside (depth + 1) ('{' :: (inner ++ '}' :: (cs ++ rest))) =
          (lengthToClose .outside (depth + 2) (inner ++ '}' :: (cs ++ rest))).map (· + 1) :=
        lengthToClose_cons_of_next (fun hclose => by cases hclose.2.1) rfl
      -- One more object is open before the brace, so it does not close the outer one.
      have hcloseWalk : lengthToClose .outside (depth + 2) ('}' :: (cs ++ rest)) =
          (lengthToClose .outside (depth + 1) (cs ++ rest)).map (· + 1) :=
        lengthToClose_cons_of_next (fun hclose => by have := hclose.2.2; omega) rfl
      rw [List.cons_append, List.cons_append, List.append_assoc, List.cons_append, hopenWalk,
        ihInner hopened, hcloseWalk, ih htail, map_add_map_add, map_add_map_add, map_add_map_add]
      congr 2
      funext n
      simp only [List.length_cons, List.length_append]
      omega

/-- A clear object is captured, whatever follows it. -/
theorem IsObject.objectLength_append {text : List Char} (h : IsObject text) (hclear : Clear text)
    (more : List Char) : objectLength (text ++ more) = .ok text.length := by
  apply lengthToClose_append
  obtain ⟨inner, hinner, rfl⟩ := h
  have hbrace : Lexed ['{'] := .plain (by decide) .nil
  have hopened : Clear (inner ++ ['}']) := Clear.of_append hbrace hclear
  have hopenWalk : lengthToClose .outside 0 ('{' :: (inner ++ ['}'])) =
      (lengthToClose .outside 1 (inner ++ ['}'])).map (· + 1) :=
    lengthToClose_cons_of_next (fun hclose => by cases hclose.2.1) rfl
  rw [List.cons_append, hopenWalk, hinner.lengthToClose_append hopened]
  simp [lengthToClose, Except.map, Nat.add_comm]

/-! ### What the walk captures -/

/-- What closes a number of open objects: for each of them content and a brace. -/
def Closing : Nat → List Char → Prop
  | 0, text => text = []
  | depth + 1, text =>
    ∃ content rest, text = content ++ '}' :: rest ∧ Content content ∧ Closing depth rest

/-- What closes a number of open objects when a string literal has to be closed first. -/
def ClosingLiteral (depth : Nat) (text : List Char) : Prop :=
  ∃ body rest, text = body ++ '"' :: rest ∧ LiteralBody body ∧ Closing depth rest

/-- What closes a number of open objects from a region on. -/
def ClosingFrom : Region → Nat → List Char → Prop
  | .outside, depth, text => Closing depth text
  | .inString, depth, text => ClosingLiteral depth text
  | .escaped, depth, text => ∃ c rest, text = c :: rest ∧ ClosingLiteral depth rest

/-- One more character in front of what closes the objects. -/
theorem ClosingFrom.cons {region : Region} {depth : Nat} {c : Char} {cs : List Char}
    (hdepth : 0 < depth) (hn : region = .inString → c ≠ '\n')
    (h : ClosingFrom (region.next c) (nextDepth region depth c) cs) :
    ClosingFrom region depth (c :: cs) := by
  obtain ⟨depth, rfl⟩ : ∃ d, depth = d + 1 := ⟨depth - 1, by omega⟩
  cases region with
  | escaped => exact ⟨c, cs, rfl, h⟩
  | inString =>
      by_cases hslash : c = '\\'
      · subst hslash
        obtain ⟨d, rest, rfl, body, behind, rfl, hbody, hbehind⟩ := h
        exact ⟨'\\' :: d :: body, behind, rfl, .escape hbody, hbehind⟩
      by_cases hquote : c = '"'
      · subst hquote
        exact ⟨[], cs, rfl, .nil, h⟩
      · rw [Region.next, if_neg hslash, if_neg hquote] at h
        obtain ⟨body, behind, rfl, hbody, hbehind⟩ := h
        exact ⟨c :: body, behind, rfl, .plain hquote hslash (hn rfl) hbody, hbehind⟩
  | outside =>
      by_cases hquote : c = '"'
      · subst hquote
        obtain ⟨body, rest, rfl, hbody, content, behind, rfl, hcontent, hbehind⟩ := h
        exact ⟨'"' :: body ++ '"' :: content, behind, by simp, .literal hbody hcontent, hbehind⟩
      rw [Region.next, if_neg hquote] at h
      by_cases hopen : c = '{'
      · subst hopen
        obtain ⟨inner, rest, rfl, hinner, content, behind, rfl, hcontent, hbehind⟩ := h
        exact ⟨'{' :: inner ++ '}' :: content, behind, by simp, .object hinner hcontent, hbehind⟩
      by_cases hclose : c = '}'
      · subst hclose
        exact ⟨[], cs, rfl, .nil, h⟩
      · rw [nextDepth, if_neg hopen, if_neg hclose] at h
        obtain ⟨content, behind, rfl, hcontent, hbehind⟩ := h
        exact ⟨c :: content, behind, rfl, .plain hopen hclose hquote hcontent, hbehind⟩

theorem nextDepth_pos {region : Region} {depth : Nat} {c : Char} (hdepth : 0 < depth)
    (hclose : ¬ Closes region depth c) : 0 < nextDepth region depth c := by
  cases region with
  | escaped => exact hdepth
  | inString => exact hdepth
  | outside =>
      rw [nextDepth]
      split
      · omega
      · split
        · next hbrace =>
          have hdeep : ¬ depth ≤ 1 := fun hle => hclose ⟨rfl, hbrace, hle⟩
          omega
        · exact hdepth

/-- What the walk captures closes all objects that are open. -/
theorem closingFrom_take {region : Region} {depth n : Nat} {text : List Char}
    (hdepth : 0 < depth) (h : lengthToClose region depth text = .ok n) :
    ClosingFrom region depth (text.take n) := by
  induction text generalizing region depth n with
  | nil => cases h
  | cons c cs ih =>
      obtain ⟨⟨rfl, rfl, hle⟩, rfl⟩ | ⟨hclose, hi, m, hm, rfl⟩ := lengthToClose_cons_eq_ok_iff.1 h
      · obtain rfl : depth = 1 := by omega
        exact ⟨[], [], rfl, .nil, rfl⟩
      · rw [List.take_succ_cons]
        refine ClosingFrom.cons hdepth ?_ (ih (nextDepth_pos hdepth hclose) hm)
        rintro rfl rfl
        cases hi

/-! ### Interruptions by their place -/

/-- What interrupts a walk at the character with index `i`, whatever the depth and whether or not
the walk would get there. -/
def interruptionAt? (region : Region) : List Char → Nat → Option Interruption
  | [], _ => none
  | c :: cs, 0 => interruption? region c cs
  | c :: cs, i + 1 => interruptionAt? (region.next c) cs i

theorem interruptionAt?_append (region : Region) (before : List Char) (c : Char)
    (behind : List Char) :
    interruptionAt? region (before ++ c :: behind) before.length =
      interruption? (region.after before) c behind := by
  induction before generalizing region with
  | nil => rfl
  | cons d before ih => exact ih (region.next d)

/-- Where a walk closes, nothing has interrupted it. -/
theorem interruptionAt?_of_lengthToClose_eq_ok {region : Region} {depth n i : Nat}
    {text : List Char} (h : lengthToClose region depth text = .ok n) (hi : i < n) :
    interruptionAt? region text i = none := by
  induction text generalizing region depth n i with
  | nil => rfl
  | cons c cs ih =>
      obtain ⟨⟨rfl, rfl, -⟩, rfl⟩ | ⟨-, hnone, m, hm, rfl⟩ := lengthToClose_cons_eq_ok_iff.1 h
      · obtain rfl : i = 0 := by omega
        rfl
      · cases i with
        | zero => exact hnone
        | succ i => exact ih hm (by omega)

theorem StandsOutside.exists_interruptionAt?_eq {c : Char} {word text : List Char} {i : Nat}
    (h : StandsOutside (c :: word) text i) (more : List Char) : ∃ behind,
      interruptionAt? .outside (text ++ more) i = interruption? .outside c (word ++ behind) := by
  obtain ⟨before, behind, rfl, rfl, hbefore⟩ := h
  have hcut : before ++ (c :: word ++ behind) ++ more =
      before ++ c :: (word ++ (behind ++ more)) := by simp
  exact ⟨behind ++ more, by rw [hcut, interruptionAt?_append, hbefore.after_eq]⟩

theorem StandsOutside.lt_length {c : Char} {word text : List Char} {i : Nat}
    (h : StandsOutside (c :: word) text i) : i < text.length := by
  obtain ⟨before, behind, rfl, rfl, -⟩ := h
  simp

/-- What a walk captures is clear. -/
theorem clear_of_lengthToClose {depth : Nat} {text more : List Char}
    (h : lengthToClose .outside depth (text ++ more) = .ok text.length) : Clear text := by
  constructor
  · intro i hi
    obtain ⟨behind, hbehind⟩ := hi.exists_interruptionAt?_eq more
    rw [interruptionAt?_of_lengthToClose_eq_ok h hi.lt_length] at hbehind
    simp [interruption?] at hbehind
  · intro i hi
    obtain ⟨behind, hbehind⟩ := hi.exists_interruptionAt?_eq more
    rw [interruptionAt?_of_lengthToClose_eq_ok h hi.lt_length] at hbehind
    simp [interruption?] at hbehind

/-! ### The captured objects -/

/-- A walk that starts at a brace captures an object. -/
theorem isObject_of_objectLength {text : List Char} (hopen : text.head? = some '{') {n : Nat}
    (h : objectLength text = .ok n) : IsObject (text.take n) := by
  obtain ⟨rest, rfl⟩ := List.head?_eq_some_iff.1 hopen
  obtain ⟨⟨-, hbrace, -⟩, -⟩ | ⟨-, -, m, hm, rfl⟩ := lengthToClose_cons_eq_ok_iff.1 h
  · cases hbrace
  · obtain ⟨content, behind, htake, hcontent, rfl⟩ := closingFrom_take Nat.one_pos hm
    exact ⟨content, hcontent, by rw [List.take_succ_cons, htake, List.cons_append]⟩

/-- At a brace the walk captures exactly the clear objects that the text begins with. -/
theorem objectLength_eq_ok_iff {text : List Char} (hopen : text.head? = some '{') {n : Nat} :
    objectLength text = .ok n ↔
      ∃ object, object <+: text ∧ object.length = n ∧ IsObject object ∧ Clear object := by
  constructor
  · intro h
    obtain ⟨body, behind, rfl, hn, -⟩ := exists_of_lengthToClose_eq_ok h
    have hcut : body ++ '}' :: behind = (body ++ ['}']) ++ behind := by simp
    have hlength : (body ++ ['}']).length = n := by simp [hn]
    have hobject := isObject_of_objectLength hopen h
    rw [hcut, ← hlength] at h
    rw [hcut, ← hlength, List.take_left] at hobject
    exact ⟨_, by rw [hcut]; exact List.prefix_append _ _, hlength, hobject,
      clear_of_lengthToClose h⟩
  · rintro ⟨object, ⟨behind, rfl⟩, rfl, hobject, hclear⟩
    exact hobject.objectLength_append hclear behind

end Tag

end ApiNotes
