import ApiNotes.Proofs.Capture.Offence
import ApiNotes.Proofs.Decimal.Numeral
import ApiNotes.Proofs.Json.RoundTrip
import ApiNotes.Proofs.Text.Lines
import ApiNotes.Snippet.Quote
import Mathlib.Tactic.SplitIfs

/-!
# Indenting a value that is written over several lines

`indentContinuation` goes by the lines of a text and knows nothing of strings. It drops carriage
returns at the ends of lines and a last line feed, and it leaves empty lines as they are. None of
this can happen to a text that is `Laid` out: its lines are not empty, have no carriage return,
and close the string literals that they open. Such a text only gets spaces behind its line feeds
(`shifted`), and no string literal is changed.

The spelling of a JSON value with one entry a line is laid out, because strings escape every
control character. With more spaces it is the spelling that the value has further inside of a
tree, so it is read as the same value.
-/

namespace ApiNotes

namespace Snippet

/-- A text with `n` more spaces behind each line feed. -/
def shifted (n : Nat) (text : List Char) : List Char :=
  text.flatMap fun c => if c = '\n' then Json.newline n else [c]

variable {text row xs ys : List Char}

theorem shifted_append (n : Nat) (xs ys : List Char) :
    shifted n (xs ++ ys) = shifted n xs ++ shifted n ys :=
  List.flatMap_append

theorem shifted_break (n : Nat) (text : List Char) :
    shifted n ('\n' :: text) = Json.newline n ++ shifted n text := rfl

theorem shifted_of_not_mem (h : '\n' ∉ text) (n : Nat) : shifted n text = text := by
  induction text with
  | nil => rfl
  | cons c text ih =>
      rw [List.mem_cons, not_or] at h
      rw [shifted, List.flatMap_cons, if_neg (Ne.symm h.1), List.singleton_append]
      exact congrArg (c :: ·) (ih h.2)

theorem shifted_newline (n m : Nat) : shifted n (Json.newline m) = Json.newline (m + n) := by
  have hspaces : '\n' ∉ List.replicate m ' ' := by simp
  rw [Json.newline, shifted_break, shifted_of_not_mem hspaces, Json.newline, Json.newline,
    List.cons_append, List.replicate_append_replicate, Nat.add_comm]

/-! ### Texts by their lines -/

/-- A line that is not empty and closes its string literals. -/
structure IsLine (row : List Char) : Prop where
  ne_nil : row ≠ []
  feed : '\n' ∉ row
  carriage : '\r' ∉ row
  lexed : Tag.Lexed row

/-- A text that is one line or more. -/
inductive Laid : List Char → Prop where
  | line {row : List Char} : IsLine row → Laid row
  | more {row text : List Char} : IsLine row → Laid text → Laid (row ++ '\n' :: text)

theorem IsLine.append (hxs : IsLine xs) (hys : IsLine ys) : IsLine (xs ++ ys) where
  ne_nil := by simp [hxs.ne_nil]
  feed := by simp [hxs.feed, hys.feed]
  carriage := by simp [hxs.carriage, hys.carriage]
  lexed := hxs.lexed.append hys.lexed

theorem Laid.append (hxs : Laid xs) (hys : Laid ys) : Laid (xs ++ ys) := by
  induction hxs with
  | line hrow =>
      cases hys with
      | line hrow' => exact .line (hrow.append hrow')
      | more hrow' htext =>
          rw [← List.append_assoc]
          exact .more (hrow.append hrow') htext
  | more hrow _ ih =>
      rw [List.append_assoc, List.cons_append]
      exact .more hrow ih

theorem Laid.feed (hxs : Laid xs) (hys : Laid ys) : Laid (xs ++ '\n' :: ys) := by
  induction hxs with
  | line hrow => exact .more hrow hys
  | more hrow _ ih =>
      rw [List.append_assoc, List.cons_append]
      exact .more hrow ih

/-- Whether a character neither ends a line nor opens a string literal. -/
def isInner (c : Char) : Bool :=
  c != '\n' && c != '\r' && c != '"'

theorem isLine_of_all (hne : text ≠ []) (h : text.all isInner = true) : IsLine text := by
  simp only [List.all_eq_true, isInner, Bool.and_eq_true, bne_iff_ne] at h
  refine ⟨hne, fun hmem => (h _ hmem).1.1 rfl, fun hmem => (h _ hmem).1.2 rfl, ?_⟩
  clear hne
  induction text with
  | nil => exact .nil
  | cons c text ih =>
      rw [List.forall_mem_cons] at h
      exact .plain h.1.2 (ih h.2)

theorem isLine_singleton {c : Char} (h : isInner c = true) : IsLine [c] :=
  isLine_of_all (List.cons_ne_nil c []) (by simpa using h)

theorem isLine_spaces {n : Nat} (hn : n ≠ 0) : IsLine (List.replicate n ' ') := by
  refine isLine_of_all (by simpa using hn) ?_
  rw [List.all_replicate]
  simp [isInner]

theorem Laid.newline (hxs : Laid xs) (hys : Laid ys) (n : Nat) :
    Laid (xs ++ (Json.newline n ++ ys)) := by
  rcases Nat.eq_zero_or_pos n with rfl | hn
  · exact hxs.feed hys
  · exact hxs.feed (Laid.append (.line (isLine_spaces (Nat.pos_iff_ne_zero.1 hn))) hys)

theorem IsLine.dropReturn_eq (h : IsLine row) : Text.dropReturn row = row := by
  rcases Text.dropReturn_cases row with hkeep | hdrop
  · exact hkeep
  · have hmem : '\r' ∈ row := by
      rw [hdrop]
      simp
    exact absurd hmem h.carriage

theorem IsLine.lines_eq (h : IsLine row) : Text.lines row = [row] := by
  rw [Text.lines_of_not_mem h.feed, if_neg h.ne_nil]

theorem IsLine.lines_append_eq (h : IsLine row) (text : List Char) :
    Text.lines (row ++ '\n' :: text) = row :: Text.lines text := by
  rw [Text.lines_append h.feed, h.dropReturn_eq]

theorem Laid.lines_ne_nil (h : Laid text) : Text.lines text ≠ [] := by
  cases h with
  | line hrow =>
      rw [hrow.lines_eq]
      exact List.cons_ne_nil _ _
  | more hrow _ =>
      rw [hrow.lines_append_eq]
      exact List.cons_ne_nil _ _

theorem joinRows_cons {rows : List (List Char)} (h : rows ≠ []) (row : List Char) :
    Text.joinRows (row :: rows) = row ++ '\n' :: Text.joinRows rows := by
  obtain ⟨next, rows, rfl⟩ := List.exists_cons_of_ne_nil h
  simp [Text.joinRows, List.intercalate]

/-- The lines behind the first one, with their indentation. -/
theorem Laid.joinRows_lines (h : Laid text) (n : Nat) :
    Text.joinRows ((Text.lines text).map fun line =>
      if line = [] then [] else List.replicate n ' ' ++ line) =
        List.replicate n ' ' ++ shifted n text := by
  induction h with
  | line hrow =>
      rw [hrow.lines_eq, shifted_of_not_mem hrow.feed]
      simp [Text.joinRows, hrow.ne_nil]
  | more hrow htext ih =>
      rw [hrow.lines_append_eq, List.map_cons, if_neg hrow.ne_nil,
        joinRows_cons (by simpa using htext.lines_ne_nil), ih, shifted_append,
        shifted_of_not_mem hrow.feed, shifted_break, List.append_assoc]
      rfl

theorem Laid.indentContinuation_eq (h : Laid text) (n : Nat) :
    (indentContinuation n (String.ofList text)).toList = shifted n text := by
  rw [indentContinuation, String.toList_ofList]
  cases h with
  | line hrow =>
      rw [hrow.lines_eq, shifted_of_not_mem hrow.feed]
      simp [Text.joinRows]
  | more hrow htext =>
      rw [hrow.lines_append_eq, String.toList_ofList,
        joinRows_cons (by simpa using htext.lines_ne_nil), htext.joinRows_lines n,
        shifted_append, shifted_of_not_mem hrow.feed, shifted_break]
      rfl

theorem IsLine.lexed_newline (h : IsLine row) (n : Nat) : Tag.Lexed (row ++ Json.newline n) := by
  have hspaces : Tag.Lexed (Json.newline n) := by
    refine Tag.Lexed.plain (by decide) ?_
    induction n with
    | zero => exact .nil
    | succ n ih => exact .plain (by decide) ih
  exact h.lexed.append hspaces

/-- Each line feed stands outside of the string literals, together with the spaces behind it. -/
theorem Laid.standsOutside (h : Laid text) (n : Nat) {i : Nat}
    (hi : (shifted n text)[i]? = some '\n') :
    Tag.StandsOutside (Json.newline n) (shifted n text) i := by
  induction h generalizing i with
  | line hrow =>
      rw [shifted_of_not_mem hrow.feed] at hi
      exact absurd (List.mem_of_getElem? hi) hrow.feed
  | @more row text hrow _ ih =>
      have hcut : shifted n (row ++ '\n' :: text) = row ++ (Json.newline n ++ shifted n text) := by
        rw [shifted_append, shifted_of_not_mem hrow.feed, shifted_break]
      rw [hcut] at hi ⊢
      rcases Nat.lt_or_ge i row.length with hlt | hge
      · rw [List.getElem?_append_left hlt] at hi
        exact absurd (List.mem_of_getElem? hi) hrow.feed
      rw [List.getElem?_append_right hge] at hi
      obtain ⟨j, rfl⟩ := Nat.exists_eq_add_of_le hge
      rw [Nat.add_sub_cancel_left] at hi
      rcases Nat.lt_or_ge j (Json.newline n).length with hlt | hge
      · -- Among the line feed and the spaces, only the first one is a line feed.
        rw [List.getElem?_append_left hlt] at hi
        cases j with
        | zero => exact ⟨row, shifted n text, rfl, rfl, hrow.lexed⟩
        | succ j =>
            have hspace := List.eq_of_mem_replicate (List.mem_of_getElem? hi)
            exact absurd hspace (by decide)
      · rw [List.getElem?_append_right hge] at hi
        have hstands := (ih hi).append_left (hrow.lexed_newline n)
        rw [List.length_append, Nat.add_assoc, Nat.add_sub_cancel' hge] at hstands
        rwa [← List.append_assoc]

/-! ### Values -/

/-- How a character is written in a string: as a letter or a code behind a backslash, or as it
is. -/
inductive Escaped (c : Char) : List Char → Prop where
  | letter {d : Char} : 0x20 ≤ d.toNat → Escaped c ['\\', d]
  | code {high low : Nat} : high < 16 → low < 16 →
      Escaped c ['\\', 'u', '0', '0', Text.hexDigit high, Text.hexDigit low]
  | itself : c ≠ '"' → c ≠ '\\' → 0x20 ≤ c.toNat → Escaped c [c]

theorem escaped_escapeChar (c : Char) : Escaped c (Json.escapeChar c) := by
  unfold Json.escapeChar
  split_ifs with hquote hslash hfeed hreturn htab hback hform hcode
  any_goals exact .letter (by decide)
  · exact .code (by omega) (by omega)
  · exact .itself hquote hslash (Nat.le_of_not_lt hcode)

theorem printed_hexDigit : ∀ n < 16, 0x20 ≤ (Text.hexDigit n).toNat ∧ Text.hexDigit n ≠ '"' ∧
    Text.hexDigit n ≠ '\\' := by
  decide

theorem literalBody_cons {c : Char} (hquote : c ≠ '"') (hslash : c ≠ '\\')
    (hcode : 0x20 ≤ c.toNat) (h : Tag.LiteralBody text) : Tag.LiteralBody (c :: text) := by
  refine .plain hquote hslash ?_ h
  rintro rfl
  exact absurd hcode (by decide)

theorem Escaped.literalBody {c : Char} (h : Escaped c text) : Tag.LiteralBody text := by
  cases h with
  | letter _ => exact .escape .nil
  | @code high low hhigh hlow =>
      obtain ⟨hcode, hquote, hslash⟩ := printed_hexDigit high hhigh
      obtain ⟨hcode', hquote', hslash'⟩ := printed_hexDigit low hlow
      have hzero : ∀ cs, Tag.LiteralBody cs → Tag.LiteralBody ('0' :: cs) := fun cs =>
        literalBody_cons (by decide) (by decide) (by decide)
      exact .escape (hzero _ (hzero _ (literalBody_cons hquote hslash hcode
        (literalBody_cons hquote' hslash' hcode' .nil))))
  | itself hquote hslash hcode => exact literalBody_cons hquote hslash hcode .nil

/-- No control character stands in a string. -/
theorem Escaped.printed {c d : Char} (h : Escaped c text) (hd : d ∈ text) : 0x20 ≤ d.toNat := by
  cases h with
  | letter hcode =>
      rw [List.mem_cons, List.mem_singleton] at hd
      rcases hd with rfl | rfl
      · decide
      · exact hcode
  | @code high low hhigh hlow =>
      simp only [List.mem_cons, List.not_mem_nil, or_false] at hd
      rcases hd with rfl | rfl | rfl | rfl | rfl | rfl
      any_goals decide
      · exact (printed_hexDigit high hhigh).1
      · exact (printed_hexDigit low hlow).1
  | itself _ _ hcode => rwa [List.mem_singleton.1 hd]

theorem isLine_quote (s : String) : IsLine (Json.quote s) := by
  have hprinted : ∀ d ∈ Json.quote s, 0x20 ≤ d.toNat := by
    intro d hd
    rw [Json.quote, List.cons_append, List.mem_cons, List.mem_append, List.mem_singleton,
      List.mem_flatMap] at hd
    rcases hd with rfl | ⟨c, -, hd⟩ | rfl
    · decide
    · exact (escaped_escapeChar c).printed hd
    · decide
  have hbody : ∀ cs : List Char, Tag.LiteralBody (cs.flatMap Json.escapeChar) := by
    intro cs
    induction cs with
    | nil => exact .nil
    | cons c cs ih => exact (escaped_escapeChar c).literalBody.append ih
  exact ⟨List.cons_ne_nil _ _, fun h => absurd (hprinted _ h) (by decide),
    fun h => absurd (hprinted _ h) (by decide), .literal (hbody s.toList) .nil⟩

theorem isLine_of_isNumeral (h : Decimal.IsNumeral text) : IsLine text := by
  refine isLine_of_all ?_ (List.all_eq_true.2 fun c hc => ?_)
  · rintro rfl
    exact absurd h.isNumeral_eq (by decide)
  · have hne : ∀ d : Char, ¬ (d.isDigit = true ∨ d ∈ ['-', '+', '.', 'e', 'E']) → c ≠ d := by
      rintro d hd rfl
      exact hd (h.mem_cases hc)
    simp only [isInner, Bool.and_eq_true, bne_iff_ne]
    exact ⟨⟨hne _ (by decide), hne _ (by decide)⟩, hne _ (by decide)⟩

theorem isLine_writeScalar (v : Json) : IsLine (Json.writeScalar v) := by
  cases v with
  | null => exact isLine_of_all (by decide) (by decide)
  | bool b => cases b <;> exact isLine_of_all (by decide) (by decide)
  | int n => exact isLine_of_isNumeral (Decimal.isNumeral_writeInt n)
  | real x => exact isLine_of_isNumeral (Decimal.isNumeral_writeFloat x)
  | str s => exact isLine_quote s
  | arr _ =>
      rw [Json.writeScalar]
      exact isLine_of_all (by decide) (by decide)
  | obj _ =>
      rw [Json.writeScalar]
      exact isLine_of_all (by decide) (by decide)

/-- Entries on lines of their own, behind what opens the container. -/
theorem laid_spread {α : Type} {spell : α → List Char} {entries : List α}
    (h : ∀ x ∈ entries, Laid (spell x)) (hxs : Laid xs) (n : Nat) :
    Laid (xs ++ Json.spread (Json.newline n) spell entries) := by
  induction entries generalizing xs with
  | nil => rwa [Json.spread, List.append_nil]
  | cons x entries ih =>
      rw [List.forall_mem_cons] at h
      cases entries with
      | nil =>
          rw [Json.spread]
          exact hxs.newline h.1 n
      | cons y entries =>
          have hcomma : Laid [','] := .line (isLine_singleton rfl)
          have hrest := ih h.2 (hxs.newline (h.1.append hcomma) n)
          rw [Json.spread]
          simpa using hrest

theorem laid_container {α : Type} {spell : α → List Char} {entries : List α}
    (h : ∀ x ∈ entries, Laid (spell x)) {first last : Char} (hfirst : isInner first = true)
    (hlast : isInner last = true) (n m : Nat) :
    Laid (first :: Json.spread (Json.newline n) spell entries ++ Json.newline m ++ [last]) := by
  rw [List.append_assoc]
  exact (laid_spread h (.line (isLine_singleton hfirst)) n).newline
    (.line (isLine_singleton hlast)) m

theorem laid_spellMember {spell : Json → List Char} {m : String × Json} (h : Laid (spell m.2)) :
    Laid (Json.spellMember [' '] spell m) := by
  have hcolon : IsLine [':', ' '] := isLine_of_all (by decide) (by decide)
  exact Laid.append (.line (isLine_quote m.1)) (Laid.append (.line hcolon) h)

theorem laid_writePretty (v : Json) (indent : Nat) : Laid (Json.writePretty indent v) := by
  induction v using Json.induction generalizing indent with
  | null => exact .line (isLine_writeScalar .null)
  | bool b => exact .line (isLine_writeScalar (.bool b))
  | int n => exact .line (isLine_writeScalar (.int n))
  | real x => exact .line (isLine_writeScalar (.real x))
  | str s => exact .line (isLine_writeScalar (.str s))
  | arr items ih =>
      cases items with
      | nil => exact .line (isLine_writeScalar (.arr []))
      | cons w items =>
          rw [Json.writePretty, Json.prettyItems_eq]
          exact laid_container (fun u hu => ih u hu _) rfl rfl _ _
  | obj members ih =>
      cases members with
      | nil => exact .line (isLine_writeScalar (.obj []))
      | cons m members =>
          rw [Json.writePretty, Json.prettyMembers_eq]
          exact laid_container (fun m' hm' => laid_spellMember (ih m' hm' _)) rfl rfl _ _

theorem shifted_spread {α : Type} {n : Nat} {spell spell' : α → List Char} {entries : List α}
    (h : ∀ x ∈ entries, shifted n (spell x) = spell' x) (m : Nat) :
    shifted n (Json.spread (Json.newline m) spell entries) =
      Json.spread (Json.newline (m + n)) spell' entries := by
  induction entries with
  | nil => rfl
  | cons x entries ih =>
      rw [List.forall_mem_cons] at h
      cases entries with
      | nil => rw [Json.spread, Json.spread, shifted_append, shifted_newline, h.1]
      | cons y entries =>
          have hcomma : ∀ cs, shifted n (',' :: cs) = ',' :: shifted n cs := fun cs => rfl
          rw [Json.spread, Json.spread, shifted_append, shifted_append, shifted_newline, h.1,
            hcomma, ih h.2]

theorem shifted_container {α : Type} {n : Nat} {spell spell' : α → List Char} {entries : List α}
    (h : ∀ x ∈ entries, shifted n (spell x) = spell' x) {first last : Char}
    (hfirst : isInner first = true) (hlast : isInner last = true) (k m : Nat) :
    shifted n (first :: Json.spread (Json.newline k) spell entries ++ Json.newline m ++ [last]) =
      first :: Json.spread (Json.newline (k + n)) spell' entries ++ Json.newline (m + n) ++
        [last] := by
  rw [← List.singleton_append, shifted_append, shifted_append, shifted_append,
    shifted_of_not_mem (isLine_singleton hfirst).feed,
    shifted_of_not_mem (isLine_singleton hlast).feed, shifted_newline, shifted_spread h]
  rfl

theorem shifted_spellMember {n : Nat} {spell spell' : Json → List Char} {m : String × Json}
    (h : shifted n (spell m.2) = spell' m.2) :
    shifted n (Json.spellMember [' '] spell m) = Json.spellMember [' '] spell' m := by
  have hcolon : ∀ cs, shifted n (':' :: ([' '] ++ cs)) = ':' :: ([' '] ++ shifted n cs) :=
    fun cs => rfl
  rw [Json.spellMember, Json.spellMember, shifted_append,
    shifted_of_not_mem (isLine_quote m.1).feed, hcolon, h]

/-- With `n` more spaces a line, a value is spelled as it is `n` columns further inside. -/
theorem shifted_writePretty (v : Json) (n indent : Nat) :
    shifted n (Json.writePretty indent v) = Json.writePretty (indent + n) v := by
  induction v using Json.induction generalizing indent with
  | null => exact shifted_of_not_mem (isLine_writeScalar .null).feed n
  | bool b => exact shifted_of_not_mem (isLine_writeScalar (.bool b)).feed n
  | int k => exact shifted_of_not_mem (isLine_writeScalar (.int k)).feed n
  | real x => exact shifted_of_not_mem (isLine_writeScalar (.real x)).feed n
  | str s => exact shifted_of_not_mem (isLine_writeScalar (.str s)).feed n
  | arr items ih =>
      cases items with
      | nil => exact shifted_of_not_mem (isLine_writeScalar (.arr [])).feed n
      | cons w items =>
          rw [Json.writePretty, Json.writePretty, Json.prettyItems_eq, Json.prettyItems_eq,
            Nat.add_right_comm indent n 2]
          exact shifted_container (fun u hu => ih u hu (indent + 2)) rfl rfl (indent + 2) indent
  | obj members ih =>
      cases members with
      | nil => exact shifted_of_not_mem (isLine_writeScalar (.obj [])).feed n
      | cons m members =>
          rw [Json.writePretty, Json.writePretty, Json.prettyMembers_eq, Json.prettyMembers_eq,
            Nat.add_right_comm indent n 2]
          exact shifted_container (fun m' hm' => shifted_spellMember (ih m' hm' (indent + 2)))
            rfl rfl (indent + 2) indent

/-- Indenting the lines of a value behind the first one inserts spaces behind its line feeds,
none of which is in a string literal. The text is still read as the value. -/
theorem parse_indentContinuation (v : Json) (n : Nat) :
    (indentContinuation n v.pretty).toList = shifted n v.pretty.toList ∧
      (∀ i, (indentContinuation n v.pretty).toList[i]? = some '\n' →
        Tag.StandsOutside (Json.newline n) (indentContinuation n v.pretty).toList i) ∧
      (v.Plain Json.depthLimit → Json.parse (indentContinuation n v.pretty).toList = .ok v) := by
  have hlaid : Laid (Json.writePretty 0 v) := laid_writePretty v 0
  have heq : (indentContinuation n v.pretty).toList = shifted n (Json.writePretty 0 v) :=
    hlaid.indentContinuation_eq n
  refine ⟨?_, ?_, ?_⟩
  · rw [heq, Json.pretty, String.toList_ofList]
  · intro i hi
    rw [heq] at hi ⊢
    exact hlaid.standsOutside n hi
  · intro hplain
    rw [heq, shifted_writePretty]
    exact (Json.spells_writePretty hplain _).parse_eq

theorem parse_indentContinuation_nested :
    let v := Json.obj [("a\"\n", .arr [.str "\r\n", .int (-1)])]
    let text := "\x7b\n    \"a\\\"\\n\": [\n      \"\\r\\n\",\n      -1\n    ]\n  \x7d".toList
    (indentContinuation 2 v.pretty).toList = text ∧
      text[1]? = some '\n' ∧ Tag.StandsOutside ['\n', ' ', ' '] text 1 ∧
      v.Plain Json.depthLimit ∧ Json.parse text = .ok v := by
  intro v text
  obtain ⟨-, houtside, hparse⟩ := parse_indentContinuation v 2
  have htext : (indentContinuation 2 v.pretty).toList = text := by
    simp only [v, text]
    cbv
  have hitems : ∀ w ∈ [Json.str "\r\n", .int (-1)], w.Plain 125 := by
    simp only [List.forall_mem_cons, List.not_mem_nil, false_implies, implies_true, and_true]
    exact ⟨.str 125 _, .int 125 ⟨by decide, by decide⟩⟩
  have hplain : v.Plain 127 := .obj (by decide) (List.forall_mem_singleton.2 (.arr hitems))
  rw [htext] at houtside hparse
  exact ⟨htext, rfl, houtside 1 rfl, hplain, hparse hplain⟩

end Snippet

end ApiNotes
