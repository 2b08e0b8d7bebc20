import ApiNotes.Proofs.Json.RoundTrip
import ApiNotes.Proofs.Text.Digits
import ApiNotes.Proofs.Text.Lines
import ApiNotes.Proofs.Text.Occurrences
import ApiNotes.Proofs.Text.Trim
import ApiNotes.Snippet.Render

/-!
# Mentions of the credential in the parts of a snippet

`mentions` counts how often the placeholder of the credential stands in a text. No quote,
blank, comma, slash, backslash or colon is part of it, and these are the characters that
snippets put between their parts. So quoting and indenting a text keep the number of
mentions, and a JSON value whose strings and keys have none is written without any.

The one place where braces are rewritten is the route of a URL. There every placeholder in
braces loses them, and a brace that stays is never followed by what would close it.
-/

namespace ApiNotes

namespace Json

/-- No string and no key inside of a value contains a word. -/
inductive Avoids (word : List Char) : Json → Prop where
  | null : Avoids word .null
  | bool (b : Bool) : Avoids word (.bool b)
  | int (n : Int) : Avoids word (.int n)
  | real (x : Float) : Avoids word (.real x)
  | str {s : String} : ¬ word <:+: s.toList → Avoids word (.str s)
  | arr {items : List Json} : (∀ v ∈ items, Avoids word v) → Avoids word (.arr items)
  | obj {members : List (String × Json)} : (∀ m ∈ members, ¬ word <:+: m.1.toList) →
      (∀ m ∈ members, Avoids word m.2) → Avoids word (.obj members)

end Json

namespace Snippet

/-- How often the placeholder of the credential stands in a text. -/
def mentions (text : List Char) : Nat :=
  Text.occurrences token.toList text

theorem token_ne_nil : token.toList ≠ [] := by
  decide

variable {text xs ys : List Char} {c : Char}

theorem mentions_eq_zero_iff (text : List Char) :
    mentions text = 0 ↔ ¬ token.toList <:+: text :=
  Text.occurrences_eq_zero_iff token_ne_nil text

theorem mentions_append_cons (hc : c ∉ token.toList) (xs ys : List Char) :
    mentions (xs ++ c :: ys) = mentions xs + mentions ys :=
  Text.occurrences_append_cons token_ne_nil hc xs ys

theorem mentions_append_singleton (hc : c ∉ token.toList) (text : List Char) :
    mentions (text ++ [c]) = mentions text :=
  mentions_append_cons hc text []

/-- A mention begins with an opening brace. -/
theorem mentions_append_of_not_mem (h : '{' ∉ xs) (ys : List Char) :
    mentions (xs ++ ys) = mentions ys := by
  apply Text.occurrences_append_of_head_not_mem token_ne_nil
  intro w hw
  obtain rfl : '{' = w := Option.some.inj hw
  exact h

theorem mentions_cons (hc : '{' ≠ c) (text : List Char) : mentions (c :: text) = mentions text :=
  mentions_append_of_not_mem (mt List.mem_singleton.1 hc) text

theorem mentions_of_not_mem (h : '{' ∉ text) : mentions text = 0 := by
  have hcount := mentions_append_of_not_mem h []
  rwa [List.append_nil] at hcount

theorem mentions_spaces (n : Nat) (text : List Char) :
    mentions (spaces n ++ text) = mentions text := by
  apply mentions_append_of_not_mem
  intro h
  exact absurd (List.eq_of_mem_replicate h) (by decide)

/-! ### Quoted texts -/

theorem guarded_cons {d : Char} {written : List Char} (hc : c ∉ token.toList)
    (hd : d ∉ token.toList) (h : '{' ∉ written) : Text.Guarded token.toList c (d :: written) := by
  refine Or.inr ⟨hc, d, written, rfl, hd, ?_⟩
  intro w hw
  obtain rfl : '{' = w := Option.some.inj hw
  exact h

theorem guarded_backslash {written : List Char} (hc : c ∉ token.toList) (h : '{' ∉ written) :
    Text.Guarded token.toList c ('\\' :: written) :=
  guarded_cons hc (by decide) h

theorem guards_scriptChar : Text.Guards token.toList scriptChar := by
  intro c
  unfold scriptChar
  split_ifs with hslash hquote hfeed hreturn
  · subst hslash
    exact guarded_backslash (by decide) (by decide)
  · subst hquote
    exact guarded_backslash (by decide) (by decide)
  · subst hfeed
    exact guarded_backslash (by decide) (by decide)
  · subst hreturn
    exact guarded_backslash (by decide) (by decide)
  · exact Or.inl rfl

/-- Only characters outside of the placeholder are replaced, and by such that keep it apart. -/
theorem guards_replaceChar {old d : Char} {written : List Char} (hold : old ∉ token.toList)
    (hd : d ∉ token.toList) (h : '{' ∉ written) :
    Text.Guards token.toList (replaceChar old (d :: written)) := by
  intro c
  unfold replaceChar
  split_ifs with hc
  · subst hc
    exact guarded_cons hold hd h
  · exact Or.inl rfl

theorem guards_shellChar : Text.Guards token.toList shellChar :=
  guards_replaceChar (by decide) (by decide) (by decide)

theorem mentions_quoteWith {write : Char → List Char} (h : Text.Guards token.toList write)
    (text : List Char) : mentions (quoteWith write text) = mentions text := by
  rw [quoteWith, List.cons_append, mentions_cons (by decide), mentions_append_singleton (by decide)]
  exact h.occurrences_flatMap token_ne_nil text

theorem mentions_phpQuote (text : List Char) : mentions (phpQuote text) = mentions text := by
  have hslash : Text.Guards token.toList (replaceChar '\\' ['\\', '\\']) :=
    guards_replaceChar (by decide) (by decide) (by decide)
  have hquote : Text.Guards token.toList (replaceChar '\'' ['\\', '\'']) :=
    guards_replaceChar (by decide) (by decide) (by decide)
  rw [phpQuote, mentions_quoteWith hquote]
  exact hslash.occurrences_flatMap token_ne_nil text

theorem hexDigit_ne_brace : ∀ n < 16, '{' ≠ Text.hexDigit n := by
  decide

theorem guards_escapeChar : Text.Guards token.toList Json.escapeChar := by
  intro c
  have hcontrol : c.toNat < 0x20 → c ∉ token.toList := by
    intro h hc
    have hprinted : token.toList.all (fun d => 0x20 ≤ d.toNat) = true := by decide
    have hle : 0x20 ≤ c.toNat := by simpa using List.all_eq_true.1 hprinted c hc
    exact Nat.not_lt.2 hle h
  unfold Json.escapeChar
  split_ifs with hquote hslash hfeed hreturn htab hback hform hcode
  · subst hquote
    exact guarded_backslash (by decide) (by decide)
  · subst hslash
    exact guarded_backslash (by decide) (by decide)
  · exact guarded_backslash (hcontrol (by rw [hfeed]; decide)) (by decide)
  · exact guarded_backslash (hcontrol (by rw [hreturn]; decide)) (by decide)
  · exact guarded_backslash (hcontrol (by rw [htab]; decide)) (by decide)
  · exact guarded_backslash (hcontrol (by rw [hback]; decide)) (by decide)
  · exact guarded_backslash (hcontrol (by rw [hform]; decide)) (by decide)
  · apply guarded_backslash (hcontrol hcode)
    have hhigh := hexDigit_ne_brace (c.toNat / 16) (by omega)
    have hlow := hexDigit_ne_brace (c.toNat % 16) (by omega)
    simp [hhigh, hlow]
  · exact Or.inl rfl

theorem mentions_quote (s : String) : mentions (Json.quote s) = mentions s.toList := by
  rw [Json.quote, List.cons_append, mentions_cons (by decide),
    mentions_append_singleton (by decide)]
  exact guards_escapeChar.occurrences_flatMap token_ne_nil s.toList

/-! ### Numbers -/

theorem not_mem_digits (n : Nat) : '{' ∉ Text.digits n := by
  intro h
  exact absurd (Text.isDigit_of_mem_digits h) (by decide)

theorem not_mem_writeInt (n : Int) : '{' ∉ Json.writeInt n := by
  rw [Json.writeInt]
  split_ifs
  · simp [not_mem_digits]
  · exact not_mem_digits _

theorem not_mem_writePositional {digits : List Char} (h : '{' ∉ digits) (exponent : Int) :
    '{' ∉ Decimal.writePositional digits exponent := by
  have htake : ∀ n, '{' ∉ digits.take n := fun n hn => h (List.mem_of_mem_take hn)
  have hdrop : ∀ n, '{' ∉ digits.drop n := fun n hn => h (List.mem_of_mem_drop hn)
  simp only [Decimal.writePositional]
  split_ifs
  · simp [h]
  · simp [htake, hdrop]
  · simp [h]

theorem not_mem_writeScientific {rising digits : List Char} (hrising : '{' ∉ rising)
    (h : '{' ∉ digits) (order : Int) : '{' ∉ Decimal.writeScientific rising digits order := by
  have htake : '{' ∉ digits.take 1 := fun hn => h (List.mem_of_mem_take hn)
  have hpoint : '{' ∉ (if digits.length ≤ 1 then [] else '.' :: digits.drop 1) := by
    split_ifs
    · exact List.not_mem_nil
    · rw [List.mem_cons, not_or]
      exact ⟨by decide, fun hn => h (List.mem_of_mem_drop hn)⟩
  have hmark : '{' ∉ (if 0 ≤ order then rising else ['e', '-']) := by
    split_ifs
    · exact hrising
    · decide
  simp only [Decimal.writeScientific, List.mem_append, not_or]
  exact ⟨⟨⟨htake, hpoint⟩, hmark⟩, not_mem_digits _⟩

theorem not_mem_writeFloat (x : Float) : '{' ∉ Json.layout.writeFloat x := by
  have hwrite : ∀ d, '{' ∉ Json.layout.write d := by
    intro d
    simp only [Decimal.Layout.write]
    split_ifs
    · exact not_mem_writePositional (not_mem_digits _) _
    · exact not_mem_writeScientific (by decide) (not_mem_digits _) _
  simp only [Decimal.Layout.writeFloat, List.mem_append, not_or]
  constructor
  · split_ifs <;> decide
  · split_ifs
    · decide
    · exact hwrite _

/-! ### Values -/

theorem mentions_newline (n : Nat) (text : List Char) :
    mentions (Json.newline n ++ text) = mentions text := by
  rw [Json.newline, List.cons_append, mentions_cons (by decide)]
  exact mentions_spaces n text

/-- Entries on lines of their own mention the credential only inside of the entries. -/
theorem mentions_spread {α : Type} {spell : α → List Char} {entries : List α}
    (h : ∀ x ∈ entries, mentions (spell x) = 0) (n : Nat) :
    mentions (Json.spread (Json.newline n) spell entries) = 0 := by
  induction entries with
  | nil => rfl
  | cons x entries ih =>
      have hx := h x List.mem_cons_self
      have hrest := ih fun y hy => h y (List.mem_cons_of_mem x hy)
      cases entries with
      | nil => rw [Json.spread, mentions_newline, hx]
      | cons y entries =>
          rw [Json.spread, List.append_assoc, mentions_newline, mentions_append_cons (by decide),
            hx, hrest]

theorem mentions_singleton (c : Char) : mentions [c] = 0 := by
  rw [mentions_eq_zero_iff]
  intro h
  have hlength : token.toList.length ≤ 1 := h.length_le
  exact absurd hlength (by decide)

/-- A bracket at the end of a line begins no mention, and one behind an indentation ends none. -/
theorem mentions_bracketed {inside : List Char} (h : mentions inside = 0) (first last : Char)
    (n : Nat) : mentions (first :: '\n' :: inside ++ Json.newline n ++ [last]) = 0 := by
  have hlast : mentions (List.replicate n ' ' ++ [last]) = 0 :=
    (mentions_spaces n [last]).trans (mentions_singleton last)
  have hfirst : mentions (first :: '\n' :: inside) = 0 := by
    have hcut := mentions_append_cons (c := '\n') (by decide) [first] inside
    rwa [mentions_singleton, h] at hcut
  have hcut := mentions_append_cons (c := '\n') (by decide) (first :: '\n' :: inside)
    (List.replicate n ' ' ++ [last])
  rw [hfirst, hlast] at hcut
  rw [Json.newline, List.append_assoc]
  exact hcut

/-- A container with its entries on lines of their own. -/
theorem mentions_container {α : Type} {spell : α → List Char} {entries : List α}
    (hne : entries ≠ []) (h : ∀ x ∈ entries, mentions (spell x) = 0) (first last : Char)
    (n m : Nat) :
    mentions (first :: Json.spread (Json.newline n) spell entries ++ Json.newline m ++ [last]) =
      0 := by
  have hspread := mentions_spread h n
  obtain ⟨rest, hrest⟩ : ∃ rest, Json.spread (Json.newline n) spell entries = '\n' :: rest := by
    cases entries with
    | nil => exact absurd rfl hne
    | cons x entries => cases entries <;> exact ⟨_, rfl⟩
  rw [hrest] at hspread ⊢
  rw [mentions_cons (by decide)] at hspread
  exact mentions_bracketed hspread first last m

theorem mentions_spellMember {spell : Json → List Char} {m : String × Json}
    (hkey : ¬ token.toList <:+: m.1.toList) (hvalue : mentions (spell m.2) = 0) :
    mentions (Json.spellMember [' '] spell m) = 0 := by
  rw [Json.spellMember, mentions_append_cons (by decide), mentions_quote,
    (mentions_eq_zero_iff _).2 hkey, Nat.zero_add, List.singleton_append, mentions_cons (by decide)]
  exact hvalue

theorem mentions_writeScalar {v : Json} (h : v.Avoids token.toList) :
    mentions (Json.writeScalar v) = 0 := by
  cases h with
  | null => rfl
  | bool b => cases b <;> rfl
  | int n => exact mentions_of_not_mem (not_mem_writeInt n)
  | real x => exact mentions_of_not_mem (not_mem_writeFloat x)
  | str hs => exact (mentions_quote _).trans ((mentions_eq_zero_iff _).2 hs)
  | arr _ => rfl
  | obj _ _ => rfl

theorem mentions_writePretty {v : Json} (h : v.Avoids token.toList) (indent : Nat) :
    mentions (Json.writePretty indent v) = 0 := by
  induction h generalizing indent with
  | null => exact mentions_writeScalar .null
  | bool b => exact mentions_writeScalar (.bool b)
  | int n => exact mentions_writeScalar (.int n)
  | real x => exact mentions_writeScalar (.real x)
  | str hs => exact mentions_writeScalar (.str hs)
  | @arr items _ ih =>
      cases items with
      | nil => rfl
      | cons v items =>
          rw [Json.writePretty, Json.prettyItems_eq]
          exact mentions_container (by simp) (fun w hw => ih w hw _) '[' ']' _ _
  | @obj members hkeys _ ih =>
      cases members with
      | nil => rfl
      | cons m members =>
          rw [Json.writePretty, Json.prettyMembers_eq]
          exact mentions_container (by simp)
            (fun m' hm' => mentions_spellMember (hkeys m' hm') (ih m' hm' _)) '{' '}' _ _

theorem pythonItems_eq (n : Nat) : ∀ items : List Json, items ≠ [] →
    '\n' :: pythonItems n items = Json.spread (Json.newline n) (writePython n) items
  | [], hne => absurd rfl hne
  | [v], _ => rfl
  | v :: w :: items, _ => by
      rw [pythonItems, Json.spread, ← pythonItems_eq n (w :: items) (by simp)]
      rfl

theorem pythonMembers_eq (n : Nat) : ∀ members : List (String × Json), members ≠ [] →
    '\n' :: pythonMembers n members =
      Json.spread (Json.newline n) (Json.spellMember [' '] (writePython n)) members
  | [], hne => absurd rfl hne
  | [(k, v)], _ => by
      rw [pythonMembers, Json.spread, Json.spellMember]
      simp [Json.newline, spaces]
  | (k, v) :: m :: members, _ => by
      rw [pythonMembers, Json.spread, ← pythonMembers_eq n (m :: members) (by simp)]
      simp [Json.newline, spaces, Json.spellMember]

theorem mentions_writePython {v : Json} (h : v.Avoids token.toList) (indent : Nat) :
    mentions (writePython indent v) = 0 := by
  induction h generalizing indent with
  | null => rfl
  | bool b => cases b <;> rfl
  | int n => exact mentions_writeScalar (.int n)
  | real x => exact mentions_writeScalar (.real x)
  | str hs => exact mentions_writeScalar (.str hs)
  | @arr items _ ih =>
      cases items with
      | nil => rfl
      | cons v items =>
          have hcount := mentions_container (List.cons_ne_nil v items)
            (fun w hw => ih w hw (indent + 4)) '[' ']' (indent + 4) indent
          rwa [← pythonItems_eq _ _ (by simp)] at hcount
  | @obj members hkeys _ ih =>
      cases members with
      | nil => rfl
      | cons m members =>
          have hcount := mentions_container (List.cons_ne_nil m members)
            (fun m' hm' => mentions_spellMember (hkeys m' hm') (ih m' hm' (indent + 4)))
            '{' '}' (indent + 4) indent
          rwa [← pythonMembers_eq _ _ (by simp)] at hcount

theorem mentions_phpItems {n : Nat} {items : List Json}
    (h : ∀ v ∈ items, mentions (writePhp n v) = 0) : mentions (phpItems n items) = 0 := by
  induction items with
  | nil => rfl
  | cons v items ih =>
      rw [phpItems, List.append_assoc, mentions_spaces, mentions_append_cons (by decide),
        mentions_cons (by decide), h v List.mem_cons_self, Nat.zero_add]
      exact ih fun w hw => h w (List.mem_cons_of_mem v hw)

theorem mentions_phpMembers {n : Nat} {members : List (String × Json)}
    (hkeys : ∀ m ∈ members, ¬ token.toList <:+: m.1.toList)
    (h : ∀ m ∈ members, mentions (writePhp n m.2) = 0) : mentions (phpMembers n members) = 0 := by
  induction members with
  | nil => rfl
  | cons m members ih =>
      obtain ⟨k, v⟩ := m
      have hkey : mentions k.toList = 0 := (mentions_eq_zero_iff _).2 (hkeys _ List.mem_cons_self)
      have hvalue : mentions (writePhp n v) = 0 := h _ List.mem_cons_self
      have hrest := ih (fun m hm => hkeys m (List.mem_cons_of_mem _ hm))
        fun m hm => h m (List.mem_cons_of_mem _ hm)
      rw [phpMembers, List.append_assoc, List.append_assoc, mentions_spaces, List.cons_append,
        mentions_append_cons (by decide), mentions_phpQuote, hkey, Nat.zero_add]
      simp only [List.cons_append]
      rw [mentions_cons (by decide), mentions_cons (by decide), mentions_cons (by decide),
        mentions_append_cons (by decide), mentions_cons (by decide), hvalue, hrest]

/-- A list in brackets, with each entry on a line that it ends. -/
theorem mentions_phpList {inside : List Char} (h : mentions inside = 0) (n : Nat) :
    mentions ('[' :: '\n' :: inside ++ spaces n ++ [']']) = 0 := by
  have hspaces : ∀ c ∈ spaces n, c ∉ token.toList := by
    intro c hc
    rw [List.eq_of_mem_replicate hc]
    decide
  have hinside : mentions (inside ++ spaces n) = 0 :=
    (Text.occurrences_append_forall_not_mem token_ne_nil hspaces inside).trans h
  rw [mentions_append_singleton (by decide), List.cons_append, List.cons_append,
    mentions_cons (by decide), mentions_cons (by decide), hinside]

theorem mentions_writePhp {v : Json} (h : v.Avoids token.toList) (indent : Nat) :
    mentions (writePhp indent v) = 0 := by
  induction h generalizing indent with
  | null => exact mentions_writeScalar .null
  | bool b => exact mentions_writeScalar (.bool b)
  | int n => exact mentions_writeScalar (.int n)
  | real x => exact mentions_writeScalar (.real x)
  | str hs => exact (mentions_phpQuote _).trans ((mentions_eq_zero_iff _).2 hs)
  | @arr items _ ih =>
      cases items with
      | nil => rfl
      | cons v items =>
          exact mentions_phpList (mentions_phpItems fun w hw => ih w hw (indent + 4)) indent
  | @obj members hkeys _ ih =>
      cases members with
      | nil => rfl
      | cons m members =>
          exact mentions_phpList
            (mentions_phpMembers hkeys fun m' hm' => ih m' hm' (indent + 4)) indent

/-! ### Indented texts -/

theorem mentions_dropReturn (row : List Char) : mentions (Text.dropReturn row) = mentions row := by
  rcases Text.dropReturn_cases row with hkeep | hdrop
  · rw [hkeep]
  · have hcut := mentions_append_singleton (c := '\r') (by decide) (Text.dropReturn row)
    rw [← hdrop] at hcut
    exact hcut.symm

/-- The mentions of a text are those of its lines. -/
theorem mentions_lines (text : List Char) :
    ((Text.lines text).map mentions).sum = mentions text := by
  induction text using Tag.row_induction with
  | row r hr =>
      rw [Text.lines_of_not_mem hr]
      split_ifs with hnil
      · rw [hnil]
        rfl
      · simp
  | more r rest hr ih =>
      rw [Text.lines_append hr, List.map_cons, List.sum_cons, ih, mentions_dropReturn,
        mentions_append_cons (by decide)]

theorem mentions_joinRows (rows : List (List Char)) :
    mentions (Text.joinRows rows) = (rows.map mentions).sum :=
  Text.occurrences_intercalate token_ne_nil (by decide)
    (List.forall_mem_singleton.2 (by decide)) rows

theorem mentions_indentContinuation (n : Nat) (s : String) :
    mentions (indentContinuation n s).toList = mentions s.toList := by
  rw [← mentions_lines s.toList, indentContinuation]
  cases Text.lines s.toList with
  | nil => rfl
  | cons first rest =>
      have hindent : ∀ line : List Char,
          mentions (if line = [] then [] else List.replicate n ' ' ++ line) = mentions line := by
        intro line
        split_ifs with hnil
        · rw [hnil]
        · exact mentions_spaces n line
      simp only [String.toList_ofList, mentions_joinRows, List.map_cons, List.map_map,
        Function.comp_def, hindent]

/-! ### URLs -/

/-- Where no colon was put, a route is written as the URI has it. -/
theorem prefix_of_prefix_colonForm {part : List Char} (hpart : ':' ∉ part) {uri : List Char}
    (h : part <+: Uri.colonForm false uri) : part <+: uri := by
  induction part generalizing uri with
  | nil => exact List.nil_prefix
  | cons p part ih =>
      rw [List.mem_cons, not_or] at hpart
      cases uri with
      | nil => exact absurd (List.prefix_nil.1 h) (by simp)
      | cons c cs =>
          rw [Uri.colonForm] at h
          split_ifs at h with hopen hclose
          · exact absurd (List.cons_prefix_cons.1 h).1.symm hpart.1
          · exact absurd hclose.1 (by decide)
          · obtain ⟨rfl, hrest⟩ := List.cons_prefix_cons.1 h
            exact List.cons_prefix_cons.2 ⟨rfl, ih hpart.2 hrest⟩

/-- The next brace or slash of a text is a closing brace. -/
def ClosesNext (text : List Char) : Prop :=
  (text.dropWhile Uri.isPlaceholderChar).head? = some '}'

theorem closesNext_of_closes {uri : List Char} (h : Uri.closes uri = true) : ClosesNext uri := by
  rw [Uri.closes, Bool.and_eq_true, beq_iff_eq] at h
  exact h.2

theorem ClosesNext.of_cons {uri : List Char} (h : ClosesNext (c :: uri)) (hc : c ≠ '}') :
    Uri.isPlaceholderChar c = true ∧ ClosesNext uri := by
  rw [ClosesNext, List.dropWhile_cons] at h
  split_ifs at h with hplain
  · exact ⟨hplain, h⟩
  · exact absurd (Option.some.inj h) hc

/-- A route does not mention the credential, whatever the braces of the URI are. -/
theorem mentions_colonForm {inside : Bool} {uri : List Char}
    (h : inside = true → ClosesNext uri) : mentions (Uri.colonForm inside uri) = 0 := by
  induction uri generalizing inside with
  | nil => rfl
  | cons c cs ih =>
      rw [Uri.colonForm]
      split_ifs with hopen hclose
      · rw [mentions_cons (by decide)]
        exact ih fun _ => closesNext_of_closes hopen.2
      · exact ih fun hinside => absurd hinside (by decide)
      · have hkeep : inside = true → Uri.isPlaceholderChar c = true ∧ ClosesNext cs := by
          intro hinside
          exact (h hinside).of_cons fun hc => hclose ⟨hinside, hc⟩
        have hstart : ¬ token.toList <+: c :: Uri.colonForm inside cs := by
          intro hbegins
          obtain ⟨hc, hbehind⟩ :
              '{' = c ∧ ['t', 'o', 'k', 'e', 'n', '}'] <+: Uri.colonForm inside cs :=
            List.cons_prefix_cons.1 hbegins
          cases inside with
          | true =>
              -- Inside of a placeholder there is no opening brace.
              have hplain := (hkeep rfl).1
              rw [← hc] at hplain
              exact absurd hplain (by decide)
          | false =>
              obtain ⟨rest, rfl⟩ := prefix_of_prefix_colonForm (by decide) hbehind
              exact hopen ⟨hc.symm, rfl⟩
        have hrest := ih fun hinside => (hkeep hinside).2
        rw [mentions] at hrest ⊢
        rw [Text.occurrences_cons, if_neg hstart, hrest]

theorem mentions_url {base : String} (hbase : ¬ token.toList <:+: base.toList) (uri : String) :
    mentions (Uri.join base (Uri.route uri)).toList = 0 := by
  have hstart : mentions (Text.dropEndWhile Uri.isSlash base.toList) = 0 := by
    rw [mentions_eq_zero_iff]
    intro h
    exact hbase (h.trans (Text.dropEndWhile_isPrefix _ _).isInfix)
  have hend : mentions ((Uri.route uri).toList.dropWhile Uri.isSlash) = 0 := by
    have hroute : mentions (Uri.route uri).toList = 0 := by
      rw [Uri.route, String.toList_ofList]
      exact mentions_colonForm fun hinside => absurd hinside (by decide)
    rw [mentions_eq_zero_iff] at hroute ⊢
    intro h
    exact hroute (h.trans (List.dropWhile_suffix _).isInfix)
  rw [Uri.join, String.toList_ofList, mentions_append_cons (by decide), hstart, hend]

end Snippet

end ApiNotes
