import ApiNotes.Proofs.Snippet.Dialect
import ApiNotes.Proofs.Snippet.Mention

/-!
# What the literals of snippets denote

A literal of Python denotes the value that it is written for, with its numbers as they are
spelled, its strings character by character, and the members of its objects in their order. So
values with one literal are equal but for numbers with one spelling.

PHP has one kind of array, and an array without entries is neither a list nor a map. A literal
of PHP therefore denotes the value with its empty objects turned into empty lists, throughout
the tree. Nothing else is lost: values have the same literal exactly when they are equal after
that replacement.
-/

namespace ApiNotes

namespace Datum

/-- An array with keys. Without any entry it is an empty list. -/
def keyed : List (String × Datum) → Datum
  | [] => .arr []
  | m :: members => .obj (m :: members)

/-- The value with its empty objects turned into empty lists. -/
def collapsed : Datum → Datum
  | null => .null
  | bool b => .bool b
  | number spelling => .number spelling
  | str s => .str s
  | arr items => .arr (items.map fun v => v.collapsed)
  | obj members => keyed (members.map fun m => (m.1, m.2.collapsed))
decreasing_by
  · decreasing_tactic
  · next hm =>
    have := Table.sizeOf_snd_lt_of_mem hm
    decreasing_tactic

end Datum

namespace Snippet

open Dialect

/-! ### Python -/

theorem python_assemble?_items {α : Type} (f : α → Datum) (xs : List α) :
    python.assemble? .square (xs.map fun x => (none, f x)) = some (.arr (xs.map f)) :=
  congrArg (Option.map Datum.arr) (items?_map f xs)

theorem python_assemble?_members {α : Type} (key : α → String) (f : α → Datum) (xs : List α) :
    python.assemble? .curly (xs.map fun x => (some (key x), f x)) =
      some (.obj (xs.map fun x => (key x, f x))) :=
  congrArg (Option.map Datum.obj) (members?_map key f xs)

theorem denotes_quote (s : String) : python.Denotes (Json.quote s) (.str s) := by
  have h : python.Denotes _ _ := denotes_quoted Quotation.python_undoes_escapeChar s.toList
  rwa [String.ofList_toList] at h

theorem denotesEntry_spellMember {spell : Json → List Char} {m : String × Json} {v : Datum}
    (h : python.Denotes (spell m.2) v) :
    python.DenotesEntry (Json.spellMember [' '] spell m) (some m.1, v) := by
  have hgap : ∀ c ∈ [' '], Json.isSpace c = true := by simp [Json.isSpace]
  exact (denotes_quote m.1).member h (List.forall_mem_nil _) hgap

theorem denotes_writePython (v : Json) (indent : Nat) :
    python.Denotes (writePython indent v) v.datum := by
  induction v using Json.induction generalizing indent with
  | null =>
      rw [Json.datum, writePython]
      exact denotes_word (by decide) (by decide) rfl
  | bool b =>
      rw [Json.datum]
      cases b <;> rw [writePython] <;> exact denotes_word (by decide) (by decide) rfl
  | int n =>
      rw [Json.datum]
      exact denotes_numeral (Decimal.isNumeral_writeInt n)
  | real x =>
      rw [Json.datum]
      exact denotes_numeral (Decimal.isNumeral_writeFloat x)
  | str s =>
      rw [Json.datum]
      exact denotes_quote s
  | arr items ih =>
      rw [Json.datum]
      cases items with
      | nil => exact denotes_empty rfl rfl rfl
      | cons w items =>
          have h := denotes_brackets (rfl : Token.ofChar? '[' = _) (rfl : Token.ofChar? ']' = _)
            (Json.isSpace_of_mem_newline (indent + 4)) (Json.isSpace_of_mem_newline indent)
            (Or.inl rfl) (List.cons_ne_nil w items) (fun u hu => (ih u hu (indent + 4)).item)
            (python_assemble?_items Json.datum (w :: items))
          rw [← pythonItems_eq _ _ (by simp)] at h
          simpa [writePython, Json.newline, spaces] using h
  | obj members ih =>
      rw [Json.datum]
      cases members with
      | nil => exact denotes_empty rfl rfl rfl
      | cons m members =>
          have h := denotes_brackets (rfl : Token.ofChar? '{' = _) (rfl : Token.ofChar? '}' = _)
            (Json.isSpace_of_mem_newline (indent + 4)) (Json.isSpace_of_mem_newline indent)
            (Or.inl rfl) (List.cons_ne_nil m members)
            (fun m' hm' => denotesEntry_spellMember (ih m' hm' (indent + 4)))
            (python_assemble?_members Prod.fst (fun m => m.2.datum) (m :: members))
          rw [← pythonMembers_eq _ _ (by simp)] at h
          simpa [writePython, Json.newline, spaces] using h

/-- Every literal of Python is read as the value that it is written for, with the members of its
objects in their order, and values with one literal are the same up to numbers with one
spelling. -/
theorem read?_pythonLiteral (indent : Nat) :
    (∀ v, python.read? (pythonLiteral indent v).toList = some v.datum) ∧
      ∀ v w, pythonLiteral indent v = pythonLiteral indent w → v.datum = w.datum := by
  have hread : ∀ v, python.read? (pythonLiteral indent v).toList = some v.datum := by
    intro v
    rw [pythonLiteral, String.toList_ofList]
    exact (denotes_writePython v indent).read?_eq
  refine ⟨hread, fun v w h => ?_⟩
  have hsome : some v.datum = some w.datum := by
    rw [← hread v, h, hread w]
  exact Option.some.inj hsome

/-! ### PHP -/

theorem php_assemble?_items {α : Type} (f : α → Datum) (xs : List α) :
    php.assemble? .square (xs.map fun x => (none, f x)) = some (.arr (xs.map f)) := by
  have h := congrArg (Option.map Datum.arr) (items?_map f xs)
  exact congrArg (Option.or · _) h

theorem php_assemble?_members {α : Type} (key : α → String) (f : α → Datum) (xs : List α) :
    php.assemble? .square (xs.map fun x => (some (key x), f x)) =
      some (.keyed (xs.map fun x => (key x, f x))) := by
  cases xs with
  | nil => rfl
  | cons x xs => exact congrArg (Option.map Datum.obj) (members?_map key f (x :: xs))

/-- Entries on lines of their own, each with a comma behind it. -/
def phpRows (n : Nat) (entries : List (List Char)) : List Char :=
  entries.flatMap fun entry => spaces n ++ entry ++ [',', '\n']

theorem phpRows_map {α : Type} (n : Nat) (spell : α → List Char) : ∀ xs : List α, xs ≠ [] →
    '\n' :: phpRows n (xs.map spell) = Json.spread (Json.newline n) spell xs ++ [',', '\n']
  | [], hne => absurd rfl hne
  | [x], _ => by simp [phpRows, Json.spread, Json.newline, spaces]
  | x :: y :: xs, _ => by
      have ih := phpRows_map n spell (y :: xs) (List.cons_ne_nil y xs)
      rw [Json.spread, List.append_assoc, List.cons_append, ← ih]
      simp [phpRows, Json.newline, spaces]

/-- Brackets around entries. -/
def phpArray (indent : Nat) : List (List Char) → List Char
  | [] => ['[', ']']
  | entry :: entries =>
    '[' :: '\n' :: phpRows (indent + 4) (entry :: entries) ++ spaces indent ++ [']']

/-- A value behind its key. -/
def phpMember (k : String) (value : List Char) : List Char :=
  phpQuote k.toList ++ ' ' :: '=' :: '>' :: ' ' :: value

theorem phpItems_eq (n : Nat) (items : List Json) :
    phpItems n items = phpRows n (items.map (writePhp n)) := by
  induction items with
  | nil => rfl
  | cons v items ih => simp [phpItems, phpRows, ih]

theorem phpMembers_eq (n : Nat) (members : List (String × Json)) :
    phpMembers n members = phpRows n (members.map fun m => phpMember m.1 (writePhp n m.2)) := by
  induction members with
  | nil => rfl
  | cons m members ih => simp [phpMembers, phpRows, phpMember, ih]

theorem writePhp_arr (indent : Nat) (items : List Json) :
    writePhp indent (.arr items) = phpArray indent (items.map (writePhp (indent + 4))) := by
  cases items with
  | nil => rfl
  | cons v items =>
      rw [writePhp, phpItems_eq]
      rfl

theorem writePhp_obj (indent : Nat) (members : List (String × Json)) :
    writePhp indent (.obj members) =
      phpArray indent (members.map fun m => phpMember m.1 (writePhp (indent + 4) m.2)) := by
  cases members with
  | nil => rfl
  | cons m members =>
      rw [writePhp, phpMembers_eq]
      rfl

theorem denotes_phpQuote (s : String) : php.Denotes (phpQuote s.toList) (.str s) := by
  have h : php.Denotes _ _ := denotes_quoted Quotation.php_undoes_phpChar s.toList
  rw [Quotation.phpQuote_eq]
  rwa [String.ofList_toList] at h

theorem denotesEntry_phpMember {value : List Char} {v : Datum} (h : php.Denotes value v)
    (k : String) : php.DenotesEntry (phpMember k value) (some k, v) := by
  have hgap : ∀ c ∈ [' '], Json.isSpace c = true := by simp [Json.isSpace]
  exact (denotes_phpQuote k).member h hgap hgap

theorem denotes_phpArray {α : Type} {spell : α → List Char} {entry : α → Entry} {xs : List α}
    (hxs : ∀ x ∈ xs, php.DenotesEntry (spell x) (entry x)) {v : Datum}
    (hv : php.assemble? .square (xs.map entry) = some v) (indent : Nat) :
    php.Denotes (phpArray indent (xs.map spell)) v := by
  cases xs with
  | nil => exact denotes_empty rfl rfl hv
  | cons x xs =>
      have h := denotes_brackets (rfl : Token.ofChar? '[' = _) (rfl : Token.ofChar? ']' = _)
        (Json.isSpace_of_mem_newline (indent + 4)) (Json.isSpace_of_mem_newline indent)
        (Or.inr rfl) (List.cons_ne_nil x xs) hxs hv
      have hrows := phpRows_map (indent + 4) spell (x :: xs) (List.cons_ne_nil x xs)
      rw [List.map_cons] at hrows ⊢
      rw [phpArray, hrows]
      simpa [Json.newline, spaces] using h

theorem denotes_writePhp (v : Json) (indent : Nat) :
    php.Denotes (writePhp indent v) v.datum.collapsed := by
  induction v using Json.induction generalizing indent with
  | null =>
      rw [Json.datum, Datum.collapsed]
      show php.Denotes (Json.writeScalar .null) _
      exact denotes_word (by decide) (by decide) rfl
  | bool b =>
      rw [Json.datum, Datum.collapsed]
      show php.Denotes (Json.writeScalar (.bool b)) _
      cases b <;> exact denotes_word (by decide) (by decide) rfl
  | int n =>
      rw [Json.datum, Datum.collapsed]
      exact denotes_numeral (Decimal.isNumeral_writeInt n)
  | real x =>
      rw [Json.datum, Datum.collapsed]
      exact denotes_numeral (Decimal.isNumeral_writeFloat x)
  | str s =>
      rw [Json.datum, Datum.collapsed]
      exact denotes_phpQuote s
  | arr items ih =>
      rw [Json.datum, Datum.collapsed, List.map_map, writePhp_arr]
      exact denotes_phpArray (fun v hv => (ih v hv (indent + 4)).item)
        (php_assemble?_items _ items) indent
  | obj members ih =>
      rw [Json.datum, Datum.collapsed, List.map_map, writePhp_obj]
      exact denotes_phpArray (fun m hm => denotesEntry_phpMember (ih m hm (indent + 4)) m.1)
        (php_assemble?_members Prod.fst _ members) indent

/-- The literal of a value with its numbers as they are spelled. -/
def spellPhp (indent : Nat) : Datum → List Char
  | .null => Json.writeScalar .null
  | .bool b => Json.writeScalar (.bool b)
  | .number spelling => spelling.toList
  | .str s => phpQuote s.toList
  | .arr items => phpArray indent (items.map fun v => spellPhp (indent + 4) v)
  | .obj members =>
    phpArray indent (members.map fun m => phpMember m.1 (spellPhp (indent + 4) m.2))
termination_by v => sizeOf v
decreasing_by
  · decreasing_tactic
  · next hm =>
    have := Table.sizeOf_snd_lt_of_mem hm
    decreasing_tactic

/-- Without entries, there is no difference. -/
theorem spellPhp_keyed (indent : Nat) (members : List (String × Datum)) :
    spellPhp indent (.keyed members) =
      phpArray indent (members.map fun m => phpMember m.1 (spellPhp (indent + 4) m.2)) := by
  cases members with
  | nil =>
      rw [Datum.keyed, spellPhp]
      rfl
  | cons m members => rw [Datum.keyed, spellPhp]

/-- The literal of a value is determined by the value without its empty objects. -/
theorem spellPhp_collapsed (v : Json) (indent : Nat) :
    spellPhp indent v.datum.collapsed = writePhp indent v := by
  induction v using Json.induction generalizing indent with
  | null =>
      rw [Json.datum, Datum.collapsed, spellPhp]
      rfl
  | bool b =>
      rw [Json.datum, Datum.collapsed, spellPhp]
      rfl
  | int n =>
      rw [Json.datum, Datum.collapsed, spellPhp, String.toList_ofList]
      rfl
  | real x =>
      rw [Json.datum, Datum.collapsed, spellPhp, String.toList_ofList]
      rfl
  | str s => rw [Json.datum, Datum.collapsed, spellPhp, writePhp]
  | arr items ih =>
      rw [Json.datum, Datum.collapsed, spellPhp, writePhp_arr, List.map_map, List.map_map]
      exact congrArg (phpArray indent) (List.map_congr_left fun v hv => ih v hv (indent + 4))
  | obj members ih =>
      rw [Json.datum, Datum.collapsed, spellPhp_keyed, writePhp_obj, List.map_map, List.map_map]
      exact congrArg (phpArray indent)
        (List.map_congr_left fun m hm => congrArg (phpMember m.1) (ih m hm (indent + 4)))

/-- Every literal of PHP is read as the value that it is written for, with empty lists in the
place of its empty objects and the members of the others in their order. Values that differ in
nothing else, and only these, have the same literal. -/
theorem read?_phpLiteral (indent : Nat) :
    (∀ v, php.read? (phpLiteral indent v).toList = some v.datum.collapsed) ∧
      ∀ v w, phpLiteral indent v = phpLiteral indent w ↔
        v.datum.collapsed = w.datum.collapsed := by
  have hread : ∀ v, php.read? (phpLiteral indent v).toList = some v.datum.collapsed := by
    intro v
    rw [phpLiteral, String.toList_ofList]
    exact (denotes_writePhp v indent).read?_eq
  refine ⟨hread, fun v w => ⟨fun h => ?_, fun h => ?_⟩⟩
  · have hsome : some v.datum.collapsed = some w.datum.collapsed := by
      rw [← hread v, h, hread w]
    exact Option.some.inj hsome
  · rw [phpLiteral, phpLiteral, ← spellPhp_collapsed, h, spellPhp_collapsed]

end Snippet

end ApiNotes
