import ApiNotes.Json.Writer
import ApiNotes.Proofs.Json.Run
import ApiNotes.Proofs.Text.Digits

/-!
# Reading back what is no container

A text `Spells` a value when the reader takes it for the value wherever a value may stand.
Only a number needs to know what follows it, because it is over when a character cannot
continue it (`Ends`).

Reading is told backwards: if the reader that has taken the value accepts the rest, then
the reader before the value accepts the spelling and the rest. So spellings are put
together from the last character to the first, and no intermediate state is named twice.
-/

namespace ApiNotes

namespace Json

/-- No digit, point or exponent comes first. -/
def Ends (text : List Char) : Prop :=
  ∀ c ∈ text.head?, c.isDigit = false ∧ c ≠ '.' ∧ c ≠ 'e' ∧ c ≠ 'E'

/-- A text that begins with a value is accepted by a reader that waits for one. -/
def Begins (stack : List Frame) (text : List Char) (w : Json) : Prop :=
  ∃ c cs next, text = c :: cs ∧ isSpace c = false ∧ c ≠ ']' ∧
    beginValue stack c = .ok next ∧ next.Reads cs w

/-- A spelling of a value with at most `n` nested containers. -/
def Spells (n : Nat) (text : List Char) (v : Json) : Prop :=
  ∀ (stack : List Frame) (rest : List Char) (w : Json), stack.length + n ≤ depthLimit →
    Ends rest → (complete v stack).Reads rest w → Begins stack (text ++ rest) w

theorem Ends.of_cons {c : Char} (h : c.isDigit = false ∧ c ≠ '.' ∧ c ≠ 'e' ∧ c ≠ 'E')
    (cs : List Char) : Ends (c :: cs) := by
  intro d hd
  obtain rfl := Option.some.inj hd
  exact h

theorem ends_nil : Ends [] := by
  intro c hc
  cases hc

theorem Begins.reads_value {stack : List Frame} {text : List Char} {w : Json}
    (h : Begins stack text w) : State.Reads ⟨.value, stack⟩ text w := by
  obtain ⟨c, cs, next, rfl, hspace, -, hbegin, hnext⟩ := h
  refine reads_cons_iff.2 ⟨next, ?_, hnext⟩
  simp only [State.step, hspace]
  exact hbegin

/-! ### Words -/

theorem spells_null (n : Nat) : Spells n (writeScalar .null) .null := by
  intro stack rest w _ _ h
  exact ⟨'n', _, _, rfl, by decide, by decide, rfl, reads_cons_iff.2 ⟨_, rfl,
    reads_cons_iff.2 ⟨_, rfl, reads_cons_iff.2 ⟨_, rfl, h⟩⟩⟩⟩

theorem spells_bool (n : Nat) (b : Bool) : Spells n (writeScalar (.bool b)) (.bool b) := by
  intro stack rest w _ _ h
  cases b with
  | true =>
      exact ⟨'t', _, _, rfl, by decide, by decide, rfl, reads_cons_iff.2 ⟨_, rfl,
        reads_cons_iff.2 ⟨_, rfl, reads_cons_iff.2 ⟨_, rfl, h⟩⟩⟩⟩
  | false =>
      exact ⟨'f', _, _, rfl, by decide, by decide, rfl, reads_cons_iff.2 ⟨_, rfl,
        reads_cons_iff.2 ⟨_, rfl, reads_cons_iff.2 ⟨_, rfl,
          reads_cons_iff.2 ⟨_, rfl, h⟩⟩⟩⟩⟩

/-! ### Strings -/

theorem hexValue?_hexDigit {n : Nat} (h : n < 16) :
    Text.hexValue? (Text.hexDigit n) = some n := by
  have hall : ∀ m : Fin 16, Text.hexValue? (Text.hexDigit m) = some m.1 := by decide
  exact hall ⟨n, h⟩

/-- A control character is read back from its four digits. -/
theorem reads_control {role : Role} {chars rest : List Char} {stack : List Frame} {w : Json}
    {c : Char} (hc : c.toNat < 0x20)
    (h : State.Reads ⟨.text role (c :: chars) .none, stack⟩ rest w) :
    State.Reads ⟨.text role chars .none, stack⟩ (['\\', 'u', '0', '0',
      Text.hexDigit (c.toNat / 16), Text.hexDigit (c.toNat % 16)] ++ rest) w := by
  have hhigh : Text.hexValue? (Text.hexDigit (c.toNat / 16)) = some (c.toNat / 16) :=
    hexValue?_hexDigit (by omega)
  have hlow : Text.hexValue? (Text.hexDigit (c.toNat % 16)) = some (c.toNat % 16) :=
    hexValue?_hexDigit (by omega)
  have hunit : 16 * (c.toNat / 16) + c.toNat % 16 = c.toNat := by omega
  refine reads_cons_iff.2 ⟨⟨.text role chars .backslash, stack⟩, rfl, ?_⟩
  refine reads_cons_iff.2 ⟨⟨.text role chars (.hex none 0 0), stack⟩, rfl, ?_⟩
  refine reads_cons_iff.2 ⟨⟨.text role chars (.hex none 1 0), stack⟩, rfl, ?_⟩
  refine reads_cons_iff.2 ⟨⟨.text role chars (.hex none 2 0), stack⟩, rfl, ?_⟩
  refine reads_cons_iff.2 ⟨⟨.text role chars (.hex none 3 (c.toNat / 16)), stack⟩, ?_, ?_⟩
  · simp [State.step, Escape.step, hhigh]
  refine reads_cons_iff.2 ⟨⟨.text role (c :: chars) .none, stack⟩, ?_, h⟩
  have hsurrogate : ¬ (0xDC00 ≤ c.toNat ∧ c.toNat ≤ 0xDFFF) := by omega
  have hlead : ¬ (0xD800 ≤ c.toNat ∧ c.toNat ≤ 0xDBFF) := by omega
  simp [State.step, Escape.step, hlow, hunit, unitEscape, hsurrogate, hlead]

/-- A character of a string is read back from its spelling. -/
theorem reads_escapeChar {role : Role} {chars rest : List Char} {stack : List Frame} {w : Json}
    {c : Char} (h : State.Reads ⟨.text role (c :: chars) .none, stack⟩ rest w) :
    State.Reads ⟨.text role chars .none, stack⟩ (escapeChar c ++ rest) w := by
  have hletter : ∀ {d : Char}, d ≠ 'u' → escapedChar? d = some c →
      State.Reads ⟨.text role chars .none, stack⟩ (['\\', d] ++ rest) w := by
    intro d hu hd
    refine reads_cons_iff.2 ⟨⟨.text role chars .backslash, stack⟩, rfl, ?_⟩
    refine reads_cons_iff.2 ⟨⟨.text role (c :: chars) .none, stack⟩, ?_, h⟩
    simp [State.step, Escape.step, hu, hd]
  unfold escapeChar
  split
  · next hc => exact hletter (by decide) (by rw [hc]; rfl)
  split
  · next hc => exact hletter (by decide) (by rw [hc]; rfl)
  split
  · next hc => exact hletter (by decide) (by rw [hc]; rfl)
  split
  · next hc => exact hletter (by decide) (by rw [hc]; rfl)
  split
  · next hc => exact hletter (by decide) (by rw [hc]; rfl)
  split
  · next hc => exact hletter (by decide) (by rw [hc]; rfl)
  split
  · next hc => exact hletter (by decide) (by rw [hc]; rfl)
  split
  · next hc => exact reads_control hc h
  · next hquote hbackslash _ _ _ _ _ hcontrol =>
    refine reads_cons_iff.2 ⟨⟨.text role (c :: chars) .none, stack⟩, ?_, h⟩
    simp [State.step, Escape.step, hquote, hbackslash, hcontrol]

/-- The characters of a string and the closing quote. -/
theorem reads_escaped {role : Role} {cs chars rest : List Char} {stack : List Frame} {w : Json}
    (h : (closeText role (cs.reverse ++ chars) stack).Reads rest w) :
    State.Reads ⟨.text role chars .none, stack⟩ (cs.flatMap escapeChar ++ '"' :: rest) w := by
  induction cs generalizing chars with
  | nil => exact reads_cons_iff.2 ⟨_, rfl, h⟩
  | cons c cs ih =>
      rw [List.flatMap_cons, List.append_assoc]
      apply reads_escapeChar
      apply ih
      rw [List.reverse_cons, List.append_assoc] at h
      exact h

/-- A string behind its opening quote. -/
theorem reads_string {role : Role} {s : String} {rest : List Char} {stack : List Frame}
    {w : Json} (h : (closeText role s.toList.reverse stack).Reads rest w) :
    State.Reads ⟨.text role [] .none, stack⟩ (s.toList.flatMap escapeChar ++ '"' :: rest) w := by
  apply reads_escaped
  rwa [List.append_nil]

theorem spells_str (n : Nat) (s : String) : Spells n (writeScalar (.str s)) (.str s) := by
  intro stack rest w _ _ h
  refine ⟨'"', s.toList.flatMap escapeChar ++ '"' :: rest, _, ?_, by decide, by decide, rfl, ?_⟩
  · simp [writeScalar, quote]
  · apply reads_string
    simpa [closeText] using h

/-! ### Integers -/

theorem finish_complete (v : Json) (stack : List Frame) :
    (complete v stack).finish = (complete v stack).mode.close := by
  match stack with
  | [] => rfl
  | .item _ :: _ => rfl
  | .member _ _ :: _ => rfl

/-- A number is over where no character continues it. -/
theorem reads_number {negative : Bool} {part : NumberPart} {v w : Json} {stack : List Frame}
    {rest : List Char} (hvalue : part.value negative = .ok v)
    (hover : ∀ c ∈ rest.head?, part.step c = .ok none) (h : (complete v stack).Reads rest w) :
    State.Reads ⟨.number negative part, stack⟩ rest w := by
  cases rest with
  | nil =>
      have hfinish := reads_nil_iff.1 h
      rw [finish_complete] at hfinish
      apply reads_nil_iff.2
      simp only [State.finish, hvalue]
      exact hfinish
  | cons c cs =>
      obtain ⟨next, hstep, hnext⟩ := reads_cons_iff.1 h
      rw [step_complete] at hstep
      refine reads_cons_iff.2 ⟨next, ?_, hnext⟩
      simp only [State.step, hover c rfl, hvalue]
      exact hstep

/-- Digits that fit into the significand are appended to it. -/
theorem reads_digits {negative : Bool} {s : Nat} {ds rest : List Char} {stack : List Frame}
    {w : Json} (hds : ∀ c ∈ ds, c.isDigit = true)
    (hfits : Text.appendDigits s ds ≤ significandLimit)
    (h : State.Reads ⟨.number negative (.whole (Text.appendDigits s ds)), stack⟩ rest w) :
    State.Reads ⟨.number negative (.whole s), stack⟩ (ds ++ rest) w := by
  induction ds generalizing s with
  | nil => exact h
  | cons c ds ih =>
      rw [Text.appendDigits_cons] at hfits h
      have hdigit : c.isDigit = true := hds c List.mem_cons_self
      have hfit : fits s c = true :=
        decide_eq_true (Nat.le_trans (Text.le_appendDigits _ ds) hfits)
      refine reads_cons_iff.2
        ⟨⟨.number negative (.whole (10 * s + Text.digitValue c)), stack⟩, ?_, ?_⟩
      · simp only [State.step, NumberPart.step, hdigit, hfit, if_true]
      · exact ih (fun d hd => hds d (List.mem_cons_of_mem c hd)) hfits h

theorem step_whole_of_ends {text : List Char} (h : Ends text) (s : Nat) :
    ∀ c ∈ text.head?, NumberPart.step (.whole s) c = .ok none := by
  intro c hc
  obtain ⟨hdigit, hpoint, he, hE⟩ := h c hc
  simp [NumberPart.step, hdigit, hpoint, he, hE]

theorem step_zero_of_ends {text : List Char} (h : Ends text) :
    ∀ c ∈ text.head?, NumberPart.step .zero c = .ok none := by
  intro c hc
  obtain ⟨hdigit, hpoint, he, hE⟩ := h c hc
  simp [NumberPart.step, hdigit, hpoint, he, hE]

/-- The digits of a positive number, behind the first one. -/
theorem reads_positive {negative : Bool} {m : Nat} {c : Char} {cs rest : List Char}
    {stack : List Frame} {v w : Json} (hdigits : Text.digits m = c :: cs)
    (hm : m ≤ significandLimit) (hvalue : NumberPart.value negative (.whole m) = .ok v)
    (hrest : Ends rest) (h : (complete v stack).Reads rest w) :
    State.Reads ⟨.number negative (.whole (Text.digitValue c)), stack⟩ (cs ++ rest) w := by
  have hall : Text.appendDigits (Text.digitValue c) cs = m := by
    have hdenotes := Text.appendDigits_digits m
    rw [hdigits, Text.appendDigits_cons, Nat.mul_zero, Nat.zero_add] at hdenotes
    exact hdenotes
  apply reads_digits
  · intro d hd
    exact Text.isDigit_of_mem_digits (by rw [hdigits]; exact List.mem_cons_of_mem c hd)
  · rw [hall]
    exact hm
  · rw [hall]
    exact reads_number hvalue (step_whole_of_ends hrest m) h

theorem isSpace_of_isDigit {c : Char} (h : c.isDigit = true) : isSpace c = false := by
  cases hspace : isSpace c with
  | false => rfl
  | true =>
      simp only [isSpace, Bool.or_eq_true, beq_iff_eq] at hspace
      rcases hspace with ((rfl | rfl) | rfl) | rfl <;> exact absurd h (by decide)

theorem beginValue_digit {c : Char} (hdigit : c.isDigit = true) (hzero : c ≠ '0')
    (stack : List Frame) :
    beginValue stack c = .ok ⟨.number false (.whole (Text.digitValue c)), stack⟩ := by
  unfold beginValue
  split
  all_goals first
    | exact absurd hdigit (by decide)
    | exact absurd rfl hzero
    | rw [if_pos hdigit]

/-- The integers that are read exactly. -/
def InRange (n : Int) : Prop :=
  -0x8000000000000000 ≤ n ∧ n ≤ 0xFFFFFFFFFFFFFFFF

theorem spells_natCast (n m : Nat) (hm : m ≤ significandLimit) :
    Spells n (Text.digits m) (.int m) := by
  intro stack rest w _ hrest h
  rcases Nat.eq_zero_or_pos m with rfl | hpos
  · exact ⟨'0', rest, _, rfl, by decide, by decide, rfl,
      reads_number rfl (step_zero_of_ends hrest) h⟩
  · obtain ⟨c, cs, hdigits, hzero⟩ := Text.exists_digits_eq_cons hpos
    have hdigit : c.isDigit = true :=
      Text.isDigit_of_mem_digits (by rw [hdigits]; exact List.mem_cons_self)
    refine ⟨c, cs ++ rest, _, by rw [hdigits]; rfl, ?_, ?_,
      beginValue_digit hdigit hzero stack, ?_⟩
    · exact isSpace_of_isDigit hdigit
    · rintro rfl
      exact absurd hdigit (by decide)
    · exact reads_positive hdigits hm rfl hrest h

theorem spells_neg (n : Nat) {m : Nat} (hpos : 0 < m) (hm : m ≤ 0x8000000000000000) :
    Spells n ('-' :: Text.digits m) (.int (-m)) := by
  intro stack rest w _ hrest h
  obtain ⟨c, cs, hdigits, hzero⟩ := Text.exists_digits_eq_cons hpos
  have hdigit : c.isDigit = true :=
    Text.isDigit_of_mem_digits (by rw [hdigits]; exact List.mem_cons_self)
  have hlimit : m ≤ significandLimit := Nat.le_trans hm (by decide)
  have hvalue : NumberPart.value true (.whole m) = .ok (.int (-m)) := by
    rw [NumberPart.value, if_neg (by decide), if_pos hm]
  refine ⟨'-', Text.digits m ++ rest, _, rfl, by decide, by decide, rfl, ?_⟩
  rw [hdigits]
  refine reads_cons_iff.2 ⟨⟨.number true (.whole (Text.digitValue c)), stack⟩, ?_,
    reads_positive hdigits hlimit hvalue hrest h⟩
  simp [State.step, NumberPart.step, hdigit, hzero]

theorem spells_int (k : Nat) {n : Int} (h : InRange n) :
    Spells k (writeScalar (.int n)) (.int n) := by
  obtain ⟨hlow, hhigh⟩ := h
  rw [writeScalar, writeInt]
  split
  · next hneg =>
    have hint : (-(n.natAbs : Int)) = n := by omega
    have hspells := spells_neg k (m := n.natAbs) (by omega) (by omega)
    rwa [hint] at hspells
  · next hneg =>
    have hint : (n.natAbs : Int) = n := by omega
    have hlimit : n.natAbs ≤ significandLimit := by
      rw [significandLimit]
      omega
    have hspells := spells_natCast k n.natAbs hlimit
    rwa [hint] at hspells

end Json

end ApiNotes
