import ApiNotes.Json.Reader
import ApiNotes.Proofs.Capture.Walk
import Mathlib.Tactic.ByContra

/-!
# What one character does to the reader of JSON

Two views of the state of the reader are enough to compare it with other walks over the
same text. `State.region` says whether the reader is in a string, in the terms of the
capturing walk; `State.containers` lists the kinds of the containers around it, innermost
first, whether they wait on the stack or are part of the mode.

Outside of strings a character changes the containers as a bracket does and is never one
that comments are made of (`Outward`); inside it leaves the containers alone
(`Inward`). A wrong digit of an escape is noticed late, so a state can be `Doomed`: no
text leads from it to a value. These are the only states that leave the two views behind.
-/

namespace ApiNotes

namespace Json

open Tag (Region)

/-- The two kinds of containers. -/
inductive Container where
  | list
  | object
deriving Repr, DecidableEq

/-- The kind of a container that waits for a value. -/
def Frame.container : Frame → Container
  | .item _ => .list
  | .member _ _ => .object

/-- The kind of the container that is between two entries, if there is one. -/
def Mode.container : Mode → List Container
  | .firstItem | .nextItem _ | .afterItem _ => [.list]
  | .firstKey | .nextKey _ | .afterKey _ _ | .afterMember _ | .text (.key _) _ _ => [.object]
  | .value | .word _ _ _ | .text .value _ _ | .number _ _ | .finished _ => []

/-- The kinds of the containers around the reader, innermost first. -/
def State.containers (state : State) : List Container :=
  state.mode.container ++ state.stack.map Frame.container

/-- Where an escape is with respect to its string. -/
def Escape.region : Escape → Region
  | .backslash | .pairLetter _ => .escaped
  | .none | .hex _ _ _ | .wrongHex _ | .pairBackslash _ => .inString

/-- Where the reader is with respect to strings. -/
def State.region (state : State) : Region :=
  match state.mode with
  | .text _ _ escape => escape.region
  | _ => .outside

/-- The reader is behind a wrong digit of an escape. -/
def State.Doomed (state : State) : Prop :=
  ∃ role chars bytes, state.mode = .text role chars (.wrongHex bytes)

/-- What the reader waits for within a word is letters. -/
def State.Lettered (state : State) : Prop :=
  match state.mode with
  | .word next left _ => ∀ c ∈ next :: left, c.isAlpha = true
  | _ => True

/-- The reader passes over spaces. -/
def State.Skips (state : State) : Prop :=
  ∀ c, isSpace c = true → state.step c = .ok state

/-- The modes between the parts of a text. -/
def Mode.isGap : Mode → Bool
  | .value | .firstItem | .nextItem _ | .afterItem _ | .firstKey | .nextKey _ | .afterKey _ _
  | .afterMember _ | .finished _ => true
  | .word _ _ _ | .text _ _ _ | .number _ _ => false

theorem skips_of_isGap {mode : Mode} (h : mode.isGap = true) (stack : List Frame) :
    State.Skips ⟨mode, stack⟩ := by
  intro c hc
  cases mode <;> simp_all [Mode.isGap, State.step, separate]

theorem skips_complete (v : Json) (stack : List Frame) : (complete v stack).Skips := by
  match stack with
  | [] => exact skips_of_isGap rfl _
  | .item _ :: _ => exact skips_of_isGap rfl _
  | .member _ _ :: _ => exact skips_of_isGap rfl _

/-! ### Characters outside of strings -/

/-- What a character outside of strings does to the containers. -/
inductive Nests : Char → List Container → List Container → Prop where
  | openList (around : List Container) : Nests '[' around (.list :: around)
  | openObject (around : List Container) : Nests '{' around (.object :: around)
  | closeList (around : List Container) : Nests ']' (.list :: around) around
  | closeObject (around : List Container) : Nests '}' (.object :: around) around
  | plain {c : Char} (around : List Container) : c ∉ ['[', '{', ']', '}'] → Nests c around around

/-- A character outside of strings, read among the containers `around`. -/
structure Outward (c : Char) (around : List Container) (next : State) : Prop where
  nests : Nests c around next.containers
  region_eq : next.region = Region.outside.next c
  not_comment : c ∉ ['*', '/', '@']
  lettered : next.Lettered
  closed : c = '}' → ∃ v stack, next = complete v stack

theorem Outward.plain {c : Char} {around : List Container} {next : State}
    (hc : c ∉ ['[', '{', ']', '}', '"', '*', '/', '@']) (hn : next.containers = around)
    (hr : next.region = .outside) (hl : next.Lettered) : Outward c around next := by
  subst hn
  simp only [List.mem_cons, List.not_mem_nil, or_false, not_or] at hc
  refine ⟨.plain _ (by simp [hc]), ?_, by simp [hc], hl, fun h => absurd h hc.2.2.2.1⟩
  rw [hr, Region.next, if_neg hc.2.2.2.2.1]

theorem not_mem_of_isSpace {c : Char} (h : isSpace c = true) :
    c ∉ ['[', '{', ']', '}', '"', '*', '/', '@'] := by
  simp only [isSpace, Bool.or_eq_true, beq_iff_eq] at h
  rcases h with ((rfl | rfl) | rfl) | rfl <;> decide

theorem not_mem_of_isDigit {c : Char} (h : c.isDigit = true) :
    c ∉ ['[', '{', ']', '}', '"', '*', '/', '@'] := by
  simp only [List.mem_cons, List.not_mem_nil, or_false, not_or]
  refine ⟨?_, ?_, ?_, ?_, ?_, ?_, ?_, ?_⟩ <;> rintro rfl <;> exact absurd h (by decide)

@[simp] theorem containers_complete (v : Json) (stack : List Frame) :
    (complete v stack).containers = stack.map Frame.container := by
  match stack with
  | [] => rfl
  | .item _ :: _ => rfl
  | .member _ _ :: _ => rfl

theorem lettered_complete (v : Json) (stack : List Frame) : (complete v stack).Lettered := by
  match stack with
  | [] => trivial
  | .item _ :: _ => trivial
  | .member _ _ :: _ => trivial

@[simp] theorem region_complete (v : Json) (stack : List Frame) :
    (complete v stack).region = .outside := by
  match stack with
  | [] => rfl
  | .item _ :: _ => rfl
  | .member _ _ :: _ => rfl

/-- Behind a value the reader does what `separate` says. -/
theorem step_complete (v : Json) (stack : List Frame) (c : Char) :
    (complete v stack).step c =
      separate (complete v stack).mode (complete v stack).stack c := by
  match stack with
  | [] => rfl
  | .item _ :: _ => rfl
  | .member _ _ :: _ => rfl

theorem outward_beginValue {stack : List Frame} {c : Char} {next : State}
    (h : beginValue stack c = .ok next) : Outward c (stack.map Frame.container) next := by
  unfold beginValue at h
  split at h
  · cases h
    exact Outward.plain (by decide) rfl rfl (by simp [State.Lettered])
  · cases h
    exact Outward.plain (by decide) rfl rfl (by simp [State.Lettered])
  · cases h
    exact Outward.plain (by decide) rfl rfl (by simp [State.Lettered])
  · cases h
    exact ⟨.plain _ (by decide), rfl, by decide, trivial, by simp⟩
  · split at h
    · cases h
      exact ⟨.openList _, rfl, by decide, trivial, by simp⟩
    · cases h
  · split at h
    · cases h
      exact ⟨.openObject _, rfl, by decide, trivial, by simp⟩
    · cases h
  · cases h
    exact Outward.plain (by decide) rfl rfl trivial
  · cases h
    exact Outward.plain (by decide) rfl rfl trivial
  · split at h
    · next hd =>
      cases h
      exact Outward.plain (not_mem_of_isDigit hd) rfl rfl trivial
    · cases h

/-- A bracket that ends a list, or a brace that ends an object. -/
theorem outward_close {v : Json} {stack : List Frame} {c : Char} {around : List Container}
    (hc : c = ']' ∧ around = .list :: stack.map Frame.container ∨
      c = '}' ∧ around = .object :: stack.map Frame.container) :
    Outward c around (complete v stack) := by
  have hclosed : ∃ w rest, complete v stack = complete w rest := ⟨v, stack, rfl⟩
  rcases hc with ⟨rfl, rfl⟩ | ⟨rfl, rfl⟩
  · refine ⟨?_, region_complete v stack, by decide, lettered_complete v stack, fun _ => hclosed⟩
    rw [containers_complete]
    exact .closeList _
  · refine ⟨?_, region_complete v stack, by decide, lettered_complete v stack, fun _ => hclosed⟩
    rw [containers_complete]
    exact .closeObject _

theorem outward_separate {mode : Mode} {stack : List Frame} {c : Char} {next : State}
    (hr : State.region ⟨mode, stack⟩ = .outside) (hl : State.Lettered ⟨mode, stack⟩)
    (h : separate mode stack c = .ok next) :
    Outward c (State.containers ⟨mode, stack⟩) next := by
  unfold separate at h
  split at h
  · next hs =>
    cases h
    exact Outward.plain (not_mem_of_isSpace hs) rfl hr hl
  split at h
  · split at h
    · next hc =>
      cases h
      subst hc
      exact Outward.plain (by decide) rfl rfl trivial
    split at h
    · next hc =>
      cases h
      exact outward_close (Or.inl ⟨hc, rfl⟩)
    · cases h
  · split at h
    · next hc =>
      cases h
      subst hc
      exact Outward.plain (by decide) rfl rfl trivial
    split at h
    · next hc =>
      cases h
      exact outward_close (Or.inr ⟨hc, rfl⟩)
    · cases h
  · cases h

/-- A character that continues a number is one that numbers are made of. -/
theorem not_mem_of_numberStep {part part' : NumberPart} {c : Char}
    (h : part.step c = .ok (some part')) : c ∉ ['[', '{', ']', '}', '"', '*', '/', '@'] := by
  have hc : c.isDigit = true ∨ c ∈ ['.', 'e', 'E', '+', '-'] := by
    by_contra hc
    simp only [List.mem_cons, List.not_mem_nil, or_false, not_or] at hc
    obtain ⟨hd, hp, he, hE, hplus, hminus⟩ := hc
    have hz : c ≠ '0' := by
      rintro rfl
      exact hd (by decide)
    cases part <;> simp [NumberPart.step, hd, hz, hp, he, hE, hplus, hminus, refuse] at h
  rcases hc with hd | hc
  · exact not_mem_of_isDigit hd
  · simp only [List.mem_cons, List.not_mem_nil, or_false] at hc
    rcases hc with rfl | rfl | rfl | rfl | rfl <;> decide

/-- One character outside of strings. -/
theorem State.step_outside {state next : State} {c : Char} (h : state.step c = .ok next)
    (hr : state.region = .outside) (hl : state.Lettered) :
    Outward c state.containers next := by
  obtain ⟨mode, stack⟩ := state
  by_cases hgap : mode.isGap = true ∧ isSpace c = true
  · rw [skips_of_isGap hgap.1 stack c hgap.2] at h
    cases h
    exact Outward.plain (not_mem_of_isSpace hgap.2) rfl hr hl
  cases mode with
  | value =>
      simp only [State.step, if_neg fun hs => hgap ⟨rfl, hs⟩] at h
      exact outward_beginValue h
  | firstItem =>
      simp only [State.step, if_neg fun hs => hgap ⟨rfl, hs⟩] at h
      split at h
      · next hc =>
        cases h
        exact outward_close (Or.inl ⟨hc, rfl⟩)
      · exact outward_beginValue h
  | nextItem items =>
      simp only [State.step, if_neg fun hs => hgap ⟨rfl, hs⟩] at h
      split at h
      · cases h
      · exact outward_beginValue h
  | firstKey =>
      simp only [State.step, if_neg fun hs => hgap ⟨rfl, hs⟩] at h
      split at h
      · next hc =>
        cases h
        exact outward_close (Or.inr ⟨hc, rfl⟩)
      split at h
      · next hc =>
        cases h
        subst hc
        exact ⟨.plain _ (by decide), rfl, by decide, trivial, by simp⟩
      · cases h
  | nextKey members =>
      simp only [State.step, if_neg fun hs => hgap ⟨rfl, hs⟩] at h
      split at h
      · cases h
      split at h
      · next hc =>
        cases h
        subst hc
        exact ⟨.plain _ (by decide), rfl, by decide, trivial, by simp⟩
      · cases h
  | afterKey members key =>
      simp only [State.step, if_neg fun hs => hgap ⟨rfl, hs⟩] at h
      split at h
      · next hc =>
        cases h
        subst hc
        exact Outward.plain (by decide) rfl rfl trivial
      · cases h
  | word w left v =>
      simp only [State.step] at h
      split at h
      · next hc =>
        have hletter : c ∉ ['[', '{', ']', '}', '"', '*', '/', '@'] := by
          have hw := hl w List.mem_cons_self
          simp only [List.mem_cons, List.not_mem_nil, or_false, not_or]
          refine ⟨?_, ?_, ?_, ?_, ?_, ?_, ?_, ?_⟩ <;> rintro rfl <;> subst hc <;>
            exact absurd hw (by decide)
        split at h
        · cases h
          exact Outward.plain hletter (containers_complete v stack) (region_complete v stack)
            (lettered_complete v stack)
        · cases h
          exact Outward.plain hletter rfl rfl fun c hc => hl c (List.mem_cons_of_mem _ hc)
      · cases h
  | text role chars escape => cases escape <;> cases hr
  | number negative part =>
      simp only [State.step] at h
      split at h
      · cases h
      · next hp =>
        cases h
        exact Outward.plain (not_mem_of_numberStep hp) rfl rfl trivial
      split at h
      · cases h
      · next v _ =>
        have hsep : Outward c (complete v stack).containers next :=
          outward_separate (region_complete v stack) (lettered_complete v stack) h
        rwa [containers_complete] at hsep
  | afterItem items => exact outward_separate rfl trivial h
  | afterMember members => exact outward_separate rfl trivial h
  | finished v => exact outward_separate rfl trivial h

/-! ### Characters inside of strings -/

/-- A character inside of a string. -/
structure Inward (c : Char) (state next : State) : Prop where
  region_eq : next.region = state.region.next c
  containers_eq : next.containers = state.containers
  not_newline : c ≠ '\n'
  lettered : next.Lettered

theorem not_mem_of_hexValue? {c : Char} {d : Nat} (h : Text.hexValue? c = some d) :
    c ≠ '\\' ∧ c ≠ '"' ∧ c ≠ '\n' := by
  refine ⟨?_, ?_, ?_⟩ <;> rintro rfl <;> cases h

/-- A character of a string leads to a wrong digit, or to the region that it stands for. -/
theorem Escape.step_cases {escape escape' : Escape} {chars chars' : List Char} {c : Char}
    (h : escape.step chars c = .ok (chars', escape')) (hq : escape = .none → c ≠ '"') :
    (∃ bytes, escape' = .wrongHex bytes) ∨
      escape'.region = escape.region.next c ∧ c ≠ '\n' := by
  cases escape with
  | none =>
      simp only [Escape.step] at h
      split at h
      · next hc =>
        cases h
        subst hc
        exact Or.inr ⟨rfl, by decide⟩
      split at h
      · cases h
      · next hb hc =>
        cases h
        refine Or.inr ⟨?_, ?_⟩
        · simp [Escape.region, Region.next, hb, hq rfl]
        · rintro rfl
          exact hc (by decide)
  | backslash =>
      simp only [Escape.step] at h
      split at h
      · next hc =>
        cases h
        subst hc
        exact Or.inr ⟨rfl, by decide⟩
      split at h
      · next e he =>
        cases h
        refine Or.inr ⟨rfl, ?_⟩
        rintro rfl
        cases he
      · cases h
  | hex lead count value =>
      simp only [Escape.step] at h
      split at h
      · next d hd =>
        obtain ⟨hb, hquote, hn⟩ := not_mem_of_hexValue? hd
        refine Or.inr ⟨?_, hn⟩
        have hstay : (Escape.hex lead count value).region.next c = .inString := by
          simp [Escape.region, Region.next, hb, hquote]
        rw [hstay]
        split at h
        · cases h
          rfl
        · unfold unitEscape at h
          split at h
          · split at h
            · cases h
            split at h
            · cases h
              rfl
            · cases h
              rfl
          · split at h
            · cases h
              rfl
            · cases h
      · unfold Escape.step.wrong at h
        split at h
        · cases h
        · cases h
          exact Or.inl ⟨_, rfl⟩
  | wrongHex bytes =>
      simp only [Escape.step, Escape.step.wrong] at h
      split at h
      · cases h
      · cases h
        exact Or.inl ⟨_, rfl⟩
  | pairBackslash lead =>
      simp only [Escape.step] at h
      split at h
      · next hc =>
        cases h
        subst hc
        exact Or.inr ⟨rfl, by decide⟩
      · cases h
  | pairLetter lead =>
      simp only [Escape.step] at h
      split at h
      · next hc =>
        cases h
        subst hc
        exact Or.inr ⟨rfl, by decide⟩
      · cases h

/-- The quote that ends a string. -/
theorem inward_closeText (role : Role) (chars : List Char) (stack : List Frame) :
    Inward '"' ⟨.text role chars .none, stack⟩ (closeText role chars stack) := by
  cases role with
  | key members => exact ⟨rfl, rfl, by decide, trivial⟩
  | value =>
      exact ⟨region_complete _ stack, containers_complete _ stack, by decide,
        lettered_complete _ stack⟩

/-- One character inside of a string. -/
theorem State.step_inside {state next : State} {c : Char} (h : state.step c = .ok next)
    (hr : state.region ≠ .outside) : next.Doomed ∨ Inward c state next := by
  obtain ⟨mode, stack⟩ := state
  cases mode with
  | text role chars escape =>
      simp only [State.step] at h
      split at h
      · next hc =>
        obtain ⟨rfl, rfl⟩ := hc
        cases h
        exact Or.inr (inward_closeText role chars stack)
      · next hc =>
        split at h
        · next chars' escape' he =>
          cases h
          rcases Escape.step_cases he fun hn hq => hc ⟨hn, hq⟩ with ⟨bytes, rfl⟩ | ⟨hreg, hn⟩
          · exact Or.inl ⟨role, chars', bytes, rfl⟩
          · exact Or.inr ⟨hreg, by cases role <;> rfl, hn, trivial⟩
        · cases h
  | _ => exact absurd rfl hr

theorem State.Lettered.step {state next : State} {c : Char} (hl : state.Lettered)
    (h : state.step c = .ok next) : next.Lettered := by
  by_cases hr : state.region = .outside
  · exact (State.step_outside h hr hl).lettered
  · rcases State.step_inside h hr with ⟨role, chars, bytes, hm⟩ | hin
    · simp [State.Lettered, hm]
    · exact hin.lettered

/-- Behind a wrong digit there is no way back. -/
theorem State.Doomed.step {state next : State} {c : Char} (hd : state.Doomed)
    (h : state.step c = .ok next) : next.Doomed := by
  obtain ⟨role, chars, bytes, hm⟩ := hd
  simp only [State.step, hm, Escape.step, Escape.step.wrong, reduceCtorEq, false_and,
    if_false] at h
  split at h
  · next he =>
    split at he
    · cases he
    · cases he
      cases h
      exact ⟨role, chars, _, rfl⟩
  · cases h

theorem State.Doomed.finish_ne {state : State} (hd : state.Doomed) (v : Json) :
    state.finish ≠ .ok v := by
  obtain ⟨role, chars, bytes, hm⟩ := hd
  simp [State.finish, hm, Mode.close]

end Json

end ApiNotes
