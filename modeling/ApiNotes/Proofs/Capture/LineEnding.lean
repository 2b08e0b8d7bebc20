import ApiNotes.Proofs.Capture.Decoration
import ApiNotes.Proofs.Capture.Seam
import ApiNotes.Proofs.Text.LineEnding

/-!
# Objects under both line endings

An object is captured and read under one line ending exactly when it is under the other, and
its value is the same (`capture_crlf_iff`).

The capturing walk passes both line ends outside of strings and is interrupted by a line feed
inside of one. The two endings differ in one place only: behind a backslash the shorter ending
is an escaped character, while of the longer one only the carriage return is escaped. But an
object with such a line feed is never read, so it does not matter that it is captured.

For the reader of JSON a carriage return is as good as a line feed in every state
(`State.step_return`), and a second line end behind the first one is passed over. Decoration
stands behind line feeds, so it is removed in the same places.
-/

namespace ApiNotes

open Text (crlf)

namespace Json

/-! ### The reader -/

/-- Of an escape, a carriage return makes what a line feed does. -/
theorem Escape.step_return (escape : Escape) (chars : List Char) :
    escape.step chars '\r' = escape.step chars '\n' := by
  cases escape <;> rfl

theorem NumberPart.step_return (part : NumberPart) : part.step '\r' = part.step '\n' := by
  cases part <;> rfl

/-- In every state, a carriage return does what a line feed does. -/
theorem State.step_return {state : State} (hl : state.Lettered) :
    state.step '\r' = state.step '\n' := by
  obtain ⟨mode, stack⟩ := state
  cases mode with
  | word next left v =>
      have hnext : next.isAlpha = true := hl next List.mem_cons_self
      have hr : '\r' ≠ next := by
        rintro rfl
        exact absurd hnext (by decide)
      have hn : '\n' ≠ next := by
        rintro rfl
        exact absurd hnext (by decide)
      simp [State.step, hr, hn]
  | text role chars escape => simp [State.step, Escape.step_return]
  | number negative part => simp only [State.step, NumberPart.step_return]; rfl
  | _ => rfl

/-- A second line end is passed over. -/
theorem reads_return_newline_iff {state : State} (hl : state.Lettered) {text : List Char}
    {v : Json} : state.Reads ('\r' :: '\n' :: text) v ↔ state.Reads ('\n' :: text) v := by
  have hspace : ∀ c ∈ ['\n'], isSpace c = true := by simp [isSpace]
  rw [reads_cons_iff, reads_cons_iff, State.step_return hl]
  refine exists_congr fun next => and_congr_right fun hstep => ?_
  constructor
  · intro h
    have hskip := (step_newline hstep hl h.not_doomed).2
    exact (hskip.reads_append_iff hspace).1 h
  · intro h
    have hskip := (step_newline hstep hl h.not_doomed).2
    exact (hskip.reads_append_iff hspace).2 h

theorem reads_crlf_iff {state : State} (hl : state.Lettered) {text : List Char} {v : Json} :
    state.Reads (crlf text) v ↔ state.Reads text v := by
  induction text generalizing state with
  | nil => rfl
  | cons c cs ih =>
      have hbehind : (∃ next, state.step c = .ok next ∧ next.Reads (crlf cs) v) ↔
          ∃ next, state.step c = .ok next ∧ next.Reads cs v :=
        exists_congr fun next => and_congr_right fun hstep => ih (hl.step hstep)
      by_cases hc : c = '\n'
      · subst hc
        rw [Text.crlf_newline, reads_return_newline_iff hl, reads_cons_iff, reads_cons_iff, hbehind]
      · rw [Text.crlf_cons hc, reads_cons_iff, reads_cons_iff, hbehind]

theorem parse_crlf_eq_ok_iff {text : List Char} {v : Json} :
    parse (crlf text) = .ok v ↔ parse text = .ok v := by
  have hl : State.Lettered ⟨.value, []⟩ := trivial
  rw [parse_eq_ok_iff, parse_eq_ok_iff, reads_crlf_iff hl]

end Json

namespace Tag

/-! ### Decoration -/

/-- The carriage return at the end of a row stays where it is. -/
theorem stripRow_return (row : List Char) : stripRow (row ++ ['\r']) = stripRow row ++ ['\r'] := by
  have hdrop : ∀ xs : List Char,
      (xs ++ ['\r']).dropWhile Text.isGap = xs.dropWhile Text.isGap ++ ['\r'] :=
    fun xs => (Text.span_append_of_stop (by decide) xs []).2
  -- A mark has no carriage return, so the row itself begins with it.
  have hcut : ∀ mark rest : List Char, '\r' ∉ mark →
      row.dropWhile Text.isGap ++ ['\r'] = mark ++ rest →
        ∃ behind, row.dropWhile Text.isGap = mark ++ behind ∧ rest = behind ++ ['\r'] :=
    fun mark rest hmark h => Text.exists_append_of_not_mem hmark h.symm
  unfold stripRow
  rw [hdrop]
  split
  · next rest h =>
    obtain ⟨behind, hbehind, rfl⟩ := hcut ['*'] rest (by decide) h
    rw [hdrop, hbehind]
    rfl
  · next rest h =>
    obtain ⟨behind, hbehind, rfl⟩ := hcut ['/', '/', '/'] rest (by decide) h
    rw [hdrop, hbehind]
    rfl
  · next rest hslash h =>
    obtain ⟨behind, hbehind, rfl⟩ := hcut ['/', '/'] rest (by decide) h
    rw [hdrop, hbehind]
    match behind, hslash with
    | [], _ => rfl
    | c :: cs, hslash =>
        have hc : c ≠ '/' := by
          rintro rfl
          exact hslash (cs ++ ['\r']) rfl
        simp [hc]
  · next hstar hthree htwo =>
    split
    · next rest h => exact absurd (by rw [h]; rfl) (hstar (rest ++ ['\r']))
    · next rest h => exact absurd (by rw [h]; rfl) (hthree (rest ++ ['\r']))
    · next rest _ h => exact absurd (by rw [h]; rfl) (htwo (rest ++ ['\r']))
    · rfl

theorem stripRows_crlf (text : List Char) : stripRows (crlf text) = crlf (stripRows text) := by
  have hrow : ∀ row : List Char, '\n' ∉ row → crlf (stripRow row) = stripRow row := by
    intro row h
    obtain ⟨removed, hsplit, -⟩ := exists_stripRow_append row
    apply Text.crlf_of_not_mem
    intro hmem
    exact h (hsplit ▸ List.mem_append_right removed hmem)
  induction text using row_induction with
  | row r hr => rw [Text.crlf_of_not_mem hr, stripRows_of_not_mem hr, hrow r hr]
  | more r rest hr ih =>
      have hreturn : '\n' ∉ r ++ ['\r'] := by simp [hr]
      have htext : crlf (r ++ '\n' :: rest) = (r ++ ['\r']) ++ '\n' :: crlf rest := by
        rw [Text.crlf_append, Text.crlf_of_not_mem hr, Text.crlf_newline]
        simp
      rw [htext, stripRows_append hreturn, stripRows_append hr, ih, stripRow_return,
        Text.crlf_append, hrow r hr, Text.crlf_newline]
      simp

/-! ### The walk -/

/-- The line feeds of a text stand where the walk is outside of strings. -/
def FeedsOutside (region : Region) (text : List Char) : Prop :=
  ∀ before rest, text = before ++ '\n' :: rest → region.after before = .outside

theorem feedsOutside_nil (region : Region) : FeedsOutside region [] := by
  intro before rest h
  simp at h

theorem feedsOutside_cons_iff {region : Region} {c : Char} {cs : List Char} :
    FeedsOutside region (c :: cs) ↔
      (c = '\n' → region = .outside) ∧ FeedsOutside (region.next c) cs := by
  constructor
  · intro h
    refine ⟨fun hc => h [] cs (by rw [hc]; rfl), fun before rest hcs => ?_⟩
    exact h (c :: before) rest (by rw [hcs]; rfl)
  · rintro ⟨hc, hcs⟩ before rest h
    cases before with
    | nil => exact hc (List.cons.inj h).1
    | cons d before =>
        obtain ⟨rfl, hrest⟩ := List.cons.inj h
        exact hcs before rest hrest

theorem interruption?_crlf (region : Region) (c : Char) (cs : List Char) :
    interruption? region c (crlf cs) = interruption? region c cs := by
  have hslash : (crlf cs).head? = some '/' ↔ cs.head? = some '/' :=
    Text.head?_crlf_eq_some_iff (by decide) (by decide)
  have hmarker : ['L', 'R', 'D'].isPrefixOf (crlf cs) = ['L', 'R', 'D'].isPrefixOf cs := by
    rw [Bool.eq_iff_iff, List.isPrefixOf_iff_prefix, List.isPrefixOf_iff_prefix]
    exact Text.prefix_crlf_iff (by decide) (by decide) cs
  cases region with
  | outside => simp only [interruption?, hslash, hmarker]
  | inString => rfl
  | escaped => rfl

/-- Outside of strings, the walk passes both line ends. -/
theorem lengthToClose_lineEnd_eq_ok_iff {c : Char} (hc : c = '\r' ∨ c = '\n') {depth n : Nat}
    {cs : List Char} :
    lengthToClose .outside depth (c :: cs) = .ok n ↔
      ∃ m, lengthToClose .outside depth cs = .ok m ∧ n = m + 1 := by
  have hpass : lengthToClose .outside depth (c :: cs) =
      (lengthToClose .outside depth cs).map (· + 1) := by
    apply lengthToClose_pass
    · rcases hc with rfl | rfl <;> decide
    · rintro rfl
      rcases hc with hc | hc <;> cases hc
  rw [hpass]
  cases lengthToClose .outside depth cs with
  | error why => simp [Except.map]
  | ok m => simp [Except.map, eq_comm]

/-- The longer line ending is passed outside of strings only. -/
theorem lengthToClose_return_newline_eq_ok_iff {region : Region} {depth m : Nat}
    {cs : List Char} :
    lengthToClose region depth ('\r' :: '\n' :: cs) = .ok m ↔
      region = .outside ∧ ∃ k, lengthToClose .outside depth cs = .ok k ∧ m = k + 2 := by
  constructor
  · intro h
    have hout : region = .outside := by
      by_contra hr
      have hnext : region.next '\r' = .inString := by
        cases region with
        | outside => exact absurd rfl hr
        | inString => rfl
        | escaped => rfl
      obtain ⟨⟨hout, -⟩, -⟩ | ⟨-, -, k, hk, -⟩ := lengthToClose_cons_eq_ok_iff.1 h
      · exact hr hout
      · rw [hnext] at hk
        obtain ⟨⟨hout, -⟩, -⟩ | ⟨-, hi, -⟩ := lengthToClose_cons_eq_ok_iff.1 hk
        · cases hout
        · simp [interruption?] at hi
    subst hout
    obtain ⟨_, hfeed, rfl⟩ := (lengthToClose_lineEnd_eq_ok_iff (Or.inl rfl)).1 h
    obtain ⟨k, hk, rfl⟩ := (lengthToClose_lineEnd_eq_ok_iff (Or.inr rfl)).1 hfeed
    exact ⟨rfl, k, hk, rfl⟩
  · rintro ⟨rfl, k, hk, rfl⟩
    have hfeed := (lengthToClose_lineEnd_eq_ok_iff (Or.inr rfl)).2 ⟨k, hk, rfl⟩
    exact (lengthToClose_lineEnd_eq_ok_iff (Or.inl rfl)).2 ⟨k + 1, hfeed, rfl⟩

/-- The walk closes under the longer line ending exactly when it closes under the shorter one
and passes line feeds outside of strings only. -/
theorem lengthToClose_crlf_eq_ok_iff {region : Region} {depth m : Nat} {text : List Char} :
    lengthToClose region depth (crlf text) = .ok m ↔
      ∃ n, lengthToClose region depth text = .ok n ∧ FeedsOutside region (text.take n) ∧
        m = (crlf (text.take n)).length := by
  induction text generalizing region depth m with
  | nil => simp [lengthToClose_nil]
  | cons c cs ih =>
      by_cases hc : c = '\n'
      · subst hc
        rw [Text.crlf_newline, lengthToClose_return_newline_eq_ok_iff]
        constructor
        · rintro ⟨rfl, k, hk, rfl⟩
          obtain ⟨n, hn, hfeeds, rfl⟩ := ih.1 hk
          exact ⟨n + 1, (lengthToClose_lineEnd_eq_ok_iff (Or.inr rfl)).2 ⟨n, hn, rfl⟩,
            feedsOutside_cons_iff.2 ⟨fun _ => rfl, hfeeds⟩, rfl⟩
        · rintro ⟨n, hn, hfeeds, rfl⟩
          obtain ⟨body, _, -, rfl, -⟩ := exists_of_lengthToClose_eq_ok hn
          obtain ⟨hout, hbehind⟩ := feedsOutside_cons_iff.1 hfeeds
          obtain rfl := hout rfl
          obtain ⟨k, hk, hlength⟩ := (lengthToClose_lineEnd_eq_ok_iff (Or.inr rfl)).1 hn
          obtain rfl : body.length = k := Nat.succ.inj hlength
          exact ⟨rfl, _, ih.2 ⟨body.length, hk, hbehind, rfl⟩, rfl⟩
      · rw [Text.crlf_cons hc, lengthToClose_cons_eq_ok_iff, interruption?_crlf]
        constructor
        · rintro (⟨hclose, rfl⟩ | ⟨hclose, hi, k, hk, rfl⟩)
          · refine ⟨1, lengthToClose_cons_eq_ok_iff.2 (Or.inl ⟨hclose, rfl⟩), ?_, ?_⟩
            · exact feedsOutside_cons_iff.2 ⟨fun h => absurd h hc, feedsOutside_nil _⟩
            · simp [Text.crlf_cons hc]
          · obtain ⟨n, hn, hfeeds, rfl⟩ := ih.1 hk
            refine ⟨n + 1, lengthToClose_cons_eq_ok_iff.2 (Or.inr ⟨hclose, hi, n, hn, rfl⟩), ?_, ?_⟩
            · exact feedsOutside_cons_iff.2 ⟨fun h => absurd h hc, hfeeds⟩
            · simp [Text.crlf_cons hc]
        · rintro ⟨n, hn, hfeeds, rfl⟩
          obtain ⟨hclose, rfl⟩ | ⟨hclose, hi, k, hk, rfl⟩ := lengthToClose_cons_eq_ok_iff.1 hn
          · exact Or.inl ⟨hclose, by simp [Text.crlf_cons hc]⟩
          · have hbehind := (feedsOutside_cons_iff.1 hfeeds).2
            exact Or.inr ⟨hclose, hi, _, ih.2 ⟨k, hk, hbehind, rfl⟩, by simp [Text.crlf_cons hc]⟩

/-! ### Captured objects -/

theorem decodeObject_crlf_eq_ok_iff {text : List Char} {v : Json}
    (hfirst : text.head? = some '{') (hlast : text.getLast? = some '}') :
    decodeObject (crlf text) = .ok v ↔ decodeObject text = .ok v := by
  have hfirst' : (crlf text).head? = some '{' :=
    (Text.head?_crlf_eq_some_iff (by decide) (by decide)).2 hfirst
  have hlast' : (crlf text).getLast? = some '}' := by
    obtain ⟨front, rfl⟩ := List.getLast?_eq_some_iff.1 hlast
    rw [Text.crlf_append, List.getLast?_append]
    rfl
  rw [decodeObject_eq_ok_iff, decodeObject_eq_ok_iff, stripDecoration_eq_stripRows hfirst hlast,
    stripDecoration_eq_stripRows hfirst' hlast', stripRows_crlf, Json.parse_crlf_eq_ok_iff]

/-- An object that is read has its line feeds outside of strings. -/
theorem feedsOutside_of_decodeObject {text : List Char} {v : Json}
    (hfirst : text.head? = some '{') (hlast : text.getLast? = some '}')
    (h : decodeObject text = .ok v) : FeedsOutside .outside text := by
  rintro before rest rfl
  refine after_eq_outside_of_decodeObject ?_ ?_ h
  · cases before with
    | nil => cases hfirst
    | cons c before => exact hfirst
  · cases rest with
    | nil => simp at hlast
    | cons c rest => simpa using hlast

/-- An object is captured and read under both line endings or under neither, and its value is
the same. -/
theorem capture_crlf_iff {body : List Char} (hfirst : body.head? = some '{') {m : Nat} {v : Json} :
    objectLength (crlf body) = .ok m ∧ decodeObject ((crlf body).take m) = .ok v ↔
      ∃ n, objectLength body = .ok n ∧ decodeObject (body.take n) = .ok v ∧
        m = (crlf (body.take n)).length := by
  have hends : ∀ n, objectLength body = .ok n →
      (body.take n).head? = some '{' ∧ (body.take n).getLast? = some '}' := by
    intro n hn
    obtain ⟨inside, rest, rfl, rfl, -⟩ := exists_of_lengthToClose_eq_ok hn
    have htake : (inside ++ '}' :: rest).take (inside.length + 1) = inside ++ ['}'] := by
      simp [List.take_append]
    rw [htake]
    refine ⟨?_, List.getLast?_concat⟩
    cases inside with
    | nil => cases hfirst
    | cons c inside => exact hfirst
  constructor
  · rintro ⟨hlength, hdecode⟩
    obtain ⟨n, hn, -, rfl⟩ := lengthToClose_crlf_eq_ok_iff.1 hlength
    obtain ⟨hhead, hlast⟩ := hends n hn
    rw [Text.take_crlf, decodeObject_crlf_eq_ok_iff hhead hlast] at hdecode
    exact ⟨n, hn, hdecode, rfl⟩
  · rintro ⟨n, hn, hdecode, rfl⟩
    obtain ⟨hhead, hlast⟩ := hends n hn
    rw [Text.take_crlf, decodeObject_crlf_eq_ok_iff hhead hlast]
    have hfeeds := feedsOutside_of_decodeObject hhead hlast hdecode
    exact ⟨lengthToClose_crlf_eq_ok_iff.2 ⟨n, hn, hfeeds, rfl⟩, hdecode⟩

end Tag

end ApiNotes
