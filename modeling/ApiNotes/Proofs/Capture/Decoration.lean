import ApiNotes.Proofs.Capture.Rows
import ApiNotes.Proofs.Json.Run

/-!
# Objects under decoration

`Decorated s d` says that `d` is `s` with decoration put behind some of its line feeds. An
object that the reader of JSON accepts is captured and read all the same when it is
decorated, whatever surrounds it.

Both halves follow the reader over `s`. For the capture, the walk over `d` is at each
point in the region of the reader, at the depth of the objects among its containers; what
the reader accepts outside of strings interrupts no walk, and the walk closes where the
reader is finished. For the value, a line feed leaves the reader between two parts, so the
gaps that are removed with the decoration are not missed.
-/

namespace ApiNotes

namespace Tag

open Json (State Container)

/-- What a comment puts at the start of a row: a mark with gaps around it. -/
def IsDecoration (text : List Char) : Prop :=
  ∃ left mark right, text = left ++ mark ++ right ∧ (∀ c ∈ left, Text.isGap c = true) ∧
    mark ∈ marks ∧ ∀ c ∈ right, Text.isGap c = true

/-- The second text is the first one with decoration behind some of its line feeds. -/
inductive Decorated : List Char → List Char → Prop where
  | nil : Decorated [] []
  | keep (c : Char) {s d : List Char} : Decorated s d → Decorated (c :: s) (c :: d)
  | row {p s d : List Char} :
      IsDecoration p → Decorated s d → Decorated ('\n' :: s) ('\n' :: (p ++ d))

theorem Decorated.keep_append (xs : List Char) {s d : List Char} (h : Decorated s d) :
    Decorated (xs ++ s) (xs ++ d) := by
  induction xs with
  | nil => exact h
  | cons c xs ih => exact .keep c ih

/-! ### The walk over decoration -/

theorem lengthToClose_pass {c : Char} (hc : c ∉ ['"', '{', '}', '@']) {cs : List Char}
    (hs : c = '*' → cs.head? ≠ some '/') (depth : Nat) :
    lengthToClose .outside depth (c :: cs) = (lengthToClose .outside depth cs).map (· + 1) := by
  simp only [List.mem_cons, List.not_mem_nil, or_false, not_or] at hc
  obtain ⟨hquote, hopen, hclose, hat⟩ := hc
  have hi : interruption? .outside c cs = none := by
    rw [interruption?, if_neg fun h => hs h.1 h.2, if_neg fun h => hat h.1]
  rw [lengthToClose_cons, if_neg fun h => hclose h.2.1, hi]
  simp [Region.next, nextDepth, hquote, hopen, hclose]

theorem lengthToClose_pass_append {xs : List Char}
    (hxs : ∀ c ∈ xs, c ∉ ['"', '{', '}', '@', '*']) (rest : List Char) (depth : Nat) :
    lengthToClose .outside depth (xs ++ rest) =
      (lengthToClose .outside depth rest).map (· + xs.length) := by
  induction xs with
  | nil => cases h : lengthToClose .outside depth rest <;> simp [h, Except.map]
  | cons c xs ih =>
      have hc := hxs c List.mem_cons_self
      simp only [List.mem_cons, List.not_mem_nil, or_false, not_or] at hc
      rw [List.cons_append, lengthToClose_pass (by simp [hc]) (fun h => absurd h hc.2.2.2.2),
        ih fun d hd => hxs d (List.mem_cons_of_mem c hd)]
      cases h : lengthToClose .outside depth rest with
      | error why => rfl
      | ok n => simp [Except.map, Nat.add_assoc]

/-- The walk passes over decoration, unless its asterisk and what follows close the
comment. -/
theorem lengthToClose_decoration {p rest : List Char} (hp : IsDecoration p)
    (hrest : rest.head? ≠ some '/') (depth : Nat) :
    lengthToClose .outside depth (p ++ rest) =
      (lengthToClose .outside depth rest).map (· + p.length) := by
  obtain ⟨left, mark, right, rfl, hleft, hmark, hright⟩ := hp
  have hgap : ∀ c, Text.isGap c = true → c ∉ ['"', '{', '}', '@', '*'] := by
    intro c hc
    simp only [Text.isGap, Bool.or_eq_true, beq_iff_eq] at hc
    rcases hc with rfl | rfl <;> decide
  by_cases hstar : mark = ['*']
  · subst hstar
    have hbehind : (right ++ rest).head? ≠ some '/' := by
      cases right with
      | nil => exact hrest
      | cons c right =>
          intro heq
          obtain rfl : c = '/' := by simpa using heq
          exact absurd (hright _ List.mem_cons_self) (by decide)
    rw [show left ++ ['*'] ++ right ++ rest = left ++ '*' :: (right ++ rest) by simp,
      lengthToClose_pass_append (fun c hc => hgap c (hleft c hc)),
      lengthToClose_pass (by decide) (fun _ => hbehind),
      lengthToClose_pass_append (fun c hc => hgap c (hright c hc))]
    cases h : lengthToClose .outside depth rest with
    | error why => rfl
    | ok n =>
        simp only [Except.map, List.length_append, List.length_singleton]
        congr 1
        omega
  · apply lengthToClose_pass_append
    intro c hc
    rcases List.mem_append.1 hc with hc | hc
    · rcases List.mem_append.1 hc with hc | hc
      · exact hgap c (hleft c hc)
      · simp only [marks, List.mem_cons, List.not_mem_nil, or_false, hstar, false_or] at hmark
        rcases hmark with rfl | rfl <;> simp_all
    · exact hgap c (hright c hc)

/-! ### The walk and the reader -/

theorem Decorated.head?_eq {s d : List Char} (h : Decorated s d) : d.head? = s.head? := by
  cases h <;> rfl

theorem isSpace_of_reads_finished {w v : Json} {stack : List Json.Frame} {text : List Char}
    (h : State.Reads ⟨.finished w, stack⟩ text v) : ∀ c ∈ text, Json.isSpace c = true := by
  induction text with
  | nil => simp
  | cons c cs ih =>
      obtain ⟨next, hstep, hnext⟩ := Json.reads_cons_iff.1 h
      by_cases hc : Json.isSpace c = true
      · rw [Json.skips_of_isGap rfl stack c hc] at hstep
        cases hstep
        exact List.forall_mem_cons.2 ⟨hc, ih hnext⟩
      · simp [State.step, Json.separate, hc, Json.refuse] at hstep

theorem nextDepth_of_nests {c : Char} {around inner : List Container}
    (h : Json.Nests c around inner) :
    nextDepth .outside (around.count .object) c = inner.count .object := by
  cases h with
  | openList => simp [nextDepth]
  | openObject => simp [nextDepth]
  | closeList => simp [nextDepth]
  | closeObject => simp [nextDepth]
  | plain _ hc =>
      simp only [List.mem_cons, List.not_mem_nil, or_false, not_or] at hc
      simp [nextDepth, hc]

/-- A brace that leaves an object open does not end the walk. -/
theorem not_closes_of_nests {c : Char} {around inner : List Container}
    (h : Json.Nests c around inner) (hopen : Container.object ∈ inner) :
    ¬ Closes .outside (around.count .object) c := by
  rintro ⟨-, rfl, hdepth⟩
  have hcount : 0 < inner.count .object := List.count_pos_iff.2 hopen
  cases h with
  | closeObject =>
      rw [List.count_cons_self] at hdepth
      omega
  | plain _ hc => exact hc (by decide)

/-- One step of the reader is one step of the walk, as long as an object is open. -/
theorem lengthToClose_step {state next : State} {c : Char} (h : state.step c = .ok next)
    (hl : state.Lettered) (hd : ¬ next.Doomed) (hopen : Container.object ∈ next.containers)
    (rest : List Char) :
    lengthToClose state.region (state.containers.count .object) (c :: rest) =
      (lengthToClose next.region (next.containers.count .object) rest).map (· + 1) := by
  rw [lengthToClose_cons]
  by_cases hr : state.region = .outside
  · have hout := State.step_outside h hr hl
    have hcomment := hout.not_comment
    simp only [List.mem_cons, List.not_mem_nil, or_false, not_or] at hcomment
    have hi : interruption? .outside c rest = none := by
      rw [interruption?, if_neg fun h => hcomment.1 h.1, if_neg fun h => hcomment.2.2 h.1]
    rw [hr, if_neg (not_closes_of_nests hout.nests hopen), hi, hout.region_eq,
      nextDepth_of_nests hout.nests]
  · rcases State.step_inside h hr with hdoom | hin
    · exact absurd hdoom hd
    · have hi : interruption? state.region c rest = none := by
        cases hregion : state.region with
        | outside => exact absurd hregion hr
        | escaped => rfl
        | inString => exact if_neg hin.not_newline
      have hdepth : nextDepth state.region (state.containers.count .object) c =
          next.containers.count .object := by
        rw [hin.containers_eq]
        cases hregion : state.region with
        | outside => exact absurd hregion hr
        | escaped => rfl
        | inString => rfl
      rw [if_neg fun hc => hr hc.1, hi, hin.region_eq, ← hdepth]

/-- Inside an outermost object, the reader stays there until the last brace. -/
theorem exists_containers_of_step {state next : State} {c : Char} {s : List Char} {v : Json}
    {around : List Container} (h : state.step c = .ok next) (hnext : next.Reads s v)
    (hl : state.Lettered) (hroot : state.containers = around ++ [.object])
    (hlast : s.getLast? = some '}') : ∃ inner, next.containers = inner ++ [.object] := by
  by_cases hr : state.region = .outside
  · have hout := State.step_outside h hr hl
    have hnests := hout.nests
    rw [hroot] at hnests
    generalize hinner : next.containers = inner at hnests
    generalize haround : around ++ [Container.object] = outer at hnests
    cases hnests with
    | openList => exact ⟨.list :: around, by rw [← haround]; rfl⟩
    | openObject => exact ⟨.object :: around, by rw [← haround]; rfl⟩
    | plain => exact ⟨around, haround.symm⟩
    | closeList =>
        cases around with
        | nil => cases haround
        | cons a around => exact ⟨around, (List.cons.inj haround).2.symm⟩
    | closeObject =>
        cases around with
        | cons a around => exact ⟨around, (List.cons.inj haround).2.symm⟩
        | nil =>
            -- The outermost object is closed, so only spaces may follow.
            obtain ⟨w, stack, rfl⟩ := hout.closed rfl
            obtain rfl : inner = [] := (List.cons.inj haround).2.symm
            rw [Json.containers_complete, List.map_eq_nil_iff] at hinner
            subst hinner
            have hspace := isSpace_of_reads_finished hnext '}' (List.mem_of_getLast? hlast)
            exact absurd hspace (by decide)
  · rcases State.step_inside h hr with hdoom | hin
    · exact absurd hdoom hnext.not_doomed
    · exact ⟨around, hin.containers_eq.trans hroot⟩

/-- The brace that ends the text ends the walk. -/
theorem closes_of_finish {state next : State} {v : Json} (h : state.step '}' = .ok next)
    (hfinish : next.finish = .ok v) (hl : state.Lettered) :
    Closes state.region (state.containers.count .object) '}' := by
  have hd : ¬ next.Doomed := fun hd => hd.finish_ne v hfinish
  have hr : state.region = .outside := by
    by_contra hr
    rcases State.step_inside h hr with hdoom | hin
    · exact hd hdoom
    · have hstring : next.region = .inString := by
        rw [hin.region_eq]
        cases hregion : state.region with
        | outside => exact absurd hregion hr
        | escaped => rfl
        | inString => rfl
      obtain ⟨mode, stack⟩ := next
      cases mode with
      | text role chars escape => simp [State.finish, Json.Mode.close] at hfinish
      | _ => cases hstring
  have hout := State.step_outside h hr hl
  obtain ⟨w, stack, rfl⟩ := hout.closed rfl
  have hstack : stack = [] := by
    cases stack with
    | nil => rfl
    | cons frame stack =>
        cases frame with
        | item items => simp [State.finish, Json.complete, Json.Mode.close] at hfinish
        | member members key => simp [State.finish, Json.complete, Json.Mode.close] at hfinish
  have hnests := hout.nests
  rw [Json.containers_complete, hstack] at hnests
  refine ⟨hr, rfl, ?_⟩
  generalize state.containers = outer at hnests
  cases hnests with
  | closeObject => simp
  | plain _ hc => exact absurd (by decide) hc

/-- The walk captures a decorated object to its last character. -/
theorem lengthToClose_decorated {s d : List Char} (hd : Decorated s d) {state : State} {v : Json}
    {around : List Container} (hread : state.Reads s v) (hl : state.Lettered)
    (hroot : state.containers = around ++ [.object]) (hlast : s.getLast? = some '}')
    (post : List Char) :
    lengthToClose state.region (state.containers.count .object) (d ++ post) = .ok d.length := by
  induction hd generalizing state around with
  | nil => simp at hlast
  | @keep c s d hd ih =>
      obtain ⟨next, hstep, hnext⟩ := Json.reads_cons_iff.1 hread
      cases s with
      | nil =>
          cases hd
          obtain rfl : c = '}' := by simpa using hlast
          rw [List.cons_append, lengthToClose_cons,
            if_pos (closes_of_finish hstep (Json.reads_nil_iff.1 hnext) hl)]
          rfl
      | cons e s =>
          rw [List.getLast?_cons_cons] at hlast
          obtain ⟨inner, hinner⟩ := exists_containers_of_step hstep hnext hl hroot hlast
          rw [List.cons_append, lengthToClose_step hstep hl hnext.not_doomed (by simp [hinner]),
            ih hnext (hl.step hstep) hinner hlast]
          rfl
  | @row p s d hp hd ih =>
      obtain ⟨next, hstep, hnext⟩ := Json.reads_cons_iff.1 hread
      cases s with
      | nil => simp at hlast
      | cons e s =>
          rw [List.getLast?_cons_cons] at hlast
          obtain ⟨inner, hinner⟩ := exists_containers_of_step hstep hnext hl hroot hlast
          have hr := (Json.step_newline hstep hl hnext.not_doomed).1
          have hout := State.step_outside hstep hr hl
          -- What follows the decoration is read by the reader, so it is no slash.
          have hhead : (d ++ post).head? ≠ some '/' := by
            obtain ⟨last, hstep', -⟩ := Json.reads_cons_iff.1 hnext
            have hcomment := (State.step_outside hstep' hout.region_eq hout.lettered).not_comment
            have hfirst : d.head? = some e := hd.head?_eq
            rw [List.head?_append, hfirst]
            simpa using fun h : e = '/' => hcomment (by simp [h])
          rw [List.cons_append, lengthToClose_step hstep hl hnext.not_doomed (by simp [hinner]),
            hout.region_eq, List.append_assoc, Region.next, if_neg (by decide),
            lengthToClose_decoration hp hhead]
          have htail := ih hnext hout.lettered hinner hlast
          rw [hout.region_eq, Region.next, if_neg (by decide)] at htail
          rw [htail]
          simp only [Except.map, List.length_cons, List.length_append]
          congr 1
          omega

/-! ### The value of a decorated text -/

/-- Decoration along rows: the first row has none, each later one may have some. -/
inductive DecoratedRows : List Char → List Char → Prop where
  | last {row : List Char} : '\n' ∉ row → DecoratedRows row row
  | more {row p s d : List Char} :
      '\n' ∉ row → (p = [] ∨ IsDecoration p) → DecoratedRows s d →
        DecoratedRows (row ++ '\n' :: s) (row ++ '\n' :: (p ++ d))

theorem Decorated.rows {s d : List Char} (h : Decorated s d) : DecoratedRows s d := by
  induction h with
  | nil => exact .last (by simp)
  | @row p s d hp _ ih =>
      change DecoratedRows ([] ++ '\n' :: s) ([] ++ '\n' :: (p ++ d))
      exact .more (by simp) (Or.inr hp) ih
  | @keep c s d _ ih =>
      by_cases hc : c = '\n'
      · subst hc
        change DecoratedRows ([] ++ '\n' :: s) ([] ++ '\n' :: ([] ++ d))
        exact .more (by simp) (Or.inl rfl) ih
      · cases ih with
        | last hrow => exact .last (by simp [hrow, Ne.symm hc])
        | @more row p s d hrow hp hrest =>
            change DecoratedRows ((c :: row) ++ '\n' :: s) ((c :: row) ++ '\n' :: (p ++ d))
            exact .more (by simp [hrow, Ne.symm hc]) hp hrest

theorem isSpace_of_isGap {c : Char} (h : Text.isGap c = true) : Json.isSpace c = true := by
  simp only [Text.isGap, Bool.or_eq_true, beq_iff_eq] at h
  rcases h with rfl | rfl <;> rfl

theorem not_mem_of_isDecoration {p : List Char} (hp : p = [] ∨ IsDecoration p) : '\n' ∉ p := by
  rcases hp with rfl | ⟨left, mark, right, rfl, hleft, hmark, hright⟩
  · simp
  · intro h
    rcases List.mem_append.1 h with h | h
    · rcases List.mem_append.1 h with h | h
      · exact absurd (hleft _ h) (by decide)
      · exact absurd (isDecorative_of_mem_marks hmark h) (by decide)
    · exact absurd (hright _ h) (by decide)

/-- Between two parts, a row is read without its decoration as it is read bare. -/
theorem exists_reaches_stripRow {state : State} {p row rest : List Char} {v : Json}
    (hskip : state.Skips) (hr : state.region = .outside) (hl : state.Lettered)
    (hp : p = [] ∨ IsDecoration p) (h : state.Reads (row ++ rest) v) :
    ∃ middle, state.Reaches (stripRow (p ++ row)) middle ∧ middle.Reads rest v := by
  have hbody : state.Reads (row.dropWhile Text.isGap ++ rest) v := by
    rw [← List.takeWhile_append_dropWhile (p := Text.isGap) (l := row), List.append_assoc,
      hskip.reads_append_iff fun c hc => isSpace_of_isGap (List.mem_takeWhile_imp hc)] at h
    exact h
  have hhead : ∀ c ∈ (row.dropWhile Text.isGap).head?, c ≠ '*' ∧ c ≠ '/' := by
    intro c hc
    obtain ⟨cs, hcs⟩ := List.head?_eq_some_iff.1 hc
    rw [hcs, List.cons_append] at hbody
    obtain ⟨next, hstep, -⟩ := Json.reads_cons_iff.1 hbody
    have hcomment := (State.step_outside hstep hr hl).not_comment
    simp only [List.mem_cons, List.not_mem_nil, or_false, not_or] at hcomment
    exact ⟨hcomment.1, hcomment.2.1⟩
  rcases hp with rfl | ⟨left, mark, right, rfl, hleft, hmark, hright⟩
  · rw [List.nil_append, stripRow_eq_self hhead]
    exact Json.reads_append_iff.1 h
  · have hrow : row.head? ≠ some '/' := by
      intro hslash
      obtain ⟨cs, rfl⟩ := List.head?_eq_some_iff.1 hslash
      exact (hhead '/' (by simp [Text.isGap])).2 rfl
    rw [stripRow_append hleft hmark hright hrow]
    exact Json.reads_append_iff.1 hbody

/-- Between two parts, a text is read without its decoration as it is read bare. -/
theorem reads_stripRows {s d : List Char} (hd : DecoratedRows s d) {state : State}
    {p : List Char} {v : Json} (hskip : state.Skips) (hr : state.region = .outside)
    (hl : state.Lettered) (hp : p = [] ∨ IsDecoration p) (h : state.Reads s v) :
    state.Reads (stripRows (p ++ d)) v := by
  induction hd generalizing state p with
  | @last row hrow =>
      rw [stripRows_of_not_mem (by simp [hrow, not_mem_of_isDecoration hp])]
      rw [← List.append_nil row] at h
      obtain ⟨middle, hreach, hmiddle⟩ := exists_reaches_stripRow hskip hr hl hp h
      rw [← List.append_nil (stripRow (p ++ row))]
      exact Json.reads_append_iff.2 ⟨middle, hreach, hmiddle⟩
  | @more row q s d hrow hq _ ih =>
      rw [← List.append_assoc, stripRows_append (by simp [hrow, not_mem_of_isDecoration hp])]
      obtain ⟨middle, hreach, hmiddle⟩ := exists_reaches_stripRow hskip hr hl hp h
      obtain ⟨next, hstep, hnext⟩ := Json.reads_cons_iff.1 hmiddle
      have hmiddleLettered := (hreach.region_eq hl hmiddle.not_doomed).2
      obtain ⟨hmiddleRegion, hnextSkips⟩ :=
        Json.step_newline hstep hmiddleLettered hnext.not_doomed
      have hout := State.step_outside hstep hmiddleRegion hmiddleLettered
      refine Json.reads_append_iff.2 ⟨middle, hreach, Json.reads_cons_iff.2 ⟨next, hstep, ?_⟩⟩
      exact ih hnextSkips hout.region_eq hout.lettered hq hnext

theorem Decorated.getLast?_eq {s d : List Char} (h : Decorated s d)
    (hlast : s.getLast? = some '}') : d.getLast? = some '}' := by
  induction h with
  | nil => exact hlast
  | @keep c s d hd ih =>
      cases s with
      | nil => cases hd; exact hlast
      | cons e s =>
          rw [List.getLast?_cons_cons] at hlast
          rw [List.getLast?_cons, ih hlast]
          rfl
  | @row p s d hp hd ih =>
      cases s with
      | nil => simp at hlast
      | cons e s =>
          rw [List.getLast?_cons_cons] at hlast
          rw [List.getLast?_cons, List.getLast?_append, ih hlast]
          rfl

/-! ### Decorated objects -/

/-- A decorated object has the length of its text, whatever follows. -/
theorem objectLength_decorated {s d : List Char} {v : Json} (hs : Json.parse s = .ok v)
    (hfirst : s.head? = some '{') (hlast : s.getLast? = some '}') (hd : Decorated s d)
    (post : List Char) : objectLength (d ++ post) = .ok d.length := by
  obtain ⟨t, rfl⟩ := List.head?_eq_some_iff.1 hfirst
  obtain ⟨next, hstep, hnext⟩ := Json.reads_cons_iff.1 (Json.parse_eq_ok_iff.1 hs)
  cases hstep
  cases t with
  | nil => simp at hlast
  | cons e t =>
      rw [List.getLast?_cons_cons] at hlast
      cases hd with
      | @keep _ _ d hd =>
          have hroot : State.containers ⟨.firstKey, []⟩ = [] ++ [Container.object] := rfl
          have htail : lengthToClose .outside 1 (d ++ post) = .ok d.length :=
            lengthToClose_decorated hd hnext trivial hroot hlast post
          have hopen : lengthToClose .outside 0 ('{' :: (d ++ post)) =
              (lengthToClose .outside 1 (d ++ post)).map (· + 1) := rfl
          rw [objectLength, List.cons_append, hopen, htail]
          rfl

/-- The value of a decorated object is the value of its text. -/
theorem decodeObject_decorated {s d : List Char} {v : Json} (hs : Json.parse s = .ok v)
    (hobject : v.isObject = true) (hfirst : s.head? = some '{') (hlast : s.getLast? = some '}')
    (hd : Decorated s d) : decodeObject d = .ok v := by
  have hread : State.Reads ⟨.value, []⟩ (stripRows d) v :=
    reads_stripRows (p := []) hd.rows (Json.skips_of_isGap rfl []) rfl trivial (Or.inl rfl)
      (Json.parse_eq_ok_iff.1 hs)
  have hstrip : stripDecoration d = stripRows d :=
    stripDecoration_eq_stripRows (hd.head?_eq.trans hfirst) (hd.getLast?_eq hlast)
  rw [decodeObject, hstrip, Json.parse_eq_ok_iff.2 hread]
  exact if_pos hobject

/-- Capturing and reading an object agree with the reader of JSON under any decoration and
in any surroundings. -/
theorem capture_decorated {s d : List Char} {v : Json} (hs : Json.parse s = .ok v)
    (hobject : v.isObject = true) (hfirst : s.head? = some '{') (hlast : s.getLast? = some '}')
    (hd : Decorated s d) (pre post : List Char) :
    objectEnd (pre ++ d ++ post) (Text.byteLength pre) =
        .ok (Text.byteLength pre + Text.byteLength d) ∧
      decodeObject d = .ok v := by
  refine ⟨?_, decodeObject_decorated hs hobject hfirst hlast hd⟩
  rw [objectEnd, List.append_assoc, Text.dropBytes_byteLength_append,
    objectLength_decorated hs hfirst hlast hd post]
  simp [Except.map]

theorem capture_decorated_mixed_rows :
    objectEnd
        ("@LRDerror 404 ".toList ++
          "\x7b\n *\t  \"*/\": \"@LRD\x7d\\\"\",\n///\"k\": [\x7b\x7d]\n\x7d".toList ++
            " */".toList) 14 =
        .ok 52 ∧
      decodeObject "\x7b\n *\t  \"*/\": \"@LRD\x7d\\\"\",\n///\"k\": [\x7b\x7d]\n\x7d".toList =
        .ok (.obj [("*/", .str "@LRD\x7d\""), ("k", .arr [.obj []])]) := by
  have hstar : IsDecoration [' ', '*', '\t'] :=
    ⟨[' '], ['*'], ['\t'], rfl, by simp [Text.isGap], by simp [marks], by simp [Text.isGap]⟩
  have hslashes : IsDecoration ['/', '/', '/'] :=
    ⟨[], ['/', '/', '/'], [], rfl, by simp, by simp [marks], by simp⟩
  have hd : Decorated "\x7b\n  \"*/\": \"@LRD\x7d\\\"\",\n\"k\": [\x7b\x7d]\n\x7d".toList
      "\x7b\n *\t  \"*/\": \"@LRD\x7d\\\"\",\n///\"k\": [\x7b\x7d]\n\x7d".toList :=
    .keep '{' <| .row hstar <| .keep_append "  \"*/\": \"@LRD\x7d\\\"\",".toList <|
      .row hslashes <| .keep_append "\"k\": [\x7b\x7d]\n\x7d".toList .nil
  have hs : Json.parse "\x7b\n  \"*/\": \"@LRD\x7d\\\"\",\n\"k\": [\x7b\x7d]\n\x7d".toList =
      .ok (.obj [("*/", .str "@LRD\x7d\""), ("k", .arr [.obj []])]) := rfl
  exact capture_decorated hs rfl rfl rfl hd "@LRDerror 404 ".toList " */".toList

end Tag

end ApiNotes
