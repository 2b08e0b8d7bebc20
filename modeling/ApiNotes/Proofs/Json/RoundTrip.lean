import ApiNotes.Proofs.Json.Scalar

/-!
# Reading back what was written

`Plain n v` are the values that survive being written and read: their integers are in
range, no numbers have a fraction, no object has a key twice, and at most `n` containers
are nested. Both spellings of a plain value are read back as it.

The two spellings of a container differ only in the blanks between its entries. `spread`
is what they share, so that lists of items and of members are each read back by one
induction, along the entries still to come, with the entries already read in the state.
-/

namespace ApiNotes

namespace Json

/-- The values with at most `n` nested containers that are read back as they were written. -/
inductive Plain : Nat → Json → Prop where
  | null (n : Nat) : Plain n .null
  | bool (n : Nat) (b : Bool) : Plain n (.bool b)
  | int (n : Nat) {k : Int} : InRange k → Plain n (.int k)
  | str (n : Nat) (s : String) : Plain n (.str s)
  | arr {n : Nat} {items : List Json} : (∀ v ∈ items, Plain n v) → Plain (n + 1) (.arr items)
  | obj {n : Nat} {members : Table Json} : (Table.keys members).Nodup →
      (∀ m ∈ members, Plain n m.2) → Plain (n + 1) (.obj members)

/-- Entries separated by commas, each with `gap` before it. -/
def spread {α : Type} (gap : List Char) (spell : α → List Char) : List α → List Char
  | [] => []
  | [x] => gap ++ spell x
  | x :: y :: rest => gap ++ spell x ++ ',' :: spread gap spell (y :: rest)

/-! ### Items -/

/-- A reader that waits for the next item behind `items`, which are last first. -/
def ItemDue (items : List Json) (stack : List Frame) (state : State) : Prop :=
  state = ⟨.nextItem items, stack⟩ ∨ items = [] ∧ state = ⟨.firstItem, stack⟩

variable {stack : List Frame} {state : State} {gap gap' text rest : List Char} {w : Json} {n : Nat}

theorem ItemDue.reads {items : List Json} (h : ItemDue items stack state)
    (hgap : ∀ c ∈ gap, isSpace c = true) (hbegin : Begins (.item items :: stack) text w) :
    state.Reads (gap ++ text) w := by
  obtain ⟨c, cs, next, rfl, hspace, hbracket, hvalue, hnext⟩ := hbegin
  have hskips : state.Skips := by
    rcases h with rfl | ⟨rfl, rfl⟩
    · exact skips_of_isGap rfl stack
    · exact skips_of_isGap rfl stack
  have hstep : state.step c = beginValue (.item items :: stack) c := by
    rcases h with rfl | ⟨rfl, rfl⟩
    · simp [State.step, hspace, hbracket]
    · simp [State.step, hspace, hbracket]
  apply (hskips.reads_append_iff hgap).2
  exact reads_cons_iff.2 ⟨next, hstep.trans hvalue, hnext⟩

/-- Items are read back, with those in `done` read before. -/
theorem reads_items {spell : Json → List Char} (hgap : ∀ c ∈ gap, isSpace c = true)
    (hdepth : stack.length + 1 + n ≤ depthLimit) (hrest : Ends rest) {items done : List Json}
    (hne : items ≠ []) (hspells : ∀ v ∈ items, Spells n (spell v) v)
    (hdue : ItemDue done stack state)
    (h : State.Reads ⟨.afterItem (items.reverse ++ done), stack⟩ rest w) :
    state.Reads (spread gap spell items ++ rest) w := by
  induction items generalizing done state with
  | nil => exact absurd rfl hne
  | cons v items ih =>
      have hv := hspells v List.mem_cons_self
      rw [List.reverse_cons, List.append_assoc] at h
      cases items with
      | nil =>
          rw [spread, List.append_assoc]
          exact hdue.reads hgap (hv _ _ _ hdepth hrest h)
      | cons v' items =>
          have hlater := ih (by simp) (fun u hu => hspells u (List.mem_cons_of_mem v hu))
            (Or.inl rfl) h
          rw [spread, List.append_assoc, List.append_assoc, List.cons_append]
          refine hdue.reads hgap (hv _ _ _ hdepth (Ends.of_cons (by decide) _) ?_)
          exact reads_cons_iff.2 ⟨_, rfl, hlater⟩

theorem ends_gap (hgap : ∀ c ∈ gap, isSpace c = true) (htext : Ends text) :
    Ends (gap ++ text) := by
  cases gap with
  | nil => exact htext
  | cons c gap =>
      have hspace := hgap c List.mem_cons_self
      apply Ends.of_cons
      simp only [isSpace, Bool.or_eq_true, beq_iff_eq] at hspace
      rcases hspace with ((rfl | rfl) | rfl) | rfl <;> decide

theorem spells_arr {spell : Json → List Char} (hgap : ∀ c ∈ gap, isSpace c = true)
    (hgap' : ∀ c ∈ gap', isSpace c = true) {items : List Json}
    (hspells : ∀ v ∈ items, Spells n (spell v) v) :
    Spells (n + 1) ('[' :: (spread gap spell items ++ (gap' ++ [']']))) (.arr items) := by
  intro stack rest w hdepth hrest h
  have hopen : beginValue stack '[' = .ok ⟨.firstItem, stack⟩ := by
    have hroom : stack.length < depthLimit := by omega
    simp [beginValue, hroom]
  refine ⟨'[', spread gap spell items ++ (gap' ++ ']' :: rest), _, by simp, by decide, by decide,
    hopen, ?_⟩
  by_cases hne : items = []
  · subst hne
    refine ((skips_of_isGap rfl stack).reads_append_iff hgap').2 ?_
    exact reads_cons_iff.2 ⟨_, rfl, h⟩
  · refine reads_items hgap (by omega : stack.length + 1 + n ≤ depthLimit)
      (ends_gap hgap' (Ends.of_cons (by decide) rest)) hne hspells (Or.inr ⟨rfl, rfl⟩) ?_
    refine ((skips_of_isGap rfl stack).reads_append_iff hgap').2 ?_
    refine reads_cons_iff.2 ⟨complete (.arr items) stack, ?_, h⟩
    simp [State.step, separate, isSpace]

/-! ### Members -/

/-- A reader that waits for the key of the next member behind `members`. -/
def KeyDue (members : Table Json) (stack : List Frame) (state : State) : Prop :=
  state = ⟨.nextKey members, stack⟩ ∨ members = [] ∧ state = ⟨.firstKey, stack⟩

theorem KeyDue.reads {members : Table Json} (h : KeyDue members stack state)
    (hgap : ∀ c ∈ gap, isSpace c = true)
    (hkey : State.Reads ⟨.text (.key members) [] .none, stack⟩ text w) :
    state.Reads (gap ++ '"' :: text) w := by
  rcases h with rfl | ⟨rfl, rfl⟩
  · refine ((skips_of_isGap rfl stack).reads_append_iff hgap).2 ?_
    exact reads_cons_iff.2 ⟨_, rfl, hkey⟩
  · refine ((skips_of_isGap rfl stack).reads_append_iff hgap).2 ?_
    exact reads_cons_iff.2 ⟨_, rfl, hkey⟩

/-- A member with its key and its value, and `gap'` before the value. -/
def spellMember (gap' : List Char) (spell : Json → List Char) (m : String × Json) : List Char :=
  quote m.1 ++ ':' :: (gap' ++ spell m.2)

theorem KeyDue.reads_member {members : Table Json} (hdue : KeyDue members stack state)
    {spell : Json → List Char} (hgap : ∀ c ∈ gap, isSpace c = true)
    (hgap' : ∀ c ∈ gap', isSpace c = true) (hdepth : stack.length + 1 + n ≤ depthLimit)
    (hrest : Ends rest) {m : String × Json} (hnew : m.1 ∉ Table.keys members)
    (hspells : Spells n (spell m.2) m.2)
    (h : State.Reads ⟨.afterMember (members ++ [m]), stack⟩ rest w) :
    state.Reads (gap ++ (spellMember gap' spell m ++ rest)) w := by
  obtain ⟨k, v⟩ := m
  have hvalue : State.Reads ⟨.value, .member members k :: stack⟩ (gap' ++ (spell v ++ rest)) w := by
    refine ((skips_of_isGap rfl _).reads_append_iff hgap').2 ?_
    refine (hspells (.member members k :: stack) rest w hdepth hrest ?_).reads_value
    rw [complete, Table.insert_of_not_mem hnew]
    exact h
  have hkey : (closeText (.key members) k.toList.reverse stack).Reads
      (':' :: (gap' ++ (spell v ++ rest))) w := by
    rw [closeText, List.reverse_reverse, String.ofList_toList]
    exact reads_cons_iff.2 ⟨_, rfl, hvalue⟩
  have hmember := hdue.reads hgap (reads_string hkey)
  simpa [spellMember, quote] using hmember

/-- Members are read back, with those in `done` read before. -/
theorem reads_members {spell : Json → List Char} (hgap : ∀ c ∈ gap, isSpace c = true)
    (hgap' : ∀ c ∈ gap', isSpace c = true) (hdepth : stack.length + 1 + n ≤ depthLimit)
    (hrest : Ends rest) {members done : Table Json} (hne : members ≠ [])
    (hnodup : (Table.keys (done ++ members)).Nodup)
    (hspells : ∀ m ∈ members, Spells n (spell m.2) m.2) (hdue : KeyDue done stack state)
    (h : State.Reads ⟨.afterMember (done ++ members), stack⟩ rest w) :
    state.Reads (spread gap (spellMember gap' spell) members ++ rest) w := by
  induction members generalizing done state with
  | nil => exact absurd rfl hne
  | cons m members ih =>
      have hm := hspells m List.mem_cons_self
      have hnew : m.1 ∉ Table.keys done := by
        intro hmem
        rw [Table.keys, List.map_append, List.nodup_append] at hnodup
        exact hnodup.2.2 m.1 hmem m.1 (by simp) rfl
      have hcut : done ++ m :: members = (done ++ [m]) ++ members := by simp
      rw [hcut] at hnodup h
      cases members with
      | nil =>
          rw [List.append_nil] at h
          rw [spread, List.append_assoc]
          exact hdue.reads_member hgap hgap' hdepth hrest hnew hm h
      | cons m' members =>
          have hlater := ih (by simp) hnodup
            (fun x hx => hspells x (List.mem_cons_of_mem m hx)) (Or.inl rfl) h
          rw [spread, List.append_assoc, List.append_assoc, List.cons_append]
          refine hdue.reads_member hgap hgap' hdepth (Ends.of_cons (by decide) _) hnew hm ?_
          exact reads_cons_iff.2 ⟨_, rfl, hlater⟩

theorem spells_obj {close : List Char} {spell : Json → List Char}
    (hgap : ∀ c ∈ gap, isSpace c = true) (hgap' : ∀ c ∈ gap', isSpace c = true)
    (hclose : ∀ c ∈ close, isSpace c = true) {members : Table Json}
    (hnodup : (Table.keys members).Nodup) (hspells : ∀ m ∈ members, Spells n (spell m.2) m.2) :
    Spells (n + 1) ('{' :: (spread gap (spellMember gap' spell) members ++ (close ++ ['}'])))
      (.obj members) := by
  intro stack rest w hdepth hrest h
  have hopen : beginValue stack '{' = .ok ⟨.firstKey, stack⟩ := by
    have hroom : stack.length < depthLimit := by omega
    simp [beginValue, hroom]
  refine ⟨'{', spread gap (spellMember gap' spell) members ++ (close ++ '}' :: rest), _, by simp,
    by decide, by decide, hopen, ?_⟩
  by_cases hne : members = []
  · subst hne
    refine ((skips_of_isGap rfl stack).reads_append_iff hclose).2 ?_
    exact reads_cons_iff.2 ⟨_, rfl, h⟩
  · have hnone : (Table.keys ([] ++ members)).Nodup := hnodup
    refine reads_members hgap hgap' (by omega : stack.length + 1 + n ≤ depthLimit)
      (ends_gap hclose (Ends.of_cons (by decide) rest)) hne hnone hspells (Or.inr ⟨rfl, rfl⟩) ?_
    refine ((skips_of_isGap rfl stack).reads_append_iff hclose).2 ?_
    exact reads_cons_iff.2 ⟨_, rfl, h⟩

/-! ### The two spellings -/

theorem writeItems_eq : ∀ items : List Json, writeItems items = spread [] write items
  | [] => rfl
  | [v] => rfl
  | v :: v' :: rest => by
      rw [writeItems, spread, writeItems_eq (v' :: rest), List.nil_append]

theorem writeMembers_eq : ∀ members : Table Json,
    writeMembers members = spread [] (spellMember [] write) members
  | [] => rfl
  | [(k, v)] => rfl
  | (k, v) :: m :: rest => by
      rw [writeMembers, spread, writeMembers_eq (m :: rest)]
      simp [spellMember]

theorem prettyItems_eq (indent : Nat) : ∀ items : List Json,
    prettyItems indent items = spread (newline indent) (writePretty indent) items
  | [] => rfl
  | [v] => rfl
  | v :: v' :: rest => by
      rw [prettyItems, spread, prettyItems_eq indent (v' :: rest)]

theorem prettyMembers_eq (indent : Nat) : ∀ members : Table Json,
    prettyMembers indent members =
      spread (newline indent) (spellMember [' '] (writePretty indent)) members
  | [] => rfl
  | [(k, v)] => by
      rw [prettyMembers, spread]
      simp [spellMember]
  | (k, v) :: m :: rest => by
      rw [prettyMembers, spread, prettyMembers_eq indent (m :: rest)]
      simp [spellMember]

theorem isSpace_of_mem_newline (indent : Nat) : ∀ c ∈ newline indent, isSpace c = true := by
  intro c hc
  rcases List.mem_cons.1 hc with rfl | hc
  · decide
  · rw [List.eq_of_mem_replicate hc]
    decide

/-- The spelling without blanks is a spelling. -/
theorem spells_write {v : Json} (h : Plain n v) : Spells n (write v) v := by
  induction h with
  | null n => exact spells_null n
  | bool n b => exact spells_bool n b
  | int n hk => exact spells_int n hk
  | str n s => exact spells_str n s
  | @arr n items _ ih =>
      have hspells : Spells (n + 1)
          ('[' :: (spread [] write items ++ ([] ++ [']']))) (.arr items) :=
        spells_arr (by simp) (by simp) ih
      rwa [← writeItems_eq] at hspells
  | @obj n members hnodup _ ih =>
      have hspells : Spells (n + 1)
          ('{' :: (spread [] (spellMember [] write) members ++ ([] ++ ['}']))) (.obj members) :=
        spells_obj (by simp) (by simp) (by simp) hnodup ih
      rwa [← writeMembers_eq] at hspells

/-- The spelling with one entry a line is a spelling. -/
theorem spells_writePretty {v : Json} (h : Plain n v) (indent : Nat) :
    Spells n (writePretty indent v) v := by
  induction h generalizing indent with
  | null n => exact spells_null n
  | bool n b => exact spells_bool n b
  | int n hk => exact spells_int n hk
  | str n s => exact spells_str n s
  | @arr n items _ ih =>
      cases items with
      | nil => exact spells_write (.arr (by simp))
      | cons v items =>
          have hspells := spells_arr (isSpace_of_mem_newline (indent + 2))
            (isSpace_of_mem_newline indent) (fun u hu => ih u hu (indent + 2))
          rw [← prettyItems_eq] at hspells
          rw [writePretty, List.cons_append, List.cons_append, List.append_assoc]
          exact hspells
  | @obj n members hnodup _ ih =>
      cases members with
      | nil => exact spells_write (.obj (by simp [Table.keys]) (by simp))
      | cons m members =>
          have hblank : ∀ c ∈ [' '], isSpace c = true := by simp [isSpace]
          have hspells := spells_obj (isSpace_of_mem_newline (indent + 2)) hblank
            (isSpace_of_mem_newline indent) hnodup (fun x hx => ih x hx (indent + 2))
          rw [← prettyMembers_eq] at hspells
          rw [writePretty, List.cons_append, List.cons_append, List.append_assoc]
          exact hspells

theorem Spells.parse_eq {v : Json} (h : Spells depthLimit text v) : parse text = .ok v := by
  have hfinished : (complete v []).Reads [] v := reads_nil_iff.2 rfl
  have hread := (h [] [] v (by simp) ends_nil hfinished).reads_value
  rw [List.append_nil] at hread
  exact parse_eq_ok_iff.2 hread

/-- Writing a plain value and reading it gives the value back, in both spellings. -/
theorem parse_written {v : Json} (h : Plain depthLimit v) :
    parse (write v) = .ok v ∧ parse (writePretty 0 v) = .ok v :=
  ⟨(spells_write h).parse_eq, (spells_writePretty h 0).parse_eq⟩

end Json

end ApiNotes
