import ApiNotes.Proofs.Capture.Offence
import ApiNotes.Proofs.Text.Bytes

/-!
# Capturing by bytes

Places in a text are counted in bytes, and the grammar of objects can be read on the bytes as well:
every character that the walk looks at is its own byte, and the walk passes over the bytes of all
other characters as it passes over the characters (`lengthToClose_bytes`). So the offset behind a
captured object is the one up to which the bytes are an object (`objectEnd_grammar`).
-/

namespace ApiNotes

namespace Tag

variable {start stop : Nat} {c d : Char} {text : List Char}

/-! ### The walk over bytes -/

theorem ne_of_le_toNat {mark : Char} (hc : 128 ≤ c.toNat) (hmark : mark.toNat < 128) :
    c ≠ mark := by
  rintro rfl
  omega

/-- The bytes of longer characters all lead to the same region. -/
theorem next_of_le_toNat (hc : 128 ≤ c.toNat) (region : Region) :
    region.next c = region.next ' ' := by
  have hquote : c ≠ '"' := ne_of_le_toNat hc (by decide)
  have hslash : c ≠ '\\' := ne_of_le_toNat hc (by decide)
  cases region <;> simp [Region.next, hquote, hslash]

theorem lengthToClose_cons_of_le_toNat (hc : 128 ≤ c.toNat) (region : Region) (depth : Nat)
    (cs : List Char) :
    lengthToClose region depth (c :: cs) =
      (lengthToClose (region.next ' ') depth cs).map (· + 1) := by
  have hclose : ¬ Closes region depth c :=
    fun hclose => ne_of_le_toNat hc (by decide) hclose.2.1
  have hi : interruption? region c cs = none := by
    have hstar : c ≠ '*' := ne_of_le_toNat hc (by decide)
    have hat : c ≠ '@' := ne_of_le_toNat hc (by decide)
    have hfeed : c ≠ '\n' := ne_of_le_toNat hc (by decide)
    cases region <;> simp [interruption?, hstar, hat, hfeed]
  have hdepth : nextDepth region depth c = depth := by
    have hopen : c ≠ '{' := ne_of_le_toNat hc (by decide)
    have hbrace : c ≠ '}' := ne_of_le_toNat hc (by decide)
    cases region <;> simp [nextDepth, hopen, hbrace]
  rw [lengthToClose_cons_of_next hclose hi, hdepth, next_of_le_toNat hc]

/-- The walk passes over the bytes of a longer character. -/
theorem lengthToClose_append_of_le_toNat {ds : List Char} (hds : ∀ b ∈ d :: ds, 128 ≤ b.toNat)
    (region : Region) (depth : Nat) (rest : List Char) :
    lengthToClose region depth (d :: ds ++ rest) =
      (lengthToClose (region.next ' ') depth rest).map (· + (ds.length + 1)) := by
  induction ds generalizing region d with
  | nil => exact lengthToClose_cons_of_le_toNat (hds d List.mem_cons_self) region depth rest
  | cons e es ih =>
      obtain ⟨hd, hes⟩ := List.forall_mem_cons.1 hds
      have hsettled : (region.next ' ').next ' ' = region.next ' ' := by cases region <;> rfl
      rw [List.cons_append, lengthToClose_cons_of_le_toNat hd, ih hes, map_add_map_add, hsettled,
        List.length_cons]

theorem interruption?_bytes (region : Region) (c : Char) (cs : List Char) :
    interruption? region c (Text.bytes cs) = interruption? region c cs := by
  have hslash : (Text.bytes cs).head? = some '/' ↔ cs.head? = some '/' := by
    have hguards : Text.Guards ['/'] Text.byteForm := Text.guards_byteForm (by simp)
    rw [← List.singleton_prefix_iff_head?_eq_some, ← List.singleton_prefix_iff_head?_eq_some]
    exact hguards.prefix_flatMap_iff (fun _ hc => hc) cs
  have htag : ['L', 'R', 'D'].isPrefixOf (Text.bytes cs) = ['L', 'R', 'D'].isPrefixOf cs := by
    have hguards : Text.Guards ['L', 'R', 'D'] Text.byteForm := Text.guards_byteForm (by simp)
    rw [Bool.eq_iff_iff, List.isPrefixOf_iff_prefix, List.isPrefixOf_iff_prefix]
    exact hguards.prefix_flatMap_iff (fun _ hc => hc) cs
  cases region with
  | escaped => rfl
  | inString => rfl
  | outside => simp only [interruption?, hslash, htag]

/-- The walk over the bytes of a text is the walk over the text, with the length in bytes. -/
theorem lengthToClose_bytes (region : Region) (depth : Nat) (text : List Char) :
    lengthToClose region depth (Text.bytes text) =
      (lengthToClose region depth text).map fun n => Text.byteLength (text.take n) := by
  induction text generalizing region depth with
  | nil => rfl
  | cons c cs ih =>
      obtain ⟨hc, hform⟩ | ⟨hc, d, ds, hform, hds⟩ := Text.byteForm_cases c
      · have hsize : c.utf8Size = 1 := by rw [← Text.length_byteForm, hform]; rfl
        rw [Text.bytes_cons, hform, List.singleton_append, lengthToClose_cons, lengthToClose_cons,
          interruption?_bytes, ih]
        split
        · simp [Except.map, hsize]
        cases interruption? region c cs with
        | some why => rfl
        | none =>
            cases lengthToClose (region.next c) (nextDepth region depth c) cs with
            | error why => rfl
            | ok n => simp [Except.map, hsize, Nat.add_comm]
      · have hsize : ds.length + 1 = c.utf8Size := by
          rw [← Text.length_byteForm, hform, List.length_cons]
        rw [Text.bytes_cons, hform, lengthToClose_append_of_le_toNat hds, ih,
          lengthToClose_cons_of_le_toNat hc, hsize]
        cases lengthToClose (region.next ' ') depth cs with
        | error why => rfl
        | ok n => simp [Except.map, Nat.add_comm]

/-! ### Objects by their bytes -/

/-- The bytes from `start` up to `stop` are an object that is clear. -/
def ObjectAt (bytes : List Char) (start stop : Nat) : Prop :=
  ∃ object, object <+: bytes.drop start ∧ start + object.length = stop ∧ IsObject object ∧
    Clear object

theorem objectEnd_byteLength_append (before behind : List Char) :
    objectEnd (before ++ behind) (Text.byteLength before) =
      (objectLength (Text.bytes behind)).map (Text.byteLength before + ·) := by
  rw [objectEnd, Text.dropBytes_byteLength_append, Text.byteLength_append, Nat.add_sub_cancel,
    objectLength, objectLength, lengthToClose_bytes]
  cases lengthToClose .outside 0 behind with
  | error why => rfl
  | ok n => rfl

/-- At a byte that is a brace, the search for the end of the object is the walk over the bytes. -/
theorem objectEnd_eq (hopen : (Text.bytes text)[start]? = some '{') :
    objectEnd text start =
        (objectLength ((Text.bytes text).drop start)).map (start + ·) ∧
      ((Text.bytes text).drop start).head? = some '{' := by
  obtain ⟨before, behind, rfl, rfl⟩ := Text.exists_append_of_getElem?_bytes (by decide) hopen
  have hdrop : (Text.bytes (before ++ '{' :: behind)).drop (Text.byteLength before) =
      Text.bytes ('{' :: behind) := by
    rw [Text.bytes_append, ← Text.length_bytes, List.drop_left]
  rw [hdrop, objectEnd_byteLength_append]
  exact ⟨rfl, rfl⟩

theorem objectEnd_eq_ok_iff (hopen : (Text.bytes text)[start]? = some '{') :
    objectEnd text start = .ok stop ↔ ObjectAt (Text.bytes text) start stop := by
  obtain ⟨hend, hhead⟩ := objectEnd_eq hopen
  rw [hend]
  constructor
  · intro h
    cases hlength : objectLength ((Text.bytes text).drop start) with
    | error why =>
        rw [hlength] at h
        cases h
    | ok n =>
        rw [hlength] at h
        cases h
        obtain ⟨object, hprefix, rfl, hobject, hclear⟩ := (objectLength_eq_ok_iff hhead).1 hlength
        exact ⟨object, hprefix, rfl, hobject, hclear⟩
  · rintro ⟨object, hprefix, rfl, hobject, hclear⟩
    rw [(objectLength_eq_ok_iff hhead).2 ⟨object, hprefix, rfl, hobject, hclear⟩]
    rfl

theorem objectEnd_eq_error_iff (hopen : (Text.bytes text)[start]? = some '{') {why : Interruption} :
    objectEnd text start = .error why ↔
      (∀ stop, ¬ ObjectAt (Text.bytes text) start stop) ∧
        IsFirstOffence ((Text.bytes text).drop start) why := by
  obtain ⟨hend, hhead⟩ := objectEnd_eq hopen
  have hsame : objectEnd text start = .error why ↔
      objectLength ((Text.bytes text).drop start) = .error why := by
    rw [hend]
    cases objectLength ((Text.bytes text).drop start) with
    | error reason => exact Iff.rfl
    | ok n => simp [Except.map]
  rw [hsame, objectLength_eq_error_iff hhead]
  refine and_congr_left fun _ => ⟨?_, ?_⟩
  · rintro hnone stop ⟨object, hprefix, -, hobject, hclear⟩
    exact hnone object hprefix hobject hclear
  · intro hnone object hprefix hobject hclear
    exact hnone _ ⟨object, hprefix, rfl, hobject, hclear⟩

/-- The end of an object depends on nothing behind it. -/
theorem ObjectAt.of_take_eq {bytes other : List Char} (h : ObjectAt bytes start stop)
    (htake : other.take stop = bytes.take stop) : ObjectAt other start stop := by
  obtain ⟨object, hprefix, rfl, hobject, hclear⟩ := h
  refine ⟨object, ?_, rfl, hobject, hclear⟩
  have hobjectTake : object = (bytes.take (start + object.length)).drop start := by
    rw [List.drop_take, Nat.add_sub_cancel_left]
    exact List.prefix_iff_eq_take.1 hprefix
  rw [List.prefix_iff_eq_take, ← Nat.add_sub_cancel_left start object.length, ← List.drop_take,
    htake, ← hobjectTake]

/-- At a brace, the end of an object is found exactly where the bytes up to it are an object with
neither the end of a comment nor a marker outside of its strings. There is at most one such end,
and what stands behind it does not matter. If there is none, the first offence is reported. -/
theorem objectEnd_grammar (text : List Char) {start : Nat}
    (hopen : (Text.bytes text)[start]? = some '{') :
    (∀ stop, objectEnd text start = .ok stop ↔ ObjectAt (Text.bytes text) start stop) ∧
    (∀ stop stop', ObjectAt (Text.bytes text) start stop →
      ObjectAt (Text.bytes text) start stop' → stop = stop') ∧
    (∀ stop other, objectEnd text start = .ok stop →
      (Text.bytes other).take stop = (Text.bytes text).take stop →
        objectEnd other start = .ok stop) ∧
    (∀ why, objectEnd text start = .error why ↔
      (∀ stop, ¬ ObjectAt (Text.bytes text) start stop) ∧
        IsFirstOffence ((Text.bytes text).drop start) why) := by
  refine ⟨fun stop => objectEnd_eq_ok_iff hopen, ?_, ?_, fun why => objectEnd_eq_error_iff hopen⟩
  · intro stop stop' h h'
    rw [← objectEnd_eq_ok_iff hopen] at h h'
    exact Except.ok.inj (h.symm.trans h')
  · intro stop other hstop htake
    have hobject := (objectEnd_eq_ok_iff hopen).1 hstop
    -- The end is behind the brace, so the brace is among the bytes that the two texts share.
    have hlt : start < stop := by
      obtain ⟨object, -, rfl, ⟨inner, -, rfl⟩, -⟩ := hobject
      simp
    have hopenOther : (Text.bytes other)[start]? = some '{' := by
      rw [← List.getElem?_take_of_lt hlt, htake, List.getElem?_take_of_lt hlt, hopen]
    exact (objectEnd_eq_ok_iff hopenOther).2 (hobject.of_take_eq htake)

/-- An object whose key holds an escaped quote, a brace and a character of two bytes, and an object
that is not closed, with a marker in a key and an escaped line feed before the one that counts. -/
theorem objectEnd_grammar_escapes :
    let closed := "é\x7b\"\\\"\x7dé\":\x7b\x7d\x7d*/".toList
    let opened := "\x7b\"@LRD\":\"\\\n\",@LRD*/\x7d".toList
    ((Text.bytes closed)[2]? = some '{' ∧
      ∀ stop, ObjectAt (Text.bytes closed) 2 stop ↔ stop = 14) ∧
    ((Text.bytes opened)[0]? = some '{' ∧ (∀ stop, ¬ ObjectAt (Text.bytes opened) 0 stop) ∧
      IsFirstOffence (Text.bytes opened) .tag) := by
  intro closed opened
  have hclosed : (Text.bytes closed)[2]? = some '{' := by decide
  have hopened : (Text.bytes opened)[0]? = some '{' := by decide
  have hstop : objectEnd closed 2 = .ok 14 := by rfl
  have hwhy : objectEnd opened 0 = .error .tag := by rfl
  obtain ⟨hend, hunique, -, -⟩ := objectEnd_grammar closed hclosed
  obtain ⟨-, -, -, herror⟩ := objectEnd_grammar opened hopened
  have hobject := (hend 14).1 hstop
  refine ⟨⟨hclosed, fun stop => ⟨fun h => hunique stop 14 h hobject, ?_⟩⟩, hopened,
    (herror .tag).1 hwhy⟩
  rintro rfl
  exact hobject

end Tag

end ApiNotes
