import ApiNotes.Proofs.OpenApi.Latest
import ApiNotes.Proofs.Text.Cut

/-!
# When two operations have one identifier

An identifier is the method of an operation and the words of its URI, joined by underscores. The
words are the longest runs of letters and digits (`runs_iff`), so none of them is empty or holds an
underscore, and cutting the identifier at its underscores gives back what was joined
(`splitOn_operationId`). A URI without words counts as one with the word `root`; that is the one
thing that the cut does not tell, beside the characters between the words.

In an export each operation has the identifier of its slot (`id_of_slot`), so which operations of
it clash is told by their slots alone.
-/

namespace ApiNotes

theorem Method.ofText?_lower (method : Method) : ofText? method.lower = some method := by
  cases method <;> decide

theorem Method.lower_inj {method method' : Method} (h : method.lower = method'.lower) :
    method = method' := by
  have hread := Method.ofText?_lower method
  rw [h, Method.ofText?_lower, Option.some.injEq] at hread
  exact hread.symm

namespace OpenApi

variable {text : List Char} {runs : List (List Char)}

/-! ### The words of a URI -/

/-- The longest runs of letters and digits of a text, in order. -/
inductive Runs : List Char → List (List Char) → Prop where
  | none {gap : List Char} (hgap : ∀ c ∈ gap, c.isAlphanum = false) : Runs gap []
  | run {gap run rest : List Char} {runs : List (List Char)}
      (hgap : ∀ c ∈ gap, c.isAlphanum = false) (hne : run ≠ [])
      (hrun : ∀ c ∈ run, c.isAlphanum = true) (hrest : ∀ c ∈ rest.head?, c.isAlphanum = false)
      (h : Runs rest runs) : Runs (gap ++ (run ++ rest)) (run :: runs)

theorem exists_runs (text : List Char) : ∃ runs, Runs text runs := by
  have hgap : ∀ c ∈ text.takeWhile (!·.isAlphanum), c.isAlphanum = false := by
    intro c hc
    simpa using List.mem_takeWhile_imp hc
  have htext : text.takeWhile (!·.isAlphanum) ++ text.dropWhile (!·.isAlphanum) = text :=
    List.takeWhile_append_dropWhile
  cases hbody : text.dropWhile (!·.isAlphanum) with
  | nil =>
      rw [hbody, List.append_nil] at htext
      exact ⟨[], .none (htext ▸ hgap)⟩
  | cons c cs =>
      have hc : c.isAlphanum = true := by
        have hstop := Text.head?_dropWhile _ text c (by rw [hbody]; rfl)
        rwa [Bool.not_eq_false'] at hstop
      have hlength : (cs.dropWhile Char.isAlphanum).length < text.length := by
        have hle := (List.dropWhile_suffix Char.isAlphanum (l := cs)).length_le
        rw [← htext, hbody, List.length_append, List.length_cons]
        omega
      obtain ⟨runs, hruns⟩ := exists_runs (cs.dropWhile Char.isAlphanum)
      refine ⟨(c :: cs.takeWhile Char.isAlphanum) :: runs, ?_⟩
      have hrun : ∀ d ∈ c :: cs.takeWhile Char.isAlphanum, d.isAlphanum = true :=
        List.forall_mem_cons.2 ⟨hc, fun d hd => List.mem_takeWhile_imp hd⟩
      have hall := Runs.run hgap (List.cons_ne_nil _ _) hrun (Text.head?_dropWhile _ cs) hruns
      rwa [List.cons_append, List.takeWhile_append_dropWhile, ← hbody, htext] at hall
termination_by text.length

/-- The pieces of a text between the characters that are no letters or digits, less the empty
ones. -/
def pieces (text : List Char) : List (List Char) :=
  (text.splitOnP fun c => !c.isAlphanum).filter (· != [])

theorem pieces_gap_append {gap : List Char} (hgap : ∀ c ∈ gap, c.isAlphanum = false)
    (rest : List Char) : pieces (gap ++ rest) = pieces rest := by
  induction gap with
  | nil => rfl
  | cons c gap ih =>
      rw [List.forall_mem_cons] at hgap
      rw [← ih hgap.2, List.cons_append, pieces, List.splitOnP_cons_eq_if_modifyHead,
        if_pos (by simp [hgap.1])]
      rfl

theorem pieces_run_append {run rest : List Char} (hne : run ≠ [])
    (hrun : ∀ c ∈ run, c.isAlphanum = true) (hrest : ∀ c ∈ rest.head?, c.isAlphanum = false) :
    pieces (run ++ rest) = run :: pieces rest := by
  have hpiece : pieces run = [run] := by
    rw [pieces, List.splitOnP_eq_singleton (by simpa using hrun)]
    simp [hne]
  cases rest with
  | nil => rw [List.append_nil, hpiece]; rfl
  | cons c rest =>
      have hc := hrest c rfl
      -- The character behind the run is part of no piece.
      have hskip : pieces (c :: rest) = pieces rest :=
        pieces_gap_append (List.forall_mem_singleton.2 hc) rest
      rw [hskip, pieces, List.splitOnP_append_cons run rest (by simp [hc]), List.filter_append]
      exact congrArg (· ++ pieces rest) hpiece

theorem words_eq_pieces (uri : String) : words uri = pieces uri.toList := rfl

theorem Runs.pieces_eq (h : Runs text runs) : pieces text = runs := by
  induction h with
  | none hgap =>
      have hall := pieces_gap_append hgap []
      rwa [List.append_nil] at hall
  | run hgap hne hrun hrest _ ih =>
      rw [pieces_gap_append hgap, pieces_run_append hne hrun hrest, ih]

/-- The words of a URI are its longest runs of letters and digits. -/
theorem runs_iff {uri : String} : Runs uri.toList runs ↔ words uri = runs := by
  rw [words_eq_pieces]
  constructor
  · exact Runs.pieces_eq
  · rintro rfl
    obtain ⟨runs, hruns⟩ := exists_runs uri.toList
    rwa [hruns.pieces_eq]

theorem Runs.mem (h : Runs text runs) :
    ∀ run ∈ runs, run ≠ [] ∧ ∀ c ∈ run, c.isAlphanum = true := by
  induction h with
  | none => exact List.forall_mem_nil _
  | run _ hne hrun _ _ ih => exact List.forall_mem_cons.2 ⟨⟨hne, hrun⟩, ih⟩

/-! ### Cutting an identifier -/

/-- Runs as they are joined to an identifier: no run counts as the run `root`. -/
def orRoot : List (List Char) → List (List Char)
  | [] => ["root".toList]
  | run :: runs => run :: runs

theorem orRoot_ne_nil (runs : List (List Char)) : orRoot runs ≠ [] := by
  cases runs with
  | nil => exact List.cons_ne_nil _ _
  | cons run runs => exact List.cons_ne_nil _ _

theorem not_mem_of_mem_orRoot (h : Runs text runs) : ∀ run ∈ orRoot runs, '_' ∉ run := by
  cases runs with
  | nil => exact List.forall_mem_singleton.2 (by decide)
  | cons first runs =>
      intro run hrun hmem
      have halnum := (h.mem run hrun).2 '_' hmem
      exact absurd halnum (by decide)

theorem toList_operationId (method : Method) (uri : String) :
    (operationId method uri).toList =
      method.lower.toList ++ '_' :: ['_'].intercalate (orRoot (words uri)) := by
  have hnonempty := (runs_iff.2 (rfl : words uri = words uri)).mem
  rw [operationId]
  cases hwords : words uri with
  | nil => simp [orRoot]
  | cons run runs =>
      obtain ⟨c, cs, rfl⟩ := List.exists_cons_of_ne_nil (hnonempty run (by simp [hwords])).1
      simp [orRoot]

theorem not_mem_lower (method : Method) : '_' ∉ method.lower.toList := by
  cases method <;> decide

/-- An identifier cut at its underscores: the method and the words of the URI. -/
theorem splitOn_operationId (method : Method) (uri : String) :
    (operationId method uri).toList.splitOn '_' =
      method.lower.toList :: orRoot (words uri) := by
  have hruns : Runs uri.toList (words uri) := runs_iff.2 rfl
  rw [toList_operationId, List.splitOn_append_cons_self_of_not_mem (not_mem_lower method),
    List.splitOn_intercalate '_' (not_mem_of_mem_orRoot hruns) (orRoot_ne_nil _)]

theorem operationId_eq_iff {method method' : Method} {uri uri' : String} :
    operationId method uri = operationId method' uri' ↔
      method = method' ∧ orRoot (words uri) = orRoot (words uri') := by
  constructor
  · intro h
    have hcut : method.lower.toList :: orRoot (words uri) =
        method'.lower.toList :: orRoot (words uri') := by
      rw [← splitOn_operationId, ← splitOn_operationId, h]
    obtain ⟨hmethod, hwords⟩ := List.cons.inj hcut
    exact ⟨Method.lower_inj (String.toList_inj.1 hmethod), hwords⟩
  · rintro ⟨rfl, hwords⟩
    rw [← String.toList_inj, toList_operationId, toList_operationId, hwords]

/-! ### Identifiers of an export -/

theorem id_of_slot {documents : List Document} {config : Config} {method : Method} {uri : String}
    {op : Operation} (h : slot (ofDocuments documents config).paths method uri = some op) :
    op.id = operationId method uri := by
  have hslot := (slot_foldl_addDocument documents method uri).symm.trans h
  obtain ⟨d, hd, rfl⟩ := Option.map_eq_some_iff.1 hslot
  rw [List.findRev?_eq_find?_reverse] at hd
  obtain ⟨rfl, rfl⟩ := Document.isFor_iff.1 (List.find?_some hd)
  rfl

/-- Identifiers are cut at their underscores into the method and the longest runs of letters and
digits of the URI, and they are equal exactly when both of these are. So are the identifiers of two
slots of an export. -/
theorem operationId_clashes :
    (∀ uri runs, Runs uri.toList runs ↔ words uri = runs) ∧
    (∀ method uri, (operationId method uri).toList.splitOn '_' =
        method.lower.toList :: orRoot (words uri) ∧
      Method.ofText? method.lower = some method) ∧
    (∀ method method' uri uri', operationId method uri = operationId method' uri' ↔
      method = method' ∧ orRoot (words uri) = orRoot (words uri')) ∧
    ∀ documents config method method' uri uri' op op',
      slot (ofDocuments documents config).paths method uri = some op →
      slot (ofDocuments documents config).paths method' uri' = some op' →
        (op.id = op'.id ↔ method = method' ∧ orRoot (words uri) = orRoot (words uri')) := by
  refine ⟨fun uri runs => runs_iff, fun method uri => ⟨splitOn_operationId method uri,
    Method.ofText?_lower method⟩, fun method method' uri uri' => operationId_eq_iff, ?_⟩
  intro documents config method method' uri uri' op op' h h'
  rw [id_of_slot h, id_of_slot h', operationId_eq_iff]

/-- The path without words clashes with a path of the word `root`, and not with another method
there. -/
theorem operationId_clashes_root :
    let root := Document.ofComment "" .get false ""
    let named := Document.ofComment "/-root" .get true ""
    let posted := Document.ofComment "/-root" .post true ""
    let paths := (ofDocuments [root, named, posted] .default).paths
    slot paths .get "/" = some (operation root) ∧
      slot paths .get "/-root" = some (operation named) ∧
      slot paths .post "/-root" = some (operation posted) ∧
      (operation root).id = (operation named).id ∧
      (operation named).id ≠ (operation posted).id := by
  intro root named posted paths
  have hroot : slot paths .get "/" = some (operation root) := by rfl
  have hnamed : slot paths .get "/-root" = some (operation named) := by rfl
  have hposted : slot paths .post "/-root" = some (operation posted) := by rfl
  obtain ⟨-, -, -, hclash⟩ := operationId_clashes
  refine ⟨hroot, hnamed, hposted, ?_, ?_⟩
  · exact (hclash _ _ _ _ _ _ _ _ hroot hnamed).2 ⟨rfl, by decide⟩
  · intro hsame
    have hmethod := ((hclash _ _ _ _ _ _ _ _ hnamed hposted).1 hsame).1
    exact absurd hmethod (by decide)

end OpenApi

end ApiNotes
