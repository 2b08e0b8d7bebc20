import ApiNotes.Editor.Server
import ApiNotes.Proofs.Search

/-!
# A session answers from the latest texts

In a session, an editor opens, changes and closes files and asks about positions in them. The
server holds one text for each open file. What it should hold is read off the events alone
(`latest?`): the last event that brings a text for a file or closes the file decides. What an
event gets back depends on nothing but the event, the identifier that a question comes with, and
the text that is held of its file (`Answers`). It is given in the form in which it reaches the
editor: a text that comes in has its diagnostics published, with its own version, and a question
has a response with what the held text gives, or with `null`.

One event is the step (`exists_handle?`): it gets its answer, and it changes what is held of its
own file, if of any. Along a session this gives the texts and the answers after every message, and
as no event looks at or changes the text of another file, the messages about other files may be
left out (`run_answers`).
-/

namespace ApiNotes

namespace Editor

/-! ### What events say about files -/

namespace Event

/-- The file that an event is about. -/
def uri : Event → String
  | opened uri _ _ | changed uri _ _ | closed uri | completion uri _ | hover uri _ => uri

/-- The text that an event brings. Of several changes the last one counts. -/
def text? : Event → Option String
  | opened _ text _ => some text
  | changed _ texts _ => texts.getLast?
  | closed _ | completion _ _ | hover _ _ => none

/-- Whether an event closes its file. -/
def closes : Event → Bool
  | closed _ => true
  | opened _ _ _ | changed _ _ _ | completion _ _ | hover _ _ => false

/-- Whether an event is a question, which comes with an identifier. -/
def asks : Event → Bool
  | completion _ _ | hover _ _ => true
  | opened _ _ _ | changed _ _ _ | closed _ => false

/-- Whether an event decides what is held of a file: it brings a text for it or closes it. -/
def settles (uri : String) (e : Event) : Bool :=
  e.uri = uri && (e.text?.isSome || e.closes)

theorem settles_iff {uri : String} {e : Event} :
    e.settles uri = true ↔ e.uri = uri ∧ (e.text?.isSome = true ∨ e.closes = true) := by
  simp [settles]

/-- The text that an event brings can be diagnosed. -/
def Diagnosable (e : Event) : Prop :=
  ∀ text ∈ e.text?, (reports? text.toList).isSome = true

end Event

/-- The text that should be held of a file after events. -/
def latest? (events : List Event) (uri : String) : Option String :=
  (events.findRev? (Event.settles uri)).bind Event.text?

theorem latest?_append_singleton (events : List Event) (e : Event) (uri : String) :
    latest? (events ++ [e]) uri =
      if e.settles uri then e.text? else latest? events uri := by
  rw [latest?, latest?, Search.findRev?_append_singleton]
  split
  · rfl
  · rfl

/-! ### What reaches the editor -/

namespace Protocol

/-- A position: a line, and units of the line. -/
def position (line character : Nat) : Json :=
  .obj [("line", .int line), ("character", .int character)]

/-- A diagnostic. Errors have the severity one, warnings two. -/
def diagnostic (r : Report) : Json :=
  .obj
    [("range", .obj [("start", position r.line r.start), ("end", position r.line r.stop)]),
      ("severity", .int (if r.severity = .error then 1 else 2)), ("source", .str "reqdoc-lsp"),
      ("message", .str r.message)]

/-- The notification that publishes the diagnostics of a version of a file. -/
def publication (uri : String) (version : Int) (reports : List Report) : Json :=
  .obj
    [("jsonrpc", .str "2.0"), ("method", .str "textDocument/publishDiagnostics"),
      ("params", .obj
        [("uri", .str uri), ("diagnostics", .arr (reports.map diagnostic)),
          ("version", .int version)])]

/-- A text in Markdown. -/
def markdown (text : String) : Json :=
  .obj [("kind", .str "markdown"), ("value", .str text)]

/-- A completion. Values are of the kind 12 and inserted as they are, snippets are of the kind 15
and have places to fill in. -/
def completion (c : Completion) : Json :=
  .obj
    [("label", .str c.label), ("kind", .int (if c.kind = .value then 12 else 15)),
      ("detail", .str c.detail), ("documentation", markdown c.documentation),
      ("insertText", .str c.insertText),
      ("insertTextFormat", .int (if c.kind = .value then 1 else 2))]

/-- The response to the request with an identifier. -/
def response (id result : Json) : Json :=
  .obj [("jsonrpc", .str "2.0"), ("result", result), ("id", id)]

end Protocol

/-- What becomes of a message with an event and maybe an identifier, when `held` is the text that
is held of the file. -/
inductive Answers (held : Option String) : Option Json → Event → Outcome → Prop
  | opened {uri text : String} {version : Int} {reports : List Report}
      (h : reports? text.toList = some reports) :
      Answers held none (.opened uri text version)
        (.handled none [Protocol.publication uri version reports])
  | changed {uri text : String} {texts : List String} {version : Int} {reports : List Report}
      (hlast : texts.getLast? = some text) (h : reports? text.toList = some reports) :
      Answers held none (.changed uri texts version)
        (.handled none [Protocol.publication uri version reports])
  | unchanged {uri : String} {version : Int} :
      Answers held none (.changed uri [] version) (.handled none [])
  | closed {uri : String} : Answers held none (.closed uri) (.handled none [])
  | offered {id : Json} {uri text : String} {p : Position} {items : List Completion}
      (hheld : held = some text) (h : completions text.toList p = items) (hne : items ≠ []) :
      Answers held (some id) (.completion uri p)
        (.handled (some (Protocol.response id (.arr (items.map Protocol.completion)))) [])
  | unoffered {id : Json} {uri : String} {p : Position}
      (h : ∀ text ∈ held, completions text.toList p = []) :
      Answers held (some id) (.completion uri p)
        (.handled (some (Protocol.response id .null)) [])
  | shown {id : Json} {uri text guide : String} {p : Position}
      (hheld : held = some text) (h : hover? text.toList p = some guide) :
      Answers held (some id) (.hover uri p)
        (.handled (some (Protocol.response id
          (.obj [("contents", Protocol.markdown guide)]))) [])
  | unshown {id : Json} {uri : String} {p : Position}
      (h : ∀ text ∈ held, hover? text.toList p = none) :
      Answers held (some id) (.hover uri p) (.handled (some (Protocol.response id .null)) [])

/-- An event has only one answer. -/
theorem Answers.unique {held : Option String} {id : Option Json} {e : Event}
    {outcome outcome' : Outcome} (h : Answers held id e outcome)
    (h' : Answers held id e outcome') : outcome = outcome' := by
  cases h with
  | opened h =>
      cases h' with
      | opened h' => rw [Option.some.inj (h.symm.trans h')]
  | changed hlast h =>
      cases h' with
      | changed hlast' h' =>
          obtain rfl := Option.some.inj (hlast.symm.trans hlast')
          rw [Option.some.inj (h.symm.trans h')]
      | unchanged => cases hlast
  | unchanged =>
      cases h' with
      | changed hlast' _ => cases hlast'
      | unchanged => rfl
  | closed => cases h'; rfl
  | offered hheld h hne =>
      cases h' with
      | offered hheld' h' _ =>
          obtain rfl := Option.some.inj (hheld.symm.trans hheld')
          rw [← h, ← h']
      | unoffered hnone => exact absurd (h.symm.trans (hnone _ hheld)) hne
  | unoffered hnone =>
      cases h' with
      | offered hheld h hne => exact absurd (h.symm.trans (hnone _ hheld)) hne
      | unoffered _ => rfl
  | shown hheld h =>
      cases h' with
      | shown hheld' h' =>
          obtain rfl := Option.some.inj (hheld.symm.trans hheld')
          rw [Option.some.inj (h.symm.trans h')]
      | unshown hnone => cases h.symm.trans (hnone _ hheld)
  | unshown hnone =>
      cases h' with
      | shown hheld h => cases h.symm.trans (hnone _ hheld)
      | unshown _ => rfl

/-! ### One event -/

theorem toJson_report (r : Report) : r.toJson = Protocol.diagnostic r := by
  obtain ⟨line, start, stop, message, severity⟩ := r
  cases severity <;> rfl

theorem toJson_completion (c : Completion) : c.toJson = Protocol.completion c := by
  obtain ⟨label, kind, detail, documentation, insertText⟩ := c
  cases kind <;> rfl

theorem sent_published (uri : String) (version : Int) (reports : List Report) :
    (Reaction.published uri version reports).sent =
      [Protocol.publication uri version reports] := by
  rw [Protocol.publication, ← funext toJson_report]
  rfl

/-- What becomes of a message when the workspace reacts to its event. -/
def Reaction.outcome (r : Reaction) (id : Option Json) : Outcome :=
  .handled (id.map fun id => resultJson id r.result) r.sent

namespace Workspace

variable (w : Workspace)

/-- The text that an event brings is taken up. -/
theorem exists_store? {e : Event} (he : e.Diagnosable) {text : String}
    (htext : e.text? = some text) (version : Int) :
    ∃ w' reports, w.store? e.uri text version = some (w', .published e.uri version reports) ∧
      reports? text.toList = some reports ∧
      ∀ uri, w'.text? uri = if e.settles uri then e.text? else w.text? uri := by
  obtain ⟨reports, hreports⟩ := Option.isSome_iff_exists.1 (he text htext)
  refine ⟨⟨Table.insert e.uri text w.texts⟩, reports, ?_, hreports, fun uri => ?_⟩
  · rw [store?, hreports, Option.map_some]
  · rw [text?, Table.get?_insert, htext]
    refine if_congr ?_ rfl rfl
    rw [Event.settles_iff, htext]
    exact ⟨fun h => ⟨h.symm, .inl rfl⟩, fun h => h.1.symm⟩

theorem answers_completion (uri : String) (p : Position) (id : Json) :
    Answers (w.text? uri) (some id) (.completion uri p)
      ((Reaction.completions (w.completions? uri p)).outcome (some id)) := by
  rw [completions?]
  cases hheld : w.text? uri with
  | none => exact .unoffered (by simp)
  | some text =>
      cases hitems : Editor.completions text.toList p with
      | nil =>
          rw [Option.bind_eq_bind, Option.bind_some, hitems]
          exact .unoffered (by simpa using hitems)
      | cons item items =>
          have h : Answers (some text) (some id) (.completion uri p) _ :=
            .offered rfl hitems (List.cons_ne_nil item items)
          rw [← funext toJson_completion] at h
          rw [Option.bind_eq_bind, Option.bind_some, hitems]
          exact h

theorem answers_hover (uri : String) (p : Position) (id : Json) :
    Answers (w.text? uri) (some id) (.hover uri p)
      ((Reaction.hover (w.hover? uri p)).outcome (some id)) := by
  rw [hover?]
  cases hheld : w.text? uri with
  | none => exact .unshown (by simp)
  | some text =>
      rw [Option.bind_eq_bind, Option.bind_some]
      cases hguide : Editor.hover? text.toList p with
      | none => exact .unshown (by simpa using hguide)
      | some guide => exact .shown rfl hguide

/-- An event is answered from the text that is held of its file, and it decides at most what is
held of that file. -/
theorem exists_handle? {e : Event} (he : e.Diagnosable) {id : Option Json}
    (hid : id.isSome = e.asks) :
    ∃ w' r, w.handle? e = some (w', r) ∧ Answers (w.text? e.uri) id e (r.outcome id) ∧
      ∀ uri, w'.text? uri = if e.settles uri then e.text? else w.text? uri := by
  have hkept : e.text? = none → e.closes = false →
      ∀ uri, w.text? uri = if e.settles uri then e.text? else w.text? uri := by
    intro htext hcloses uri
    rw [if_neg]
    simp [Event.settles_iff, htext, hcloses]
  cases e with
  | opened uri text version =>
      obtain rfl : id = none := by simpa [Event.asks] using hid
      obtain ⟨w', reports, hstore, hreports, htexts⟩ := w.exists_store? he rfl version
      refine ⟨w', .published uri version reports, hstore, ?_, htexts⟩
      rw [Reaction.outcome, sent_published]
      exact .opened hreports
  | changed uri texts version =>
      obtain rfl : id = none := by simpa [Event.asks] using hid
      cases hlast : texts.getLast? with
      | some text =>
          obtain ⟨w', reports, hstore, hreports, htexts⟩ := w.exists_store? he hlast version
          refine ⟨w', .published uri version reports, ?_, ?_, htexts⟩
          · rw [handle?, hlast]
            exact hstore
          · rw [Reaction.outcome, sent_published]
            exact .changed hlast hreports
      | none =>
          obtain rfl := List.getLast?_eq_none_iff.1 hlast
          exact ⟨w, _, rfl, .unchanged, hkept rfl rfl⟩
  | closed uri =>
      obtain rfl : id = none := by simpa [Event.asks] using hid
      refine ⟨_, _, rfl, .closed, fun q => ?_⟩
      rw [text?, Table.get?_erase]
      refine if_congr ?_ rfl rfl
      rw [Event.settles_iff]
      exact ⟨fun h => ⟨h.symm, .inr rfl⟩, fun h => h.1.symm⟩
  | completion uri p =>
      obtain ⟨id, rfl⟩ := Option.isSome_iff_exists.1 hid
      exact ⟨w, _, rfl, w.answers_completion uri p id, hkept rfl rfl⟩
  | hover uri p =>
      obtain ⟨id, rfl⟩ := Option.isSome_iff_exists.1 hid
      exact ⟨w, _, rfl, w.answers_hover uri p id, hkept rfl rfl⟩

end Workspace

/-! ### Messages that bring events -/

/-- The event that a message brings. -/
def Message.event? (m : Message) : Option Event :=
  match m.method, m.id, m.params with
  | "textDocument/didOpen", none, some params => (Form.readOpened params).toOption
  | "textDocument/didChange", none, some params => (Form.readChanged params).toOption
  | "textDocument/didClose", none, some params => (Form.readClosed params).toOption
  | "textDocument/completion", some _, some params => (Form.readCompletion params).toOption
  | "textDocument/hover", some _, some params => (Form.readHover params).toOption
  | _, _, _ => none

/-- What is read, if anything, is a question or is none, as `asks` says. -/
def Reads (asks : Bool) (read : Except Record.Fault Event) : Prop :=
  ∀ e, read.toOption = some e → e.asks = asks

theorem Reads.pure {asks : Bool} {e : Event} (h : e.asks = asks) : Reads asks (.ok e) := by
  rintro _ ⟨⟩
  exact h

theorem Reads.bind {α : Type} {asks : Bool} {x : Except Record.Fault α}
    {f : α → Except Record.Fault Event} (h : ∀ a, Reads asks (f a)) : Reads asks (x >>= f) := by
  intro e he
  cases x with
  | error fault => cases he
  | ok a => exact h a e he

theorem reads_readOpened (params : Json) : Reads false (Form.readOpened params) :=
  .bind fun _ => .bind fun _ => .bind fun _ => .bind fun _ => .bind fun _ => .pure rfl

theorem reads_readChanged (params : Json) : Reads false (Form.readChanged params) :=
  .bind fun _ => .bind fun _ => .bind fun _ => .bind fun _ => .bind fun _ => .pure rfl

theorem reads_readClosed (params : Json) : Reads false (Form.readClosed params) :=
  .bind fun _ => .bind fun _ => .pure rfl

theorem reads_readCompletion (params : Json) : Reads true (Form.readCompletion params) :=
  .bind fun _ => .bind fun _ => .bind fun _ => .pure rfl

theorem reads_readHover (params : Json) : Reads true (Form.readHover params) :=
  .bind fun _ => .bind fun _ => .bind fun _ => .pure rfl

/-- Questions come with an identifier, news without one. -/
theorem isSome_id_of_event? {m : Message} {e : Event} (h : m.event? = some e) :
    m.id.isSome = e.asks := by
  unfold Message.event? at h
  split at h
  case h_1 params _ hid _ => rw [hid, reads_readOpened params e h, Option.isSome_none]
  case h_2 params _ hid _ => rw [hid, reads_readChanged params e h, Option.isSome_none]
  case h_3 params _ hid _ => rw [hid, reads_readClosed params e h, Option.isSome_none]
  case h_4 params _ hid _ => rw [hid, reads_readCompletion params e h, Option.isSome_some]
  case h_5 params _ hid _ => rw [hid, reads_readHover params e h, Option.isSome_some]
  case h_6 => cases h

/-- Whether a message brings an event about a file. -/
def Message.isAbout (uri : String) (m : Message) : Bool :=
  m.event?.any fun e => e.uri = uri

namespace Server

/-- How a server stands after messages. -/
def after (server : Server) (ms : List Message) : Server :=
  ms.foldl (fun server m => (server.receive m).1) server

theorem getElem?_run (server : Server) (ms : List Message) (n : Nat) :
    (server.run ms)[n]? = ms[n]?.map fun m => ((server.after (ms.take n)).receive m).2 := by
  induction ms generalizing server n with
  | nil => simp [run]
  | cons m ms ih =>
      cases n with
      | zero => rfl
      | succ n =>
          rw [run, List.getElem?_cons_succ, List.getElem?_cons_succ, ih]
          rfl

theorem eq_ok_of_toOption {read : Except Record.Fault Event} {e : Event}
    (h : read.toOption = some e) : read = .ok e := by
  cases read with
  | error fault => cases h
  | ok event => rw [Option.some.inj h]

theorem withParams_of_read (server : Server) {m : Message} {read : Record.Reader Event}
    {params : Json} {e : Event} (hparams : m.params = some params)
    (hread : (read params).toOption = some e) (handle : Event → Server × Outcome) :
    server.withParams m read handle = handle e := by
  simp only [withParams, hparams, eq_ok_of_toOption hread]

theorem receiveNews_of_read {server : Server} (hrunning : server.phase = .running) {m : Message}
    {read : Record.Reader Event} {params : Json} {e : Event} (hid : m.id = none)
    (hparams : m.params = some params) (hread : (read params).toOption = some e) :
    server.receiveNews m read = server.react m.id e := by
  rw [receiveNews, receiveNotification, if_neg (by simp [hrunning]), if_neg (by simp [hid]),
    withParams_of_read server hparams hread, hid]

theorem receiveQuestion_of_read {server : Server} (hrunning : server.phase = .running)
    {m : Message} {read : Record.Reader Event} {id params : Json} {e : Event}
    (hid : m.id = some id) (hparams : m.params = some params)
    (hread : (read params).toOption = some e) :
    server.receiveQuestion m read = server.react m.id e := by
  rw [receiveQuestion, receiveRequest, if_neg (by simp [hrunning]), hid]
  exact withParams_of_read server hparams hread _

/-- A running server hands the event that a message brings to the workspace. -/
theorem receive_of_event? {server : Server} (hrunning : server.phase = .running) {m : Message}
    {e : Event} (he : m.event? = some e) : server.receive m = server.react m.id e := by
  rw [receive, if_neg (by simp [hrunning]), receiveMethod]
  unfold Message.event? at he
  split at he
  -- News come without an identifier, questions with one.
  case h_1 hmethod hid hparams | h_2 hmethod hid hparams | h_3 hmethod hid hparams =>
    rw [hmethod]
    exact receiveNews_of_read hrunning hid hparams he
  case h_4 hmethod hid hparams | h_5 hmethod hid hparams =>
    rw [hmethod]
    exact receiveQuestion_of_read hrunning hid hparams he
  case h_6 => cases he

/-- What one message does: it is answered from the text that is held of its file, and the server
goes on with the text that its event brings. -/
theorem exists_receive {server : Server} (hrunning : server.phase = .running) {m : Message}
    {e : Event} (hm : m.event? = some e) (he : e.Diagnosable) :
    ∃ server' outcome, server.receive m = (server', outcome) ∧
      Answers (server.workspace.text? e.uri) m.id e outcome ∧ server'.phase = .running ∧
      ∀ uri, server'.workspace.text? uri =
        if e.settles uri then e.text? else server.workspace.text? uri := by
  obtain ⟨w', r, hhandle, hanswers, htexts⟩ :=
    server.workspace.exists_handle? he (isSome_id_of_event? hm)
  refine ⟨{ server with workspace := w' }, r.outcome m.id, ?_, hanswers, hrunning, htexts⟩
  rw [receive_of_event? hrunning hm, react, hhandle]
  rfl

/-! ### Sessions -/

/-- A running server that holds of every file the text that events have left. -/
structure Holds (server : Server) (events : List Event) : Prop where
  running : server.phase = .running
  text?_eq : ∀ uri, server.workspace.text? uri = latest? events uri

theorem Holds.receive {server : Server} {events : List Event} (h : Holds server events)
    {m : Message} {e : Event} (hm : m.event? = some e) (he : e.Diagnosable) :
    Holds (server.receive m).1 (events ++ [e]) := by
  obtain ⟨server', outcome, hreceive, -, hrunning, htexts⟩ := exists_receive h.running hm he
  rw [hreceive]
  refine ⟨hrunning, fun uri => ?_⟩
  rw [htexts, h.text?_eq, latest?_append_singleton]

theorem Holds.after {server : Server} {events : List Event} (h : Holds server events)
    {ms : List Message} {es : List Event} (hms : ms.map Message.event? = es.map some)
    (hes : ∀ e ∈ es, e.Diagnosable) : Holds (server.after ms) (events ++ es) := by
  induction ms generalizing server events es with
  | nil =>
      obtain rfl : es = [] := List.map_eq_nil_iff.1 hms.symm
      rw [List.append_nil]
      exact h
  | cons m ms ih =>
      cases es with
      | nil => cases hms
      | cons e es =>
          obtain ⟨hm, hms⟩ := List.cons.inj hms
          obtain ⟨he, hes⟩ := List.forall_mem_cons.1 hes
          rw [List.append_cons]
          exact ih (h.receive hm he) hms hes

/-- Servers that hold the same text of a file say the same about it, also when one of them
receives the messages about that file only. -/
theorem run_filter {uri : String} {ms : List Message}
    (hms : ∀ m ∈ ms, ∃ e, m.event? = some e ∧ e.Diagnosable) {server other : Server}
    (hserver : server.phase = .running) (hother : other.phase = .running)
    (htext : server.workspace.text? uri = other.workspace.text? uri) :
    ((ms.zip (server.run ms)).filter fun p => p.1.isAbout uri).map Prod.snd =
      other.run (ms.filter (Message.isAbout uri)) := by
  -- The servers agree on this file only, so the answers are compared through `Answers`.
  induction ms generalizing server other with
  | nil => rfl
  | cons m ms ih =>
      obtain ⟨⟨e, hm, he⟩, hms⟩ := List.forall_mem_cons.1 hms
      obtain ⟨server', outcome, hreceive, hanswers, hserver', htexts⟩ :=
        exists_receive hserver hm he
      have habout : m.isAbout uri = decide (e.uri = uri) := by
        rw [Message.isAbout, hm]
        rfl
      rw [run, hreceive, List.zip_cons_cons]
      by_cases huri : e.uri = uri
      · subst huri
        obtain ⟨other', outcome', hreceive', hanswers', hother', htexts'⟩ :=
          exists_receive hother hm he
        rw [← htext] at hanswers'
        obtain rfl := hanswers.unique hanswers'
        have hsame : server'.workspace.text? e.uri = other'.workspace.text? e.uri := by
          rw [htexts, htexts', htext]
        rw [List.filter_cons_of_pos (by simp [habout]), List.filter_cons_of_pos (by simp [habout]),
          run, hreceive', List.map_cons, ih hms hserver' hother' hsame]
      · have hsame : server'.workspace.text? uri = other.workspace.text? uri := by
          rw [htexts, if_neg (by simp [Event.settles_iff, huri]), htext]
        rw [List.filter_cons_of_neg (by simp [habout, huri]),
          List.filter_cons_of_neg (by simp [habout, huri]), ih hms hserver' hother hsame]

/-- In a session, the server holds of every file its latest text, answers every message from that
text, and answers the messages about a file as if there were no others. -/
theorem run_answers {server : Server} (hrunning : server.phase = .running)
    (hempty : server.workspace = .empty) {ms : List Message} {es : List Event}
    (hms : ms.map Message.event? = es.map some) (hes : ∀ e ∈ es, e.Diagnosable) :
    (∀ n uri, (server.after (ms.take n)).workspace.text? uri = latest? (es.take n) uri) ∧
      (∀ n m e, ms[n]? = some m → es[n]? = some e →
        ∃ outcome, (server.run ms)[n]? = some outcome ∧
          Answers (latest? (es.take n) e.uri) m.id e outcome) ∧
      ∀ uri, ((ms.zip (server.run ms)).filter fun p => p.1.isAbout uri).map Prod.snd =
        server.run (ms.filter (Message.isAbout uri)) := by
  have hstart : Holds server [] := by
    refine ⟨hrunning, fun uri => ?_⟩
    rw [hempty]
    rfl
  have hholds : ∀ n, Holds (server.after (ms.take n)) (es.take n) := by
    intro n
    refine hstart.after ?_ fun e he => hes e (List.mem_of_mem_take he)
    rw [List.map_take, hms, List.map_take]
  refine ⟨fun n => (hholds n).text?_eq, fun n m e hm he => ?_, fun uri => ?_⟩
  · have hevent : m.event? = some e := by
      have hn := congrArg (fun l => l[n]?) hms
      simpa [hm, he] using hn
    obtain ⟨server', outcome, hreceive, hanswers, -⟩ :=
      exists_receive (hholds n).running hevent (hes e (List.mem_of_getElem? he))
    refine ⟨outcome, ?_, ?_⟩
    · rw [getElem?_run, hm, Option.map_some, hreceive]
    · rw [← (hholds n).text?_eq]
      exact hanswers
  · refine run_filter (fun m hm => ?_) hrunning hrunning rfl
    have hmem : m.event? ∈ es.map some := hms ▸ List.mem_map_of_mem hm
    obtain ⟨e, he, heq⟩ := List.mem_map.1 hmem
    exact ⟨e, heq.symm, hes e he⟩

/-- Two files are opened, one of them is changed in two steps and then not at all, and it is asked
about before and after it is closed. -/
theorem run_answers_interleaved :
    let server := (start.receive
      ⟨some (.int 0), "initialize", some (.obj [("capabilities", .obj [])])⟩).1
    let file (uri : String) (more : List (String × Json)) : String × Json :=
      ("textDocument", .obj (("uri", .str uri) :: more))
    let opening (uri text : String) : Message :=
      ⟨none, "textDocument/didOpen", some (.obj
        [file uri [("languageId", .str ""), ("version", .int 1), ("text", .str text)]])⟩
    let change (uri : String) (texts : List String) : Message :=
      ⟨none, "textDocument/didChange", some (.obj [file uri [("version", .int 2)],
        ("contentChanges", .arr (texts.map fun text => .obj [("text", .str text)]))])⟩
    let question (id : Int) (method uri : String) : Message :=
      ⟨some (.int id), method, some (.obj [file uri [],
        ("position", .obj [("line", .int 0), ("character", .int 9)])])⟩
    let ms := [opening "a:x" "# @LRDenumm", opening "b:y" "",
      change "a:x" ["", "# @LRDdeprecated"], change "a:x" [],
      question 1 "textDocument/hover" "a:x", question 2 "textDocument/completion" "a:x",
      ⟨none, "textDocument/didClose", some (.obj [file "a:x" []])⟩,
      question 3 "textDocument/hover" "a:x"]
    let publication (version : Int) (diagnostics : List Json) : Json :=
      .obj [("jsonrpc", .str "2.0"), ("method", .str "textDocument/publishDiagnostics"),
        ("params", .obj [("uri", .str "a:x"), ("diagnostics", .arr diagnostics),
          ("version", .int version)])]
    let response (id : Int) (result : Json) : Json :=
      .obj [("jsonrpc", .str "2.0"), ("result", result), ("id", .int id)]
    let unknown : Json := .obj
      [("range", .obj [("start", .obj [("line", .int 0), ("character", .int 2)]),
          ("end", .obj [("line", .int 0), ("character", .int 11)])]),
        ("severity", .int 2), ("source", .str "reqdoc-lsp"),
        ("message", .str "Unknown annotation '@LRDenumm'\nhelp: did you mean '@LRDenum'?")]
    (server.after (ms.take 4)).workspace.text? "a:x" = some "# @LRDdeprecated" ∧
      (server.run ms)[0]? = some (.handled none [publication 1 [unknown]]) ∧
      (server.run ms)[2]? = some (.handled none [publication 2 []]) ∧
      (server.run ms)[3]? = some (.handled none []) ∧
      (server.run ms)[4]? = some (.handled (some (response 1 (.obj [("contents",
        .obj [("kind", .str "markdown"), ("value", .str (guide .deprecated))])]))) []) ∧
      (server.run ms)[5]? = some (.handled (some (response 2 (.arr
        [Protocol.completion (tagCompletion .deprecated)]))) []) ∧
      (server.run ms)[7]? = some (.handled (some (response 3 .null)) []) ∧
      ((ms.zip (server.run ms)).filter fun p => p.1.isAbout "b:y").map Prod.snd =
        server.run [opening "b:y" ""] := by
  intro server file opening change question ms publication response unknown
  let es : List Event := [.opened "a:x" "# @LRDenumm" 1, .opened "b:y" "" 1,
    .changed "a:x" ["", "# @LRDdeprecated"] 2, .changed "a:x" [] 2, .hover "a:x" ⟨0, 9⟩,
    .completion "a:x" ⟨0, 9⟩, .closed "a:x", .hover "a:x" ⟨0, 9⟩]
  have hms : ms.map Message.event? = es.map some := by rfl
  have hes : ∀ e ∈ es, e.Diagnosable := by
    simp only [es, List.forall_mem_cons, Event.Diagnosable]
    decide +kernel
  have hrunning : server.phase = .running := rfl
  have hempty : server.workspace = .empty := rfl
  obtain ⟨htexts, hanswers, hdeleted⟩ := run_answers hrunning hempty hms hes
  have hanswer {n : Nat} {m : Message} {e : Event} {outcome : Outcome} (hm : ms[n]? = some m)
      (he : es[n]? = some e) (h : Answers (latest? (es.take n) e.uri) m.id e outcome) :
      (server.run ms)[n]? = some outcome := by
    obtain ⟨outcome', hrun, h'⟩ := hanswers n m e hm he
    rw [hrun, h'.unique h]
  have hfirst : reports? "# @LRDenumm".toList = some
      [⟨0, 2, 11, "Unknown annotation '@LRDenumm'\nhelp: did you mean '@LRDenum'?", .warning⟩] := by
    decide +kernel
  have hsecond : reports? "# @LRDdeprecated".toList = some [] := by decide +kernel
  have hguide : hover? "# @LRDdeprecated".toList ⟨0, 9⟩ = some (guide .deprecated) := by
    decide +kernel
  have hitems : completions "# @LRDdeprecated".toList ⟨0, 9⟩ = [tagCompletion .deprecated] := by
    decide +kernel
  exact ⟨htexts 4 "a:x", hanswer rfl rfl (.opened hfirst), hanswer rfl rfl (.changed rfl hsecond),
    hanswer rfl rfl .unchanged, hanswer rfl rfl (.shown rfl hguide),
    hanswer rfl rfl (.offered rfl hitems (List.cons_ne_nil _ _)),
    hanswer rfl rfl (.unshown (by rintro _ ⟨⟩)), hdeleted "b:y"⟩

end Server

end Editor

end ApiNotes
