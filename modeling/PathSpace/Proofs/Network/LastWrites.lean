import PathSpace.Proofs.Address.Path
import PathSpace.Proofs.Address.Wildcard
import PathSpace.Proofs.Network.Upkeep
import PathSpace.Proofs.Storing.MemoryStore
/-!
# Gets give the last writes

In a run with memory storages, a get that succeeds gives for each path of its selector what
was last written there, if some storage for the path has been declared all the time since.  It
never gives a value that was overwritten or removed.

## Key results

- `LastWrite`, `StoredSince`: what was last written under a path, and who keeps it
- `Quiesced.mem_answer_iff`: what a storage answers when all jobs are done
- `get_eq_lastWrites`: what a get gives
-/

namespace PathSpace

/-! ## Last writes -/

/-- A datum says what was last written under its path. -/
structure LastWrite (codecs : CodecTable) (log : List Event) (d : Data) (x : Sample) : Prop where
  last : lastOf d.path.text (writes log) = some x
  /-- It was put or updated. -/
  kept : x.isRemoval = false
  /-- Its payload can be read. -/
  value : x.readValue codecs = .ok d.value
  timestamp : x.info.timestamp = some d.timestamp

/-- Some storage for a path was declared before the last write under the path, and has not been
taken back since. -/
def StoredSince (log : List Event) (path : String) : Prop :=
  ∃ before s h expression mode does after,
    log = before ++ .declared .storages s h expression mode does :: after ∧
    Wildcard.StandsFor expression path ∧
    (∀ e ∈ after, e.ends .storages s h = false) ∧ ∃ y ∈ writes after, y.path = path

/-- A path has one last write that can be read. -/
private theorem LastWrite.unique {codecs : CodecTable} {log : List Event} {d d' : Data}
    {x x' : Sample}
    (h : LastWrite codecs log d x) (h' : LastWrite codecs log d' x') (hp : d.path = d'.path) :
    d = d' := by
  have hlast := h'.last
  rw [← hp, h.last, Option.some.injEq] at hlast
  subst hlast
  have hvalue : d.value = d'.value := Except.ok.inj (h.value.symm.trans h'.value)
  have hstamp : d.timestamp = d'.timestamp := Option.some.inj (h.timestamp.symm.trans h'.timestamp)
  obtain ⟨path, value, timestamp⟩ := d
  obtain ⟨path', value', timestamp'⟩ := d'
  dsimp only at hp hvalue hstamp
  rw [hp, hvalue, hstamp]

/-- Where a path was written there is a last write. -/
private theorem exists_lastOf {path : String} {samples : List Sample}
    (h : ∃ y ∈ samples, y.path = path) : ∃ x, lastOf path samples = some x := by
  obtain ⟨y, hy, hp⟩ := h
  have hne : samples.filter (·.path == path) ≠ [] := by
    refine List.ne_nil_of_mem (a := y) (List.mem_filter.2 ⟨hy, ?_⟩)
    simpa using hp
  exact ⟨_, List.getLast?_eq_some_getLast hne⟩

/-- The last write under a path is among the later ones if one of these is under the path. -/
private theorem lastOf_writes {path : String} {log before after : List Event} {e : Event}
    {x : Sample}
    (hlog : log = before ++ e :: after) (h : lastOf path (writes after) = some x) :
    lastOf path (writes log) = some x := by
  have hsplit : writes log = writes (before ++ [e]) ++ writes after := by
    rw [hlog, writes, writes, writes, ← List.filterMap_append, List.append_assoc]
    rfl
  rw [hsplit, lastOf_append, h]
  rfl

/-- Quiet events are no writes. -/
private theorem writes_append_of_quiet {log log' : List Event} (h : ∀ e ∈ log', e.isQuiet = true) :
    writes (log ++ log') = writes log := by
  have hnone : log'.filterMap Event.written? = [] := Network.writes_of_quiet h
  rw [writes, List.filterMap_append, hnone, List.append_nil]
  rfl

/-- What happened before some quiet events, and is not one of them. -/
private theorem exists_of_append_quiet {log log' before after : List Event} {e : Event}
    (hquiet : ∀ e ∈ log', e.isQuiet = true) (he : e.isQuiet = false)
    (h : log ++ log' = before ++ e :: after) :
    ∃ rest, log = before ++ e :: rest ∧ after = rest ++ log' := by
  have hnot : e ∉ log' := fun hmem => by simp [hquiet e hmem] at he
  rcases List.append_eq_append_iff.1 h with ⟨gap, rfl, hgap⟩ | ⟨gap, rfl, hgap⟩
  · -- the event is not quiet, so it cannot be among the later ones
    exact absurd (hgap ▸ List.mem_append_right _ List.mem_cons_self) hnot
  · -- the event lies in the log, or begins what was added
    cases gap with
    | nil =>
      rw [List.nil_append] at hgap
      exact absurd (hgap ▸ List.mem_cons_self) hnot
    | cons e' rest =>
      rw [List.cons_append, List.cons.injEq] at hgap
      obtain ⟨rfl, rfl⟩ := hgap
      exact ⟨rest, rfl, rfl⟩

/-- A quiet event ends no declaration. -/
private theorem Event.not_ends_of_isQuiet {e : Event} (h : e.isQuiet = true) (a : Audience)
    (s : SessionId) (k : Handle) : e.ends a s k = false := by
  cases e with
  | ticked | heard | unheard | missed | told => rfl
  | _ => cases h

namespace Sample.IsWritten

variable {x : Sample}

/-- What an operation writes is stamped. -/
private theorem timestamp_isSome (h : x.IsWritten) : x.info.timestamp.isSome = true := by
  obtain ⟨p, payload, stamp, e, kind, rfl⟩ := h
  rfl

/-- How a sample is read as an answer that an operation has written. -/
private theorem ofReply_eq_ok_iff (h : x.IsWritten) (codecs : CodecTable)
    (policy : MissingTimestamp)
    (wall : Instant) (d : Data) :
    Data.ofReply codecs policy wall x = .ok d ↔
      x.path = d.path.text ∧ x.readValue codecs = .ok d.value ∧
        x.info.timestamp = some d.timestamp := by
  obtain ⟨p, payload, stamp, e, kind, rfl⟩ := h
  unfold Data.ofReply Sample.readPath
  dsimp only
  rw [p.parse_text]
  dsimp only [Except.mapError, bind, Except.bind]
  -- what was written has a path, a stamp and a kind, so only the value can be unreadable
  cases Sample.readValue codecs ⟨p.text, payload, ⟨some stamp, some e, some kind.toByte⟩⟩ with
  | error reason => simp
  | ok value =>
    obtain ⟨path, value', timestamp⟩ := d
    simp only [MissingTimestamp.stamp, pure, Except.pure, Except.ok.injEq, Data.mk.injEq,
      Option.some.injEq]
    refine and_congr_left fun _ => ⟨fun hp => by rw [hp], fun hp => Path.ext hp⟩

end Sample.IsWritten

namespace Network

variable {n n' m : Network} {log before after : List Event} {s : SessionId} {h : Handle}
  {expression : String} {mode : SubMode} {does : DataListener Surroundings Effect}

/-! ## Storages when all jobs are done -/

/-- What is known of a network after all that has happened since it was `n`, which was empty.
The sessions of declared storages are held. -/
structure Recorded (n : Network) (log : List Event) (m : Network) : Prop where
  goes : Goes .storages n log m
  tidy : Desk.Tidy .storages [] (n.desk .storages)
  nobody : (n.desk .storages).declared = []
  few : Desk.FewDeclarations .storages log
  increasing : (writes log).Pairwise Sample.Earlier
  written : ∀ x ∈ writes log, x.IsWritten
  held : ∀ x, Desk.Stands .storages log x → HeldAt x.session m
  not_missed : ∀ x, Desk.Stands .storages log x →
    ∀ e ∈ log, e.isMissed .storages x.session = false

/-- Quiet events are no declarations. -/
private theorem few_append_of_quiet {log' : List Event} (hfew : Desk.FewDeclarations .storages log)
    (hquiet : ∀ e ∈ log', e.isQuiet = true) :
    Desk.FewDeclarations .storages (log ++ log') := by
  intro s
  have hnone : log'.countP (·.isDeclaration .storages s) = 0 := by
    refine List.countP_eq_zero.2 fun e he => ?_
    have hq := hquiet e he
    cases e with
    | declared | refused => cases hq
    | _ => exact Bool.false_ne_true
  rw [List.countP_append, hnone, Nat.add_zero]
  exact hfew s

/-- Whoever stands after some quiet events stood before. -/
private theorem stands_of_append_quiet {log' : List Event} (hquiet : ∀ e ∈ log', e.isQuiet = true)
    {x : SubscriberDeclaration} (hx : Desk.Stands .storages (log ++ log') x) :
    Desk.Stands .storages log x := by
  obtain ⟨before, does, after, heq, hends⟩ := hx
  obtain ⟨rest, hlog, rfl⟩ := exists_of_append_quiet hquiet rfl heq
  exact ⟨before, does, rest, hlog, fun e he => hends e (List.mem_append_left _ he)⟩

/-- Some deliveries with which nothing is written. -/
private theorem Recorded.settle (hr : Recorded n log m) (limit : Nat)
    (hquiet : ∀ e ∈ settleLog limit m, e.isQuiet = true) :
    Recorded n (log ++ settleLog limit m) (settle limit m) := by
  have hwrites : writes (log ++ settleLog limit m) = writes log := writes_append_of_quiet hquiet
  have hfew := few_append_of_quiet hr.few hquiet
  have hhosts := (evolves_settle limit m).keeps.toSameHosts
  refine ⟨hr.goes.trans (m.goes_settle limit), hr.tidy, hr.nobody, hfew, hwrites ▸ hr.increasing,
    hwrites ▸ hr.written, ?_, ?_⟩
  · intro x hx
    exact (hr.held x (stands_of_append_quiet hquiet hx)).same hhosts
  · intro x hx
    have hx' := stands_of_append_quiet hquiet hx
    have hmissed := not_missed_settleLog limit (hr.held x hx') (hr.tidy.moves hr.goes hr.few) hfew
    exact List.forall_mem_append.2 ⟨hr.not_missed x hx', hmissed⟩

/-- Nothing has happened that storages could notice. -/
private theorem Recorded.unseen (hr : Recorded n log m) {m' : Network}
    (hgoes : Goes .storages m [] m')
    (hhosts : SameHosts m m') : Recorded n log m' :=
  { hr with
    goes := List.append_nil log ▸ hr.goes.trans hgoes
    held := fun x hx => (hr.held x hx).same hhosts }

/-- All jobs are done. -/
structure Quiesced (n : Network) (log : List Event) (m : Network) : Prop
    extends Recorded n log m where
  queue : m.router.queue = []
  plain : Plain m
  remembers : Remembers log m

namespace Quiesced

/-- The seat of a storage that was not taken back is open, and all that was sent to it has been
heard. -/
private theorem exists_open (hq : Quiesced n log m)
    (hlog : log = before ++ .declared .storages s h expression mode does :: after)
    (hends : ∀ e ∈ after, e.ends .storages s h = false) :
    ∃ l, Seat.Open .storages s h expression mode l after ((m.desk .storages).seat s h) ∧
      heardBy .storages s h log = sent .storages s h expression mode after := by
  have hstands : Desk.Stands .storages log { session := s, handle := h, expression, mode } :=
    ⟨before, does, after, hlog, hends⟩
  have hmissed : ∀ e ∈ after, e.isMissed .storages s = false := fun e he =>
    hq.not_missed _ hstands e (hlog ▸ List.mem_append_right _ (List.mem_cons_of_mem _ he))
  have hgoes := hq.goes
  have hfew := hq.few
  rw [Goes, hlog] at hgoes
  rw [hlog] at hfew
  obtain ⟨l, -, hunheard, htracked, -⟩ :=
    Desk.tracked_of_moves hgoes hq.tidy hfew hmissed
  have hqueued : ((m.desk .storages).seat s h).queued = [] := by
    rw [Desk.seat, desk, hq.queue]
    rfl
  have hsplit : heardBy .storages s h log =
      heardBy .storages s h before ++ heardBy .storages s h after := by
    rw [hlog, heardBy, List.filterMap_append]
    rfl
  have hheard := htracked.heard_eq_sent hqueued hends
  rw [hsplit, hunheard, List.nil_append, hheard]
  cases htracked with
  | isOpen hx => exact ⟨l, hx, rfl⟩
  | isShut hx | isGone hx =>
    -- the log would tell of the end of the declaration
    obtain ⟨e, he, hend⟩ := hx.ended
    exact absurd (hends e he) (by simp [hend])

/-- A storage that was not taken back is declared, and its store has taken all writes that
concern it. -/
private theorem exists_store (hq : Quiesced n log m)
    (hlog : log = before ++ .declared .storages s h expression mode does :: after)
    (hends : ∀ e ∈ after, e.ends .storages s h = false) :
    ⟨s, h, expression⟩ ∈ m.router.storages ∧
      ∃ id, m.Stores s h id ∧
        m.memory id = (writesFor expression after).foldl MemoryStore.store {} := by
  obtain ⟨l, hx, hheard⟩ := hq.exists_open hlog hends
  obtain ⟨pending, hdeclared, -⟩ := hx.declared_eq
  have hmem : ({ session := s, handle := h, expression, mode, pending } :
      SubscriberDeclaration) ∈ (m.desk .storages).declared := by
    refine List.mem_of_mem_filter (p := (·.isOf s h)) ?_
    change _ ∈ ((m.desk .storages).seat s h).declared
    rw [hdeclared]
    exact List.mem_singleton_self _
  -- storages are pushed to
  obtain ⟨x, hx', heq⟩ := List.mem_map.1 hmem
  have hmode : mode = .push := (congrArg SubscriberDeclaration.mode heq).symm
  have hx₀ : x = ⟨s, h, expression⟩ := congrArg SubscriberDeclaration.toDeclaration heq
  have hlistener : (m.board s).storages.entries.find? h = some l := hx.listener_eq
  obtain ⟨id, -, rfl⟩ := hq.plain.stores s h l hlistener
  refine ⟨hx₀ ▸ hx', id, hlistener, ?_⟩
  rw [hq.remembers s h id hlistener, hheard, hmode]
  rfl

/-- What such a storage answers: the last writes that concern it. -/
theorem mem_answer_iff (hq : Quiesced n log m)
    (hlog : log = before ++ .declared .storages s h expression mode does :: after)
    (hends : ∀ e ∈ after, e.ends .storages s h = false) {q : Query} (y : Sample) :
    y ∈ (m.answerOf q ⟨.storage, s, h⟩).getD [] ↔
      (Wildcard.meet expression y.path = true ∧ lastOf y.path (writes after) = some y) ∧
        y.isRemoval = false ∧ Wildcard.meet q.expression y.path = true := by
  obtain ⟨-, id, hstores, hmemory⟩ := hq.exists_store hlog hends
  have hheld : HeldAt s m := hq.held { session := s, handle := h, expression, mode }
    ⟨before, does, after, hlog, hends⟩
  have hsub : (writesFor expression after).Sublist (writes log) := by
    refine List.filter_sublist.trans (List.Sublist.filterMap _ ?_)
    rw [hlog]
    exact (List.sublist_cons_self _ _).trans (List.sublist_append_right _ _)
  have hanswer : m.answerOf q ⟨.storage, s, h⟩ = some ((m.memory id).answer q.expression) :=
    Stores.answerOf_eq hstores rfl hheld q
  rw [hanswer, Option.getD_some, hmemory, MemoryStore.mem_answer_iff (hq.increasing.sublist hsub),
    writesFor, lastOf_filter]
  cases Wildcard.meet expression y.path <;> simp

/-- Whoever is declared was declared at some time, and has not been taken back since. -/
private theorem exists_declared (hq : Quiesced n log m) {x : Declaration}
    (hx : x ∈ m.router.storages) :
    ∃ before does after,
      log = before ++ .declared .storages x.session x.handle x.expression .push does :: after ∧
        ∀ e ∈ after, e.ends .storages x.session x.handle = false :=
  Desk.stands_of_moves hq.goes hq.nobody
    (x := { toDeclaration := x, mode := .push }) (List.mem_map_of_mem hx)

/-- The last write behind a declaration is a write of the log. -/
private theorem isWritten (hq : Quiesced n log m) {y : Sample} {path : String}
    (hlog : log = before ++ .declared .storages s h expression mode does :: after)
    (hlast : lastOf path (writes after) = some y) : y.IsWritten :=
  hq.written y (mem_of_lastOf (lastOf_writes hlog hlast))

/-- What a storage answers is read as the last write of its path. -/
private theorem lastWrite_of_answer (hq : Quiesced n log m)
    (hlog : log = before ++ .declared .storages s h expression mode does :: after)
    (hends : ∀ e ∈ after, e.ends .storages s h = false) {q : Query} {y : Sample}
    (hy : y ∈ (m.answerOf q ⟨.storage, s, h⟩).getD []) {codecs : CodecTable}
    {policy : MissingTimestamp} {wall : Instant} {d : Data}
    (hread : Data.ofReply codecs policy wall y = .ok d) :
    Wildcard.StandsFor q.expression d.path.text ∧ LastWrite codecs log d y ∧
      StoredSince log d.path.text := by
  obtain ⟨⟨hmeet, hlast⟩, hkept, hasked⟩ := (hq.mem_answer_iff hlog hends y).1 hy
  have hwritten := hq.isWritten hlog hlast
  obtain ⟨hpath, hvalue, hstamp⟩ := (hwritten.ofReply_eq_ok_iff codecs policy wall d).1 hread
  rw [hpath] at hmeet hlast hasked
  have hstar := d.path.star_not_mem
  exact ⟨(Wildcard.meet_concrete_iff hstar).1 hasked,
    ⟨lastOf_writes hlog hlast, hkept, hvalue, hstamp⟩,
    before, s, h, expression, mode, does, after, hlog,
    (Wildcard.meet_concrete_iff hstar).1 hmeet, hends, y, mem_of_lastOf hlast, hpath⟩

/-- A storage that has taken a last write answers with it. -/
private theorem mem_answer_of_lastWrite (hq : Quiesced n log m)
    (hlog : log = before ++ .declared .storages s h expression mode does :: after)
    (hends : ∀ e ∈ after, e.ends .storages s h = false) {q : Query} {codecs : CodecTable}
    {d : Data} {x : Sample} (hasked : Wildcard.StandsFor q.expression d.path.text)
    (hx : LastWrite codecs log d x) (hmeet : Wildcard.StandsFor expression d.path.text)
    (hsince : ∃ y ∈ writes after, y.path = d.path.text) :
    x ∈ (m.answerOf q ⟨.storage, s, h⟩).getD [] ∧
      ∀ policy wall, Data.ofReply codecs policy wall x = .ok d := by
  -- the last write since the declaration is the last write of all
  obtain ⟨y, hlast⟩ := exists_lastOf hsince
  obtain rfl : y = x := Option.some.inj ((lastOf_writes hlog hlast).symm.trans hx.last)
  have hpath : y.path = d.path.text := path_of_lastOf hlast
  have hwritten := hq.isWritten hlog hlast
  have hstar := d.path.star_not_mem
  constructor
  · rw [hq.mem_answer_iff hlog hends y, hpath]
    exact ⟨⟨(Wildcard.meet_concrete_iff hstar).2 hmeet, hlast⟩, hx.kept,
      (Wildcard.meet_concrete_iff hstar).2 hasked⟩
  · intro policy wall
    exact (hwritten.ofReply_eq_ok_iff codecs policy wall d).2 ⟨hpath, hx.value, hx.timestamp⟩

/-- All data that the declared storages answer are last writes, and every last write that is
stored is answered. -/
private theorem mem_data_iff (hq : Quiesced n log m) (q : Query) (codecs : CodecTable)
    (policy : MissingTimestamp) (wall : Instant) (d : Data) :
    d ∈ ((Router.sourcesFor .storage q.expression m.router.storages).flatMap fun source =>
        ((m.answerOf q source).getD []).filterMap fun y =>
          (Data.ofReply codecs policy wall y).toOption) ↔
      Wildcard.StandsFor q.expression d.path.text ∧ (∃ x, LastWrite codecs log d x) ∧
        StoredSince log d.path.text := by
  have hread (y : Sample) : (Data.ofReply codecs policy wall y).toOption = some d ↔
      Data.ofReply codecs policy wall y = .ok d := by
    cases Data.ofReply codecs policy wall y <;> simp [Except.toOption]
  simp only [List.mem_flatMap, List.mem_filterMap, hread]
  constructor
  -- what a storage answers is a last write that it has heard
  · rintro ⟨source, hsource, y, hy, hd⟩
    obtain ⟨x, hx, rfl⟩ := List.mem_map.1 hsource
    obtain ⟨before, does, after, hlog, hends⟩ := hq.exists_declared (List.mem_filter.1 hx).1
    obtain ⟨hasked, hlast, hstored⟩ := hq.lastWrite_of_answer hlog hends hy hd
    exact ⟨hasked, ⟨y, hlast⟩, hstored⟩
  -- a last write that a storage has heard is in its answer
  · rintro ⟨hasked, ⟨x, hx⟩, before, s, h, expression, mode, does, after, hlog, hmeet, hends,
      hsince⟩
    obtain ⟨hdeclared, -⟩ := hq.exists_store hlog hends
    have hboth : Wildcard.meet expression q.expression = true :=
      Wildcard.meet_of_standsFor hmeet hasked
    obtain ⟨hy, hd⟩ := hq.mem_answer_of_lastWrite hlog hends hasked hx hmeet hsince
    exact ⟨⟨.storage, s, h⟩,
      List.mem_map.2 ⟨⟨s, h, expression⟩, List.mem_filter.2 ⟨hdeclared, hboth⟩, rfl⟩,
      x, hy, hd policy wall⟩

/-- Whatever a declared storage answers was written. -/
private theorem answer_isWritten (hq : Quiesced n log m) (q : Query) {source : Source}
    (hsource : source ∈ Router.sourcesFor .storage q.expression m.router.storages) :
    ∀ y ∈ (m.answerOf q source).getD [], y.IsWritten := by
  intro y hy
  obtain ⟨x, hx, rfl⟩ := List.mem_map.1 hsource
  obtain ⟨before, does, after, hlog, hends⟩ := hq.exists_declared (List.mem_filter.1 hx).1
  obtain ⟨⟨-, hlast⟩, -⟩ := (hq.mem_answer_iff hlog hends y).1 hy
  exact hq.isWritten hlog hlast

/-- All that is gathered when a query is delivered. -/
private theorem reported_eq (hq : Quiesced n log m) {q : Query}
    {w : Option (GatheringId × MissingTimestamp)} (hw : Waits m q w)
    (hsources : q.sources = Router.sourcesFor .storage q.expression m.router.storages)
    (hkind : ∀ source ∈ q.sources, source.kind = .storage) (around : Surroundings)
    (policy : MissingTimestamp) :
    (reported (m.askAllLog q q.sources)).filterMap (·.datum? around policy) =
      (Router.sourcesFor .storage q.expression m.router.storages).flatMap fun source =>
        ((m.answerOf q source).getD []).filterMap fun y =>
          (Data.ofReply around.codecs policy around.wall y).toOption := by
  obtain ⟨hanswers, hparked⟩ := hq.plain.answersTo_eq hw hkind
  obtain ⟨carried, hcarried, hreported⟩ := m.reported_askAllLog q q.sources
  -- every answer has a timestamp of its own
  have hstamped : ∀ answer ∈ answersTo q m q.sources, ∀ y ∈ answer.2,
      y.info.timestamp.isSome = true := by
    rw [hanswers, hsources]
    intro answer hanswer y hy
    obtain ⟨source, hsource, rfl⟩ := List.mem_map.1 hanswer
    exact (hq.answer_isWritten q hsource y hy).timestamp_isSome
  obtain rfl := carried_eq hcarried hstamped
  have hnone : (parkedBy q m q.sources).isSome = false := by rw [hparked]; rfl
  rw [hreported, hnone, if_neg Bool.false_ne_true, datum?_pieces, hanswers, hsources,
    List.flatMap_map]

end Quiesced

/-! ## Gets -/

/-- A run of operations with memory storages, in which the sessions of declared storages are
held. -/
structure Keeping (wall : Instant) (clock : ClockId) (codecs : CodecTable)
    (ops : List Operation) : Prop where
  plain : ∀ op ∈ ops, op.isPlain = true
  few : Desk.FewDeclarations .storages ((start wall clock codecs).runLog ops)
  inTime : ∀ e ∈ (start wall clock codecs).runLog ops, e.InTime
  held : ∀ x, Desk.Stands .storages ((start wall clock codecs).runLog ops) x →
    HeldAt x.session ((start wall clock codecs).runAll ops)

/-- A run in time, with few declarations and with its sessions held, is recorded. -/
private theorem Keeping.recorded {wall : Instant} {clock : ClockId} {codecs : CodecTable}
    {ops : List Operation} (hk : Keeping wall clock codecs ops)
    (hwritten : ∀ x ∈ writes ((start wall clock codecs).runLog ops), x.IsWritten) :
    Recorded (start wall clock codecs) ((start wall clock codecs).runLog ops)
      ((start wall clock codecs).runAll ops) := by
  have horderly := Orderly.start wall clock codecs
  have htidy := tidy_start wall clock codecs .storages
  have hgoes := goes_runAll (b := .storages) horderly ops
  exact {
    goes := hgoes
    tidy := htidy
    nobody := rfl
    few := hk.few
    increasing := (Desk.stamped_of_moves hgoes hk.inTime).increasing
    written := hwritten
    held := hk.held
    not_missed := fun x hx => not_missed_runLog horderly htidy (hk.held x hx) hk.few }

section answered

variable {w : Workspace} {limit k : Nat} {sel : Selector} {queries : SessionId → Nat}
  {g : Workspace.PendingGet} {n₀ n₁ : Network} {log' : List Event}

/-- When the query of a get is delivered, all is done that was to be done before. -/
private theorem Answered.quiesced (ha : Answered w limit sel queries log n g n₁ k log')
    (hr : Recorded n₀ log n) :
    Quiesced n₀ (log ++ settleLog k n₁) ((settle k n₁).popped []) := by
  have hdelivered := ha.reached.delivered
  have hbegun : Recorded n₀ log n₁ := by
    have hgoes := goes_beginGet (b := .storages) w sel n
    have hhosts := SameHosts.beginGet w sel n
    rw [ha.begin_run] at hgoes hhosts
    exact hr.unseen hgoes hhosts
  -- the query itself is all that is left in the queue
  have hpopped : Goes .storages (settle k n₁) [] ((settle k n₁).popped []) :=
    .of_eq (desk_popped_of_none hdelivered.queue rfl)
  exact { (hbegun.settle k hdelivered.quiet).unseen hpopped (.of_eq rfl) with
    queue := rfl
    plain := hdelivered.plain.popped hdelivered.queue
    remembers := hdelivered.remembers }

/-- What a get has gathered that succeeds. -/
private theorem Answered.mem_data_iff (ha : Answered w limit sel queries log n g n₁ k log')
    (hr : Recorded n₀ log n) (hp : Plain n) (d : Data) :
    d ∈ (reported log').filterMap
        (·.datum? (settle k n₁).around w.settings.missingTimestamp) ↔
      Wildcard.StandsFor (w.absoluteSelector sel).path d.path.text ∧
        (∃ x, LastWrite n₀.around.codecs (log ++ settleLog k n₁) d x) ∧
          StoredSince (log ++ settleLog k n₁) d.path.text := by
  have hdelivered := ha.reached.delivered
  have hq := ha.quiesced hr
  have hwaits := ha.begun.waits.of_board (hdelivered.board w.session)
  have hstorages : ((settle k n₁).popped []).router.storages = n.router.storages :=
    (evolves_settle k n₁).keeps.storages.trans ha.begun.storages
  have hkind := hdelivered.plain.kind_of_query (hdelivered.queue ▸ List.mem_singleton_self _)
  have hcodecs : (settle k n₁).around.codecs = n₀.around.codecs := hq.goes.codecs_eq
  -- the sources were chosen when the query was sent, and nobody has declared anything since
  have hsources : (n.router.queryOf w.session (w.absoluteSelector sel).path
      (w.absoluteSelector sel).optionalPart g.query.handle).sources =
      Router.sourcesFor .storage (w.absoluteSelector sel).path
        ((settle k n₁).popped []).router.storages := by
    rw [hstorages, Router.queryOf, hp.evals]
    exact List.append_nil _
  rw [ha.reached.asked, hq.reported_eq hwaits hsources hkind, hcodecs]
  exact hq.mem_data_iff _ _ _ _ d

end answered

/-- Quiet events change nothing about what was stored. -/
private theorem storedSince_append_of_quiet {log' : List Event}
    (hquiet : ∀ e ∈ log', e.isQuiet = true)
    (path : String) : StoredSince (log ++ log') path ↔ StoredSince log path := by
  constructor
  · rintro ⟨before, s, h, expression, mode, does, after, heq, hfor, hends, y, hy, hp⟩
    obtain ⟨rest, hlog, rfl⟩ := exists_of_append_quiet hquiet rfl heq
    rw [writes_append_of_quiet hquiet] at hy
    exact ⟨before, s, h, expression, mode, does, rest, hlog, hfor,
      fun e he => hends e (List.mem_append_left _ he), y, hy, hp⟩
  · rintro ⟨before, s, h, expression, mode, does, after, rfl, hfor, hends, y, hy, hp⟩
    refine ⟨before, s, h, expression, mode, does, after ++ log', by simp, hfor, ?_, y, ?_, hp⟩
    · exact List.forall_mem_append.2
        ⟨hends, fun e he => Event.not_ends_of_isQuiet (hquiet e he) .storages s h⟩
    · rwa [writes_append_of_quiet hquiet]

/-- Quiet events change nothing about the last writes. -/
private theorem lastWrite_append_of_quiet {log' : List Event}
    (hquiet : ∀ e ∈ log', e.isQuiet = true)
    (codecs : CodecTable) (d : Data) (x : Sample) :
    LastWrite codecs (log ++ log') d x ↔ LastWrite codecs log d x := by
  have hwrites : writes (log ++ log') = writes log := writes_append_of_quiet hquiet
  constructor
  · intro h
    exact { h with last := hwrites ▸ h.last }
  · intro h
    exact { h with last := hwrites.symm ▸ h.last }

/-- A get that succeeds gives, in the order of the paths, for each path that its selector stands
for the value and the timestamp of the last write, if that was a put or an update whose payload
can be read, and if some storage for the path was declared before it and still is; and it gives
nothing else. -/
theorem get_eq_lastWrites {wall : Instant} {clock : ClockId} {codecs : CodecTable}
    {ops : List Operation} (hk : Keeping wall clock codecs ops) {w : Workspace} {limit : Nat}
    {sel : Selector}
    (hquery : ∀ s, (ops ++ [Operation.get w limit sel]).countP (·.asks s) <
      HandleTable.defaultCapacity)
    {results : List Data}
    (hget : ((w.get limit sel).run ((start wall clock codecs).runAll ops)).1 = .ok results) :
    (results.Pairwise fun d d' => compare d.path d'.path = .lt) ∧
      ∀ d, d ∈ results ↔
        Wildcard.StandsFor (w.absoluteSelector sel).path d.path.text ∧
          (∃ x, LastWrite codecs ((start wall clock codecs).runLog ops) d x) ∧
            StoredSince ((start wall clock codecs).runLog ops) d.path.text := by
  have hle : ∀ s, ops.countP (·.asks s) ≤ (ops ++ [Operation.get w limit sel]).countP (·.asks s) :=
    fun s => (List.sublist_append_left _ _).countP_le
  have hmore : ops.countP (·.asks w.session) + 1 ≤
      (ops ++ [Operation.get w limit sel]).countP (·.asks w.session) := by
    have hasks : Operation.asks w.session (.get w limit sel) = true := beq_self_eq_true _
    rw [List.countP_append, List.countP_singleton, if_pos hasks]
  obtain ⟨hresting, hwritten⟩ := resting_runAll wall clock codecs hk.plain hk.few
    fun s => Nat.lt_of_le_of_lt (hle s) (hquery s)
  have hrecorded := hk.recorded hwritten
  have horderly := (Orderly.start wall clock codecs).runAll ops
  obtain ⟨-, -, ⟨e, herr⟩ | ⟨g, n₁, k, log', ha⟩⟩ :=
    hresting.get_cases horderly w limit sel hle hmore (hquery w.session)
  · rw [hget] at herr
    cases herr
  · have hdata := ha.mem_data_iff hrecorded hresting.plain
    have hquiet := ha.reached.delivered.quiet
    rw [ha.get_run] at hget
    obtain rfl := Except.ok.inj hget
    -- a path has only one last write, so no two storages answer different data for it
    have hagree : Aggregator.Agree ((reported log').filterMap
        (·.datum? (settle k n₁).around w.settings.missingTimestamp)) := by
      intro d hd d' hd' hp
      obtain ⟨-, ⟨x, hx⟩, -⟩ := (hdata d).1 hd
      obtain ⟨-, ⟨x', hx'⟩, -⟩ := (hdata d').1 hd'
      exact hx.unique hx' hp
    refine ⟨Aggregator.finish_sorted hagree _, fun d => ?_⟩
    rw [Aggregator.mem_finish_iff hagree, hdata, storedSince_append_of_quiet hquiet]
    simp only [lastWrite_append_of_quiet hquiet]
    rfl

/-! ### A value is overwritten -/

/-- The path `/a/b`. -/
def topPath : Path := ⟨"/a/b", by decide, by simp [Path.forbidden], by decide⟩

/-- The selector `/a/*`. -/
def topSelector : Selector :=
  ⟨⟨['/', 'a', '/', '*'], [], [], []⟩,
    ⟨by decide, by simp [Selector.isPathChar], by simp, by decide, by decide, by decide⟩⟩

/-- A workspace of the first session. -/
def topWorkspace : Workspace := { root := topPath, session := 0 }

/-- A value is put, another one is refused, and a third one takes the place of the first. -/
def overwriting : List Operation :=
  [.openSession none ∅, .declareMemory 0 topSelector, .put topWorkspace topPath (.raw [1]),
    .failNext 1 7 "X", .put topWorkspace topPath (.raw [3]),
    .update topWorkspace topPath (.raw [2])]

/-- A value is put, and overwritten, and the get has the second one. -/
theorem lastWrites_of_overwriting :
    ∃ results, ((topWorkspace.get 9 topSelector).run
        ((start ⟨0⟩ .zero .builtIn).runAll overwriting)).1 = .ok results ∧
      ⟨topPath, .raw [2], ⟨2, .zero⟩⟩ ∈ results := by
  have hk : Keeping ⟨0⟩ .zero .builtIn overwriting := by
    refine ⟨by decide, fun _ => Nat.lt_of_le_of_lt List.countP_le_length (by decide), by decide, ?_⟩
    intro x _
    have hstart : HeldAt x.session (start ⟨0⟩ .zero .builtIn) := rfl
    exact hstart.runAll (by simp [overwriting])
  have hok : ((topWorkspace.get 9 topSelector).run
      ((start ⟨0⟩ .zero .builtIn).runAll overwriting)).1.isOk = true := by decide
  have hquery : ∀ s, (overwriting ++ [Operation.get topWorkspace 9 topSelector]).countP
      (·.asks s) < HandleTable.defaultCapacity :=
    fun _ => Nat.lt_of_le_of_lt List.countP_le_length (by decide)
  cases hget : ((topWorkspace.get 9 topSelector).run
      ((start ⟨0⟩ .zero .builtIn).runAll overwriting)).1 with
  | error e =>
    rw [hget] at hok
    cases hok
  | ok results =>
    obtain ⟨-, hmem⟩ := get_eq_lastWrites hk hquery hget
    have hpath : '*' ∉ topPath.text.toList := topPath.star_not_mem
    refine ⟨results, rfl, (hmem _).2 ⟨(Wildcard.meet_concrete_iff hpath).1 (by decide), ?_, ?_⟩⟩
    · exact ⟨⟨"/a/b", [2], ⟨some ⟨2, .zero⟩, some .raw, some 1⟩⟩, by decide, by decide, rfl, rfl⟩
    · exact ⟨[], 0, 0, "/a/*", .push, (MemoryStorage.listener 0).data,
        ((start ⟨0⟩ .zero .builtIn).runLog overwriting).tail, rfl,
        (Wildcard.meet_concrete_iff hpath).1 (by decide), by decide,
        ⟨"/a/b", [1], ⟨some ⟨1, .zero⟩, some .raw, some 0⟩⟩, by decide, rfl⟩

end Network

end PathSpace
