import PathSpace.Proofs.Network.Still
/-!
# Networks of memory storages

In a network in which only memory storages are declared, and in which the only queries are
those of gets, a delivery puts a sample into a store or brings the answer to a query, and
nothing else.

## Key results

- `Plain`: only memory storages are declared, each with a store of its own
- `Remembers`: every store holds what its storage has heard
- `Plain.deliverNext`: a delivery leaves it so
-/

namespace PathSpace

/-- Whether a job occurs in a network of memory storages. -/
def Job.isPlain : Job → Bool
  | .subscriber .. => false
  | .storage .. => true
  | .query q => q.sources.all (·.kind == .storage)

/-- Stores are told apart by their listeners. -/
theorem MemoryStorage.listener_injective {id id' : StoreId} (h : listener id = listener id') :
    id = id' := by
  have hdata := congrFun (congrFun (congrArg StorageListener.data h) ⟨⟨0⟩, {}, ∅, ∅⟩) ⟨"", [], {}⟩
  have hacts := congrArg Script.acts hdata
  simp only [listener, List.cons.injEq, Act.effect.injEq, Effect.remember.injEq] at hacts
  exact hacts.1.1

namespace Network

variable {n n' : Network} {q : Query} {source : Source} {log : List Event} {s s' : SessionId}
  {h h' : Handle} {id : StoreId} {sample : Sample}

/-- The store with a number. -/
def memory (n : Network) (id : StoreId) : MemoryStore := (n.around.memories.find? id).getD {}

/-- Samples for a handle go into a store, which also answers queries to the handle. -/
def Stores (n : Network) (s : SessionId) (h : Handle) (id : StoreId) : Prop :=
  (n.board s).storages.entries.find? h = some (MemoryStorage.listener id)

/-- A storage has one memory. -/
private theorem Stores.unique {id' : StoreId} (h₁ : n.Stores s h id) (h₂ : n.Stores s h id') :
    id = id' :=
  MemoryStorage.listener_injective (Option.some.inj (h₁.symm.trans h₂))

/-- Only memory storages are declared, each with a store of its own, and all queries are put to
storages. -/
structure Plain (n : Network) : Prop where
  subscribers : n.router.subscribers = []
  evals : n.router.evals = []
  parked : n.parked = []
  stores : ∀ s h l, (n.board s).storages.entries.find? h = some l →
    ∃ id, id < n.nextStore ∧ l = MemoryStorage.listener id
  distinct : ∀ {s h s' h' id}, n.Stores s h id → n.Stores s' h' id → s = s' ∧ h = h'
  unused : ∀ id, n.nextStore ≤ id → n.around.memories.find? id = none
  jobs : ∀ job ∈ n.router.queue, job.isPlain = true

/-- Every store holds what its storage has heard. -/
def Remembers (log : List Event) (n : Network) : Prop :=
  ∀ s h id, n.Stores s h id →
    n.memory id = (heardBy .storages s h log).foldl MemoryStore.store {}

/-- The stores are what they were, and at most some are taken back; what has yet to be done is
done for storages. -/
structure Spares (n n' : Network) : Prop where
  subscribers : n.router.subscribers = [] → n'.router.subscribers = []
  evals : n.router.evals = [] → n'.router.evals = []
  parked : n'.parked = n.parked
  memories : n'.around.memories = n.around.memories
  nextStore : n.nextStore ≤ n'.nextStore
  stores : ∀ s h l, (n'.board s).storages.entries.find? h = some l →
    (n.board s).storages.entries.find? h = some l
  jobs : Plain n → ∀ job ∈ n'.router.queue, job.isPlain = true

/-- What spares the storages keeps the network plain. -/
theorem Plain.spares (hp : Plain n) (hs : Spares n n') : Plain n' where
  subscribers := hs.subscribers hp.subscribers
  evals := hs.evals hp.evals
  parked := hs.parked.trans hp.parked
  stores s h l hl := by
    obtain ⟨id, hid, heq⟩ := hp.stores s h l (hs.stores s h l hl)
    exact ⟨id, Nat.lt_of_lt_of_le hid hs.nextStore, heq⟩
  distinct h₁ h₂ := hp.distinct (hs.stores _ _ _ h₁) (hs.stores _ _ _ h₂)
  unused id hid := by
    rw [hs.memories]
    exact hp.unused id (Nat.le_trans hs.nextStore hid)
  jobs := hs.jobs hp

/-- What spares the storages lets them remember. -/
theorem Remembers.spares (hr : Remembers log n) (hs : Spares n n') : Remembers log n' := by
  intro s h id hstores
  rw [memory, hs.memories]
  exact hr s h id (hs.stores s h _ hstores)

theorem Spares.refl (n : Network) : Spares n n where
  subscribers h := h
  evals h := h
  parked := rfl
  memories := rfl
  nextStore := Nat.le_refl _
  stores _ _ _ h := h
  jobs hp := hp.jobs

theorem Spares.trans {n'' : Network} (h : Spares n n') (h' : Spares n' n'') : Spares n n'' where
  subscribers hn := h'.subscribers (h.subscribers hn)
  evals hn := h'.evals (h.evals hn)
  parked := h'.parked.trans h.parked
  memories := h'.memories.trans h.memories
  nextStore := Nat.le_trans h.nextStore h'.nextStore
  stores s k l hl := h.stores s k l (h'.stores s k l hl)
  jobs hp := h'.jobs (hp.spares h)

/-- What is calm spares the storages. -/
theorem Calm.spares (h : Calm n n') : Spares n n' where
  subscribers hn := h.subscribers.trans hn
  evals hn := h.evals.trans hn
  parked := h.parked
  memories := by rw [h.around]
  nextStore := Nat.le_of_eq h.nextStore.symm
  stores s k l hl := h.stores s ▸ hl
  jobs hp job hjob := hp.jobs job (h.queue ▸ hjob)

/-- What is calm keeps the network plain. -/
theorem Plain.calm (hp : Plain n) (hc : Calm n n') : Plain n' := hp.spares hc.spares

/-- What is calm lets the storages remember. -/
theorem Remembers.calm (hr : Remembers log n) (hc : Calm n n') : Remembers log n' :=
  hr.spares hc.spares

/-! ## Asking -/

/-- A memory storage is asked and answers from its store. -/
private theorem Stores.storageQuery (hs : n.Stores s h id) (around : Surroundings)
    (expression optionalPart : String) :
    (n.board s).storageQuery around h expression optionalPart =
      .ofScript .storageQuery (n.board s)
        { acts := [.answer (((around.memories.find? id).getD {}).answer expression)] } := by
  rw [Switchboard.storageQuery, HandleTable.lookup, hs]
  rfl

/-- Asking a storage changes nothing. -/
private theorem Plain.ask_still (hp : Plain n) (hk : source.kind = .storage) (q : Query) :
    (n.ask q source).board = n.board source.session ∧ (n.ask q source).effects = [] := by
  unfold ask
  dsimp only
  split
  · rw [hk]
    dsimp only
    -- without a listener there is no answer; with one it is that of the memory
    cases hl : (n.board source.session).storages.entries.find? source.handle with
    | none =>
      rw [Switchboard.storageQuery, HandleTable.lookup, hl]
      exact ⟨rfl, rfl⟩
    | some l =>
      obtain ⟨id, -, rfl⟩ := hp.stores _ _ _ hl
      rw [Stores.storageQuery hl]
      exact ⟨rfl, rfl⟩
  · exact ⟨rfl, rfl⟩

/-- Asking a storage brings nothing about. -/
private theorem Plain.reports_asked (hp : Plain n) (hk : source.kind = .storage) (q : Query)
    (w : Option (GatheringId × MissingTimestamp)) :
    Reports w n (n.askedLog q source) (n.asked q source) := by
  obtain ⟨hboard, heffects⟩ := hp.ask_still hk q
  have hstill : ∀ e ∈ (n.ask q source).effects, e.isStill = true := by rw [heffects]; simp
  have hlog : n.askedLog q source = [] := absorbLog_of_still n _ hstill
  refine { Still.absorb n source.session hboard hstill with gatherings := ?_, quiet := ?_ }
  · rw [hlog, asked, absorb_gatherings, heffects]
    rfl
  · rw [hlog]
    intro e he
    cases he

/-- A storage answers at once. -/
theorem Plain.exists_answer (hp : Plain n) (hk : source.kind = .storage) (q : Query) :
    ∃ replies, n.answerOf q source = some replies := by
  unfold answerOf scriptOf
  split
  · next script hscript =>
    split at hscript
    · rw [hk] at hscript
      obtain ⟨l, hl, rfl⟩ := Option.map_eq_some_iff.1 hscript
      obtain ⟨id, -, rfl⟩ := hp.stores _ _ _ hl
      exact ⟨_, rfl⟩
    · cases hscript
  · exact ⟨[], rfl⟩

/-- A storage is asked, answers, and its answer is reported. -/
theorem Plain.reports_first (hp : Plain n) {w : Option (GatheringId × MissingTimestamp)}
    (hw : Waits n q w) (hk : source.kind = .storage) (replies : List Sample) :
    Reports w n (n.askedLog q source ++ (n.asked q source).reportSourceLog q source replies)
      ((n.asked q source).reportSource q source replies) := by
  have hasked := hp.reports_asked hk q w
  exact hasked.append ((hw.still hasked.toStill).reports_source source replies)

/-- All storages are asked and answer at once, and all that they answer is reported. -/
theorem Plain.exists_reports (hp : Plain n) {w : Option (GatheringId × MissingTimestamp)}
    (hw : Waits n q w) {sources : List Source}
    (hk : ∀ source ∈ sources, source.kind = .storage) :
    ∃ m log, Reports w n log m ∧ n.askAll q sources = m.report q .replyFinal ∧
      n.askAllLog q sources = log ++ m.reportLog q .replyFinal := by
  induction sources generalizing n with
  | nil =>
    refine ⟨n, [], ?_, rfl, rfl⟩
    exact { Still.refl n with gatherings := rfl, quiet := fun e he => absurd he List.not_mem_nil }
  | cons source rest ih =>
    obtain ⟨hfirst, hrest⟩ := List.forall_mem_cons.1 hk
    -- a memory always answers at once, so that the next source is asked in turn
    obtain ⟨replies, hanswer⟩ := hp.exists_answer hfirst q
    have hboth := hp.reports_first hw hfirst replies
    obtain ⟨m, log, hall, hask, hasklog⟩ :=
      ih (hp.calm hboth.toCalm) (hw.still hboth.toStill) hrest
    refine ⟨m, _, hboth.append hall, ?_, ?_⟩
    · rw [askAll_cons_of_some hanswer, hask]
    · rw [askAllLog_cons_of_some hanswer, hasklog, List.append_assoc, List.append_assoc]

/-- A query for whose answer nobody waits changes nothing. -/
private theorem Plain.reports_unwaited (hp : Plain n) (hw : Waits n q none) {sources : List Source}
    (hk : ∀ source ∈ sources, source.kind = .storage) :
    Reports none n (n.askAllLog q sources) (n.askAll q sources) := by
  obtain ⟨m, log, hall, hask, hasklog⟩ := hp.exists_reports hw hk
  rw [hask, hasklog]
  exact hall.append (Network.reports_unwaited (hw.still hall.toStill) .replyFinal)

/-! ## Storing -/

/-- A sample is brought to a memory storage. -/
private theorem Stores.storageData (hs : n.Stores s h id) (around : Surroundings)
    (sample : Sample) :
    (n.board s).storageData around h sample =
      .ofScript .storage (n.board s) { acts := [.effect (.remember id sample)] } := by
  rw [Switchboard.storageData, HandleTable.lookup, hs]
  rfl

/-- The network once a sample is put into a store. -/
def stored (n : Network) (s : SessionId) (id : StoreId) (sample : Sample) : Network :=
  n.absorb s (.ofScript .storage (n.board s) { acts := [.effect (.remember id sample)] })

/-- To store a sample leaves all boards as they are. -/
private theorem stored_board (n : Network) (s : SessionId) (id : StoreId) (sample : Sample)
    (s' : SessionId) : (n.stored s id sample).board s' = n.board s' := by
  rw [stored, absorb_board, (ofScript_effect ..).1]
  split
  · next heq => rw [heq]
  · rfl

/-- To store a sample changes one memory. -/
private theorem find?_stored (n : Network) (s : SessionId) (id : StoreId) (sample : Sample)
    (id' : StoreId) :
    (n.stored s id sample).around.memories.find? id' =
      if id' = id then some ((n.memory id).store sample) else n.around.memories.find? id' :=
  SortedMap.find?_alter n.around.memories id _ id'

/-- The one memory has the sample, the others are as they were. -/
private theorem memory_stored (n : Network) (s : SessionId) (id : StoreId) (sample : Sample)
    (id' : StoreId) :
    (n.stored s id sample).memory id' =
      if id' = id then (n.memory id).store sample else n.memory id' := by
  rw [memory, find?_stored]
  split <;> rfl

/-- To store a sample does not change who stores where. -/
private theorem stores_stored_iff (n : Network) (s : SessionId) (id : StoreId) (sample : Sample)
    {s' : SessionId} {h' : Handle} {id' : StoreId} :
    (n.stored s id sample).Stores s' h' id' ↔ n.Stores s' h' id' := by
  rw [Stores, Stores, stored_board]

/-- A network in which a sample was stored is still plain. -/
private theorem Plain.stored (hp : Plain n) (hs : n.Stores s h id) (sample : Sample) :
    Plain (n.stored s id sample) where
  subscribers := hp.subscribers
  evals := hp.evals
  parked := hp.parked
  stores s' h' l hl := hp.stores s' h' l (n.stored_board s id sample s' ▸ hl)
  distinct h₁ h₂ :=
    hp.distinct ((n.stores_stored_iff s id sample).1 h₁) ((n.stores_stored_iff s id sample).1 h₂)
  unused id' hid := by
    obtain ⟨id₁, hlt, heq⟩ := hp.stores s h _ hs
    have hne : id' ≠ id := by
      rw [MemoryStorage.listener_injective heq]
      exact Nat.ne_of_gt (Nat.lt_of_lt_of_le hlt hid)
    -- the store of a listener is below the counter, and this one is not
    rw [find?_stored, if_neg hne]
    exact hp.unused id' hid
  jobs := hp.jobs

/-- The storage has heard the sample that went into its store. -/
private theorem Remembers.stored (hr : Remembers log n) (hp : Plain n) (hs : n.Stores s h id)
    (sample : Sample) (script : Script Effect) :
    Remembers (log ++ [.heard .storages s h sample script]) (n.stored s id sample) := by
  intro s' h' id' hs'
  rw [stores_stored_iff] at hs'
  rw [memory_stored, heardBy_snoc, List.foldl_append, ← hr s' h' id' hs']
  -- the memory is that of the listener that has heard the sample, or another one
  by_cases hid : id' = id
  · subst hid
    obtain ⟨rfl, rfl⟩ := hp.distinct hs hs'
    simp [Event.heard?]
  · have hne : ¬(s = s' ∧ h = h') := by
      rintro ⟨rfl, rfl⟩
      exact hid (hs'.unique hs)
    simp [Event.heard?, hid, hne]

/-! ## Delivery -/

/-- What happens inside is heard by no subscriber and no storage. -/
theorem heardBy_of_inner {a : Audience} (hlog : ∀ e ∈ log, e.isInner = true) (s : SessionId)
    (h : Handle) : heardBy a s h log = [] := by
  refine List.filterMap_eq_nil_iff.2 fun e he => ?_
  have hinner := hlog e he
  cases e with
  | heard => cases hinner
  | _ => rfl

/-- What is quiet is no write. -/
theorem writes_of_quiet (hlog : ∀ e ∈ log, e.isQuiet = true) : writes log = [] := by
  refine List.filterMap_eq_nil_iff.2 fun e he => ?_
  have hquiet := hlog e he
  cases e with
  | wrote => cases hquiet
  | _ => rfl

/-- What is heard does not change when nothing that was heard is added. -/
theorem Remembers.append (hr : Remembers log n) {log' : List Event}
    (hlog : ∀ s h, heardBy .storages s h log' = []) : Remembers (log ++ log') n := by
  intro s h id hs
  rw [heardBy, List.filterMap_append]
  change _ = (heardBy .storages s h log ++ heardBy .storages s h log').foldl _ _
  rw [hlog, List.append_nil]
  exact hr s h id hs

/-- Some jobs were delivered, and `rest` is left.  The stores have taken what their storages
have heard; nothing was written, and no listener, no gathering and no declaration has changed. -/
structure Delivered (before : List Event) (rest : List Job) (n : Network) (log : List Event)
    (n' : Network) : Prop where
  plain : Plain n'
  remembers : Remembers (before ++ log) n'
  queue : n'.router.queue = rest
  gatherings : n'.gatherings = n.gatherings
  board : ∀ s, n'.board s = n.board s
  quiet : ∀ e ∈ log, e.isQuiet = true

namespace Delivered

variable {before log' : List Event} {rest rest' : List Job} {n'' : Network}

private theorem nothing (hp : Plain n) (hr : Remembers before n) :
    Delivered before n.router.queue n [] n where
  plain := hp
  remembers := by rwa [List.append_nil]
  queue := rfl
  gatherings := rfl
  board _ := rfl
  quiet e he := absurd he List.not_mem_nil

theorem trans (h : Delivered before rest n log n')
    (h' : Delivered (before ++ log) rest' n' log' n'') :
    Delivered before rest' n (log ++ log') n'' where
  plain := h'.plain
  remembers := by
    rw [← List.append_assoc]
    exact h'.remembers
  queue := h'.queue
  gatherings := h'.gatherings.trans h.gatherings
  board s := (h'.board s).trans (h.board s)
  quiet := List.forall_mem_append.2 ⟨h.quiet, h'.quiet⟩

/-- A job was taken from the queue, and nothing else has happened that anybody could see. -/
theorem of_still (hp : Plain (n.popped rest)) (hr : Remembers before n)
    (hs : Still (n.popped rest) n') (hg : n'.gatherings = n.gatherings)
    (hheard : ∀ s h, heardBy .storages s h log = []) (hlog : ∀ e ∈ log, e.isQuiet = true) :
    Delivered before rest n log n' where
  plain := hp.calm hs.toCalm
  remembers := by
    have hr' : Remembers before (n.popped rest) := hr
    exact (hr'.calm hs.toCalm).append hheard
  queue := hs.queue
  gatherings := hg
  board := hs.board
  quiet := hlog

end Delivered

/-- What has been taken out of the queue is no longer needed. -/
theorem Plain.popped (hp : Plain n) {job : Job} {rest : List Job}
    (hq : n.router.queue = job :: rest) : Plain (n.popped rest) :=
  hp.spares { Spares.refl n with
    jobs := fun _ job' hjob => hp.jobs job' (by rw [hq]; exact List.mem_cons_of_mem _ hjob) }

/-- The first job is taken from the queue and delivered. -/
theorem deliverNext_of_queue {job : Job} {rest : List Job} (hq : n.router.queue = job :: rest) :
    n.deliverNext = (n.popped rest).deliver job ∧
      n.deliverNextLog = (n.popped rest).deliverLog job := by
  rw [Network.deliverNext, deliverNextLog, hq]
  exact ⟨rfl, rfl⟩

/-- A sample is put into a store, or nobody hears it. -/
private theorem Plain.deliverNext_storage (hp : Plain n) (hr : Remembers log n) {rest : List Job}
    (hq : n.router.queue = .storage s h sample :: rest) :
    Delivered log rest n n.deliverNextLog n.deliverNext := by
  have hpop := hp.popped hq
  have hrpop : Remembers log (n.popped rest) := hr
  obtain ⟨hdeliver, hlog⟩ := deliverNext_of_queue hq
  rw [hdeliver, hlog]
  unfold deliver deliverLog bringLog
  dsimp only
  cases halive : (n.popped rest).isAlive s with
  | false =>
    rw [if_neg Bool.false_ne_true, if_neg Bool.false_ne_true]
    exact .of_still hpop hr (.refl _) rfl (fun _ _ => rfl) (List.forall_mem_singleton.2 rfl)
  | true =>
    rw [if_pos rfl, if_pos rfl]
    cases hl : ((n.popped rest).board s).storages.entries.find? h with
    | none =>
      have hdata : ((n.popped rest).board s).storageData (n.popped rest).around h sample =
          .unheard ((n.popped rest).board s) := by
        rw [Switchboard.storageData, HandleTable.lookup, hl]
      -- a storage that was undeclared in between hears nothing, and nothing changes
      have hstill : Still (n.popped rest)
          ((n.popped rest).absorb s (.unheard ((n.popped rest).board s))) :=
        .absorb _ s rfl (by intro e he; cases he)
      rw [hdata]
      exact .of_still hpop hr hstill rfl (fun _ _ => rfl) (List.forall_mem_singleton.2 rfl)
    | some l =>
      obtain ⟨id, -, rfl⟩ := hpop.stores s h l hl
      rw [Stores.storageData hl]
      have heffects := (ofScript_effect .storage ((n.popped rest).board s) (.remember id sample)).2
      have hnone : (n.popped rest).absorbLog s (.ofScript .storage ((n.popped rest).board s)
          { acts := [.effect (.remember id sample)] }) = [] := by
        rw [absorbLog, heffects]
        rfl
      rw [hnone]
      exact {
        plain := hpop.stored hl sample
        remembers := hrpop.stored hpop hl sample _
        queue := rfl
        gatherings := rfl
        board := (n.popped rest).stored_board s id sample
        quiet := List.forall_mem_singleton.2 rfl }

/-- In a plain network a query asks storages only. -/
theorem Plain.kind_of_query (hp : Plain n) (hq : .query q ∈ n.router.queue) :
    ∀ source ∈ q.sources, source.kind = .storage := by
  have hjob := hp.jobs _ hq
  simpa [Job.isPlain] using hjob

/-- A query for whose answer nobody waits is put to storages, and nothing comes of it. -/
private theorem Plain.deliverNext_query (hp : Plain n) (hr : Remembers log n) {rest : List Job}
    (hq : n.router.queue = .query q :: rest) (hw : Waits n q none) :
    Delivered log rest n n.deliverNextLog n.deliverNext := by
  have hpop := hp.popped hq
  have hkind := hp.kind_of_query (q := q) (by rw [hq]; exact List.mem_cons_self)
  obtain ⟨hdeliver, hlog⟩ := deliverNext_of_queue hq
  rw [hdeliver, hlog]
  unfold deliver deliverLog
  dsimp only
  cases halive : (n.popped rest).isAlive q.querier with
  | false =>
    rw [if_neg Bool.false_ne_true, if_neg Bool.false_ne_true]
    exact .of_still hpop hr (.refl _) rfl (fun _ _ => rfl) (fun e he => absurd he List.not_mem_nil)
  | true =>
    rw [if_pos rfl, if_pos rfl]
    have hw' : Waits (n.popped rest) q none := hw
    -- nobody waits for the replies, so none of them is gathered
    have hreports := hpop.reports_unwaited hw' hkind
    have hgatherings : ((n.popped rest).askAll q q.sources).gatherings = n.gatherings := by
      rw [hreports.gatherings]
      exact List.foldl_fixed' (fun _ => rfl) _
    exact .of_still hpop hr hreports.toStill hgatherings
      (heardBy_of_inner (inner_askAllLog _ q q.sources)) hreports.quiet

/-- A delivery with which nobody gathers anything. -/
theorem Plain.deliverNext (hp : Plain n) (hr : Remembers log n) {job : Job} {rest : List Job}
    (hq : n.router.queue = job :: rest) (hw : ∀ q, job = .query q → Waits n q none) :
    Delivered log rest n n.deliverNextLog n.deliverNext := by
  cases job with
  | subscriber =>
    have hjob := hp.jobs _ (hq ▸ List.mem_cons_self)
    cases hjob
  | storage => exact hp.deliverNext_storage hr hq
  | query q => exact hp.deliverNext_query hr hq (hw q rfl)

/-- Nothing is delivered from an empty queue. -/
theorem settle_of_empty (limit : Nat) (hq : n.router.queue = []) :
    settle limit n = n ∧ settleLog limit n = [] := by
  have hempty : n.router.queue.isEmpty = true := by rw [hq]; rfl
  cases limit with
  | zero => exact ⟨rfl, rfl⟩
  | succ limit => rw [settle, settleLog, if_pos hempty, if_pos hempty]; exact ⟨rfl, rfl⟩

/-- The first of the queue is delivered first. -/
theorem settle_of_queue (limit : Nat) {job : Job} {rest : List Job}
    (hq : n.router.queue = job :: rest) :
    settle (limit + 1) n = settle limit n.deliverNext ∧
      settleLog (limit + 1) n = n.deliverNextLog ++ settleLog limit n.deliverNext := by
  have hfull : ¬n.router.queue.isEmpty = true := by rw [hq]; exact Bool.false_ne_true
  rw [settle, settleLog, if_neg hfull, if_neg hfull]
  exact ⟨rfl, rfl⟩

/-- To deliver a number of times is to deliver some, and then the others. -/
theorem settle_add (a b : Nat) (n : Network) :
    settle (a + b) n = settle b (settle a n) ∧
      settleLog (a + b) n = settleLog a n ++ settleLog b (settle a n) := by
  induction a generalizing n with
  | zero => rw [Nat.zero_add]; exact ⟨rfl, rfl⟩
  | succ a ih =>
    cases hq : n.router.queue with
    | nil =>
      -- an empty queue stays empty, however many jobs are allowed
      obtain ⟨hall, hallLog⟩ := settle_of_empty (a + 1 + b) hq
      obtain ⟨hfirst, hfirstLog⟩ := settle_of_empty (a + 1) hq
      obtain ⟨hrest, hrestLog⟩ := settle_of_empty b hq
      rw [hall, hallLog, hfirst, hfirstLog, hrest, hrestLog]
      exact ⟨rfl, rfl⟩
    | cons job rest =>
      obtain ⟨hfirst, hfirstLog⟩ := settle_of_queue a hq
      obtain ⟨hall, hallLog⟩ := settle_of_queue (a + b) hq
      obtain ⟨hrest, hrestLog⟩ := ih n.deliverNext
      rw [Nat.add_right_comm, hall, hallLog, hfirst, hfirstLog, hrest, hrestLog, List.append_assoc]
      exact ⟨rfl, rfl⟩

/-- Deliveries with which nobody gathers anything. -/
theorem Plain.settle (hp : Plain n) (hr : Remembers log n) {jobs rest : List Job}
    (hq : n.router.queue = jobs ++ rest) (hw : ∀ q, .query q ∈ jobs → Waits n q none)
    {limit : Nat} (hlimit : limit ≤ jobs.length) :
    Delivered log (jobs.drop limit ++ rest) n (settleLog limit n) (Network.settle limit n) := by
  induction limit generalizing n log jobs with
  | zero =>
    rw [List.drop_zero, ← hq]
    exact .nothing hp hr
  | succ limit ih =>
    cases jobs with
    | nil => exact absurd hlimit (Nat.not_succ_le_zero limit)
    | cons job jobs =>
      -- the first of the jobs is delivered, and what it adds to the queue comes behind the others
      have hfirst := hp.deliverNext hr hq fun q hjob => hw q (hjob ▸ List.mem_cons_self)
      have hwaits : ∀ q, .query q ∈ jobs → Waits n.deliverNext q none := fun q hmem =>
        (hw q (List.mem_cons_of_mem _ hmem)).of_board (hfirst.board _)
      have hrest := ih hfirst.plain hfirst.remembers hfirst.queue hwaits
        (Nat.le_of_succ_le_succ hlimit)
      obtain ⟨hnext, hnextLog⟩ := settle_of_queue limit hq
      rw [hnext, hnextLog]
      exact hfirst.trans hrest

end Network

end PathSpace
