import PathSpace.Proofs.Network.Getting
/-!
# Runs with memory storages

Workspaces write and get, and memory storages are declared and taken back; any of it may fail.
Whatever is done, the stores hold what their storages have heard, and between the operations
nobody waits for replies.

## Key results

- `Operation.isPlain`: the operations of such a run
- `Resting.run`: one operation
- `resting_runAll`: a run
-/

namespace PathSpace

open Text (Bytes)

/-- A sample as an operation writes it. -/
def Sample.IsWritten (x : Sample) : Prop :=
  ∃ (path : Path) (payload : Bytes) (stamp : Timestamp) (e : Encoding) (kind : ChangeKind),
    x = ⟨path.text, payload, ⟨some stamp, some e, some kind.toByte⟩⟩

namespace Operation

/-- Whether an operation occurs in a run with memory storages. -/
def isPlain : Operation → Bool
  | .showWall .. | .failNext .. | .stampReplies .. | .letGo .. | .deliver | .openSession ..
  | .close .. | .write .. | .undeclareStorage .. | .declareMemory .. | .put .. | .update ..
  | .remove .. | .get .. => true
  | .answerParked .. | .declareSubscriber .. | .undeclareSubscriber .. | .pull ..
  | .declareStorage .. | .declareEval .. | .undeclareEval .. | .query .. | .cancelQuery ..
  | .subscribe .. | .unsubscribe .. => false

/-- Whether an operation sends a query of a session. -/
def asks (s : SessionId) : Operation → Bool
  | .get w .. => w.session == s
  | _ => false

end Operation

namespace Network

variable {n n' : Network} {log log' : List Event} {queries queries' : SessionId → Nat}
  {s : SessionId} {h : Handle}

/-! ## Operations that leave those alone who wait -/

/-- Nobody was asked, and nobody who waits for replies has come or gone. -/
structure Idles (n n' : Network) : Prop extends Spares n n' where
  replies : ∀ s, (n'.board s).replies = (n.board s).replies ∨
    n.router.nextSession ≤ s ∧ (n'.board s).replies = ({} : Board).replies
  nextSession : n.router.nextSession ≤ n'.router.nextSession
  queries : ∀ q, .query q ∈ n'.router.queue → .query q ∈ n.router.queue

/-- Those who wait for replies wait on while somebody is busy elsewhere. -/
private theorem Asking.idles (ha : Asking [] queries n) (hi : Idles n n')
    (hle : ∀ s, queries s ≤ queries' s) : Asking [] queries' n' where
  only s h l hl := by
    rcases hi.replies s with hs | ⟨-, hs⟩
    · exact ha.only s h l (hs ▸ hl)
    · rw [hs] at hl
      cases hl
  capacity s := by
    rcases hi.replies s with hs | ⟨-, hs⟩
    · exact hs ▸ ha.capacity s
    · rw [hs]
      rfl
  next_le s := by
    rcases hi.replies s with hs | ⟨-, hs⟩
    · exact hs ▸ Nat.le_trans (ha.next_le s) (hle s)
    · rw [hs]
      exact Nat.zero_le _
  asked q hq := by
    obtain ⟨hlt, hh⟩ := ha.asked q (hi.queries q hq)
    refine ⟨Nat.lt_of_lt_of_le hlt hi.nextSession, ?_⟩
    rcases hi.replies q.querier with hs | ⟨hge, -⟩
    · exact hs ▸ hh
    · -- a session that was opened just now has sent no query
      exact absurd hlt (Nat.not_lt.2 hge)

/-- A network stays at rest while somebody is busy elsewhere. -/
private theorem Resting.idles (hn : Resting queries log n) (hi : Idles n n')
    (hle : ∀ s, queries s ≤ queries' s) (hheard : ∀ s h, heardBy .storages s h log' = []) :
    Resting queries' (log ++ log') n' where
  plain := hn.plain.spares hi.toSpares
  remembers := (hn.remembers.spares hi.toSpares).append hheard
  asking := hn.asking.idles hi hle

namespace Idles

theorem refl (n : Network) : Idles n n where
  toSpares := .refl n
  replies _ := .inl rfl
  nextSession := Nat.le_refl _
  queries _ hq := hq

/-- The router has done something by which at most samples for storages are to be brought. -/
private theorem withRouter (hp : Plain n) {r : Router} (hsubscribers : r.subscribers = [])
    (hevals : r.evals = []) (hnext : n.router.nextSession ≤ r.nextSession)
    (hjobs : ∀ job ∈ r.queue, job ∈ n.router.queue ∨ ∃ s h x, job = .storage s h x) :
    Idles n (Session.withRouter n r) where
  subscribers _ := hsubscribers
  evals _ := hevals
  parked := rfl
  memories := rfl
  nextStore := Nat.le_refl _
  stores _ _ _ hl := hl
  -- what is new on the way is a sample for a storage
  jobs _ job hjob := by
    rcases hjobs job hjob with hold | ⟨s, h, x, rfl⟩
    · exact hp.jobs job hold
    · rfl
  replies _ := .inl rfl
  nextSession := hnext
  queries q hq := by
    rcases hjobs _ hq with hold | ⟨s, h, x, heq⟩
    · exact hold
    · cases heq

/-- A failure that was arranged or used up concerns nobody who waits. -/
private theorem withFailure (n : Network) (failure : Option ArrangedFailure) :
    Idles n (Session.withRouter n { n.router with failure }) :=
  { Idles.refl n with }

/-- An operation that only asks the router. -/
private theorem asked {act : Action Unit} {op : Routing Unit} (hact : Session.Asked op act n)
    (hop : Router.EndsIn op n.router fun r => Idles n (Session.withRouter n r)) :
    Idles n (act.run n).2 := by
  -- the router did what was asked, or is as it was but for the failure
  cases hact with
  | done r hok hrun =>
    rw [hrun]
    exact hop.of_run_ok hok
  | refused fault r e herr hrun =>
    obtain ⟨failure, rfl⟩ := hop.of_run_error herr
    rw [hrun]
    exact .withFailure n failure
  | untried e hrun =>
    rw [hrun]
    exact .refl n

/-- Without subscribers a write is on its way to storages only. -/
private theorem mem_writeJobs {r : Router} (hr : r.subscribers = []) {x : Sample} {job : Job}
    (hjob : job ∈ r.writeJobs x) : ∃ s h x, job = .storage s h x := by
  rw [Router.writeJobs, hr] at hjob
  obtain ⟨d, -, rfl⟩ := List.mem_map.1 hjob
  exact ⟨d.session, d.handle, x, rfl⟩

/-- To pass a sample on leaves those alone who wait. -/
private theorem routed (hp : Plain n) (clock : Clock) (x : Sample) :
    Idles n (Session.withRouter n (({ n.router with clock } : Router).routed x)) := by
  refine withRouter hp ?_ hp.evals (Nat.le_refl _) fun job hjob => ?_
  · rw [Router.routed, hp.subscribers]
    rfl
  · exact (List.mem_append.1 hjob).imp id (mem_writeJobs hp.subscribers)

/-- To write leaves those alone who wait. -/
private theorem write (hp : Plain n) (s : SessionId) (path : Path) (payload : Bytes) (e : Encoding)
    (kind : ChangeKind) : Idles n ((Session.write s path payload e kind).run n).2 := by
  refine asked (Session.write_cases s path payload e kind n) ?_
  exact .of_cases (Router.write_cases s n.around.wall path.text payload e kind n.router)
    (routed hp _ _)

/-- To close a session leaves those alone who wait. -/
private theorem close (hp : Plain n) (s : SessionId) : Idles n ((Session.close s).run n).2 := by
  refine asked (Session.close_cases s n) ?_
  refine .of_cases (Router.closeLink_cases s n.router) ?_
  refine withRouter hp ?_ ?_ (Nat.le_refl _) fun job hjob => .inl hjob
  · rw [Router.withoutLink, hp.subscribers]
    rfl
  · rw [Router.withoutLink, hp.evals]
    rfl

/-- A workspace that writes leaves those alone who wait. -/
private theorem workspaceWrite (hp : Plain n) (w : Workspace) (p : Path) (payload : Bytes)
    (e : Encoding)
    (kind : ChangeKind) : Idles n ((w.write p payload e kind).run n).2 := by
  rw [w.write_run]
  cases w.absolutePath p with
  | ok path => exact write hp w.session path payload e kind
  | error err => exact .refl n

/-- To let handles go leaves those alone who wait. -/
private theorem letGo (n : Network) (sessions : List SessionId)
    (workspaces : SortedMap WorkspaceId SessionId) : Idles n (n.letGo sessions workspaces) :=
  { Idles.refl n with
    stores := fun s h l hl => by rwa [board_letGo] at hl
    replies := fun s => .inl (by rw [board_letGo]) }

/-- Storages come to a session, or go. -/
private theorem board_withStorages (n : Network) (s : SessionId)
    (t : HandleTable (StorageListener Surroundings Effect)) (s' : SessionId) :
    (Session.withTable n .storages s t).board s' =
      if s' = s then { n.board s with storages := t } else n.board s' :=
  board_setBoard n s s' _

/-- To take storages off a table leaves those alone who wait for replies. -/
private theorem withStorages (n : Network) (s : SessionId)
    {t : HandleTable (StorageListener Surroundings Effect)}
    (ht : ∀ h l, t.entries.find? h = some l → (n.board s).storages.entries.find? h = some l) :
    Idles n (Session.withTable n .storages s t) :=
  { Idles.refl n with
    stores := fun s' h l hl => by
      rw [board_withStorages] at hl
      split at hl
      · next heq => exact heq ▸ ht h l hl
      · exact hl
    replies := fun s' => .inl (by
      rw [board_withStorages]
      split
      · next heq => rw [heq]
      · rfl) }

theorem trans {n'' : Network} (h : Idles n n') (h' : Idles n' n'') : Idles n n'' where
  toSpares := h.toSpares.trans h'.toSpares
  replies s := by
    rcases h'.replies s with hs' | ⟨hlt, hs'⟩
    · rw [hs']
      exact h.replies s
    · exact .inr ⟨Nat.le_trans h.nextSession hlt, hs'⟩
  nextSession := Nat.le_trans h.nextSession h'.nextSession
  queries q hq := h.queries q (h'.queries q hq)

/-- To undeclare a storage leaves those alone who wait. -/
private theorem undeclareStorage (hp : Plain n) (s : SessionId) (storage : Storage) :
    Idles n ((Session.undeclareStorage s storage).run n).2 := by
  have hop : Router.EndsIn (Router.undeclareStorage s storage.handle) n.router fun r =>
      Idles n (Session.withRouter n r) :=
    .of_cases (Router.undeclareStorage_cases s storage.handle n.router)
      (withRouter hp hp.subscribers hp.evals (Nat.le_refl _) fun job hjob => .inl hjob)
  rcases Session.undeclare_cases .storages s "UndeclareStorage" storage.selector.path
    storage.handle (Router.undeclareStorage s storage.handle) n with
    ⟨r, -, hok, hrun⟩ | ⟨fault, r, e, herr, hrun⟩ | ⟨e, hrun⟩
  · rw [Session.undeclareStorage, hrun]
    refine (hop.of_run_ok hok).trans (withStorages _ s fun h l hl => ?_)
    -- what is still parked was parked before
    dsimp only [Tray.storages] at hl
    rw [HandleTable.find?_remove] at hl
    split at hl
    · cases hl
    · exact hl
  · obtain ⟨failure, rfl⟩ := hop.of_run_error herr
    rw [Session.undeclareStorage, hrun]
    exact .withFailure n failure
  · rw [Session.undeclareStorage, hrun]
    exact .refl n

/-- To open a session leaves those alone who wait. -/
private theorem openSession (hp : Plain n) (locator : Option String)
    (properties : Properties) :
    Idles n ((Session.openSession locator properties).run n).2 := by
  rcases Session.openSession_cases locator properties n with hrun | ⟨failure, e, hrun⟩
  · have hr : Idles n (Session.withRouter n
        (n.router.withLink locator (properties.find? "user"))) :=
      withRouter hp hp.subscribers hp.evals (Nat.le_succ _) fun job hjob => .inl hjob
    rw [hrun]
    exact { hr with
      stores := fun s' h l hl => by
        rw [board_setBoard] at hl
        split at hl
        · cases hl
        · exact hl
      -- the new session waits for nothing yet
      replies := fun s' => by
        rw [board_setBoard]
        split
        · next heq => exact .inr ⟨Nat.le_of_eq heq.symm, rfl⟩
        · exact .inl rfl }
  · rw [hrun]
    exact .withFailure n failure

/-- A listener for storages was parked and taken back. -/
private theorem taken (n : Network) (s : SessionId)
    {t : HandleTable (StorageListener Surroundings Effect)}
    (ht : (t.remove h).entries = (n.board s).storages.entries)
    (failure : Option ArrangedFailure) :
    Idles n (Session.take .storages s h
      (Session.withRouter (Session.withTable n .storages s t) { n.router with failure })) := by
  -- the storage was parked and taken out again, so only the counter has moved
  have hboard : ∀ s', (Session.take .storages s h (Session.withRouter
      (Session.withTable n .storages s t) { n.router with failure })).board s' =
      if s' = s then { n.board s with storages := t.remove h } else n.board s' := by
    intro s'
    have hparked : (Session.withRouter (Session.withTable n .storages s t)
        { n.router with failure }).board s = { n.board s with storages := t } := by
      rw [Session.withRouter_board, board_withStorages, if_pos rfl]
    rw [take_eq, board_withStorages, hparked]
    split
    · rfl
    · next hne => rw [Session.withRouter_board, board_withStorages, if_neg hne]
  refine { Idles.refl n with stores := fun s' k l hl => ?_, replies := fun s' => .inl ?_ }
  · rw [hboard] at hl
    split at hl
    · next heq =>
      dsimp only at hl
      rw [ht] at hl
      exact heq ▸ hl
    · exact hl
  · rw [hboard]
    split
    · next heq => rw [heq]
    · rfl

end Idles

/-! ## Memory storages -/

/-- Who waits is read off the tables of pending queries and the queue. -/
private theorem Asking.sameReplies (ha : Asking [] queries n)
    (hb : ∀ s, (n'.board s).replies = (n.board s).replies)
    (hn : n'.router.nextSession = n.router.nextSession)
    (hq : n'.router.queue = n.router.queue) (hle : ∀ s, queries s ≤ queries' s) :
    Asking [] queries' n' where
  only s h l hl := ha.only s h l (hb s ▸ hl)
  capacity s := hb s ▸ ha.capacity s
  next_le s := hb s ▸ Nat.le_trans (ha.next_le s) (hle s)
  asked q hmem := by
    obtain ⟨hlt, hh⟩ := ha.asked q (hq ▸ hmem)
    exact ⟨hn ▸ hlt, hb q.querier ▸ hh⟩

/-- A listener with a store of its own is parked under a handle at which nobody has heard
anything. -/
structure Founded (s : SessionId) (h : Handle) (log : List Event) (n n' : Network) : Prop where
  parks : ((n.board s).storages).Parks (MemoryStorage.listener n.nextStore) h
    (n'.board s).storages
  others : ∀ s', s' ≠ s → (n'.board s').storages = (n.board s').storages
  unheard : heardBy .storages s h log = []
  nextStore : n'.nextStore = n.nextStore + 1
  memories : n'.around.memories = n.around.memories

namespace Founded

/-- A storage that is parked is the new one, or was parked before. -/
private theorem stores_cases (hf : Founded s h log n n') {s' : SessionId} {h' : Handle}
    {l : StorageListener Surroundings Effect}
    (hl : (n'.board s').storages.entries.find? h' = some l) :
    (s' = s ∧ h' = h ∧ l = MemoryStorage.listener n.nextStore) ∨
      (n.board s').storages.entries.find? h' = some l := by
  by_cases hs : s' = s
  · subst hs
    rw [hf.parks.find?] at hl
    split at hl
    · next heq => exact .inl ⟨rfl, heq, (Option.some.inj hl).symm⟩
    · exact .inr hl
  · rw [hf.others s' hs] at hl
    exact .inr hl

/-- With the new storage the network is still plain. -/
private theorem plain (hf : Founded s h log n n') (hp : Plain n) (hsub : n'.router.subscribers = [])
    (heval : n'.router.evals = []) (hparked : n'.parked = [])
    (hqueue : n'.router.queue = n.router.queue) : Plain n' where
  subscribers := hsub
  evals := heval
  parked := hparked
  stores s' h' l hl := by
    rw [hf.nextStore]
    rcases hf.stores_cases hl with ⟨-, -, rfl⟩ | hl
    · exact ⟨n.nextStore, Nat.lt_succ_self _, rfl⟩
    · obtain ⟨id, hid, heq⟩ := hp.stores s' h' l hl
      exact ⟨id, Nat.lt_succ_of_lt hid, heq⟩
  distinct {s₁ h₁ s₂ h₂ id} hs₁ hs₂ := by
    -- the number of the new store is that of no store before
    have hnew : ∀ {s' h'}, n.Stores s' h' id → id ≠ n.nextStore := by
      intro s' h' hs'
      obtain ⟨id', hlt, heq⟩ := hp.stores s' h' _ hs'
      exact MemoryStorage.listener_injective heq ▸ Nat.ne_of_lt hlt
    rcases hf.stores_cases hs₁ with ⟨rfl, rfl, heq₁⟩ | hold₁
    · rcases hf.stores_cases hs₂ with ⟨rfl, rfl, -⟩ | hold₂
      · exact ⟨rfl, rfl⟩
      · exact absurd (MemoryStorage.listener_injective heq₁) (hnew hold₂)
    · rcases hf.stores_cases hs₂ with ⟨-, -, heq₂⟩ | hold₂
      · exact absurd (MemoryStorage.listener_injective heq₂) (hnew hold₁)
      · exact hp.distinct hold₁ hold₂
  unused id hid := by
    rw [hf.nextStore] at hid
    rw [hf.memories]
    exact hp.unused id (Nat.le_of_succ_le hid)
  jobs := hqueue ▸ hp.jobs

/-- With the new storage every memory still holds what its storage has heard. -/
private theorem remembers (hf : Founded s h log n n') (hp : Plain n) (hr : Remembers log n) :
    Remembers log n' := by
  intro s' h' id hs'
  rw [memory, hf.memories]
  rcases hf.stores_cases hs' with ⟨rfl, rfl, heq⟩ | hold
  · -- the new store is empty, and the new storage has heard nothing
    obtain rfl := MemoryStorage.listener_injective heq
    rw [hp.unused _ (Nat.le_refl _), hf.unheard]
    rfl
  · exact hr s' h' id hold

end Founded

/-- What is known of the handles of storages in a run. -/
structure Known (log : List Event) (n : Network) : Prop where
  tidy : Desk.Tidy .storages log (n.desk .storages)
  heard_lt : ∀ s h x script, .heard .storages s h x script ∈ log →
    h < ((n.desk .storages).table s).next

/-- Nobody has heard anything under the handle that comes next. -/
private theorem Known.heardBy_next (hk : Known log n) (s : SessionId) :
    heardBy .storages s ((n.desk .storages).table s).next log = [] := by
  refine List.filterMap_eq_nil_iff.2 fun e he => ?_
  cases e with
  | heard a s' h x script =>
    refine if_neg ?_
    rintro ⟨rfl, rfl, hh⟩
    exact Nat.lt_irrefl _ (hh ▸ hk.heard_lt s' h x script he)
  | _ => rfl

/-- The network with the next store, in which the listener of a memory storage is parked. -/
def withNextStore (n : Network) : Network := { n with nextStore := n.nextStore + 1 }

/-- To name the next memory leaves those alone who wait. -/
private theorem idles_withNextStore (n : Network) : Idles n n.withNextStore :=
  { Idles.refl n with nextStore := Nat.le_succ _ }

/-- The listener of a memory storage is declared as that of any storage. -/
private theorem declareMemory_run (s : SessionId) (sel : Selector) (n : Network) :
    (MemoryStorage.declare s sel).run n =
      (((Session.declare .storages s "DeclareStorage" sel.path
          (MemoryStorage.listener n.nextStore)
          (Router.declareStorage s sel.path)).run n.withNextStore).1.map
            fun h => ⟨s, ⟨h, sel⟩, n.nextStore⟩,
        ((Session.declare .storages s "DeclareStorage" sel.path
          (MemoryStorage.listener n.nextStore)
          (Router.declareStorage s sel.path)).run n.withNextStore).2) := by
  rw [MemoryStorage.declare_run, Session.declareStorage, Computation.run_bind_pure,
    Computation.map_map]
  rfl

/-- A memory storage that the router has accepted. -/
private theorem Known.founded (hk : Known log n)
    {t : HandleTable (StorageListener Surroundings Effect)}
    (expression : String) {declared : String} {mode : SubMode}
    {does : DataListener Surroundings Effect}
    (hreg : (n.board s).storages.register (MemoryStorage.listener n.nextStore) = .ok (h, t))
    (hfew : Desk.FewDeclarations .storages
      (log ++ [.declared .storages s h declared mode does])) :
    Founded s h log n (Session.withRouter (Session.withTable n.withNextStore .storages s t)
      { n.router with storages := n.router.storages ++ [⟨s, h, expression⟩] }) where
  parks := by
    rw [Session.withRouter_board, Idles.board_withStorages, if_pos rfl]
    exact HandleTable.parks_of_register hreg
  others s' hs' := by
    rw [Session.withRouter_board, Idles.board_withStorages, if_neg hs']
    rfl
  -- a handle in its first round was not heard under before
  unheard := by
    obtain ⟨rfl, -⟩ := hk.tidy.register (s := s) (by simp [Event.isDeclaration]) hfew hreg
    exact hk.heardBy_next s
  nextStore := rfl
  memories := rfl

/-- A memory storage is declared, or refused. -/
private theorem Resting.declareMemory (hn : Resting queries log n) (hk : Known log n)
    (s : SessionId)
    (sel : Selector)
    (hfew : Desk.FewDeclarations .storages (log ++ Operation.log (.declareMemory s sel) n))
    (hle : ∀ s, queries s ≤ queries' s) :
    Resting queries' (log ++ Operation.log (.declareMemory s sel) n)
      (Operation.run (.declareMemory s sel) n) := by
  have hop : ∀ h, Router.EndsIn (Router.declareStorage s sel.path h) n.router fun r =>
      r = { n.router with storages := n.router.storages ++ [⟨s, h, sel.path⟩] } := fun h =>
    .of_cases (Router.declareStorage_cases s sel.path h n.router) rfl
  simp only [Operation.log, Operation.run] at hfew ⊢
  rw [declareMemory_run] at hfew ⊢
  rcases Session.declare_cases .storages s "DeclareStorage" sel.path
    (MemoryStorage.listener n.nextStore) (Router.declareStorage s sel.path) n.withNextStore with
    ⟨h, t, r, -, hreg, hok, hrun⟩ | ⟨h, t, fault, r, e, -, hreg, herr, hrun⟩ | ⟨e, hrun⟩
  · rw [hrun] at hfew ⊢
    obtain rfl := (hop h).of_run_ok hok
    have hf : Founded s h log n _ := hk.founded sel.path hreg hfew
    refine ⟨hf.plain hn.plain hn.plain.subscribers hn.plain.evals hn.plain.parked rfl,
      (hf.remembers hn.plain hn.remembers).append fun _ _ => rfl,
      hn.asking.sameReplies (fun s' => ?_) rfl rfl hle⟩
    rw [Session.withRouter_board, Idles.board_withStorages]
    split
    · next heq => rw [heq]; rfl
    · rfl
  · rw [hrun]
    obtain ⟨failure, rfl⟩ := (hop h).of_run_error herr
    -- the listener that was parked is gone again
    have hi := Idles.taken n.withNextStore s
      (HandleTable.parks_of_register hreg).entries_remove failure
    exact hn.idles (n.idles_withNextStore.trans hi) hle fun _ _ => rfl
  · rw [hrun]
    exact hn.idles n.idles_withNextStore hle fun _ _ => rfl

/-! ## Operations -/

/-- What happens in an operation with which nothing is heard: at most a path was written. -/
structure Told (log : List Event) : Prop where
  unheard : ∀ s h, heardBy .storages s h log = []
  written : ∀ x ∈ writes log, x.IsWritten

theorem Told.nil : Told [] := ⟨fun _ _ => rfl, fun _ hx => absurd hx List.not_mem_nil⟩

/-- A call that is refused tells nothing. -/
private theorem Told.okLog (ht : Told log) {β : Type} (result : Except Error β) :
    Told (Operation.okLog log result) := by
  cases result with
  | ok b => exact ht
  | error e => exact .nil

/-- A write that is accepted tells of one sample, which has a time stamp. -/
private theorem Told.accepted (n : Network) (path : Path) (payload : Bytes) (e : Encoding)
    (kind : ChangeKind) : Told (n.acceptedLog path.text payload e kind) where
  unheard _ _ := rfl
  written := List.forall_mem_singleton.2 ⟨path, payload, _, e, kind, rfl⟩

/-- A workspace that writes tells of what it has written. -/
private theorem Told.writeLog (w : Workspace) (p : Path) (payload : Bytes) (e : Encoding)
    (kind : ChangeKind) (n : Network) : Told (Operation.writeLog w p payload e kind n) := by
  unfold Operation.writeLog
  split
  · exact .accepted n _ payload e kind
  · exact .nil

/-- Quiet events are no writes. -/
private theorem written_of_quiet (hlog : ∀ e ∈ log, e.isQuiet = true) :
    ∀ x ∈ writes log, x.IsWritten := by
  rw [writes_of_quiet hlog]
  exact fun x hx => absurd hx List.not_mem_nil

/-- One delivery. -/
private theorem Resting.deliver (hn : Resting queries log n) (hle : ∀ s, queries s ≤ queries' s) :
    Resting queries' (log ++ n.deliverNextLog) n.deliverNext ∧
      ∀ x ∈ writes n.deliverNextLog, x.IsWritten := by
  cases hq : n.router.queue with
  | nil =>
    have hnothing : n.deliverNext = n ∧ n.deliverNextLog = [] := by
      rw [deliverNext, deliverNextLog, hq]
      exact ⟨rfl, rfl⟩
    rw [hnothing.1, hnothing.2]
    exact ⟨hn.idles (.refl n) hle fun _ _ => rfl, Told.nil.written⟩
  | cons job rest =>
    -- between the operations nobody waits for replies
    have hwaits : ∀ q, job = .query q → Waits n q none := fun q _ => by
      rw [Waits, hn.asking.find?_eq_none List.not_mem_nil]
      rfl
    have hdelivered := hn.plain.deliverNext hn.remembers hq hwaits
    have hqueue : ∀ q, .query q ∈ n.deliverNext.router.queue → .query q ∈ n.router.queue := by
      intro q hmem
      rw [hdelivered.queue] at hmem
      rw [hq]
      exact List.mem_cons_of_mem _ hmem
    have hasking := hn.asking.keeps n.evolves_deliverNext.keeps hqueue
    have hmore := hasking.within (fun _ => .refl _) (Nat.le_refl _) (fun _ hq => hq) hle
    exact ⟨⟨hdelivered.plain, hdelivered.remembers, hmore⟩, written_of_quiet hdelivered.quiet⟩

/-- An operation leaves the stores as what their storages have heard, and nobody waiting. -/
theorem Resting.run (hn : Resting queries log n) (ho : Orderly n) (hk : Known log n)
    {op : Operation} (hop : op.isPlain = true)
    (hfew : Desk.FewDeclarations .storages (log ++ op.log n))
    (hle : ∀ s, queries s ≤ queries' s)
    (hmore : ∀ s, op.asks s = true → queries s + 1 ≤ queries' s)
    (hquery : ∀ s, queries' s < HandleTable.defaultCapacity) :
    Resting queries' (log ++ op.log n) (op.run n) ∧ ∀ x ∈ writes (op.log n), x.IsWritten := by
  -- most operations leave those alone who wait, and tell of nothing but writes
  have hidle : Idles n (op.run n) → Told (op.log n) →
      Resting queries' (log ++ op.log n) (op.run n) ∧ ∀ x ∈ writes (op.log n), x.IsWritten :=
    fun hi ht => ⟨hn.idles hi hle ht.unheard, ht.written⟩
  have hp := hn.plain
  cases op with
  | showWall wall => exact hidle { Idles.refl n with } .nil
  | failNext count code name => exact hidle (.withFailure n _) .nil
  | stampReplies on => exact hidle { Idles.refl n with } .nil
  | letGo sessions workspaces => exact hidle (.letGo n sessions workspaces) .nil
  | deliver => exact hn.deliver hle
  | openSession locator properties => exact hidle (.openSession hp locator properties) .nil
  | close s =>
    have ht : Told [.closed s] := ⟨fun _ _ => rfl, Told.nil.written⟩
    exact hidle (.close hp s) (ht.okLog _)
  | write s path payload e kind =>
    exact hidle (.write hp s path payload e kind) ((Told.accepted n path payload e kind).okLog _)
  | undeclareStorage s storage =>
    have ht : Told [.undeclared .storages s storage.handle] :=
      ⟨fun _ _ => rfl, Told.nil.written⟩
    exact hidle (.undeclareStorage hp s storage) (ht.okLog _)
  | declareMemory s sel =>
    refine ⟨hn.declareMemory hk s sel hfew hle, ?_⟩
    dsimp only [Operation.log]
    unfold Operation.declareLog
    split <;> exact Told.nil.written
  | put w p v => exact hidle (.workspaceWrite hp w p _ _ _) (.writeLog w p _ _ _ n)
  | update w p v => exact hidle (.workspaceWrite hp w p _ _ _) (.writeLog w p _ _ _ n)
  | remove w p => exact hidle (.workspaceWrite hp w p _ _ _) (.writeLog w p _ _ _ n)
  | get w limit sel =>
    obtain ⟨hresting, hquiet, -⟩ :=
      hn.get_cases ho w limit sel hle (hmore w.session (beq_self_eq_true _)) (hquery w.session)
    exact ⟨hresting, written_of_quiet hquiet⟩
  | answerParked | declareSubscriber | undeclareSubscriber | pull | declareStorage | declareEval
  | undeclareEval | query | cancelQuery | subscribe | unsubscribe => cases hop

/-! ## Runs -/

/-- An empty network is at rest. -/
private theorem resting_start (wall : Instant) (clock : ClockId) (codecs : CodecTable) :
    Resting (fun _ => 0) [] (start wall clock codecs) where
  plain := {
    subscribers := rfl
    evals := rfl
    parked := rfl
    stores := fun s h l hl => by cases hl
    distinct := fun hs => by cases hs
    unused := fun _ _ => rfl
    jobs := fun job hjob => absurd hjob List.not_mem_nil }
  remembers s h id hs := by cases hs
  asking := {
    only := fun s h l hl => by cases hl
    capacity := fun _ => rfl
    next_le := fun _ => Nat.zero_le _
    asked := fun q hq => absurd hq List.not_mem_nil }

/-- Whatever is done with memory storages, the stores hold what their storages have heard, and
between the operations nobody waits for replies. -/
theorem resting_runAll (wall : Instant) (clock : ClockId) (codecs : CodecTable)
    {ops : List Operation} (hplain : ∀ op ∈ ops, op.isPlain = true)
    (hfew : Desk.FewDeclarations .storages ((start wall clock codecs).runLog ops))
    (hquery : ∀ s, ops.countP (·.asks s) < HandleTable.defaultCapacity) :
    Resting (fun s => ops.countP (·.asks s)) ((start wall clock codecs).runLog ops)
        ((start wall clock codecs).runAll ops) ∧
      ∀ x ∈ writes ((start wall clock codecs).runLog ops), x.IsWritten := by
  have hstart := Orderly.start wall clock codecs
  -- the induction takes the last operation away, so that the log of the others is its past
  induction ops using List.reverseRecOn with
  | nil => exact ⟨resting_start wall clock codecs, Told.nil.written⟩
  | append_singleton ops op ih =>
    obtain ⟨hinit, hlast⟩ := List.forall_mem_append.1 hplain
    have hop := List.forall_mem_singleton.1 hlast
    have hcount : ∀ s, (ops ++ [op]).countP (·.asks s) =
        ops.countP (·.asks s) + if op.asks s = true then 1 else 0 := by
      intro s
      rw [List.countP_append, List.countP_singleton]
    have hle : ∀ s, ops.countP (·.asks s) ≤ (ops ++ [op]).countP (·.asks s) := by
      intro s
      rw [hcount]
      exact Nat.le_add_right _ _
    have hmore : ∀ s, op.asks s = true →
        ops.countP (·.asks s) + 1 ≤ (ops ++ [op]).countP (·.asks s) := by
      intro s hs
      rw [hcount, if_pos hs]
    have hlog : (start wall clock codecs).runLog (ops ++ [op]) =
        (start wall clock codecs).runLog ops ++
          op.log ((start wall clock codecs).runAll ops) := by
      rw [runLog_append, runLog, runLog, List.append_nil]
    have hnet : (start wall clock codecs).runAll (ops ++ [op]) =
        op.run ((start wall clock codecs).runAll ops) := by
      rw [runAll_append]
      rfl
    rw [hlog] at hfew
    have hfew₁ : Desk.FewDeclarations .storages ((start wall clock codecs).runLog ops) :=
      hfew.of_prefix (List.prefix_append _ _)
    obtain ⟨hresting, hwritten⟩ := ih hinit hfew₁ fun s => Nat.lt_of_le_of_lt (hle s) (hquery s)
    have hgoes := goes_runAll (b := .storages) hstart ops
    have htidy := tidy_start wall clock codecs .storages
    have hknown : Known ((start wall clock codecs).runLog ops)
        ((start wall clock codecs).runAll ops) :=
      ⟨htidy.moves hgoes hfew₁, fun s h x script =>
        Desk.heard_lt_of_moves hgoes htidy hfew₁⟩
    have horderly := hstart.runAll ops
    rw [hlog, hnet]
    obtain ⟨hrest, hnew⟩ := hresting.run horderly hknown hop hfew hle hmore hquery
    refine ⟨hrest, ?_⟩
    rw [writes, List.filterMap_append]
    exact List.forall_mem_append.2 ⟨hwritten, hnew⟩

end Network

end PathSpace
