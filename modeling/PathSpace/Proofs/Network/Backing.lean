import PathSpace.Proofs.Network.Agreement
import PathSpace.Proofs.Network.Refusals
/-!
# What workspaces rely on

A workspace relies on what it remembers: while its session is open, the listener is parked and
declared, and no other workspace goes by the same handle.  This does not depend on how often the
registries have been asked.  A handle may be given out again, but only when nobody relies on it
any more.

## Key results

- `Books.Backs`: a listener is parked and declared
- `Books.Retains`, `Books.Grants`: nothing goes, and one listener comes
- `Network.handled_chore`: what can come of a call of a workspace
- `Site.Backed.run`: a call keeps what workspaces rely on
- `Site.backed_runAll`: they can rely on it after every run in which nobody else takes it back
-/

namespace PathSpace

open PathSpace.Computation

/-! ## Books -/

namespace Books

variable {b b' : Books} {role role' : Role} {s s' : SessionId} {h h' : Handle}

/-- A listener is parked under a handle, and declared. -/
structure Backs (b : Books) (role : Role) (s : SessionId) (h : Handle) : Prop where
  inUse : (b.tally role s).inUse h = true
  declared : ∃ d ∈ b.declared role, d.session = s ∧ d.handle = h

/-- No session is opened or closed, and no listener goes. -/
structure Retains (b b' : Books) : Prop where
  isClosed : b'.isClosed = b.isClosed
  nextSession : b'.nextSession = b.nextSession
  backs : ∀ role s h, b.Backs role s h → b'.Backs role s h

/-- A session that is open gets one listener more, under a handle that was free. -/
structure Grants (b : Books) (role : Role) (s : SessionId) (h : Handle) (b' : Books) : Prop
    extends b.Retains b' where
  isOpen : b.isClosed s = false
  free : (b.tally role s).inUse h = false
  granted : b'.Backs role s h

theorem Retains.of_eq (h : b' = b) : b.Retains b' := h ▸ ⟨rfl, rfl, fun _ _ _ => id⟩

/-- What is taken back under one handle still backs the others. -/
theorem Backs.leave (hb : b.Backs role s h) (hne : ¬ (role = role' ∧ s = s' ∧ h = h')) :
    (b.leave role' s' h').Backs role s h where
  inUse := (inUse_leave ..).2 ⟨hb.inUse, hne⟩
  declared := by
    obtain ⟨d, hd, rfl, rfl⟩ := hb.declared
    exact ⟨d, (mem_leave ..).2 ⟨hd, hne⟩, rfl, rfl⟩

/-- What is closed for one session still backs the others. -/
private theorem Backs.close (hb : b.Backs role s h) (hne : s ≠ s') :
    (b.close s').Backs role s h where
  inUse := hb.inUse
  declared := by
    obtain ⟨d, hd, rfl, rfl⟩ := hb.declared
    exact ⟨d, (mem_close ..).2 ⟨hd, hne⟩, rfl, rfl⟩

/-- A new session backs what was backed before. -/
private theorem Backs.opened (hb : b.Backs role s h) (hne : s ≠ b.nextSession) :
    b.opened.Backs role s h where
  inUse := by simpa [Books.opened, hne] using hb.inUse
  declared := hb.declared

/-- A listener that is parked and declared leaves the others where they are. -/
private theorem grants_of_parked {t : Tally} (hopen : b.isClosed s = false)
    (hfree : (b.tally role s).inUse h = false)
    (ht : ∀ h', t.inUse h' = (h' == h || (b.tally role s).inUse h')) (expression : String) :
    b.Grants role s h
      ((b.setTally role s t).setDeclared role (b.declared role ++ [⟨s, h, expression⟩])) where
  isClosed := rfl
  nextSession := rfl
  isOpen := hopen
  free := hfree
  granted := ⟨by simp [setDeclared, setTally, ht], by simp [setDeclared]⟩
  -- what was backed before still is: nothing was taken away
  backs role' s' h' hb := by
    obtain ⟨d, hd, hkey⟩ := hb.declared
    constructor
    · have hin := hb.inUse
      unfold setDeclared setTally
      dsimp only
      split
      · next heq =>
        obtain ⟨rfl, rfl⟩ := heq
        rw [ht, hin, Bool.or_true]
      · exact hin
    · refine ⟨d, ?_, hkey⟩
      unfold setDeclared
      dsimp only
      split
      · next heq =>
        subst heq
        exact List.mem_append_left _ hd
      · exact hd

end Books

/-! ## Calls of a session -/

namespace Network

variable {n n' m : Network} {role : Role} {s : SessionId} {h : Handle} {w : Workspace}

/-- A call that fails takes no listener away. -/
private theorem Unmoved.retains (hu : n.Unmoved n') : n.books.Retains n'.books := by
  obtain ⟨failure, hrouter⟩ := hu.router
  -- the counters may have moved, but what is parked is the same
  have hentries : ∀ (role : Role) s,
      (n'.registry role s).entries = (n.registry role s).entries := by
    intro role s
    have hsame := hu.board s
    cases role with
    | subscriber => exact hsame.subscribers
    | storage => exact hsame.storages
    | eval => exact hsame.evals
  refine ⟨?_, ?_, fun role s h hb => ⟨?_, ?_⟩⟩
  · show n'.router.isClosed = n.router.isClosed
    rw [hrouter]
    rfl
  · show n'.router.nextSession = n.router.nextSession
    rw [hrouter]
  · have hin : (n.registry role s).contains h = true := hb.inUse
    show (n'.registry role s).contains h = true
    rwa [HandleTable.contains, hentries]
  · have hdeclared : role.declared n'.router = role.declared n.router := by
      rw [hrouter]
      cases role <;> rfl
    show ∃ d ∈ role.declared n'.router, _
    rw [hdeclared]
    exact hb.declared

/-- The handle of a listener that is declared was free. -/
private theorem grants_declare {operation resource expression : String} {listener : role.Listener}
    {op : Handle → Routing Unit} (hop : Declares role s expression op)
    (hok : (Session.declare role.tray s operation resource listener op).run n = (.ok h, m)) :
    n.books.Grants role s h m.books := by
  rcases Session.declare_cases role.tray s operation resource listener op n with
    ⟨h₁, t, r, hopen, hreg, hrouter, hrun⟩ | ⟨h₁, t, fault, r, e, -, -, -, hrun⟩ | ⟨e, hrun⟩
  · rw [hok, Prod.mk.injEq, Except.ok.injEq] at hrun
    obtain ⟨rfl, rfl⟩ := hrun
    -- accepted: the listener was parked under a handle that was free
    have hparks := HandleTable.parks_of_register hreg
    have hr := (hop.endsIn _ n.router).of_run_ok hrouter
    rw [books_redeclared (n := Session.withTable n role.tray s t) hr, books_withTable]
    refine Books.grants_of_parked hopen ?_ hparks.contains expression
    show (n.registry role s).contains h = false
    rw [HandleTable.contains, SortedMap.contains_eq_isSome]
    exact congrArg Option.isSome hparks.free
  · rw [hok, Prod.mk.injEq] at hrun
    cases hrun.1
  · rw [hok, Prod.mk.injEq] at hrun
    cases hrun.1

/-- A subscriber that is declared is granted. -/
private theorem grants_declareSubscriber {sel : Selector} {mode : SubMode}
    {l : DataListener Surroundings Effect} {sub : Subscriber}
    (hok : (Session.declareSubscriber s sel mode l).run n = (.ok sub, m)) :
    n.books.Grants .subscriber s sub.handle m.books := by
  obtain ⟨h, hdeclare, rfl⟩ := exists_of_run_bind_pure hok
  exact grants_declare (declares_subscriber s sel.path mode) hdeclare

/-- A storage that is declared is granted. -/
private theorem grants_declareStorage {sel : Selector} {l : StorageListener Surroundings Effect}
    {st : Storage} (hok : (Session.declareStorage s sel l).run n = (.ok st, m)) :
    n.books.Grants .storage s st.handle m.books := by
  obtain ⟨h, hdeclare, rfl⟩ := exists_of_run_bind_pure hok
  exact grants_declare (declares_storage s sel.path) hdeclare

/-- An eval that is declared is granted, and has the path it was declared with. -/
private theorem grants_declareEval {path : Path} {l : QueryListener Surroundings Effect} {ev : Eval}
    (hok : (Session.declareEval s path l).run n = (.ok ev, m)) :
    n.books.Grants .eval s ev.handle m.books ∧ ev.path = path := by
  obtain ⟨h, hdeclare, rfl⟩ := exists_of_run_bind_pure hok
  exact ⟨grants_declare (declares_eval s path.text) hdeclare, rfl⟩

/-- Whatever is declared is granted, and its token stands for it. -/
private theorem grants_offer {offer : Offer} {token : Token}
    (hok : (offer.declare s).run n = (.ok token, m)) :
    n.books.Grants token.role s token.handle m.books := by
  cases offer with
  | subscriber sel mode l =>
    obtain ⟨sub, hdeclare, rfl⟩ := exists_of_run_bind_pure hok
    exact grants_declareSubscriber hdeclare
  | storage sel l =>
    obtain ⟨st, hdeclare, rfl⟩ := exists_of_run_bind_pure hok
    exact grants_declareStorage hdeclare
  | memory sel =>
    obtain ⟨memory, hmemory, rfl⟩ := exists_of_run_bind_pure hok
    obtain ⟨st, hdeclare, rfl⟩ := exists_of_run_bind_pure hmemory
    exact grants_declareStorage (n := { n with nextStore := n.nextStore + 1 }) hdeclare
  | eval path l =>
    obtain ⟨ev, hdeclare, rfl⟩ := exists_of_run_bind_pure hok
    exact (grants_declareEval hdeclare).1

/-- A call that was refused takes no listener away. -/
private theorem retains_of_error {α : Type} {act : Action α} {e : Error}
    (hunmoved : ∀ e, (act.run n).1 = .error e → n.Unmoved (act.run n).2)
    (hrun : act.run n = (.error e, m)) : n.books.Retains m.books := by
  have hstill := hunmoved e (by rw [hrun])
  rw [hrun] at hstill
  exact hstill.retains

/-- What a session declares takes nothing away, whether the router agrees or not. -/
private theorem retains_offer (offer : Offer) :
    n.books.Retains ((offer.declare s).run n).2.books := by
  rcases hrun : (offer.declare s).run n with ⟨e | token, m⟩
  · exact retains_of_error (fun _ => unmoved_offer s offer) hrun
  · exact (grants_offer hrun).toRetains

end Network

/-! ## Calls of a workspace -/

namespace Workspace

variable {w : Workspace}

/-- Below a root that is absolute there are no relative evals. -/
def Rooted (w : Workspace) : Prop :=
  w.root.isRelative = false → ∀ ev, w.Holds (.eval ev) → ev.path.isRelative = false

/-- Whatever is placed under an absolute root is absolute. -/
private theorem isRelative_of_absolutePath {p q : Path} (hroot : w.root.isRelative = false)
    (hq : w.absolutePath p = .ok q) : q.isRelative = false := by
  rw [absolutePath] at hq
  -- an absolute path is taken as it is, a relative one goes under the root
  cases hp : p.isRelative with
  | false =>
    rw [hp, if_neg Bool.false_ne_true] at hq
    rwa [← Except.ok.inj hq]
  | true =>
    rw [hp, if_pos rfl] at hq
    obtain ⟨q', hq', htext⟩ := p.exists_under w.root
    obtain rfl := Except.ok.inj (hq.symm.trans hq')
    rw [Path.isRelative, htext, Path.head?_canonical, List.head?_append_of_ne_nil _ w.root.nonempty]
    exact hroot

end Workspace

namespace Network

variable {n : Network} {w : Workspace}

/-- What can come of a call of a workspace, however often its registries have been asked. -/
inductive Handled (w : Workspace) (n : Network) :
    Except Error (Workspace × Option Token) × Network → Prop
  | got (token : Token) (w' : Workspace) (m : Network)
      (hgrants : n.books.Grants token.role w.session token.handle m.books)
      (hgets : w.Gets token w') (hrooted : w.Rooted → w'.Rooted) :
      Handled w n (.ok (w', some token), m)
  | gave (token : Token) (w' : Workspace) (m : Network)
      (hbooks : m.books = n.books.leave token.role w.session token.handle)
      (hgives : w.Gives token w') (hrooted : w.Rooted → w'.Rooted) : Handled w n (.ok (w', none), m)
  | failed (e : Error) (m : Network) (hretains : n.books.Retains m.books) :
      Handled w n (.error e, m)

/-- A token is given up when the declaration has been taken back. -/
private theorem handled_gives {token : Token} {w' : Workspace} (hgives : w.Gives token w')
    (hroot : w'.root = w.root) :
    Handled w n (((token.undeclare w.session).run n).1.map fun _ => (w', none),
      ((token.undeclare w.session).run n).2) := by
  have htaken := takenBack_token (n := n) (s := w.session) token
  generalize (token.undeclare w.session).run n = result at htaken ⊢
  cases htaken with
  | done m hopen hbooks =>
    refine .gave token w' m hbooks hgives fun hrooted habsolute ev hev => ?_
    exact hrooted (hroot ▸ habsolute) ev (hgives.holds _ hev).2
  | kept e m hbooks => exact .failed e m (.of_eq hbooks)

/-- To subscribe gets a token, or fails, and what was backed still is. -/
private theorem handled_subscribe (sel : Selector) (l : List Change → Script Effect) :
    Handled w n (((Chore.subscribe sel l).perform w).run n) := by
  rw [Chore.perform_subscribe]
  rcases hrun : (Session.declareSubscriber w.session (w.absoluteSelector sel) .push
    (Workspace.changeListener w.delivery l)).run n with ⟨e | sub, m⟩
  · exact .failed e m (retains_of_error (fun _ => unmoved_declareSubscriber _ _ _ _) hrun)
  · exact .got (.subscriber sub) _ m (grants_declareSubscriber hrun) (w.gets_subscription sub)
      fun hrooted => hrooted

/-- To end a subscription gives its token up, or fails, and what was backed still is. -/
private theorem handled_unsubscribe (hw : w.Keyed) (h : Handle) :
    Handled w n (((Chore.unsubscribe h).perform w).run n) := by
  rw [Chore.perform_unsubscribe]
  cases hsub : w.subscriptions.find? h with
  | none => exact .failed _ n (.of_eq rfl)
  | some sub => exact handled_gives (hw.gives_subscription hsub) rfl

/-- To register an eval gets a token, or fails, and what was backed still is. -/
private theorem handled_registerEval (p : Path) (eval : Path → Properties → Evaluation) :
    Handled w n (((Chore.registerEval p eval).perform w).run n) := by
  rw [Chore.perform_registerEval]
  cases hp : w.absolutePath p with
  | error e => exact .failed e n (.of_eq rfl)
  | ok path =>
    dsimp only
    -- a path that has an eval already is refused before the router is asked
    by_cases hcontains : w.evals.contains path = true
    · rw [if_pos hcontains]
      exact .failed _ n (.of_eq rfl)
    · rw [if_neg hcontains]
      rcases hrun : (Session.declareEval w.session path
        (Workspace.evalListener w.delivery path eval)).run n with ⟨e | ev, m⟩
      · exact .failed e m (retains_of_error (fun _ => unmoved_declareEval _ _ _) hrun)
      · -- the path of the new eval is absolute, as those of the others
        obtain ⟨hgrants, rfl⟩ := grants_declareEval hrun
        refine .got (.eval ev) _ m hgrants (w.gets_eval ev) fun hrooted habsolute ev' hev' => ?_
        rcases (w.gets_eval ev).holds _ hev' with heq | hold
        · obtain rfl := Token.eval.inj heq
          exact Workspace.isRelative_of_absolutePath habsolute hp
        · exact hrooted habsolute ev' hold

/-- To unregister an eval gives its token up, or fails, and what was backed still is. -/
private theorem handled_unregisterEval (hw : w.Keyed) (p : Path) :
    Handled w n (((Chore.unregisterEval p).perform w).run n) := by
  rw [Chore.perform_unregisterEval]
  cases w.absolutePath p with
  | error e => exact .failed e n (.of_eq rfl)
  | ok path =>
    dsimp only
    cases hev : w.evals.find? path with
    | none => exact .failed _ n (.of_eq rfl)
    | some ev => exact handled_gives (hw.gives_eval hev) rfl

/-- Whatever a workspace is asked to do, one of three things comes of it. -/
theorem handled_chore (hw : w.Keyed) (chore : Chore) :
    Handled w n ((chore.perform w).run n) := by
  cases chore with
  | subscribe sel l => exact handled_subscribe sel l
  | unsubscribe h => exact handled_unsubscribe hw h
  | registerEval p eval => exact handled_registerEval p eval
  | unregisterEval p => exact handled_unregisterEval hw p

end Network

/-! ## Sites -/

/-- Nobody takes back by himself what a workspace relies on. -/
def Task.Spares (site : Site) : Task → Prop
  | .undeclare s token => ∀ w ∈ site.workspaces, w.session = s →
      ∀ t, w.Holds t → t.role = token.role → t.handle ≠ token.handle
  | .operate .. | .declare .. | .openWorkspace .. | .work .. => True

namespace Site

variable {site : Site}

/-- No call of a run takes back what a workspace relies on. -/
def Sparing : Site → List Task → Prop
  | _, [] => True
  | site, t :: rest => t.Spares site ∧ Sparing (t.run site) rest

/-- The workspace with the number `i` has a token of a session. -/
def Held (site : Site) (i : Nat) (s : SessionId) (t : Token) : Prop :=
  ∃ w, site.workspaces[i]? = some w ∧ w.session = s ∧ w.Holds t

/-- Every token in a workspace stands for a listener that is parked and declared while the session
is open, and for no other token's. -/
structure Backed (site : Site) : Prop where
  lt_of_open : ∀ s, site.network.books.isClosed s = false → s < site.network.books.nextSession
  keyed : ∀ w ∈ site.workspaces, w.Keyed
  rooted : ∀ w ∈ site.workspaces, w.Rooted
  known : ∀ i s t, site.Held i s t → s < site.network.books.nextSession
  backs : ∀ i s t, site.Held i s t → site.network.books.isClosed s = false →
    site.network.books.Backs t.role s t.handle
  apart : ∀ i j s t t', site.Held i s t → site.Held j s t' → t.role = t'.role →
    t.handle = t'.handle → i = j ∧ t = t'

/-- The network has gone on, and nothing that a workspace relies on has gone. -/
private theorem Backed.of_books (h : site.Backed) {n : Network}
    (hlt : ∀ s, n.books.isClosed s = false → s < n.books.nextSession)
    (hnext : site.network.books.nextSession ≤ n.books.nextSession)
    (hbacks : ∀ i s t, site.Held i s t → n.books.isClosed s = false →
      site.network.books.isClosed s = false ∧
        (site.network.books.Backs t.role s t.handle → n.books.Backs t.role s t.handle)) :
    Backed { site with network := n } where
  lt_of_open := hlt
  keyed := h.keyed
  rooted := h.rooted
  known i s t ht := Nat.lt_of_lt_of_le (h.known i s t ht) hnext
  backs i s t ht hopen := by
    obtain ⟨hopen', hstays⟩ := hbacks i s t ht hopen
    exact hstays (h.backs i s t ht hopen')
  apart := h.apart

/-- If the books retain all, the tokens are still backed. -/
private theorem Backed.retains (h : site.Backed) {n : Network}
    (hn : site.network.books.Retains n.books) : Backed { site with network := n } := by
  refine h.of_books (fun s hs => ?_) (Nat.le_of_eq hn.nextSession.symm) fun i s t _ hopen => ?_
  · rw [hn.nextSession]
    exact h.lt_of_open s (hn.isClosed ▸ hs)
  · exact ⟨hn.isClosed ▸ hopen, hn.backs t.role s t.handle⟩

/-- If a session is closed, the tokens of the others are still backed. -/
private theorem Backed.close (h : site.Backed) {n : Network} {s : SessionId}
    (hn : n.books = site.network.books.close s) : Backed { site with network := n } := by
  have hopen : ∀ s', n.books.isClosed s' = false →
      s' ≠ s ∧ site.network.books.isClosed s' = false := by
    intro s' hs'
    rw [hn] at hs'
    simpa [Books.close] using hs'
  refine h.of_books (fun s' hs' => ?_) (by rw [hn]; exact Nat.le_refl _) fun i s' t _ hs' => ?_
  · rw [hn]
    exact h.lt_of_open s' (hopen s' hs').2
  · exact ⟨(hopen s' hs').2, fun hb => hn ▸ hb.close (hopen s' hs').1⟩

/-- If a session is opened, the tokens are still backed. -/
private theorem Backed.opened (h : site.Backed) {n : Network}
    (hn : n.books = site.network.books.opened) :
    Backed { site with network := n } := by
  have hopen : ∀ s, s ≠ site.network.books.nextSession → n.books.isClosed s = false →
      site.network.books.isClosed s = false := by
    intro s hne hs
    rw [hn] at hs
    simpa [Books.opened, hne] using hs
  refine h.of_books (fun s hs => ?_) (by rw [hn]; exact Nat.le_succ _) fun i s t ht hs => ?_
  · rw [hn]
    by_cases heq : s = site.network.books.nextSession
    · exact heq ▸ Nat.lt_succ_self _
    · exact Nat.lt_succ_of_lt (h.lt_of_open s (hopen s heq hs))
  · -- a workspace that has a token is not one of the new session
    have hne : s ≠ site.network.books.nextSession := Nat.ne_of_lt (h.known i s t ht)
    exact ⟨hopen s hne hs, fun hb => hn ▸ hb.opened hne⟩

/-- A declaration was taken back that no workspace relies on. -/
private theorem Backed.leave (h : site.Backed) {n : Network} {s : SessionId} {token : Token}
    (hspared : ∀ i t, site.Held i s t → t.role = token.role → t.handle ≠ token.handle)
    (hn : n.books = site.network.books.leave token.role s token.handle) :
    Backed { site with network := n } := by
  refine h.of_books (fun s' hs' => ?_) (by rw [hn]; exact Nat.le_refl _) fun i s' t ht hs' => ?_
  · rw [hn] at hs' ⊢
    exact h.lt_of_open s' hs'
  · rw [hn] at hs' ⊢
    refine ⟨hs', fun hb => hb.leave ?_⟩
    rintro ⟨hrole, rfl, hhandle⟩
    exact hspared i t ht hrole hhandle

/-! ### Workspaces -/

/-- The tokens in the workspaces after one of them was replaced. -/
private theorem held_keep {i : Nat} {w w' : Workspace} {new : Option Token}
    (hw : site.workspaces[i]? = some w) (hsession : w'.session = w.session)
    (hnew : ∀ t, w'.Holds t → w.Holds t ∨ new = some t) {j : Nat} {s : SessionId} {t : Token}
    (ht : (site.keep i w' new).Held j s t) :
    site.Held j s t ∨ j = i ∧ s = w.session ∧ new = some t := by
  obtain ⟨w₁, hw₁, rfl, hholds⟩ := ht
  change (site.workspaces.set i w')[j]? = some w₁ at hw₁
  by_cases hji : j = i
  · subst hji
    obtain ⟨-, rfl⟩ : j < site.workspaces.length ∧ w' = w₁ := by
      simpa [List.getElem?_set] using hw₁
    exact (hnew t hholds).imp (fun hold => ⟨w, hw, hsession.symm, hold⟩) fun h => ⟨rfl, hsession, h⟩
  · rw [List.getElem?_set_ne (Ne.symm hji)] at hw₁
    exact .inl ⟨w₁, hw₁, rfl, hholds⟩

/-- A workspace was replaced by one that has nothing more than a token of its own. -/
private theorem Backed.keep (h : site.Backed) {i : Nat} {w w' : Workspace} {new : Option Token}
    (hw : site.workspaces[i]? = some w) (hsession : w'.session = w.session)
    (hkeyed : w.Keyed → w'.Keyed) (hrooted : w.Rooted → w'.Rooted)
    (hnew : ∀ t, w'.Holds t → w.Holds t ∨ new = some t)
    (hown : ∀ token, new = some token → w.session < site.network.books.nextSession ∧
      site.network.books.Backs token.role w.session token.handle ∧
      ∀ j t, site.Held j w.session t → t.role = token.role → t.handle ≠ token.handle) :
    (site.keep i w' new).Backed where
  lt_of_open := h.lt_of_open
  keyed w₁ hw₁ := by
    rcases List.mem_or_eq_of_mem_set hw₁ with hmem | rfl
    · exact h.keyed w₁ hmem
    · exact hkeyed (h.keyed w (List.mem_of_getElem? hw))
  rooted w₁ hw₁ := by
    rcases List.mem_or_eq_of_mem_set hw₁ with hmem | rfl
    · exact h.rooted w₁ hmem
    · exact hrooted (h.rooted w (List.mem_of_getElem? hw))
  known j s t ht := by
    rcases held_keep hw hsession hnew ht with hold | ⟨-, rfl, htoken⟩
    · exact h.known j s t hold
    · exact (hown t htoken).1
  backs j s t ht hopen := by
    rcases held_keep hw hsession hnew ht with hold | ⟨-, rfl, htoken⟩
    · exact h.backs j s t hold hopen
    · exact (hown t htoken).2.1
  apart j k s t t' ht ht' hrole hhandle := by
    -- either token may be the new one, and two new ones are the same
    rcases held_keep hw hsession hnew ht with hold | ⟨rfl, rfl, htoken⟩ <;>
      rcases held_keep hw hsession hnew ht' with hold' | ⟨rfl, hs, htoken'⟩
    · exact h.apart j k s t t' hold hold' hrole hhandle
    · subst hs
      exact absurd hhandle ((hown t' htoken').2.2 j t hold hrole)
    · exact absurd hhandle.symm ((hown t htoken).2.2 k t' hold' hrole.symm)
    · exact ⟨rfl, Option.some.inj (htoken.symm.trans htoken')⟩

/-- A workspace that got a token is backed, the new token included. -/
private theorem Backed.got (h : site.Backed) {i : Nat} {w w' : Workspace} {token : Token}
    {m : Network}
    (hw : site.workspaces[i]? = some w) (hgets : w.Gets token w')
    (hrooted : w.Rooted → w'.Rooted)
    (hgrants : site.network.books.Grants token.role w.session token.handle m.books) :
    (Site.keep i w' (some token) { site with network := m }).Backed := by
  refine (h.retains hgrants.toRetains).keep hw hgets.session hgets.keyed hrooted (fun t ht => ?_) ?_
  · exact (hgets.holds t ht).symm.imp_right fun heq => congrArg some heq.symm
  · rintro _ ⟨⟩
    refine ⟨?_, hgrants.granted, fun j t ht hrole hhandle => ?_⟩
    · show w.session < m.books.nextSession
      rw [hgrants.nextSession]
      exact h.lt_of_open w.session hgrants.isOpen
    · -- a handle that stands for a token is in use, and the new one was free
      have hin := (h.backs j w.session t ht hgrants.isOpen).inUse
      rw [hrole, hhandle, hgrants.free] at hin
      cases hin

/-- A workspace that gave a token up is backed with the others. -/
private theorem Backed.gave (h : site.Backed) {i : Nat} {w w' : Workspace} {token : Token}
    {m : Network}
    (hw : site.workspaces[i]? = some w) (hgives : w.Gives token w')
    (hrooted : w.Rooted → w'.Rooted)
    (hbooks : m.books = site.network.books.leave token.role w.session token.handle) :
    (Site.keep i w' none { site with network := m }).Backed := by
  have hheld : ∀ t, w'.Holds t → w.Holds t ∨ none = some t := fun t ht =>
    .inl (hgives.holds t ht).2
  have hkept := h.keep hw hgives.session hgives.keyed hrooted hheld nofun
  refine hkept.leave (fun j t ht hrole hhandle => ?_) hbooks
  rcases held_keep hw hgives.session hheld ht with hold | ⟨-, -, hnone⟩
  · -- the token that was given up was the only one for its handle
    obtain ⟨rfl, rfl⟩ := h.apart j i w.session t token hold ⟨w, hw, rfl, hgives.held⟩ hrole hhandle
    obtain ⟨w₁, hw₁, -, hholds⟩ := ht
    obtain ⟨-, rfl⟩ : j < site.workspaces.length ∧ w' = w₁ := by
      simpa [Site.keep, List.getElem?_set] using hw₁
    exact (hgives.holds t hholds).1 rfl
  · cases hnone

/-! ### Calls and runs -/

/-- A new workspace has no token that would have to be backed. -/
private theorem Backed.openWorkspace (h : site.Backed) (root : Path) (s : SessionId)
    (settings : WorkspaceSettings) :
    Backed { site with workspaces := site.workspaces ++ [{ root, session := s, settings }] } := by
  have hheld : ∀ i s' t, Held { site with
      workspaces := site.workspaces ++ [{ root, session := s, settings }] } i s' t →
      site.Held i s' t := by
    rintro i s' t ⟨w, hw, hs, ht⟩
    by_cases hi : i < site.workspaces.length
    · rw [List.getElem?_append_left hi] at hw
      exact ⟨w, hw, hs, ht⟩
    · rw [List.getElem?_append_right (Nat.le_of_not_lt hi)] at hw
      obtain rfl := List.mem_singleton.1 (List.mem_of_getElem? hw)
      exact absurd ht (Workspace.not_holds_new root s settings t)
  constructor
  case lt_of_open => exact h.lt_of_open
  case keyed =>
    intro w hw
    rcases List.mem_append.1 hw with hw | hw
    · exact h.keyed w hw
    · obtain rfl := List.mem_singleton.1 hw
      exact Workspace.keyed_new root s settings
  case rooted =>
    intro w hw
    rcases List.mem_append.1 hw with hw | hw
    · exact h.rooted w hw
    · obtain rfl := List.mem_singleton.1 hw
      exact fun _ ev hev => absurd hev (Workspace.not_holds_new root s settings (.eval ev))
  case known => exact fun i s' t ht => h.known i s' t (hheld i s' t ht)
  case backs => exact fun i s' t ht => h.backs i s' t (hheld i s' t ht)
  case apart =>
    exact fun i j s' t t' ht ht' => h.apart i j s' t t' (hheld i s' t ht) (hheld j s' t' ht')

/-- An operation that has to do with no token keeps the tokens backed. -/
private theorem Backed.operate (h : site.Backed) (op : Operation) (hop : op.isOrdinary = true) :
    Backed { site with network := op.run site.network } := by
  rcases Network.books_ordinary op hop site.network with hbooks | hbooks | ⟨s, hbooks⟩
  · exact h.retains (.of_eq hbooks)
  · exact h.opened hbooks
  · exact h.close hbooks

/-- A token that a client gets is no business of the workspaces. -/
private theorem Backed.issue (h : site.Backed) (i : Issue) : (site.issue i).Backed :=
  ⟨h.lt_of_open, h.keyed, h.rooted, h.known, h.backs, h.apart⟩

/-- What a client declares keeps the tokens of workspaces backed. -/
private theorem Backed.declare (h : site.Backed) (s : SessionId) (offer : Offer) :
    (Task.run (.declare s offer) site).Backed := by
  have hretains := Network.retains_offer (n := site.network) (s := s) offer
  rw [Task.run, Task.attempt_declare]
  generalize (offer.declare s).run site.network = result at hretains ⊢
  rcases result with ⟨e | token, m⟩
  · exact h.retains hretains
  · exact (h.retains hretains).issue ⟨s, token, none⟩

/-- What a client takes back keeps the tokens of workspaces backed, if it was none of theirs. -/
private theorem Backed.undeclare (h : site.Backed) (s : SessionId) (token : Token)
    (hspares : (Task.undeclare s token).Spares site) :
    (Task.run (.undeclare s token) site).Backed := by
  have htaken := Network.takenBack_token (n := site.network) (s := s) token
  rw [Task.run, Task.attempt_undeclare]
  generalize (token.undeclare s).run site.network = result at htaken ⊢
  cases htaken with
  | done m hopen hbooks =>
    refine h.leave (fun i t ht hrole => ?_) hbooks
    obtain ⟨w, hw, hs, hholds⟩ := ht
    exact hspares w (List.mem_of_getElem? hw) hs t hholds hrole
  | kept e m hbooks => exact h.retains (.of_eq hbooks)

/-- A chore of a workspace keeps the tokens backed. -/
private theorem Backed.work (h : site.Backed) (i : Nat) (chore : Chore) :
    (Task.run (.work i chore) site).Backed := by
  rw [Task.run]
  cases hw : site.workspaces[i]? with
  | none =>
    rw [Task.attempt_work_missing i chore hw]
    exact h
  | some w =>
    rw [Task.attempt_work i chore hw]
    have hhandled := Network.handled_chore (n := site.network)
      (h.keyed w (List.mem_of_getElem? hw)) chore
    -- the chore gets a token, gives one up, or fails
    generalize (chore.perform w).run site.network = result at hhandled ⊢
    cases hhandled with
    | got token w' m hgrants hgets hrooted => exact h.got hw hgets hrooted hgrants
    | gave token w' m hbooks hgives hrooted => exact h.gave hw hgives hrooted hbooks
    | failed e m hretains => exact h.retains hretains

/-- A call keeps what workspaces rely on. -/
theorem Backed.run (h : site.Backed) (t : Task) (hspares : t.Spares site) :
    (t.run site).Backed := by
  cases t with
  | operate op hop => exact h.operate op hop
  | declare s offer => exact h.declare s offer
  | undeclare s token => exact h.undeclare s token hspares
  | openWorkspace root s settings => exact h.openWorkspace root s settings
  | work i chore => exact h.work i chore

/-- Every run keeps the tokens backed, if clients take back only what is theirs. -/
private theorem Backed.runAll (h : site.Backed) (tasks : List Task)
    (hsparing : site.Sparing tasks) :
    (site.runAll tasks).Backed := by
  induction tasks generalizing site with
  | nil => exact h
  | cons t rest ih => exact ih (h.run t hsparing.1) hsparing.2

/-- At first there are no workspaces, hence no tokens. -/
private theorem backed_start (wall : Instant) (clock : ClockId) (codecs : CodecTable) :
    (start wall clock codecs).Backed := by
  have hnone : ∀ i s t, ¬ (start wall clock codecs).Held i s t := by
    rintro i s t ⟨w, hw, -⟩
    simp [start] at hw
  exact ⟨nofun, nofun, nofun, fun i s t ht => absurd ht (hnone i s t),
    fun i s t ht => absurd ht (hnone i s t), fun i j s t t' ht => absurd ht (hnone i s t)⟩

/-- Workspaces can rely on what they remember after every run in which nobody else takes it
back. -/
theorem backed_runAll (wall : Instant) (clock : ClockId) (codecs : CodecTable) (tasks : List Task)
    (hsparing : (start wall clock codecs).Sparing tasks) :
    ((start wall clock codecs).runAll tasks).Backed :=
  (backed_start wall clock codecs).runAll tasks hsparing

end Site

end PathSpace
