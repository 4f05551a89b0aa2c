import PathSpace.Proofs.Network.Orderly
import PathSpace.Proofs.Network.Sites
/-!
# What the calls of clients do to registries and declarations

Of a network only its `Books` matter here: what the router holds to be declared, which handles
the registries of the sessions have in use, and which sessions are open.  A call does one of
six things to the books: nothing, open a session or close one, enter a declaration, give a
handle out in vain, or take a declaration back.

## Key results

- `Books.enter`, `pass`, `leave`, `close`, `opened`: the things that a call can do
- `books_ordinary`: a call without tokens opens a session, closes one, or does nothing
- `offered_declare`, `takenBack_undeclare`: what can come of declaring and taking back
-/

namespace PathSpace

open PathSpace.Computation
open Text (Bytes)

/-! ## Registries from outside -/

/-- What can be seen of a registry. -/
@[ext] structure Tally where
  inUse : Handle → Bool
  next : Handle
  capacity : Nat

namespace Tally

/-- The handle at the counter is in use now, and the counter goes on. -/
def give (t : Tally) : Tally :=
  { t with inUse := fun h => h == t.next || t.inUse h, next := t.next + 1 }

/-- The counter goes on. -/
def pass (t : Tally) : Tally := { t with next := t.next + 1 }

/-- A handle is free now. -/
def drop (t : Tally) (h : Handle) : Tally :=
  { t with inUse := fun h' => h' != h && t.inUse h' }

/-- A registry that nobody has used. -/
def fresh : Tally := ⟨fun _ => false, 0, HandleTable.defaultCapacity⟩

end Tally

namespace HandleTable

variable {α : Type}

/-- What can be seen of a table. -/
def tally (t : HandleTable α) : Tally := ⟨t.contains, t.next, t.capacity⟩

/-- From outside, a table without a listener is one that has dropped its handle. -/
private theorem tally_remove (t : HandleTable α) (h : Handle) :
    (t.remove h).tally = t.tally.drop h := by
  have hin : (t.remove h).contains = fun h' => h' != h && t.contains h' := by
    funext h'
    rw [contains, SortedMap.contains_eq_isSome, find?_remove, contains,
      SortedMap.contains_eq_isSome]
    by_cases heq : h' = h <;> simp [heq]
  rw [tally, hin]
  rfl

/-- In its first round a table gives the next handle, and is then at the one after. -/
private theorem tally_register {t t' : HandleTable α} {listener : α} {h : Handle}
    (ht : t.InFirstRound)
    (hroom : t.next + 1 < t.capacity) (hreg : t.register listener = .ok (h, t')) :
    h = t.next ∧ t'.tally = t.tally.give := by
  obtain ⟨t₁, hok, -, hnext, hcapacity, hfind⟩ := ht.register hroom listener
  rw [hok, Except.ok.injEq, Prod.mk.injEq] at hreg
  obtain ⟨rfl, rfl⟩ := hreg
  -- the new handle is in use besides those that were
  have hin : t₁.contains = fun h => h == t.next || t.contains h := by
    funext h
    rw [contains, SortedMap.contains_eq_isSome, hfind, contains, SortedMap.contains_eq_isSome]
    by_cases heq : h = t.next <;> simp [heq]
  refine ⟨rfl, ?_⟩
  rw [tally, hin, hnext, hcapacity]
  rfl

/-- A listener that is parked and taken back has only moved the counter. -/
private theorem tally_remove_register {t t' : HandleTable α} {listener : α} {h : Handle}
    (ht : t.InFirstRound) (hroom : t.next + 1 < t.capacity)
    (hreg : t.register listener = .ok (h, t')) : (t'.remove h).tally = t.tally.pass := by
  have hentries := (parks_of_register hreg).entries_remove
  obtain ⟨-, hgive⟩ := tally_register ht hroom hreg
  -- the listener that came has gone again, so only the counter has moved
  have hin : (t'.remove h).contains = t.contains := by
    funext h'
    rw [contains, hentries, contains]
  have hnext : t'.next = t.next + 1 := congrArg Tally.next hgive
  have hcapacity : t'.capacity = t.capacity := congrArg Tally.capacity hgive
  rw [tally, hin, remove_next, remove_capacity, hnext, hcapacity]
  rfl

end HandleTable

/-! ## Books -/

/-- What a network knows of declarations and sessions. -/
@[ext] structure Books where
  declared : Role → List Declaration
  tally : Role → SessionId → Tally
  isClosed : SessionId → Bool
  nextSession : SessionId

namespace Books

/-- The books with another tally. -/
def setTally (b : Books) (role : Role) (s : SessionId) (t : Tally) : Books :=
  { b with tally := fun role' s' => if role' = role ∧ s' = s then t else b.tally role' s' }

/-- The books with other declarations. -/
def setDeclared (b : Books) (role : Role) (ds : List Declaration) : Books :=
  { b with declared := fun role' => if role' = role then ds else b.declared role' }

/-- A listener is declared under the next handle. -/
def enter (b : Books) (role : Role) (s : SessionId) (expression : String) : Books :=
  (b.setTally role s (b.tally role s).give).setDeclared role
    (b.declared role ++ [⟨s, (b.tally role s).next, expression⟩])

/-- A handle was given out in vain. -/
def pass (b : Books) (role : Role) (s : SessionId) : Books :=
  b.setTally role s (b.tally role s).pass

/-- A declaration is taken back. -/
def leave (b : Books) (role : Role) (s : SessionId) (h : Handle) : Books :=
  (b.setTally role s ((b.tally role s).drop h)).setDeclared role
    ((b.declared role).filter fun d => !d.isOf s h)

/-- A session is closed. -/
def close (b : Books) (s : SessionId) : Books :=
  { b with
    declared := fun role => (b.declared role).filter (·.session != s)
    isClosed := fun s' => s' == s || b.isClosed s' }

/-- One session more is open, with registries of its own. -/
def opened (b : Books) : Books :=
  { b with
    tally := fun role s => if s = b.nextSession then .fresh else b.tally role s
    isClosed := fun s => s != b.nextSession && b.isClosed s
    nextSession := b.nextSession + 1 }

end Books

namespace Network

variable {n n' : Network} {role : Role} {s : SessionId} {α : Type}

/-- The books of a network. -/
def books (n : Network) : Books where
  declared role := role.declared n.router
  tally role s := (n.registry role s).tally
  isClosed := n.router.isClosed
  nextSession := n.router.nextSession

/-- The books read the declarations, the registries, the links and the next session, and nothing
else. -/
private theorem books_eq (hd : ∀ role : Role, role.declared n'.router = role.declared n.router)
    (ht : ∀ (role : Role) s, n'.registry role s = n.registry role s)
    (hl : n'.router.links = n.router.links)
    (hn : n'.router.nextSession = n.router.nextSession) : n'.books = n.books := by
  have hc : n'.router.isClosed = n.router.isClosed := by
    funext s
    rw [Router.isClosed, Router.isClosed, hl]
  have hd' := funext hd
  have ht' : (fun role s => (n'.registry role s).tally) =
      fun role s => (n.registry role s).tally := by
    funext role s
    rw [ht]
  rw [books, books, hc, hn, hd', ht']

/-- What keeps the registrations of all parties keeps the books. -/
private theorem books_keeps (h : Keeps n n') : n'.books = n.books := by
  refine books_eq (fun role => ?_) (fun role s => ?_) h.links h.nextSession
  · cases role with
    | subscriber => exact h.subscribers
    | storage => exact h.storages
    | eval => exact h.evals
  · cases role with
    | subscriber => exact (h.board s).subscribers
    | storage => exact (h.board s).storages
    | eval => exact (h.board s).evals

/-- A router that differs in none of what the books say of it. -/
structure SameDeclared (r r' : Router) : Prop where
  subscribers : r'.subscribers.map (·.toDeclaration) = r.subscribers.map (·.toDeclaration)
  storages : r'.storages = r.storages
  evals : r'.evals = r.evals
  links : r'.links = r.links
  nextSession : r'.nextSession = r.nextSession

/-- A router with the same declarations and links has the same books. -/
private theorem books_sameDeclared {r : Router} (h : SameDeclared n.router r) :
    (Session.withRouter n r).books = n.books :=
  books_keeps (.withRouter n h.links h.nextSession h.subscribers h.storages h.evals)

/-- A failure that was arranged or used up is not in the books. -/
@[simp] theorem books_refused (n : Network) (failure : Option ArrangedFailure) :
    (Session.withRouter n { n.router with failure }).books = n.books :=
  books_sameDeclared ⟨rfl, rfl, rfl, rfl, rfl⟩

/-- To replace a registry is to change its tally in the books. -/
theorem books_withTable (n : Network) (role : Role) (s : SessionId)
    (t : HandleTable role.Listener) :
    (Session.withTable n role.tray s t).books = n.books.setTally role s t.tally := by
  have htally : ∀ (role' : Role) s', ((Session.withTable n role.tray s t).registry role' s').tally =
      if role' = role ∧ s' = s then t.tally else (n.registry role' s').tally := by
    intro role' s'
    rw [registry, Session.withTable, board_setBoard]
    by_cases hs : s' = s
    · subst hs
      rw [if_pos rfl]
      -- the other registries of the session stay as they were
      cases role <;> cases role' <;> simp <;> rfl
    · rw [if_neg hs, if_neg fun h => hs h.2]
      rfl
  exact Books.ext rfl (funext fun role' => funext fun s' => htally role' s') rfl rfl

/-- Waiting for replies is no business of the books. -/
private theorem books_withTable_replies (n : Network) (s : SessionId)
    (t : HandleTable (ReplyListener Surroundings Effect)) :
    (Session.withTable n .replies s t).books = n.books := by
  refine books_eq (fun _ => rfl) (fun role s' => ?_) rfl rfl
  rw [registry, Session.withTable, board_setBoard]
  split
  · next heq => cases role <;> rw [heq] <;> rfl
  · rfl

/-- Just the declarations of one role have changed. -/
structure Redeclared (role : Role) (ds : List Declaration) (r r' : Router) : Prop where
  declared : role.declared r' = ds
  others : ∀ role' ≠ role, role'.declared r' = role'.declared r
  links : r'.links = r.links
  nextSession : r'.nextSession = r.nextSession

/-- A router that declares other things is booked with these. -/
theorem books_redeclared {ds : List Declaration} {r : Router}
    (h : Redeclared role ds n.router r) :
    (Session.withRouter n r).books = n.books.setDeclared role ds := by
  have hdeclared : ∀ role' : Role, role'.declared r =
      if role' = role then ds else role'.declared n.router := by
    intro role'
    by_cases heq : role' = role
    · rw [if_pos heq, heq, h.declared]
    · rw [if_neg heq, h.others role' heq]
  -- whoever was closed still is: the links are the same
  have hclosed : r.isClosed = n.router.isClosed := by
    funext s
    rw [Router.isClosed, Router.isClosed, h.links]
  exact Books.ext (funext hdeclared) rfl hclosed h.nextSession

/-! ## Declaring -/

/-- To change the list of subscribers changes what the subscribers declare. -/
private theorem redeclared_subscribers (r : Router) (subscribers : List SubscriberDeclaration) :
    Redeclared .subscriber (subscribers.map (·.toDeclaration)) r { r with subscribers } := by
  refine ⟨rfl, fun role hne => ?_, rfl, rfl⟩
  cases role with
  | subscriber => exact absurd rfl hne
  | storage | eval => rfl

/-- To change the list of storages changes what the storages declare. -/
private theorem redeclared_storages (r : Router) (storages : List Declaration) :
    Redeclared .storage storages r { r with storages } := by
  refine ⟨rfl, fun role hne => ?_, rfl, rfl⟩
  cases role with
  | storage => exact absurd rfl hne
  | subscriber | eval => rfl

/-- To change the list of evals changes what the evals declare. -/
private theorem redeclared_evals (r : Router) (evals : List Declaration) :
    Redeclared .eval evals r { r with evals } := by
  refine ⟨rfl, fun role hne => ?_, rfl, rfl⟩
  cases role with
  | eval => exact absurd rfl hne
  | subscriber | storage => rfl

/-- An operation of the router declares a listener, or is refused. -/
def Declares (role : Role) (s : SessionId) (expression : String) (op : Handle → Routing Unit) :
    Prop :=
  ∀ h r, (∃ r', (op h).run r = (.ok (), r') ∧
    Redeclared role (role.declared r ++ [⟨s, h, expression⟩]) r r') ∨ Router.Refuses (op h) r

/-- The router either enters the declaration at the end of the list, or refuses. -/
theorem Declares.endsIn {expression : String} {op : Handle → Routing Unit}
    (hop : Declares role s expression op) (h : Handle) (r : Router) :
    Router.EndsIn (op h) r (Redeclared role (role.declared r ++ [⟨s, h, expression⟩]) r) :=
  hop h r

/-- The router declares a subscriber by entering it among the subscribers. -/
theorem declares_subscriber (s : SessionId) (expression : String) (mode : SubMode) :
    Declares .subscriber s expression (Router.declareSubscriber s expression mode) := by
  intro h r
  refine Router.EndsIn.of_cases (Router.declareSubscriber_cases s expression mode h r) ?_
  have hlist := redeclared_subscribers r
    (r.subscribers ++ [{ session := s, handle := h, expression, mode }])
  rwa [List.map_append] at hlist

/-- The router declares a storage by entering it among the storages. -/
theorem declares_storage (s : SessionId) (expression : String) :
    Declares .storage s expression (Router.declareStorage s expression) := fun h r =>
  Router.EndsIn.of_cases (Router.declareStorage_cases s expression h r) (redeclared_storages r _)

/-- The router declares an eval by entering it among the evals. -/
theorem declares_eval (s : SessionId) (expression : String) :
    Declares .eval s expression (Router.declareEval s expression) := fun h r =>
  Router.EndsIn.of_cases (Router.declareEval_cases s expression h r) (redeclared_evals r _)

/-- What can come of declaring a listener through a session. -/
inductive Offered (role : Role) (s : SessionId) (n : Network) : Except Error Token × Network → Prop
  | accepted (token : Token) (m : Network) (hopen : n.books.isClosed s = false)
      (hrole : token.role = role) (hhandle : token.handle = (n.books.tally role s).next)
      (hbooks : m.books = n.books.enter role s token.expression) : Offered role s n (.ok token, m)
  | refused (e : Error) (m : Network) (hopen : n.books.isClosed s = false)
      (hbooks : m.books = n.books.pass role s) : Offered role s n (.error e, m)
  | untried (e : Error) (m : Network) (hbooks : m.books = n.books) :
    Offered role s n (.error e, m)

/-- While the session is open, its registry is in its first round and has room. -/
def HasRoom (n : Network) (role : Role) (s : SessionId) : Prop :=
  n.books.isClosed s = false → (n.registry role s).InFirstRound ∧
    (n.registry role s).next + 1 < (n.registry role s).capacity

/-- Of a listener that was parked and taken back, only the counter keeps a trace. -/
private theorem books_taken {listener : role.Listener} {h : Handle} {t : HandleTable role.Listener}
    (hroom : (n.registry role s).InFirstRound ∧
      (n.registry role s).next + 1 < (n.registry role s).capacity)
    (hreg : (n.registry role s).register listener = .ok (h, t))
    (failure : Option ArrangedFailure) :
    (Session.take role.tray s h (Session.withRouter (Session.withTable n role.tray s t)
      { n.router with failure })).books = n.books.pass role s := by
  have hpass := HandleTable.tally_remove_register hroom.1 hroom.2 hreg
  -- the listener that is taken back is the one that was parked
  have htable : role.tray.table
      ((Session.withRouter (Session.withTable n role.tray s t)
        { n.router with failure }).board s) = t := by
    rw [Session.withRouter_board, Session.withTable, board_setBoard_self]
    cases role <;> rfl
  have htake : Session.take role.tray s h (Session.withRouter (Session.withTable n role.tray s t)
      { n.router with failure }) =
      Session.withTable (Session.withRouter (Session.withTable n role.tray s t)
        { n.router with failure }) role.tray s (t.remove h) := by
    rw [Session.take, htable]
    rfl
  have hrefused := books_refused (Session.withTable n role.tray s t) failure
  rw [htake, books_withTable]
  change Books.setTally (Session.withRouter (Session.withTable n role.tray s t)
    { (Session.withTable n role.tray s t).router with failure }).books _ _ _ = _
  rw [hrefused, books_withTable, hpass]
  refine Books.ext rfl ?_ rfl rfl
  funext role' s'
  simp only [Books.setTally, Books.pass]
  split <;> rfl

/-- To declare is accepted with the next handle, refused after a handle was used up, or not tried.
-/
theorem offered_declare (hroom : n.HasRoom role s) {operation resource : String}
    (expression : String) {listener : role.Listener} {op : Handle → Routing Unit}
    {f : Handle → Token}
    (hf : ∀ h, (f h).role = role ∧ (f h).handle = h ∧ (f h).expression = expression)
    (hop : Declares role s expression op) :
    Offered role s n
      (((Session.declare role.tray s operation resource listener op).run n).1.map f,
        ((Session.declare role.tray s operation resource listener op).run n).2) := by
  rcases Session.declare_cases role.tray s operation resource listener op n with
    ⟨h, t, r, hopen, hreg, hok, hrun⟩ | ⟨h, t, fault, r, e, hopen, hreg, herr, hrun⟩ | ⟨e, hrun⟩
  · obtain ⟨hround, hnext⟩ := hroom hopen
    obtain ⟨rfl, hgive⟩ := HandleTable.tally_register hround hnext hreg
    have hr := (hop.endsIn _ n.router).of_run_ok hok
    obtain ⟨hrole, hhandle, hexpression⟩ := hf (n.registry role s).next
    rw [hrun]
    refine .accepted _ _ hopen hrole hhandle ?_
    -- accepted: the registry gave the handle, and the router has the declaration
    have hparked := books_withTable n role s t
    rw [hexpression, books_redeclared (n := Session.withTable n role.tray s t) hr, hparked, hgive]
    rfl
  · obtain ⟨failure, rfl⟩ := (hop.endsIn h n.router).of_run_error herr
    rw [hrun]
    -- refused: the handle was given, and then dropped again
    exact .refused _ _ hopen (books_taken (hroom hopen) hreg failure)
  · rw [hrun]
    exact .untried e n rfl

/-- What is offered depends on the books only. -/
private theorem Offered.of_books {result : Except Error Token × Network}
    (h : Offered role s n result)
    (hn : n.books = n'.books) : Offered role s n' result := by
  cases h with
  | accepted token m hopen hrole hhandle hbooks =>
    rw [hn] at hopen hhandle hbooks
    exact .accepted token m hopen hrole hhandle hbooks
  | refused e m hopen hbooks =>
    rw [hn] at hopen hbooks
    exact .refused e m hopen hbooks
  | untried e m hbooks => exact .untried e m (hbooks.trans hn)

/-- What a session is offered that declares a subscriber. -/
theorem offered_declareSubscriber (hroom : n.HasRoom .subscriber s) (sel : Selector)
    (mode : SubMode) (l : DataListener Surroundings Effect) :
    Offered .subscriber s n
      (((Session.declareSubscriber s sel mode l).run n).1.map .subscriber,
        ((Session.declareSubscriber s sel mode l).run n).2) := by
  rw [Session.declareSubscriber, run_bind_pure, map_map]
  exact offered_declare hroom sel.path (fun _ => ⟨rfl, rfl, rfl⟩)
    (declares_subscriber s sel.path mode)

/-- What a session is offered that declares a storage. -/
private theorem offered_declareStorage (hroom : n.HasRoom .storage s) (sel : Selector)
    (l : StorageListener Surroundings Effect) :
    Offered .storage s n
      (((Session.declareStorage s sel l).run n).1.map .storage,
        ((Session.declareStorage s sel l).run n).2) := by
  rw [Session.declareStorage, run_bind_pure, map_map]
  exact offered_declare hroom sel.path (fun _ => ⟨rfl, rfl, rfl⟩) (declares_storage s sel.path)

/-- What a session is offered that declares an eval. -/
theorem offered_declareEval (hroom : n.HasRoom .eval s) (path : Path)
    (l : QueryListener Surroundings Effect) :
    Offered .eval s n
      (((Session.declareEval s path l).run n).1.map .eval,
        ((Session.declareEval s path l).run n).2) := by
  rw [Session.declareEval, run_bind_pure, map_map]
  exact offered_declare hroom path.text (fun _ => ⟨rfl, rfl, rfl⟩) (declares_eval s path.text)

/-- Whatever a session declares, there are three things that can come of it. -/
theorem offered_offer (offer : Offer) (hroom : n.HasRoom offer.role s) :
    Offered offer.role s n ((offer.declare s).run n) := by
  cases offer with
  | subscriber sel mode l =>
    rw [Offer.declare, run_bind_pure]
    exact offered_declareSubscriber hroom sel mode l
  | storage sel l =>
    rw [Offer.declare, run_bind_pure]
    exact offered_declareStorage hroom sel l
  | memory sel =>
    rw [Offer.declare, run_bind_pure, MemoryStorage.declare_run, map_map]
    -- the number of the store is no business of the books
    have hstore : ({ n with nextStore := n.nextStore + 1 } : Network).books = n.books := rfl
    have hroom' : ({ n with nextStore := n.nextStore + 1 } : Network).HasRoom .storage s := hroom
    exact (offered_declareStorage hroom' sel _).of_books hstore
  | eval path l =>
    rw [Offer.declare, run_bind_pure]
    exact offered_declareEval hroom path l

/-! ## Taking back -/

/-- What can come of taking a declaration back through a session. -/
inductive TakenBack (role : Role) (s : SessionId) (h : Handle) (n : Network) :
    Except Error Unit × Network → Prop
  | done (m : Network) (hopen : n.books.isClosed s = false)
      (hbooks : m.books = n.books.leave role s h) : TakenBack role s h n (.ok (), m)
  | kept (e : Error) (m : Network) (hbooks : m.books = n.books) :
    TakenBack role s h n (.error e, m)

/-- To undeclare removes the declaration together with its handle, or leaves the books as they are.
-/
theorem takenBack_undeclare (role : Role) {operation resource : String} {h : Handle}
    {op : Routing Unit}
    (hop : ∀ r, Router.EndsIn op r
      (Redeclared role ((role.declared r).filter fun d => !d.isOf s h) r)) :
    TakenBack role s h n ((Session.undeclare role.tray s operation resource h op).run n) := by
  rcases Session.undeclare_cases role.tray s operation resource h op n with
    ⟨r, hopen, hok, hrun⟩ | ⟨fault, r, e, herr, hrun⟩ | ⟨e, hrun⟩
  · have hr := (hop n.router).of_run_ok hok
    have htake : Session.take role.tray s h (Session.withRouter n r) =
        Session.withTable (Session.withRouter n r) role.tray s ((n.registry role s).remove h) := rfl
    rw [hrun]
    refine .done _ hopen ?_
    rw [htake, books_withTable, books_redeclared hr, HandleTable.tally_remove]
    rfl
  · obtain ⟨failure, rfl⟩ := (hop n.router).of_run_error herr
    rw [hrun]
    exact .kept e _ (n.books_refused failure)
  · rw [hrun]
    exact .kept e n rfl

/-- Whatever a token stands for, there are two things that can come of taking it back. -/
theorem takenBack_token (token : Token) :
    TakenBack token.role s token.handle n ((token.undeclare s).run n) := by
  cases token with
  | subscriber sub =>
    refine takenBack_undeclare .subscriber fun r => ?_
    refine .of_cases (Router.undeclareSubscriber_cases s sub.handle r) ?_
    have hlist := redeclared_subscribers r (r.subscribers.filter fun d => !d.isOf s sub.handle)
    -- a subscriber may be taken off before or after its mode is forgotten
    have hmap : (Role.subscriber.declared r).filter (fun d => !d.isOf s sub.handle) =
        (r.subscribers.filter fun d => !d.isOf s sub.handle).map (·.toDeclaration) := by
      rw [Role.declared, List.filter_map]
      rfl
    rw [← hmap] at hlist
    exact hlist
  | storage st =>
    exact takenBack_undeclare .storage fun r =>
      .of_cases (Router.undeclareStorage_cases s st.handle r) (redeclared_storages r _)
  | eval ev =>
    exact takenBack_undeclare .eval fun r =>
      .of_cases (Router.undeclareEval_cases s ev.handle r) (redeclared_evals r _)

/-! ## Calls without tokens -/

/-- A call that only asks the router for something that is no business of the books. -/
private theorem books_asked {act : Action Unit} {op : Routing Unit} (hact : Session.Asked op act n)
    (hop : Router.EndsIn op n.router (SameDeclared n.router)) : (act.run n).2.books = n.books := by
  cases hact with
  | done r hok hrun =>
    rw [hrun]
    exact books_sameDeclared (hop.of_run_ok hok)
  | refused fault r e herr hrun =>
    obtain ⟨failure, rfl⟩ := hop.of_run_error herr
    rw [hrun]
    exact n.books_refused failure
  | untried e hrun => rw [hrun]

/-- To pass a sample on declares nothing. -/
private theorem sameDeclared_routed (r : Router) (wall : Instant) (sample : Sample) :
    SameDeclared r ((r.ticked wall).routed sample) := by
  unfold Router.ticked
  -- the clock is a variable here, so that nobody computes with it
  generalize (r.clock.now wall).2 = clock
  exact ⟨Router.map_keepPending sample r.subscribers, rfl, rfl, rfl, rfl⟩

/-- To write leaves the books as they are. -/
private theorem books_write (s : SessionId) (path : Path) (payload : Bytes) (e : Encoding)
    (kind : ChangeKind) (n : Network) :
    ((Session.write s path payload e kind).run n).2.books = n.books := by
  apply books_asked (Session.write_cases s path payload e kind n)
  exact .of_cases (Router.write_cases s n.around.wall path.text payload e kind n.router)
    (sameDeclared_routed _ _ _)

/-- A workspace that writes leaves the books as they are. -/
private theorem books_workspaceWrite (w : Workspace) (p : Path) (payload : Bytes) (e : Encoding)
    (kind : ChangeKind) (n : Network) :
    ((w.write p payload e kind).run n).2.books = n.books := by
  rw [w.write_run]
  cases w.absolutePath p with
  | ok path => exact books_write w.session path payload e kind n
  | error err => rfl

/-- To pull leaves the books as they are. -/
private theorem books_pull (s : SessionId) (sub : Subscriber) (n : Network) :
    ((Session.pull s sub).run n).2.books = n.books := by
  apply books_asked (Session.pull_cases s sub n)
  refine (Router.pull_cases s sub.handle n.router).imp ?_ id
  rintro ⟨d, -, hok⟩
  have hpending := Router.map_changeFirst s sub.handle (f := fun d => { d with pending := [] })
    (fun _ => rfl) n.router.subscribers
  exact ⟨_, hok, hpending, rfl, rfl, rfl, rfl⟩

/-- To send a query leaves the books as they are: queries are not booked. -/
private theorem books_query (s : SessionId) (sel : Selector)
    (l : Surroundings → ReplyEvent → Script Effect) (n : Network) :
    ((Session.query s sel l).run n).2.books = n.books := by
  have hop : ∀ h r,
      Router.EndsIn (Router.query s sel.path sel.optionalPart h) r (SameDeclared r) := fun h r =>
    .of_cases (Router.query_cases s sel.path sel.optionalPart h r) ⟨rfl, rfl, rfl, rfl, rfl⟩
  rw [Session.query_run]
  -- the name that the query takes is not in the books either
  have hstart : ({ n with tokens := n.tokens + 1 } : Network).books = n.books := rfl
  generalize ({ n with tokens := n.tokens + 1 } : Network) = m at hstart
  rcases Session.declare_cases .replies s "Query" sel.path ⟨n.tokens, l⟩
      (Router.query s sel.path sel.optionalPart) m with
    ⟨h, t, r, -, -, hok, hrun⟩ | ⟨h, t, fault, r, e, -, -, herr, hrun⟩ | ⟨e, hrun⟩
  · have hr := (hop h m.router).of_run_ok hok
    rw [hrun, books_sameDeclared (n := Session.withTable m .replies s t) hr,
      books_withTable_replies, hstart]
  · obtain ⟨failure, rfl⟩ := (hop h m.router).of_run_error herr
    rw [hrun]
    change (Session.withTable _ .replies s _).books = _
    rw [books_withTable_replies]
    exact ((Session.withTable m .replies s t).books_refused failure).trans
      ((books_withTable_replies m s t).trans hstart)
  · rw [hrun, hstart]

/-- To give up a query leaves the books as they are. -/
private theorem books_cancelQuery (s : SessionId) (q : PendingQuery) (n : Network) :
    (Session.cancelQuery s q n).2.books = n.books :=
  books_keeps (.setBoard n s (Switchboard.settleReply_within _ _ _))

/-- To conclude a get leaves the books as they are. -/
private theorem books_concludeGet (w : Workspace) (sel : Selector) (g : Workspace.PendingGet)
    (n : Network) : ((w.concludeGet sel g).run n).2.books = n.books := by
  rcases w.concludeGet_cases sel g n with ⟨aggregator, -, hrun⟩ | ⟨e, -, hrun⟩
  · rw [hrun]
    rfl
  · rw [hrun]
    exact books_cancelQuery w.session g.query n

/-- A get leaves the books as they are, whatever it delivers in between. -/
private theorem books_get (w : Workspace) (limit : Nat) (sel : Selector) (n : Network) :
    ((w.get limit sel).run n).2.books = n.books := by
  have hquery := books_query w.session (w.absoluteSelector sel)
    (Workspace.gatherListener n.nextGathering w.settings.missingTimestamp) n
  rw [w.get_run]
  rcases w.beginGet_cases sel n with ⟨query, m, hq, hbegin⟩ | ⟨e, m, hq, hbegin⟩
  · rw [hq] at hquery
    rw [hbegin]
    dsimp only
    rw [books_concludeGet]
    exact (books_keeps (evolves_settle limit _).keeps).trans hquery
  · rw [hq] at hquery
    rw [hbegin]
    exact hquery

/-! ### Opening and closing -/

/-- To close a session closes it in the books, if it was not closed before. -/
theorem books_close (s : SessionId) (n : Network) :
    ((Session.close s).run n).2.books =
      if n.books.isClosed s then n.books else n.books.close s := by
  have hsame : Session.isClosed n s = n.books.isClosed s := rfl
  rw [Session.close_run, hsame]
  cases n.books.isClosed s with
  | true => rfl
  | false =>
    have hclosed : (n.router.withoutLink s).isClosed =
        fun s' => s' == s || n.router.isClosed s' := by
      funext s'
      rw [Router.isClosed, Router.withoutLink, SortedMap.find?_mapValues, Router.isClosed]
      cases n.router.links.find? s' with
      | none => simp
      | some link => by_cases heq : s' = s <;> simp [heq]
    -- the declarations of the session are taken off in every role
    have hdeclared : ∀ role : Role, role.declared (n.router.withoutLink s) =
        (role.declared n.router).filter (·.session != s) := by
      intro role
      cases role with
      | subscriber =>
        rw [Role.declared, Role.declared, List.filter_map]
        rfl
      | storage | eval => rfl
    exact Books.ext (funext hdeclared) rfl hclosed rfl

/-- A registry that was never used has a fresh tally. -/
private theorem tally_unused (role : Role) : (role.tray.table {}).tally = .fresh := by
  cases role <;> rfl

/-- To open a session is refused, or opens one in the books. -/
private theorem books_openSession (locator : Option String) (properties : Properties)
    (n : Network) :
    ((Session.openSession locator properties).run n).2.books = n.books ∨
      ((Session.openSession locator properties).run n).2.books = n.books.opened := by
  rcases Session.openSession_cases locator properties n with hrun | ⟨failure, e, hrun⟩
  · rw [hrun]
    right
    -- the new session has unused registries, the others keep theirs
    have htally : ∀ (role : Role) s, ((Network.registry ((Session.withRouter n
        (n.router.withLink locator (properties.find? "user"))).setBoard
          n.router.nextSession {}) role s)).tally =
        if s = n.router.nextSession then .fresh else (n.registry role s).tally := by
      intro role s
      rw [registry, board_setBoard]
      split
      · exact tally_unused role
      · rfl
    -- the new session is open, the others are as they were
    have hclosed : (n.router.withLink locator (properties.find? "user")).isClosed =
        fun s => s != n.router.nextSession && n.router.isClosed s := by
      funext s
      rw [Router.isClosed, Router.withLink, SortedMap.find?_insert, Router.isClosed]
      by_cases heq : s = n.router.nextSession <;> simp [heq]
    have hdeclared : ∀ role : Role, role.declared
        (n.router.withLink locator (properties.find? "user")) = role.declared n.router := by
      intro role
      cases role <;> rfl
    exact Books.ext (funext hdeclared) (funext fun role => funext fun s => htally role s)
      hclosed rfl
  · rw [hrun]
    exact .inl (n.books_refused failure)

/-- A call without tokens opens a session, closes one, or does nothing to the books. -/
theorem books_ordinary (op : Operation) (hop : op.isOrdinary = true) (n : Network) :
    (op.run n).books = n.books ∨ (op.run n).books = n.books.opened ∨
      ∃ s, (op.run n).books = n.books.close s := by
  -- only opening and closing are seen in the books
  cases op with
  | showWall => exact .inl rfl
  | failNext => exact .inl (n.books_refused _)
  | stampReplies => exact .inl (books_sameDeclared ⟨rfl, rfl, rfl, rfl, rfl⟩)
  | letGo sessions workspaces =>
    refine .inl (books_eq (fun _ => rfl) (fun role s => ?_) rfl rfl)
    rw [registry, registry, Operation.run, board_letGo]
  | deliver => exact .inl (books_keeps n.evolves_deliverNext.keeps)
  | answerParked i replies => exact .inl (books_keeps (n.evolves_answerParked i replies).keeps)
  | openSession locator properties => exact (books_openSession locator properties n).imp_right .inl
  | close s =>
    have hclose := books_close s n
    split at hclose
    · exact .inl hclose
    · exact .inr (.inr ⟨s, hclose⟩)
  | write s path payload e kind => exact .inl (books_write s path payload e kind n)
  | pull s sub => exact .inl (books_pull s sub n)
  | query s sel l => exact .inl (books_query s sel l n)
  | cancelQuery s q => exact .inl (books_cancelQuery s q n)
  | put w p v => exact .inl (books_workspaceWrite w p v.encode v.encoding .put n)
  | update w p v => exact .inl (books_workspaceWrite w p v.encode v.encoding .update n)
  | remove w p => exact .inl (books_workspaceWrite w p [] .raw .remove n)
  | get w limit sel => exact .inl (books_get w limit sel n)
  | declareSubscriber | undeclareSubscriber | declareStorage | undeclareStorage | declareMemory
  | declareEval | undeclareEval | subscribe | unsubscribe => cases hop

end Network

end PathSpace
