import PathSpace.Proofs.Network.Books
/-!
# What a workspace remembers

A workspace that subscribes or registers an eval keeps the token that it gets, and gives it
up when the declaration has been taken back.  A call that is refused half way leaves the
workspace with the tokens that it had.

## Key results

- `Workspace.Keyed`: subscriptions are found by their handles, evals by their paths
- `Workspace.Gets`, `Workspace.Gives`: one token more, and one token less
- `worked_chore`: the four things that can come of a call
-/

namespace PathSpace

open PathSpace.Computation

namespace Workspace

variable {w w' : Workspace} {token : Token}

/-- Subscriptions are found by their handles, and evals by their paths. -/
structure Keyed (w : Workspace) : Prop where
  subscription : ∀ h sub, w.subscriptions.find? h = some sub → sub.handle = h
  eval : ∀ p ev, w.evals.find? p = some ev → ev.path = p

/-- A workspace has at most one token more than before. -/
structure Gets (w : Workspace) (token : Token) (w' : Workspace) : Prop where
  session : w'.session = w.session
  holds : ∀ t, w'.Holds t → t = token ∨ w.Holds t
  keyed : w.Keyed → w'.Keyed

/-- A workspace does not have a token any more. -/
structure Gives (w : Workspace) (token : Token) (w' : Workspace) : Prop where
  session : w'.session = w.session
  held : w.Holds token
  holds : ∀ t, w'.Holds t → t ≠ token ∧ w.Holds t
  keyed : w.Keyed → w'.Keyed

/-- A workspace gets a subscription. -/
theorem gets_subscription (w : Workspace) (sub : Subscriber) :
    w.Gets (.subscriber sub)
      { w with subscriptions := w.subscriptions.insert sub.handle sub } where
  session := rfl
  holds t ht := by
    cases t with
    | subscriber sub' =>
      rw [Holds] at ht
      dsimp only at ht
      rw [SortedMap.find?_insert] at ht
      -- under the new handle there is the new subscription, under the others what there was
      split at ht
      · exact .inl (congrArg Token.subscriber (Option.some.inj ht).symm)
      · exact .inr ht
    | storage st => cases ht
    | eval ev => exact .inr ht
  keyed hw := by
    refine ⟨fun h sub' hfind => ?_, hw.eval⟩
    dsimp only at hfind
    rw [SortedMap.find?_insert] at hfind
    split at hfind
    · next heq => rw [heq, ← Option.some.inj hfind]
    · exact hw.subscription h sub' hfind

/-- A workspace gets an eval. -/
theorem gets_eval (w : Workspace) (ev : Eval) :
    w.Gets (.eval ev) { w with evals := w.evals.insert ev.path ev } where
  session := rfl
  holds t ht := by
    cases t with
    | subscriber sub => exact .inr ht
    | storage st => cases ht
    | eval ev' =>
      rw [Holds] at ht
      dsimp only at ht
      rw [SortedMap.find?_insert] at ht
      -- under the new path there is the new eval, under the others what there was
      split at ht
      · exact .inl (congrArg Token.eval (Option.some.inj ht).symm)
      · exact .inr ht
  keyed hw := by
    refine ⟨hw.subscription, fun p ev' hfind => ?_⟩
    dsimp only at hfind
    rw [SortedMap.find?_insert] at hfind
    split at hfind
    · next heq => rw [heq, ← Option.some.inj hfind]
    · exact hw.eval p ev' hfind

/-- A workspace gives a subscription up. -/
theorem Keyed.gives_subscription (hw : w.Keyed) {h : Handle} {sub : Subscriber}
    (hsub : w.subscriptions.find? h = some sub) :
    w.Gives (.subscriber sub) { w with subscriptions := w.subscriptions.erase h } := by
  obtain rfl := hw.subscription h sub hsub
  refine ⟨rfl, hsub, fun t ht => ?_, fun _ => ⟨fun h' sub' hfind => ?_, hw.eval⟩⟩
  · cases t with
    | subscriber sub' =>
      rw [Holds] at ht
      dsimp only at ht
      rw [SortedMap.find?_erase] at ht
      split at ht
      · cases ht
      · next hne => exact ⟨fun heq => hne (congrArg Token.handle heq), ht⟩
    | storage st => cases ht
    | eval ev => exact ⟨nofun, ht⟩
  · exact hw.subscription h' sub' (SortedMap.find?_of_find?_erase hfind)

/-- A workspace gives an eval up. -/
theorem Keyed.gives_eval (hw : w.Keyed) {p : Path} {ev : Eval}
    (hev : w.evals.find? p = some ev) :
    w.Gives (.eval ev) { w with evals := w.evals.erase p } := by
  obtain rfl := hw.eval p ev hev
  refine ⟨rfl, hev, fun t ht => ?_, fun _ => ⟨hw.subscription, fun p' ev' hfind => ?_⟩⟩
  · cases t with
    | subscriber sub => exact ⟨nofun, ht⟩
    | storage st => cases ht
    | eval ev' =>
      rw [Holds] at ht
      dsimp only at ht
      rw [SortedMap.find?_erase] at ht
      split at ht
      · cases ht
      · next hne => exact ⟨fun heq => hne (congrArg Eval.path (Token.eval.inj heq)), ht⟩
  · exact hw.eval p' ev' (SortedMap.find?_of_find?_erase hfind)

/-- A workspace that nobody has used remembers nothing. -/
theorem not_holds_new (root : Path) (s : SessionId) (settings : WorkspaceSettings) (t : Token) :
    ¬ ({ root, session := s, settings } : Workspace).Holds t := by
  cases t <;> exact nofun

/-- A new workspace has nothing that could be misplaced. -/
theorem keyed_new (root : Path) (s : SessionId) (settings : WorkspaceSettings) :
    ({ root, session := s, settings } : Workspace).Keyed :=
  ⟨nofun, nofun⟩

end Workspace

namespace Network

variable {n : Network} {w : Workspace}

/-- What can come of a call of a workspace. -/
inductive Worked (w : Workspace) (chore : Chore) (n : Network) :
    Except Error (Workspace × Option Token) × Network → Prop
  | got (token : Token) (w' : Workspace) (m : Network) (hrole : chore.role w = some token.role)
      (hopen : n.books.isClosed w.session = false)
      (hhandle : token.handle = (n.books.tally token.role w.session).next)
      (hbooks : m.books = n.books.enter token.role w.session token.expression)
      (hgets : w.Gets token w') : Worked w chore n (.ok (w', some token), m)
  | gave (token : Token) (w' : Workspace) (m : Network)
      (hopen : n.books.isClosed w.session = false)
      (hbooks : m.books = n.books.leave token.role w.session token.handle)
      (hgives : w.Gives token w') : Worked w chore n (.ok (w', none), m)
  | refused (role : Role) (e : Error) (m : Network) (hrole : chore.role w = some role)
      (hopen : n.books.isClosed w.session = false)
      (hbooks : m.books = n.books.pass role w.session) : Worked w chore n (.error e, m)
  | untried (e : Error) (m : Network) (hbooks : m.books = n.books) :
    Worked w chore n (.error e, m)

/-- To subscribe declares a subscriber, and the workspace gets its token. -/
private theorem worked_subscribe (hroom : n.HasRoom .subscriber w.session) (sel : Selector)
    (listener : List Change → Script Effect) :
    Worked w (.subscribe sel listener) n
      (((Chore.subscribe sel listener).perform w).run n) := by
  have hoffered := offered_declareSubscriber hroom (w.absoluteSelector sel) .push
    (Workspace.changeListener w.delivery listener)
  rw [Chore.perform_subscribe]
  generalize (Session.declareSubscriber w.session (w.absoluteSelector sel) .push
    (Workspace.changeListener w.delivery listener)).run n = result at hoffered ⊢
  rcases result with ⟨e | sub, m⟩
  · cases hoffered with
    | refused _ _ hopen hbooks => exact .refused .subscriber e m rfl hopen hbooks
    | untried _ _ hbooks => exact .untried e m hbooks
  · cases hoffered with
    | accepted _ _ hopen _ hhandle hbooks =>
      exact .got (.subscriber sub) _ m rfl hopen hhandle hbooks (w.gets_subscription sub)

/-- A token is given up when the declaration has been taken back. -/
private theorem worked_gives {token : Token} {w' : Workspace} (hgives : w.Gives token w')
    (chore : Chore) :
    Worked w chore n (((token.undeclare w.session).run n).1.map fun _ => (w', none),
      ((token.undeclare w.session).run n).2) := by
  have htaken := takenBack_token (n := n) (s := w.session) token
  generalize (token.undeclare w.session).run n = result at htaken ⊢
  cases htaken with
  | done m hopen hbooks => exact .gave token w' m hopen hbooks hgives
  | kept e m hbooks => exact .untried e m hbooks

/-- To end a subscription takes a subscriber back, and the workspace gives its token up. -/
private theorem worked_unsubscribe (hw : w.Keyed) (h : Handle) :
    Worked w (.unsubscribe h) n (((Chore.unsubscribe h).perform w).run n) := by
  rw [Chore.perform_unsubscribe]
  cases hsub : w.subscriptions.find? h with
  | none => exact .untried _ n rfl
  | some sub => exact worked_gives (hw.gives_subscription hsub) _

/-- To register an eval declares it, and the workspace gets its token. -/
private theorem worked_registerEval {p : Path} {eval : Path → Properties → Evaluation}
    (hroom : (Chore.registerEval p eval).role w = some .eval → n.HasRoom .eval w.session) :
    Worked w (.registerEval p eval) n (((Chore.registerEval p eval).perform w).run n) := by
  rw [Chore.perform_registerEval]
  cases hp : w.absolutePath p with
  | error e => exact .untried e n rfl
  | ok path =>
    dsimp only
    by_cases hcontains : w.evals.contains path = true
    · rw [if_pos hcontains]
      exact .untried _ n rfl
    · -- the path is absolute and free, so an eval is asked for
      have hrole : (Chore.registerEval p eval).role w = some .eval := by
        simp [Chore.role, hp, hcontains]
      have hoffered := offered_declareEval (hroom hrole) path
        (Workspace.evalListener w.delivery path eval)
      rw [if_neg hcontains]
      rw [Session.declareEval, run_bind_pure] at hoffered ⊢
      generalize (Session.declare .evals w.session "RegisterEval" path.text
        (Workspace.evalListener w.delivery path eval)
        (Router.declareEval w.session path.text)).run n = result at hoffered ⊢
      rcases result with ⟨e | h, m⟩
      · cases hoffered with
        | refused _ _ hopen hbooks => exact .refused .eval e m hrole hopen hbooks
        | untried _ _ hbooks => exact .untried e m hbooks
      · cases hoffered with
        | accepted _ _ hopen _ hhandle hbooks =>
          exact .got (.eval ⟨h, path⟩) _ m hrole hopen hhandle hbooks (w.gets_eval ⟨h, path⟩)

/-- To unregister an eval takes it back, and the workspace gives its token up. -/
private theorem worked_unregisterEval (hw : w.Keyed) (p : Path) :
    Worked w (.unregisterEval p) n (((Chore.unregisterEval p).perform w).run n) := by
  rw [Chore.perform_unregisterEval]
  cases w.absolutePath p with
  | error e => exact .untried e n rfl
  | ok path =>
    dsimp only
    cases hev : w.evals.find? path with
    | none => exact .untried _ n rfl
    | some ev => exact worked_gives (hw.gives_eval hev) _

/-- Whatever a workspace is asked to do, there are four things that can come of it. -/
theorem worked_chore (hw : w.Keyed) (chore : Chore)
    (hroom : ∀ role, chore.role w = some role → n.HasRoom role w.session) :
    Worked w chore n ((chore.perform w).run n) := by
  cases chore with
  | subscribe sel listener => exact worked_subscribe (hroom .subscriber rfl) sel listener
  | unsubscribe h => exact worked_unsubscribe hw h
  | registerEval p eval => exact worked_registerEval (hroom .eval)
  | unregisterEval p => exact worked_unregisterEval hw p

end Network

end PathSpace
