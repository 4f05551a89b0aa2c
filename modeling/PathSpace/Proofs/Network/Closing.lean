import PathSpace.Proofs.Network.Backing
import PathSpace.Proofs.Network.Failures
import Mathlib.Data.List.Forall2
/-!
# Closing a workspace

A workspace that is closed ends its subscriptions and its evals one after the other, and goes on
when one of them cannot be ended.  Between two of these steps other clients may arrange that the
router refuses the next one, or that it does not.

## Key results

- `Moment`, `Closing.after`, `Closing.requests`: a workspace is closed step by step, and the
  router is asked
- `close_eq_after`: closing without anybody in between
- `Upheld`: what a workspace relies on while it is closed
- `Moment.step_cases`: one step asks for one token, and ends it unless it is refused
- `Closing.outcome_after`: what comes of all steps
-/

namespace PathSpace

open PathSpace.Computation

/-! ## The steps of closing -/

/-- One thing that a workspace ends when it is closed. -/
inductive Farewell where
  | subscription (h : Handle)
  | eval (p : Path)

namespace Farewell

/-- Ends it. -/
def take : Farewell → Workspace → Action Workspace
  | .subscription h, w => w.unsubscribe h
  | .eval p, w => w.unregisterEval p

/-- The token that a workspace finds for it. -/
def token? (w : Workspace) : Farewell → Option Token
  | .subscription h => (w.subscriptions.find? h).map .subscriber
  | .eval p => (w.evalAt p).map .eval

/-- It is meant to end what a token stands for. -/
def Names : Farewell → Token → Prop
  | .subscription h, .subscriber sub => sub.handle = h
  | .eval p, .eval ev => ev.path = p
  | _, _ => False

/-- Its path, if it has one, is not placed under a root any more. -/
def IsAbsolute : Farewell → Prop
  | .subscription _ => True
  | .eval p => p.isRelative = false

end Farewell

/-- One step of closing, and what other clients make of the arranged failures before it. -/
structure Moment where
  others : Option ArrangedFailure → Option ArrangedFailure
  farewell : Farewell

/-- A network in which other clients have changed what failures are arranged. -/
def Network.interrupted (n : Network) (others : Option ArrangedFailure → Option ArrangedFailure) :
    Network :=
  { n with router := { n.router with failure := others n.router.failure } }

/-- The router is asked to take back what a token stands for. -/
structure Request where
  token : Token
  visit : Visit

/-- The error of a request that is refused. -/
def Request.refusal (r : Request) : Option Error :=
  match r.visit.answer with
  | .ok () => none
  | .error fault => some (.transport r.visit.operation r.visit.resource fault)

namespace Moment

/-- Takes the step. -/
def step (m : Moment) (c : Workspace.Closing) (n : Network) : Workspace.Closing × Network :=
  (Workspace.closeStep m.farewell.take c).run (n.interrupted m.others)

/-- What the router is asked in the step. -/
def requests (m : Moment) (c : Workspace.Closing) (n : Network) : List Request :=
  ((m.farewell.token? c.workspace).bind fun t =>
    (t.visit (n.interrupted m.others) c.workspace.session).map (⟨t, ·⟩)).toList

end Moment

namespace Workspace

/-- All that a workspace ends when it is closed, in order. -/
def farewells (w : Workspace) : List Farewell :=
  w.subscriptions.keys.map .subscription ++ w.evalPaths.map .eval

/-- The tokens of all subscriptions and evals, in order. -/
def tokens (w : Workspace) : List Token :=
  w.subscriptions.values.map .subscriber ++ w.evals.values.map .eval

/-- A step that goes through leaves a workspace with less to take back. -/
theorem closeStep_of_ok {op : Workspace → Action Workspace} {c : Closing} {n n' : Network}
    {w : Workspace} (h : (op c.workspace).run n = (.ok w, n')) :
    (closeStep op c).run n = ({ c with workspace := w }, n') := by
  simp only [closeStep, StateT.run, h]

/-- A step that fails leaves its error, if it is the first. -/
theorem closeStep_of_error {op : Workspace → Action Workspace} {c : Closing} {n n' : Network}
    {e : Error} (h : (op c.workspace).run n = (.error e, n')) :
    (closeStep op c).run n = ({ c with firstError := c.firstError <|> some e }, n') := by
  simp only [closeStep, StateT.run, h]

namespace Closing

/-- Takes a number of steps. -/
def after : List Moment → Closing → Network → Closing × Network
  | [], c, n => (c, n)
  | m :: rest, c, n => after rest (m.step c n).1 (m.step c n).2

/-- What the router is asked meanwhile. -/
def requests : List Moment → Closing → Network → List Request
  | [], _, _ => []
  | m :: rest, c, n => m.requests c n ++ requests rest (m.step c n).1 (m.step c n).2

/-- Some moments after the others. -/
private theorem after_append (moments moments' : List Moment) (c : Closing) (n : Network) :
    after (moments ++ moments') c n =
      after moments' (after moments c n).1 (after moments c n).2 := by
  induction moments generalizing c n with
  | nil => rfl
  | cons m rest ih => exact ih _ _

/-- Steps with nobody in between are the steps of a loop. -/
private theorem foldlM_closeStep {α : Type} (f : α → Farewell) (l : List α) (c : Closing)
    (n : Network) :
    (l.foldlM (fun c a => closeStep (f a).take c) c : StateM Network Closing).run n =
      after (l.map fun a => ⟨id, f a⟩) c n := by
  induction l generalizing c n with
  | nil => rfl
  | cons a rest ih => exact ih _ _

end Closing

/-- The steps of closing with nobody in between. -/
def undisturbed (w : Workspace) : List Moment := w.farewells.map fun f => ⟨id, f⟩

/-- A workspace is closed by ending one thing after the other. -/
theorem close_eq_after (w : Workspace) (n : Network) :
    w.close.run n = Closing.after w.undisturbed { workspace := w } n := by
  rw [undisturbed, farewells, List.map_append, List.map_map, List.map_map, Closing.after_append]
  have hsubscriptions := Closing.foldlM_closeStep Farewell.subscription w.subscriptions.keys
    { workspace := w } n
  have hevals := Closing.foldlM_closeStep Farewell.eval w.evalPaths
    (Closing.after (w.subscriptions.keys.map fun h => ⟨id, .subscription h⟩) { workspace := w } n).1
    (Closing.after (w.subscriptions.keys.map fun h => ⟨id, .subscription h⟩) { workspace := w } n).2
  refine Eq.trans ?_ hevals
  rw [← hsubscriptions]
  rfl

/-! ## Workspaces with one token less -/

variable {w : Workspace} {t : Token}

/-- A workspace without one of its tokens. -/
def without (w : Workspace) : Token → Workspace
  | .subscriber sub => { w with subscriptions := w.subscriptions.erase sub.handle }
  | .storage _ => w
  | .eval ev => { w with evals := w.evals.erase ev.path }

/-- A workspace without a token has the others. -/
private theorem holds_without (ht : w.Holds t) (t' : Token) :
    (w.without t).Holds t' ↔ t' ≠ t ∧ w.Holds t' := by
  cases t with
  | storage st => cases ht
  | subscriber sub =>
    cases t' with
    | storage st => simp [Holds]
    | eval ev => exact (and_iff_right (by simp)).symm
    | subscriber sub' =>
      rw [Holds] at ht
      simp only [Holds, without, SortedMap.find?_erase]
      -- two subscriptions of one handle are one
      by_cases heq : sub'.handle = sub.handle
      · rw [heq, ht]
        simp [eq_comm]
      · have hne : sub' ≠ sub := fun h => heq (h ▸ rfl)
        simp [heq, hne]
  | eval ev =>
    cases t' with
    | storage st => simp [Holds]
    | subscriber sub => exact (and_iff_right (by simp)).symm
    | eval ev' =>
      rw [Holds] at ht
      simp only [Holds, without, SortedMap.find?_erase]
      by_cases heq : ev'.path = ev.path
      · rw [heq, ht]
        simp [eq_comm]
      · have hne : ev' ≠ ev := fun h => heq (h ▸ rfl)
        simp [heq, hne]

/-- A workspace without a token finds the others where they belong. -/
private theorem Keyed.without (hw : w.Keyed) (ht : w.Holds t) : (w.without t).Keyed := by
  cases t with
  | storage st => cases ht
  | subscriber sub => exact (hw.gives_subscription ht).keyed hw
  | eval ev => exact (hw.gives_eval ht).keyed hw

/-- A workspace without a token is of the same session. -/
private theorem session_without (w : Workspace) (t : Token) :
    (w.without t).session = w.session := by
  cases t <;> rfl

end Workspace

/-- An absolute farewell finds its token, and ends it if the session agrees. -/
private theorem Farewell.take_run {f : Farewell} {w : Workspace} {t : Token} (hnames : f.Names t)
    (ht : w.Holds t) (habsolute : f.IsAbsolute) :
    f.token? w = some t ∧ ∀ n, (f.take w).run n =
      (((t.undeclare w.session).run n).1.map fun _ => w.without t,
        ((t.undeclare w.session).run n).2) := by
  cases f with
  | subscription h =>
    cases t with
    | subscriber sub =>
      obtain rfl : sub.handle = h := hnames
      rw [Workspace.Holds] at ht
      refine ⟨by simp [token?, ht], fun n => ?_⟩
      rw [take, w.unsubscribe_run, ht]
      rfl
    | storage st => cases hnames
    | eval ev => cases hnames
  | eval p =>
    cases t with
    | eval ev =>
      obtain rfl : ev.path = p := hnames
      rw [Workspace.Holds] at ht
      -- an absolute path is not placed under the root, so it is the key of the eval
      have hp : w.absolutePath ev.path = .ok ev.path := by
        rw [Workspace.absolutePath, show ev.path.isRelative = false from habsolute]
        rfl
      refine ⟨by simp [token?, Workspace.evalAt, hp, ht], fun n => ?_⟩
      rw [take, w.unregisterEval_run, hp]
      simp only [ht]
      rfl
    | storage st => cases hnames
    | subscriber sub => cases hnames

/-! ## Asking for one token -/

namespace Network

variable {n : Network} {s : SessionId} {t : Token}

/-- What others do to the arranged failure is not in the books. -/
@[simp] theorem books_interrupted (n : Network)
    (others : Option ArrangedFailure → Option ArrangedFailure) :
    (n.interrupted others).books = n.books :=
  n.books_refused (others n.router.failure)

/-- A session asks for a listener that it has, and passes on what the router says. -/
private theorem answered_undeclare {α : Type} {tray : Tray α} {operation resource : String}
    {h : Handle}
    {op : Routing Unit} (hopen : Session.isClosed n s = false)
    (hin : (tray.table (n.board s)).contains h = true)
    (hop : (op.run n.router).1 = Router.answerAmid n.router.failure) :
    ∃ v, n.undeclareVisit tray s operation resource h op = some v ∧
      v.answer = Router.answerAmid v.found.failure ∧
      ((Session.undeclare tray s operation resource h op).run n).1 =
        v.answer.mapError (.transport v.operation v.resource) := by
  refine ⟨.of operation resource op n.router, ?_, ?_, ?_⟩
  · rw [undeclareVisit, if_pos hin, visit, hopen, if_neg Bool.false_ne_true]
  · change (op.run n.router).1.map (fun _ => ()) = Router.answerAmid n.router.failure
    rw [hop]
    cases Router.answerAmid n.router.failure <;> rfl
  · rw [Session.undeclare_run, hopen, if_neg Bool.false_ne_true, if_pos hin, Visit.of]
    rcases op.run n.router with ⟨fault | ⟨⟩, r⟩ <;> rfl

/-- A token that is declared is refused only if a failure has been arranged. -/
private theorem answered_token (hopen : n.books.isClosed s = false)
    (hbacks : n.books.Backs t.role s t.handle) :
    ∃ v, t.visit n s = some v ∧ v.answer = Router.answerAmid v.found.failure ∧
      ((t.undeclare s).run n).1 = v.answer.mapError (.transport v.operation v.resource) := by
  obtain ⟨d, hd, hs, hh⟩ := hbacks.declared
  have hof : d.isOf s t.handle = true := by simp [Declaration.isOf, hs, hh]
  -- the declaration is one of the list of its role
  cases t with
  | subscriber sub =>
    obtain ⟨d', hd', rfl⟩ := List.mem_map.1 hd
    exact answered_undeclare hopen hbacks.inUse
      (Router.answer_undeclareSubscriber hopen (List.any_eq_true.2 ⟨d', hd', hof⟩))
  | storage st =>
    exact answered_undeclare hopen hbacks.inUse
      (Router.answer_undeclareStorage hopen (List.any_eq_true.2 ⟨d, hd, hof⟩))
  | eval ev =>
    exact answered_undeclare hopen hbacks.inUse
      (Router.answer_undeclareEval hopen (List.any_eq_true.2 ⟨d, hd, hof⟩))

end Network

/-! ## One step -/

/-- A workspace whose session is open, and what it relies on. -/
structure Upheld (b : Books) (w : Workspace) : Prop where
  isOpen : b.isClosed w.session = false
  keyed : w.Keyed
  backs : ∀ t, w.Holds t → b.Backs t.role w.session t.handle
  apart : ∀ t t', w.Holds t → w.Holds t' → t.role = t'.role → t.handle = t'.handle → t = t'

/-- What is left when one token has been ended. -/
private theorem Upheld.without {b : Books} {w : Workspace} {t : Token} (h : Upheld b w)
    (ht : w.Holds t) :
    Upheld (b.leave t.role w.session t.handle) (w.without t) where
  isOpen := by
    rw [w.session_without]
    exact h.isOpen
  keyed := h.keyed.without ht
  -- what is left stands for other handles than the token that was given up
  backs t' ht' := by
    obtain ⟨hne, hold⟩ := (Workspace.holds_without ht t').1 ht'
    rw [w.session_without]
    refine (h.backs t' hold).leave ?_
    rintro ⟨hrole, -, hhandle⟩
    exact hne (h.apart t' t hold ht hrole hhandle)
  apart t₁ t₂ h₁ h₂ :=
    h.apart t₁ t₂ ((Workspace.holds_without ht t₁).1 h₁).2 ((Workspace.holds_without ht t₂).1 h₂).2

namespace Moment

variable {m : Moment} {c : Workspace.Closing} {n : Network} {t : Token}

/-- A step asks for one token.  If it is refused, the workspace stays as it is, and otherwise the
token has gone. -/
theorem step_cases (hupheld : Upheld n.books c.workspace) (ht : c.workspace.Holds t)
    (hnames : m.farewell.Names t) (habsolute : m.farewell.IsAbsolute) :
    ∃ r, m.requests c n = [r] ∧ r.token = t ∧
      r.visit.answer = Router.answerAmid r.visit.found.failure ∧
      ((∃ e n', r.refusal = some e ∧
          m.step c n = ({ c with firstError := c.firstError <|> some e }, n') ∧
          n'.books = n.books) ∨
        ∃ n', r.refusal = none ∧ m.step c n = ({ c with workspace := c.workspace.without t }, n') ∧
          n'.books = n.books.leave t.role c.workspace.session t.handle) := by
  -- what others do before the request leaves the books as they are
  have hbooks := n.books_interrupted m.others
  obtain ⟨htoken, htake⟩ := m.farewell.take_run hnames ht habsolute
  have hrun := htake (n.interrupted m.others)
  obtain ⟨v, hvisit, hanswer, htold⟩ :=
    Network.answered_token (n := n.interrupted m.others) (s := c.workspace.session) (t := t)
      (by rw [hbooks]; exact hupheld.isOpen) (by rw [hbooks]; exact hupheld.backs t ht)
  refine ⟨⟨t, v⟩, by simp [requests, htoken, hvisit], rfl, hanswer, ?_⟩
  have htaken := Network.takenBack_token (n := n.interrupted m.others) (s := c.workspace.session) t
  rw [step, Request.refusal]
  generalize (t.undeclare c.workspace.session).run (n.interrupted m.others) = result
    at htaken htold hrun
  cases htaken with
  | done n' hopen hleft =>
    rw [hbooks] at hleft
    rw [Workspace.closeStep_of_ok hrun]
    right
    cases ha : v.answer with
    | error fault =>
      rw [ha] at htold
      cases htold
    | ok => exact ⟨n', rfl, rfl, hleft⟩
  | kept e n' hkept =>
    rw [hbooks] at hkept
    rw [Workspace.closeStep_of_error hrun]
    left
    cases ha : v.answer with
    | ok =>
      rw [ha] at htold
      cases htold
    | error fault =>
      rw [ha] at htold
      obtain rfl : e = .transport v.operation v.resource fault := Except.error.inj htold
      exact ⟨_, n', rfl, rfl, hkept⟩

end Moment

/-! ## All steps -/

namespace Workspace.Closing

variable {c c' : Closing} {r : Request} {rs : List Request}

/-- What comes of a number of requests: the tokens whose requests are not refused go, and the first
refusal is told. -/
structure Outcome (c : Closing) (rs : List Request) (c' : Closing) : Prop where
  keyed : c'.workspace.Keyed
  holds : ∀ t, c'.workspace.Holds t ↔
    c.workspace.Holds t ∧ ∀ r ∈ rs, r.token = t → r.refusal ≠ none
  error : c'.firstError = (c.firstError <|> rs.findSome? Request.refusal)

theorem Outcome.nil (hw : c.workspace.Keyed) : Outcome c [] c where
  keyed := hw
  holds t := by simp
  error := by cases c.firstError <;> rfl

/-- A request that is refused leaves its token and its error. -/
private theorem Outcome.refused {e : Error} (hr : r.refusal = some e)
    (h : Outcome { c with firstError := c.firstError <|> some e } rs c') :
    Outcome c (r :: rs) c' where
  keyed := h.keyed
  holds t := by
    rw [h.holds t, List.forall_mem_cons, hr]
    simp
  error := by
    rw [h.error, List.findSome?_cons, hr]
    cases c.firstError <;> rfl

/-- A request that is granted takes its token. -/
private theorem Outcome.granted (ht : c.workspace.Holds r.token) (hr : r.refusal = none)
    (h : Outcome { c with workspace := c.workspace.without r.token } rs c') :
    Outcome c (r :: rs) c' where
  keyed := h.keyed
  holds t := by
    rw [h.holds t, holds_without ht, List.forall_mem_cons, hr]
    constructor
    · rintro ⟨⟨hne, hold⟩, hrest⟩
      exact ⟨hold, fun heq => absurd heq.symm hne, hrest⟩
    · rintro ⟨hold, hfirst, hrest⟩
      exact ⟨⟨fun heq => hfirst heq.symm rfl, hold⟩, hrest⟩
  error := by rw [h.error, List.findSome?_cons, hr]

/-- The steps ask for one token each, and nothing but an arranged failure is in their way. -/
theorem outcome_after {moments : List Moment} {tokens : List Token} {n : Network}
    (hnames : List.Forall₂ (fun m t => m.farewell.Names t) moments tokens)
    (habsolute : ∀ m ∈ moments, m.farewell.IsAbsolute) (hupheld : Upheld n.books c.workspace)
    (hheld : ∀ t ∈ tokens, c.workspace.Holds t) (hnodup : tokens.Nodup) :
    (requests moments c n).map (·.token) = tokens ∧
      (∀ r ∈ requests moments c n, r.visit.answer = Router.answerAmid r.visit.found.failure) ∧
      Outcome c (requests moments c n) (after moments c n).1 := by
  induction hnames generalizing c n with
  | nil => exact ⟨rfl, by simp [requests], .nil hupheld.keyed⟩
  | @cons m t moments tokens hname _ ih =>
    have ht := hheld t List.mem_cons_self
    have hrest : ∀ m ∈ moments, m.farewell.IsAbsolute := fun m hm =>
      habsolute m (List.mem_cons_of_mem _ hm)
    obtain ⟨hnot, hdistinct⟩ := List.nodup_cons.1 hnodup
    obtain ⟨r, hasked, rfl, hanswer, hstep⟩ :=
      Moment.step_cases hupheld ht hname (habsolute m List.mem_cons_self)
    rw [requests, after, hasked, List.singleton_append]
    rcases hstep with ⟨e, n', hrefusal, hstep, hbooks⟩ | ⟨n', hrefusal, hstep, hbooks⟩
    · rw [hstep]
      obtain ⟨htokens, hanswers, houtcome⟩ :=
        ih (c := { c with firstError := c.firstError <|> some e }) (n := n') hrest
          (hbooks ▸ hupheld) (fun t ht => hheld t (List.mem_cons_of_mem _ ht)) hdistinct
      exact ⟨congrArg (r.token :: ·) htokens, List.forall_mem_cons.2 ⟨hanswer, hanswers⟩,
        houtcome.refused hrefusal⟩
    · rw [hstep]
      -- the tokens that are still to be asked for are other ones
      have hothers : ∀ t ∈ tokens, (c.workspace.without r.token).Holds t := fun t ht' =>
        (holds_without ht t).2 ⟨fun heq => hnot (heq ▸ ht'), hheld t (List.mem_cons_of_mem _ ht')⟩
      obtain ⟨htokens, hanswers, houtcome⟩ :=
        ih (c := { c with workspace := c.workspace.without r.token }) (n := n') hrest
          (hbooks ▸ hupheld.without ht) hothers hdistinct
      exact ⟨congrArg (r.token :: ·) htokens, List.forall_mem_cons.2 ⟨hanswer, hanswers⟩,
        houtcome.granted ht hrefusal⟩

end Workspace.Closing

end PathSpace
