import PathSpace.Proofs.Address.Selector
import PathSpace.Proofs.Network.Sessions
/-!
# What the operations of a workspace do

A workspace places paths and selectors under its root and leaves the rest to its session.

## Key results

- `write_run`: a write under the root
- `beginGet_cases`, `concludeGet_cases`: the stages of a get
- `subscribe_run`, `unsubscribe_run`: the session does it, the workspace remembers it
- `registerEval_run`, `unregisterEval_run`: the same for evals, known by their paths
- `queryProperties_of_selector`: an eval is told the properties that the selector of a query has
-/

namespace PathSpace.Workspace

open PathSpace.Computation
open Text (Bytes)

/-- A write under the root is a write of the session. -/
theorem write_run (w : Workspace) (p : Path) (payload : Bytes) (e : Encoding) (kind : ChangeKind)
    (n : Network) :
    (w.write p payload e kind).run n =
      match w.absolutePath p with
      | .ok p => (Session.write w.session p payload e kind).run n
      | .error err => (.error err, n) := by
  rw [write, run_bind, run_liftExcept]
  cases w.absolutePath p <;> rfl

/-- To subscribe is to declare a subscriber with the absolute selector. -/
theorem subscribe_run (w : Workspace) (s : Selector) (listener : List Change → Script Effect)
    (n : Network) :
    (w.subscribe s listener).run n =
      (((Session.declareSubscriber w.session (w.absoluteSelector s) .push
          (changeListener w.delivery listener)).run n).1.map fun sub =>
            (sub.handle, { w with subscriptions := w.subscriptions.insert sub.handle sub }),
        ((Session.declareSubscriber w.session (w.absoluteSelector s) .push
          (changeListener w.delivery listener)).run n).2) := by
  rw [subscribe, run_bind_pure]

/-- To end a subscription is to undeclare its subscriber, if there is one. -/
theorem unsubscribe_run (w : Workspace) (h : Handle) (n : Network) :
    (w.unsubscribe h).run n =
      match w.subscriptions.find? h with
      | none => (.error (.notRegistered "subscription" (subscriptionText h)), n)
      | some sub =>
        (((Session.undeclareSubscriber w.session sub).run n).1.map fun _ =>
            { w with subscriptions := w.subscriptions.erase h },
          ((Session.undeclareSubscriber w.session sub).run n).2) := by
  rw [unsubscribe]
  cases w.subscriptions.find? h with
  | none => rfl
  | some sub => rw [run_bind_pure]

/-- To register an eval is to declare it under its absolute path, if this is free. -/
theorem registerEval_run (w : Workspace) (p : Path) (eval : Path → Properties → Evaluation)
    (n : Network) :
    (w.registerEval p eval).run n =
      match w.absolutePath p with
      | .error e => (.error e, n)
      | .ok path =>
        if w.evals.contains path then (.error (evalConflict path), n)
        else
          (((Session.declareEval w.session path (evalListener w.delivery path eval)).run n).1.map
              fun declared => { w with evals := w.evals.insert path declared },
            ((Session.declareEval w.session path (evalListener w.delivery path eval)).run n).2) := by
  rw [registerEval, run_bind, run_liftExcept]
  cases w.absolutePath p with
  | error e => rfl
  | ok path =>
    dsimp only
    split
    · rfl
    · exact run_bind_pure _ _ _

/-- To unregister an eval is to undeclare the one of the absolute path, if there is one. -/
theorem unregisterEval_run (w : Workspace) (p : Path) (n : Network) :
    (w.unregisterEval p).run n =
      match w.absolutePath p with
      | .error e => (.error e, n)
      | .ok path =>
        match w.evals.find? path with
        | none => (.error (.notRegistered "eval" path.text), n)
        | some eval =>
          (((Session.undeclareEval w.session eval).run n).1.map fun _ =>
              { w with evals := w.evals.erase path },
            ((Session.undeclareEval w.session eval).run n).2) := by
  rw [unregisterEval, run_bind, run_liftExcept]
  cases w.absolutePath p with
  | error e => rfl
  | ok path =>
    dsimp only
    cases w.evals.find? path with
    | none => rfl
    | some eval => exact run_bind_pure _ _ _

/-! ## Asking -/

/-- A get begins with its query, or fails with it. -/
theorem beginGet_cases (w : Workspace) (s : Selector) (n : Network) :
    (∃ query m, (Session.query w.session (w.absoluteSelector s)
          (gatherListener n.nextGathering w.settings.missingTimestamp)).run n = (.ok query, m) ∧
        (w.beginGet s).run n =
          (.ok ⟨query, n.nextGathering, (w.absoluteSelector s).isForSeries⟩,
            { m with
              nextGathering := m.nextGathering + 1
              gatherings := m.gatherings.insert n.nextGathering {} })) ∨
      ∃ e m, (Session.query w.session (w.absoluteSelector s)
          (gatherListener n.nextGathering w.settings.missingTimestamp)).run n = (.error e, m) ∧
        (w.beginGet s).run n = (.error e, m) := by
  rw [beginGet]
  simp only [run_bind, run_get]
  rcases (Session.query w.session (w.absoluteSelector s)
    (gatherListener n.nextGathering w.settings.missingTimestamp)).run n with ⟨e | query, m⟩
  · exact .inr ⟨e, m, rfl, rfl⟩
  · exact .inl ⟨query, m, rfl, rfl⟩

/-- A get is answered once its last event has come, and is given up before that. -/
theorem concludeGet_cases (w : Workspace) (s : Selector) (g : PendingGet) (n : Network) :
    (∃ aggregator, n.gatherings.find? g.gathering = some ⟨aggregator, true⟩ ∧
        (w.concludeGet s g).run n =
          (.ok (aggregator.finish g.series),
            { n with gatherings := n.gatherings.erase g.gathering })) ∨
      ∃ e, (∀ aggregator, n.gatherings.find? g.gathering ≠ some ⟨aggregator, true⟩) ∧
        (w.concludeGet s g).run n = (.error e, w.abandonGet g n) := by
  rw [concludeGet, run_bind, run_get]
  rcases hf : n.gatherings.find? g.gathering with - | ⟨aggregator, concluded⟩
  · exact .inr ⟨_, by simp, by simp only [hf]; rfl⟩
  · cases concluded with
    | true => exact .inl ⟨aggregator, rfl, by simp only [hf]; rfl⟩
    | false => exact .inr ⟨_, by simp, by simp only [hf]; rfl⟩

/-- A get asks, waits and concludes. -/
theorem get_run (w : Workspace) (limit : Nat) (s : Selector) (n : Network) :
    (w.get limit s).run n =
      match (w.beginGet s).run n with
      | (.ok g, m) => (w.concludeGet s g).run (m.settle limit)
      | (.error e, m) => (.error e, m) := by
  rw [get, run_bind]
  rcases (w.beginGet s).run n with ⟨e | g, m⟩ <;> rfl

/-! ## What evals are told -/

/-- Path and optional part put together are the selector again. -/
private theorem text_of_optionalPart {s : Selector} (h : s.parts.optionalText ≠ []) :
    s.path ++ "?" ++ s.optionalPart = s.text := by
  apply String.toList_injective
  simp [Selector.path, Selector.optionalPart, Selector.text, Selector.Parts.text, h]

/-- Without an optional part there are no properties. -/
private theorem properties_of_no_optionalText {s : Selector} (h : s.parts.optionalText = []) :
    s.properties = "" := by
  obtain ⟨-, hproperties, -⟩ := Selector.Parts.optionalText_eq_nil_iff.1 h
  rw [Selector.properties, hproperties, String.ofList_nil]

/-- What is sent with a query is enough to find the properties of its selector again, and nothing
besides them: for every name, the value that the last of them assigns to it. -/
theorem queryProperties_of_selector (s : Selector) :
    queryProperties s.path s.optionalPart = .parseAssignments s.properties ∧
      ∀ name, (queryProperties s.path s.optionalPart).find? name =
        (((s.parts.properties.splitOn ';').filterMap Properties.assignment?).reverse.find?
          fun e => e.1 = name).map (·.2) := by
  have heq : queryProperties s.path s.optionalPart = .parseAssignments s.properties := by
    by_cases h : s.parts.optionalText = []
    · have hempty : s.optionalPart.isEmpty = true := by simp [Selector.optionalPart, h]
      rw [queryProperties, if_pos hempty, properties_of_no_optionalText h]
      rfl
    · have hne : ¬ s.optionalPart.isEmpty = true := by simpa [Selector.optionalPart] using h
      -- what the eval puts together is parsed to the selector that was sent
      have hread : Selector.parse (s.path ++ "?" ++ s.optionalPart) = .ok s := by
        rw [text_of_optionalPart h, Selector.parse_eq_ok_iff, Selector.text, String.toList_ofList]
        exact s.grammatical.parts?_text
      rw [queryProperties, if_neg hne, hread]
  refine ⟨heq, fun name => ?_⟩
  rw [heq, Properties.parseAssignments, SortedMap.find?_ofList, Selector.properties,
    String.toList_ofList]

end PathSpace.Workspace
