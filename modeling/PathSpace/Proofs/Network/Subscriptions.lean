import PathSpace.Proofs.Network.Hosts
/-!
# What subscribers hear

A subscriber hears the writes that concern it, from its declaration on and until it is taken
back: in order, each of them once, and nothing else.

## Key results

- `Served`: what a subscriber can count on
- `served_of_declared`: every subscriber is served, in every run
-/

namespace PathSpace

namespace Network

variable {codecs : CodecTable} {s : SessionId} {h : Handle} {expression : String} {mode : SubMode}
  {listener : DataListener Surroundings Effect} {before after : List Event}

/-- What a subscriber can count on, when `after` has happened since it was declared and `n` is
the network now. -/
structure Served (codecs : CodecTable) (s : SessionId) (h : Handle) (expression : String)
    (mode : SubMode) (listener : DataListener Surroundings Effect) (after : List Event)
    (n : Network) : Prop where
  /-- At every moment it has heard the first of the writes that concern it. -/
  heard_prefix : ∀ moment, moment <+: after →
    heardBy .subscribers s h moment <+: due .subscribers s h expression moment
  /-- Their timestamps increase. -/
  increasing : (due .subscribers s h expression after).Pairwise Sample.Earlier
  /-- If it is pushed to, it has heard all of them once all jobs are done. -/
  push : mode = .push → n.router.queue = [] → (∀ e ∈ after, e.ends .subscribers s h = false) →
    heardBy .subscribers s h after = due .subscribers s h expression after
  /-- If it pulls, it has heard those up to its last pull once all jobs are done. -/
  pull : mode = .pull → n.router.queue = [] → (∀ e ∈ after, e.ends .subscribers s h = false) →
    heardBy .subscribers s h after = writesFor expression (uptoPull .subscribers s h after)
  /-- After it is taken back it hears nothing. -/
  undeclared : ∀ earlier later, after = earlier ++ .undeclared .subscribers s h :: later →
    heardBy .subscribers s h later = []
  /-- Whenever it hears a sample, its own listener is called. -/
  called : ∀ sample script, .heard .subscribers s h sample script ∈ after →
    ∃ around, around.codecs = codecs ∧ script = listener around sample
  /-- A listener of a workspace that is called within the delivery is told of every such sample
  that can be read, each in a batch of its own, and of no other. -/
  told : ∀ tell, listener = Workspace.changeListener .inline tell →
    ∀ sample script, .heard .subscribers s h sample script ∈ after →
      match Change.ofSample codecs sample with
      | .ok change => script = tell [change]
      | .error reason => script = { acts := [.effect (.drop reason)] }

/-- The writes that a handle is due are some of all writes. -/
private theorem due_sublist (a : Audience) (s : SessionId) (h : Handle) (expression : String)
    (log : List Event) : (due a s h expression log).Sublist (writes log) :=
  List.filter_sublist.trans ((List.takeWhile_sublist _).filterMap _)

/-- Within the delivery, a listener of a workspace is told of a change, or the sample is left
out. -/
private theorem changeListener_inline (tell : List Change → Script Effect) (around : Surroundings)
    (sample : Sample) :
    match Change.ofSample around.codecs sample with
    | .ok change => Workspace.changeListener .inline tell around sample = tell [change]
    | .error reason => Workspace.changeListener .inline tell around sample =
        { acts := [.effect (.drop reason)] } := by
  unfold Workspace.changeListener
  cases Change.ofSample around.codecs sample <;> rfl

/-- Every subscriber whose session is still held is served, whatever was done. -/
theorem served_of_declared (wall : Instant) (clock : ClockId) (codecs : CodecTable)
    (ops : List Operation)
    (hlog : (start wall clock codecs).runLog ops =
      before ++ .declared .subscribers s h expression mode listener :: after)
    (hfew : Desk.FewDeclarations .subscribers ((start wall clock codecs).runLog ops))
    (htime : ∀ e ∈ (start wall clock codecs).runLog ops, e.InTime)
    (hheld : HeldAt s ((start wall clock codecs).runAll ops)) :
    Served codecs s h expression mode listener after ((start wall clock codecs).runAll ops) := by
  have horderly := Orderly.start wall clock codecs
  have htidy := tidy_start wall clock codecs .subscribers
  have hgoes := goes_runAll (b := .subscribers) horderly ops
  have hmissed := not_missed_runLog horderly htidy hheld hfew
  have hstamped := Desk.stamped_of_moves hgoes htime
  rw [Goes, hlog] at hgoes
  rw [hlog] at hfew hmissed hstamped
  have hmiss : ∀ e ∈ after, e.isMissed .subscribers s = false := fun e he =>
    hmissed e (List.mem_append_right _ (List.mem_cons_of_mem _ he))
  obtain ⟨l, rfl, -, htracked, hscripts⟩ := Desk.tracked_of_moves hgoes htidy hfew hmiss
  have hidle : ((start wall clock codecs).runAll ops).router.queue = [] →
      ((((start wall clock codecs).runAll ops).desk .subscribers).seat s h).queued = [] := by
    intro hq
    rw [Desk.seat, desk, hq]
    rfl
  refine ⟨?_, ?_, ?_, ?_, ?_, hscripts, ?_⟩
  · rintro moment ⟨rest, rfl⟩
    -- what holds after every run holds at every moment of it
    rw [← List.cons_append, ← List.append_assoc] at hgoes hfew
    obtain ⟨d, hmoment, -⟩ := hgoes.split
    have hfew' := fun s' =>
      Nat.lt_of_le_of_lt (List.sublist_append_left _ rest).countP_le (hfew s')
    obtain ⟨_, _, -, hmoment, -⟩ := Desk.tracked_of_moves hmoment htidy hfew'
      fun e he => hmiss e (List.mem_append_left _ he)
    exact hmoment.heard_prefix
  · have hsub : (writes after).Sublist
        (writes (before ++ .declared .subscribers s h expression mode l :: after)) :=
      ((List.sublist_cons_self _ _).trans (List.sublist_append_right _ _)).filterMap _
    exact hstamped.increasing.sublist ((due_sublist _ _ _ _ _).trans hsub)
  · rintro rfl hq hends
    rw [due_of_not_ended hends]
    exact htracked.heard_eq_sent (hidle hq) hends
  · rintro rfl hq hends
    exact htracked.heard_eq_sent (hidle hq) hends
  · intro earlier later heq
    exact htracked.nothing_after heq
  · rintro tell htell sample script hmem
    obtain ⟨around, rfl, rfl⟩ := hscripts sample script hmem
    rw [congrFun (congrFun htell around) sample]
    exact changeListener_inline tell around sample

/-! ### A short run -/

/-- The path `a/b`. -/
def leafPath : Path := ⟨"a/b", by decide, by simp [Path.forbidden], by decide⟩

/-- The selector `a/*`. -/
def leafSelector : Selector :=
  ⟨⟨['a', '/', '*'], [], [], []⟩,
    ⟨by decide, by simp [Selector.isPathChar], by simp, by decide, by decide, by decide⟩⟩

/-- A subscriber hears one write, is taken back, and does not hear the next one. -/
def shortRun : List Operation :=
  [.openSession none ∅, .declareSubscriber 0 leafSelector .push fun _ _ => {},
    .write 0 leafPath [1] .raw .put, .deliver,
    .undeclareSubscriber 0 ⟨0, leafSelector, .push⟩,
    .write 0 leafPath [2] .raw .put, .deliver]

theorem served_in_shortRun :
    ((start ⟨0⟩ .zero {}).runLog shortRun).length = 5 ∧
      Served {} 0 0 "a/*" .push (fun _ _ => {}) ((start ⟨0⟩ .zero {}).runLog shortRun).tail
        ((start ⟨0⟩ .zero {}).runAll shortRun) := by
  refine ⟨by decide, ?_⟩
  have hfew : Desk.FewDeclarations .subscribers ((start ⟨0⟩ .zero {}).runLog shortRun) :=
    fun _ => Nat.lt_of_le_of_lt List.countP_le_length (by decide)
  have hheld : HeldAt 0 ((start ⟨0⟩ .zero {}).runAll shortRun) := rfl
  have hlog : (start ⟨0⟩ .zero {}).runLog shortRun =
      [] ++ .declared .subscribers 0 0 "a/*" .push (fun _ _ => {}) ::
        ((start ⟨0⟩ .zero {}).runLog shortRun).tail := rfl
  exact served_of_declared ⟨0⟩ .zero {} shortRun hlog hfew (by decide) hheld

end Network

end PathSpace
