import PathSpace.Proofs.Collections.List
import PathSpace.Proofs.Network.Closing
import Mathlib.Order.WellFounded
/-!
# Which workspaces are torn down

A workspace that is closed asks the router for everything that it remembers, provided that none of
its evals has a relative path.  Closing places the path of an eval under the root, where it has
been placed before.  An absolute path stays what it is, but under a root that is relative itself a
path gets longer.  So the eval with the shortest relative path is never asked for.

## Key results

- `Workspace.TornDown`: everything is asked for once, and what is refused remains
- `tornDown_of_absolute`: a workspace whose evals are absolute is torn down
- `not_tornDown_of_relative`: no other workspace is
- `Site.tornDown_iff_absolute`: the same after every run, and closing as such
-/

namespace PathSpace

open PathSpace.Computation

namespace Workspace

variable {w w' : Workspace} {t : Token} {n : Network}

/-! ## All tokens of a workspace -/

/-- The tokens of a workspace are those that it holds. -/
private theorem mem_tokens_iff (hw : w.Keyed) : t ∈ w.tokens ↔ w.Holds t := by
  rw [tokens, List.mem_append, List.mem_map, List.mem_map]
  constructor
  · rintro (⟨sub, hsub, rfl⟩ | ⟨ev, hev, rfl⟩)
    · obtain ⟨h, hfind⟩ := SortedMap.mem_values_iff.1 hsub
      rw [Holds, hw.subscription h sub hfind, hfind]
    · obtain ⟨p, hfind⟩ := SortedMap.mem_values_iff.1 hev
      rw [Holds, hw.eval p ev hfind, hfind]
  · intro ht
    cases t with
    | subscriber sub => exact .inl ⟨sub, SortedMap.mem_values_iff.2 ⟨_, ht⟩, rfl⟩
    | storage st => cases ht
    | eval ev => exact .inr ⟨ev, SortedMap.mem_values_iff.2 ⟨_, ht⟩, rfl⟩

/-- A workspace has no token twice. -/
private theorem nodup_tokens (hw : w.Keyed) : w.tokens.Nodup := by
  have hsubscriptions : w.subscriptions.values.map (·.handle) = w.subscriptions.keys := by
    rw [SortedMap.values, SortedMap.keys, List.map_map]
    exact List.map_congr_left fun e he => hw.subscription e.1 e.2 (SortedMap.find?_eq_some_iff.2 he)
  have hevals : w.evals.values.map (·.path) = w.evals.keys := by
    rw [SortedMap.values, SortedMap.keys, List.map_map]
    exact List.map_congr_left fun e he => hw.eval e.1 e.2 (SortedMap.find?_eq_some_iff.2 he)
  rw [tokens, List.nodup_append]
  -- subscriptions differ by their handles, evals by their paths
  refine ⟨?_, ?_, ?_⟩
  · refine List.Nodup.map (fun a b => Token.subscriber.inj) (List.Nodup.of_map (·.handle) ?_)
    exact hsubscriptions ▸ w.subscriptions.nodup_keys
  · refine List.Nodup.map (fun a b => Token.eval.inj) (List.Nodup.of_map (·.path) ?_)
    exact hevals ▸ w.evals.nodup_keys
  · simp

/-! ## Tearing down -/

/-- A workspace that is closed asks the router once for everything that it remembers.  What remains
is what the router refuses, and the first refusal is told. -/
structure TornDown (w : Workspace) (n : Network) (moments : List Moment) : Prop where
  asked : ((Closing.requests moments { workspace := w } n).map (·.token)).Perm w.tokens
  /-- Nothing but an arranged failure is in the way of a request. -/
  answered : ∀ r ∈ Closing.requests moments { workspace := w } n,
    r.visit.answer = Router.answerAmid r.visit.found.failure
  remains : (Closing.after moments { workspace := w } n).1.workspace.tokens.Perm
    (((Closing.requests moments { workspace := w } n).filter (·.refusal.isSome)).map (·.token))
  told : (Closing.after moments { workspace := w } n).1.firstError =
    (Closing.requests moments { workspace := w } n).findSome? Request.refusal

/-- The evals of a workspace are absolute. -/
def EvalsAbsolute (w : Workspace) : Prop := ∀ p ∈ w.evalPaths, p.isRelative = false

/-- An absolute path is resolved to itself. -/
private theorem absolutePath_of_absolute {p : Path} (hp : p.isRelative = false) :
    w.absolutePath p = .ok p := by
  rw [absolutePath, hp, if_neg Bool.false_ne_true]

/-- What a workspace with absolute evals ends when it is closed are its tokens. -/
private theorem filterMap_farewells (habsolute : w.EvalsAbsolute) :
    w.farewells.filterMap (·.token? w) = w.tokens := by
  have hevals : ∀ p ∈ w.evals.keys, (Farewell.eval p).token? w = (w.evals.find? p).map .eval := by
    intro p hp
    rw [Farewell.token?, evalAt, absolutePath_of_absolute (habsolute p hp)]
  rw [farewells, tokens, List.filterMap_append, List.filterMap_map, List.filterMap_map,
    ← SortedMap.filterMap_find?_keys, ← SortedMap.filterMap_find?_keys, List.map_filterMap,
    List.map_filterMap]
  exact congrArg _ (List.filterMap_congr hevals)

/-- Every farewell has its token, if the evals are absolute. -/
private theorem names_of_farewell (hw : w.Keyed) (habsolute : w.EvalsAbsolute) {f : Farewell}
    (hf : f ∈ w.farewells) : f.IsAbsolute ∧ ∃ t, f.token? w = some t ∧ f.Names t := by
  rcases List.mem_append.1 hf with hf | hf
  · obtain ⟨h, hh, rfl⟩ := List.mem_map.1 hf
    obtain ⟨sub, hsub⟩ := SortedMap.mem_keys_iff.1 hh
    exact ⟨trivial, .subscriber sub, by simp [Farewell.token?, hsub], hw.subscription h sub hsub⟩
  · obtain ⟨p, hp, rfl⟩ := List.mem_map.1 hf
    obtain ⟨ev, hev⟩ := SortedMap.mem_keys_iff.1 hp
    have hpath := absolutePath_of_absolute (w := w) (habsolute p hp)
    exact ⟨habsolute p hp, .eval ev, by simp [Farewell.token?, evalAt, hpath, hev],
      hw.eval p ev hev⟩

/-- A workspace whose evals are absolute is torn down, in whatever order. -/
theorem tornDown_of_absolute (hupheld : Upheld n.books w) (habsolute : w.EvalsAbsolute)
    {moments : List Moment} (hall : (moments.map (·.farewell)).Perm w.farewells) :
    w.TornDown n moments := by
  have hfound : ∀ m ∈ moments, m.farewell.IsAbsolute ∧
      ∃ t, m.farewell.token? w = some t ∧ m.farewell.Names t := fun m hm =>
    names_of_farewell hupheld.keyed habsolute
      (hall.mem_iff.1 (List.mem_map_of_mem hm))
  have htokens : (moments.filterMap (·.farewell.token? w)).Perm w.tokens := by
    have hperm := hall.filterMap (·.token? w)
    rwa [List.filterMap_map, filterMap_farewells habsolute] at hperm
  have hnames : List.Forall₂ (fun m t => m.farewell.Names t) moments
      (moments.filterMap (·.farewell.token? w)) :=
    forall₂_filterMap fun m hm => (hfound m hm).2
  have hheld : ∀ t ∈ moments.filterMap (·.farewell.token? w), w.Holds t := fun t ht =>
    (mem_tokens_iff hupheld.keyed).1 (htokens.mem_iff.1 ht)
  have hnodup := htokens.nodup_iff.2 (nodup_tokens hupheld.keyed)
  obtain ⟨hasked, hanswered, houtcome⟩ := Closing.outcome_after (c := { workspace := w }) hnames
    (fun m hm => (hfound m hm).1) hupheld hheld hnodup
  rw [← hasked] at htokens hnodup hheld
  refine ⟨htokens, hanswered, ?_, houtcome.error⟩
  refine (List.perm_ext_iff_of_nodup (nodup_tokens houtcome.keyed)
    (hnodup.sublist (List.filter_sublist.map _))).2 fun t => ?_
  rw [mem_tokens_iff houtcome.keyed, houtcome.holds, List.mem_map]
  constructor
  · rintro ⟨ht, hrefused⟩
    obtain ⟨r, hr, rfl⟩ :=
      List.mem_map.1 (htokens.mem_iff.2 ((mem_tokens_iff hupheld.keyed).2 ht))
    exact ⟨r, List.mem_filter.2 ⟨hr, Option.isSome_iff_ne_none.2 (hrefused r hr rfl)⟩, rfl⟩
  · rintro ⟨r, hr, rfl⟩
    obtain ⟨hr, hrefused⟩ := List.mem_filter.1 hr
    refine ⟨hheld r.token (List.mem_map_of_mem hr), fun r' hr' heq => ?_⟩
    -- there is only one request for the token
    obtain rfl := List.inj_on_of_nodup_map hnodup hr' hr heq
    exact Option.isSome_iff_ne_none.1 hrefused

/-! ## Relative evals -/

/-- A workspace that remembers nothing new. -/
structure Shrinks (w w' : Workspace) : Prop where
  root : w'.root = w.root
  subscriptions : ∀ h sub, w'.subscriptions.find? h = some sub → w.subscriptions.find? h = some sub
  evals : ∀ p ev, w'.evals.find? p = some ev → w.evals.find? p = some ev

theorem Shrinks.refl (w : Workspace) : w.Shrinks w :=
  ⟨rfl, fun _ _ h => h, fun _ _ h => h⟩

/-- Whatever is taken back, only tokens are lost. -/
private theorem shrinks_of_take {f : Farewell} {n' : Network}
    (hok : (f.take w).run n = (.ok w', n')) : w.Shrinks w' := by
  -- a subscription is taken from the one map, an eval from the other
  cases f with
  | subscription h =>
    rw [Farewell.take, w.unsubscribe_run] at hok
    cases hsub : w.subscriptions.find? h with
    | none =>
      rw [hsub] at hok
      cases hok
    | some sub =>
      rw [hsub, Prod.mk.injEq] at hok
      obtain ⟨-, -, rfl⟩ := exists_of_map_eq_ok hok.1
      exact ⟨rfl, fun _ _ => SortedMap.find?_of_find?_erase, fun _ _ h => h⟩
  | eval p =>
    rw [Farewell.take, w.unregisterEval_run] at hok
    cases hp : w.absolutePath p with
    | error e =>
      rw [hp] at hok
      cases hok
    | ok path =>
      rw [hp] at hok
      dsimp only at hok
      cases hev : w.evals.find? path with
      | none =>
        rw [hev] at hok
        cases hok
      | some ev =>
        rw [hev, Prod.mk.injEq] at hok
        obtain ⟨-, -, rfl⟩ := exists_of_map_eq_ok hok.1
        exact ⟨rfl, fun _ _ h => h, fun _ _ => SortedMap.find?_of_find?_erase⟩

/-- Whatever is taken back in one moment, only tokens are lost. -/
private theorem shrinks_step (m : Moment) (c : Closing) (n : Network) :
    c.workspace.Shrinks (m.step c n).1.workspace := by
  rcases hrun : (m.farewell.take c.workspace).run (n.interrupted m.others) with ⟨e | w', n'⟩
  · rw [Moment.step, closeStep_of_error hrun]
    exact .refl _
  · rw [Moment.step, closeStep_of_ok hrun]
    exact shrinks_of_take hrun

/-- Below the same root, a workspace that remembers less does not find more. -/
private theorem Shrinks.token? (h : w.Shrinks w') {f : Farewell} (ht : f.token? w' = some t) :
    f.token? w = some t := by
  cases f with
  | subscription k =>
    obtain ⟨sub, hsub, rfl⟩ := Option.map_eq_some_iff.1 ht
    simp [Farewell.token?, h.subscriptions k sub hsub]
  | eval p =>
    obtain ⟨ev, hev, rfl⟩ := Option.map_eq_some_iff.1 ht
    -- the roots are the same, so the path is resolved as before
    have hp : w'.absolutePath p = w.absolutePath p := by rw [absolutePath, absolutePath, h.root]
    rw [evalAt, hp] at hev
    rw [Farewell.token?, evalAt]
    cases hpath : w.absolutePath p with
    | error e =>
      rw [hpath] at hev
      cases hev
    | ok path =>
      rw [hpath] at hev
      exact congrArg (Option.map Token.eval) (h.evals path ev hev)

/-- What is asked for was found in the beginning already. -/
private theorem token?_of_requests {moments : List Moment} {c : Closing} {r : Request}
    (hr : r ∈ Closing.requests moments c n) :
    ∃ m ∈ moments, m.farewell.token? c.workspace = some r.token := by
  induction moments generalizing c n with
  | nil => cases hr
  | cons m rest ih =>
    rcases List.mem_append.1 hr with hr | hr
    · refine ⟨m, List.mem_cons_self, ?_⟩
      obtain ⟨t, ht, hvisit⟩ := Option.bind_eq_some_iff.1 (Option.mem_toList.1 hr)
      obtain ⟨v, -, rfl⟩ := Option.map_eq_some_iff.1 hvisit
      exact ht
    · obtain ⟨m', hm', ht⟩ := ih hr
      exact ⟨m', List.mem_cons_of_mem _ hm', (shrinks_step m c n).token? ht⟩

/-- Of the evals with a relative path there is one that no farewell finds. -/
private theorem exists_eval_not_found (hw : w.Keyed) (hrelative : ¬ w.EvalsAbsolute) :
    ∃ ev, w.Holds (.eval ev) ∧ ∀ f ∈ w.farewells, f.token? w ≠ some (.eval ev) := by
  have hsome : ∃ p, p ∈ w.evalPaths ∧ p.isRelative = true := by
    simpa [EvalsAbsolute] using hrelative
  -- the shortest relative path is not below the root
  obtain ⟨p, ⟨hp, hprelative⟩, hshortest⟩ :=
    (measure fun p : Path => p.text.toList.length).wf.has_min
      {p | p ∈ w.evalPaths ∧ p.isRelative = true} hsome
  obtain ⟨ev, hev⟩ := SortedMap.mem_keys_iff.1 hp
  obtain rfl := hw.eval p ev hev
  refine ⟨ev, hev, fun f hf hfound => ?_⟩
  rcases List.mem_append.1 hf with hf | hf
  · obtain ⟨h, -, rfl⟩ := List.mem_map.1 hf
    obtain ⟨sub, -, heq⟩ := Option.map_eq_some_iff.1 hfound
    cases heq
  · obtain ⟨q, hq, rfl⟩ := List.mem_map.1 hf
    obtain ⟨ev', hev', heq⟩ := Option.map_eq_some_iff.1 hfound
    obtain rfl := Token.eval.inj heq
    have hplaced : w.absolutePath q = .ok ev'.path := by
      rw [evalAt] at hev'
      cases hpath : w.absolutePath q with
      | error e =>
        rw [hpath] at hev'
        cases hev'
      | ok path =>
        rw [hpath] at hev'
        rw [hw.eval path ev' hev']
    cases hqrelative : q.isRelative with
    | false =>
      rw [absolutePath_of_absolute hqrelative] at hplaced
      rw [Except.ok.inj hplaced, hprelative] at hqrelative
      cases hqrelative
    | true =>
      rw [absolutePath, if_pos hqrelative] at hplaced
      exact hshortest q ⟨hq, hqrelative⟩ (Path.length_lt_of_under hqrelative hplaced)

/-- A workspace with a relative eval is not torn down, in whatever order. -/
theorem not_tornDown_of_relative (hw : w.Keyed) (hrelative : ¬ w.EvalsAbsolute)
    {moments : List Moment} (hall : (moments.map (·.farewell)).Perm w.farewells) :
    ¬ w.TornDown n moments := by
  intro htorn
  obtain ⟨ev, hheld, hnever⟩ := exists_eval_not_found hw hrelative
  obtain ⟨r, hr, hasked⟩ :=
    List.mem_map.1 (htorn.asked.mem_iff.2 ((mem_tokens_iff hw).2 hheld))
  obtain ⟨m, hm, hfound⟩ := token?_of_requests hr
  exact hnever m.farewell (hall.mem_iff.1 (List.mem_map_of_mem hm)) (hasked ▸ hfound)

end Workspace

/-! ## Workspaces of clients -/

namespace Site

variable {site : Site} {i : Nat} {w : Workspace}

/-- A workspace whose session is open is upheld by the books. -/
private theorem Backed.upheld (h : site.Backed) (hw : site.workspaces[i]? = some w)
    (hopen : Session.isClosed site.network w.session = false) :
    Upheld site.network.books w where
  isOpen := hopen
  keyed := h.keyed w (List.mem_of_getElem? hw)
  backs t ht := h.backs i w.session t ⟨w, hw, rfl, ht⟩ hopen
  apart t t' ht ht' hrole hhandle :=
    (h.apart i i w.session t t' ⟨w, hw, rfl, ht⟩ ⟨w, hw, rfl, ht'⟩ hrole hhandle).2

/-- With an absolute root all evals are absolute. -/
private theorem Backed.evalsAbsolute (h : site.Backed) (hw : site.workspaces[i]? = some w)
    (hroot : w.root.isRelative = false) : w.EvalsAbsolute := by
  intro p hp
  have hmem := List.mem_of_getElem? hw
  obtain ⟨ev, hev⟩ := SortedMap.mem_keys_iff.1 hp
  obtain rfl := (h.keyed w hmem).eval p ev hev
  exact h.rooted w hmem hroot ev hev

/-- After every run a workspace with an open session is torn down when it is closed, whatever the
router refuses and in whatever order, if and only if none of its evals has a relative path.  Below
an absolute root there are no such evals. -/
theorem tornDown_iff_absolute (wall : Instant) (clock : ClockId) (codecs : CodecTable)
    (tasks : List Task) (hsparing : (start wall clock codecs).Sparing tasks) {i : Nat}
    {w : Workspace} (hw : ((start wall clock codecs).runAll tasks).workspaces[i]? = some w)
    (hopen : Session.isClosed ((start wall clock codecs).runAll tasks).network w.session = false) :
    (∀ n, w.close.run n = Workspace.Closing.after w.undisturbed { workspace := w } n) ∧
      (∀ moments : List Moment, (moments.map (·.farewell)).Perm w.farewells →
        (w.TornDown ((start wall clock codecs).runAll tasks).network moments ↔
          w.EvalsAbsolute)) ∧
      (w.root.isRelative = false → w.EvalsAbsolute) := by
  have hbacked := backed_runAll wall clock codecs tasks hsparing
  have hupheld := hbacked.upheld hw hopen
  refine ⟨w.close_eq_after, fun moments hall => ?_, hbacked.evalsAbsolute hw⟩
  constructor
  · intro htorn
    -- a relative eval is looked for under the root once more, and not found there
    by_contra hrelative
    exact Workspace.not_tornDown_of_relative hupheld.keyed hrelative hall htorn
  · exact fun habsolute => Workspace.tornDown_of_absolute hupheld habsolute hall

/-! ### Two clients that close a workspace -/

/-- The path `/r`. -/
def rootPath : Path := ⟨"/r", by decide, by simp [Path.forbidden], by decide⟩

/-- The path `/r/a/b`. -/
def placedPath : Path := ⟨"/r/a/b", by decide, by simp [Path.forbidden], by decide⟩

/-- A client subscribes and registers an eval below an absolute root. -/
def settledClient : List Task :=
  [.operate (.openSession none ∅) openSession_isOrdinary, .openWorkspace rootPath 0 {},
    .work 0 (.subscribe Network.leafSelector fun _ => {}),
    .work 0 (.registerEval Network.leafPath fun _ _ => { value := none })]

/-- The workspace of that client. -/
def settledWorkspace : Workspace where
  root := rootPath
  session := 0
  subscriptions := SortedMap.insert ∅ 0 ⟨0, Network.leafSelector.under rootPath, .push⟩
  evals := SortedMap.insert ∅ placedPath ⟨0, placedPath⟩

/-- The router loses the first request of two. -/
def firstLost : List Moment :=
  [⟨fun _ => some ⟨1, 7, "lost"⟩, .eval placedPath⟩, ⟨id, .subscription 0⟩]

/-- The eval stays, and the subscription goes. -/
theorem tornDown_of_settledClient :
    settledWorkspace.TornDown ((start ⟨0⟩ .zero {}).runAll settledClient).network firstLost ∧
      (Workspace.Closing.after firstLost { workspace := settledWorkspace }
        ((start ⟨0⟩ .zero {}).runAll settledClient).network).1.workspace.tokens =
          [.eval ⟨0, placedPath⟩] := by
  have hsparing : (start ⟨0⟩ .zero {}).Sparing settledClient :=
    ⟨trivial, trivial, trivial, trivial, trivial⟩
  have hw : ((start ⟨0⟩ .zero {}).runAll settledClient).workspaces[0]? = some settledWorkspace :=
    rfl
  obtain ⟨-, htorn, habsolute⟩ := tornDown_iff_absolute ⟨0⟩ .zero {} settledClient hsparing hw rfl
  exact ⟨(htorn firstLost (List.Perm.swap _ _ _)).2 (habsolute (by decide)), rfl⟩

/-- A client registers an eval below a relative root. -/
def strayClient : List Task :=
  [.operate (.openSession none ∅) openSession_isOrdinary, .openWorkspace Network.leafPath 0 {},
    .work 0 (.registerEval Network.leafPath fun _ _ => { value := none })]

/-- The path `a/b/a/b`. -/
def strayPath : Path := ⟨"a/b/a/b", by decide, by simp [Path.forbidden], by decide⟩

/-- The workspace of that client. -/
def strayWorkspace : Workspace where
  root := Network.leafPath
  session := 0
  evals := SortedMap.insert ∅ strayPath ⟨0, strayPath⟩

/-- The eval is not asked for when the workspace is closed. -/
theorem not_tornDown_of_strayClient :
    ¬ ∀ (tasks : List Task) (i : Nat) (w : Workspace), (start ⟨0⟩ .zero {}).Sparing tasks →
      ((start ⟨0⟩ .zero {}).runAll tasks).workspaces[i]? = some w →
      Session.isClosed ((start ⟨0⟩ .zero {}).runAll tasks).network w.session = false →
      w.TornDown ((start ⟨0⟩ .zero {}).runAll tasks).network w.undisturbed := by
  intro h
  have htorn := h strayClient 0 strayWorkspace ⟨trivial, trivial, trivial, trivial⟩ rfl rfl
  exact absurd htorn.asked.length_eq (by decide)

end Site

end PathSpace
