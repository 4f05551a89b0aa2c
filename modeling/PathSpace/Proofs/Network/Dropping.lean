import PathSpace.Proofs.Network.Gathered
import PathSpace.Proofs.Network.Workspaces
/-!
# Replies that are left out

A get hears replies in any order and of any quality.  One that cannot be read is left out, and
counted under the first thing that is wrong with it.  The others are gathered as if it had never
come, so each reply either is gathered or is counted.

## Key results

- `Data.ofReply_cases`: a reply is left out for the first check that it does not pass
- `Waits.hear`: one event, gathered or counted
- `Waits.hearAll`: any number of events
- `Workspace.accounts_of_beginGet`: what a get makes of all that it hears
-/

namespace PathSpace

/-! ## Checks -/

namespace Sample

/-- The checks that a reply has to pass, in their order, and whether it does. -/
def checks (codecs : CodecTable) (policy : MissingTimestamp) (x : Sample) :
    List (DropReason × Bool) :=
  [(.invalidPath, (Path.parse x.path).isOk),
    (.decode, (codecs.decode (x.info.encoding.getD .raw) x.payload).isOk),
    (.missingTimestamp, x.info.timestamp.isSome || policy == .synthesize)]

/-- Why a reply is left out: the first check that it does not pass. -/
def fault? (codecs : CodecTable) (policy : MissingTimestamp) (x : Sample) : Option DropReason :=
  ((x.checks codecs policy).find? fun check => !check.2).map (·.1)

end Sample

/-- A reply that passes all checks is read, and every other one is left out for the first check
that it does not pass, whenever it comes. -/
theorem Data.ofReply_cases (codecs : CodecTable) (policy : MissingTimestamp) (wall : Instant)
    (x : Sample) :
    (∃ d, Data.ofReply codecs policy wall x = .ok d ∧ x.fault? codecs policy = none) ∨
      ∃ reason, Data.ofReply codecs policy wall x = .error reason ∧
        x.fault? codecs policy = some reason := by
  unfold Data.ofReply Sample.readPath Sample.readValue Sample.fault? Sample.checks
  -- a reply is read in the order of the checks, and the first failure ends both
  cases Path.parse x.path with
  | error e => exact .inr ⟨_, rfl, rfl⟩
  | ok path =>
    cases codecs.decode (x.info.encoding.getD .raw) x.payload with
    | error e => exact .inr ⟨_, rfl, rfl⟩
    | ok value =>
      cases x.info.timestamp with
      | some t => exact .inl ⟨_, rfl, rfl⟩
      | none =>
        cases policy with
        | synthesize => exact .inl ⟨_, rfl, rfl⟩
        | reject => exact .inr ⟨_, rfl, rfl⟩

/-- Why an event is left out. -/
def ReplyEvent.fault? (codecs : CodecTable) (policy : MissingTimestamp) (event : ReplyEvent) :
    Option DropReason :=
  event.sample?.bind (·.fault? codecs policy)

/-! ## Events -/

/-- An event, and what the wall clock shows when it comes. -/
structure Arrival where
  wall : Instant
  event : ReplyEvent

namespace Arrival

variable (codecs : CodecTable) (policy : MissingTimestamp)

/-- Whether an event brings a reply. -/
def isData (a : Arrival) : Bool := a.event.sample?.isSome

/-- What is gathered from an event. -/
def datum? (a : Arrival) : Option Data := a.event.datum? { wall := a.wall, codecs } policy

/-- Why an event is left out. -/
def fault? (a : Arrival) : Option DropReason := a.event.fault? codecs policy

/-- A reply is gathered or left out; an event of another kind is neither. -/
inductive Outcome (a : Arrival) : Prop
  | noReply (hdata : a.isData = false) (hdatum : a.datum? codecs policy = none)
    (hfault : a.fault? codecs policy = none)
  | gathered (hdata : a.isData = true) {d : Data} (hdatum : a.datum? codecs policy = some d)
    (hfault : a.fault? codecs policy = none)
  | leftOut (hdata : a.isData = true) (hdatum : a.datum? codecs policy = none)
    {reason : DropReason} (hfault : a.fault? codecs policy = some reason)

/-- Every arrival is no reply, or is gathered, or is left out for a fault. -/
private theorem outcome (a : Arrival) : Outcome codecs policy a := by
  cases hsample : a.event.sample? with
  | none =>
    refine .noReply ?_ ?_ ?_ <;>
      simp [isData, datum?, fault?, ReplyEvent.datum?, ReplyEvent.fault?, hsample]
  | some x =>
    have hdata : a.isData = true := by rw [isData, hsample, Option.isSome_some]
    have hdatum : a.datum? codecs policy = (Data.ofReply codecs policy a.wall x).toOption := by
      rw [datum?, ReplyEvent.datum?, hsample, Option.bind_some]
    have hfault : a.fault? codecs policy = x.fault? codecs policy := by
      rw [fault?, ReplyEvent.fault?, hsample, Option.bind_some]
    -- a reply that can be read has no fault, and one that cannot has
    rcases Data.ofReply_cases codecs policy a.wall x with ⟨d, hok, hnone⟩ | ⟨r, herror, hsome⟩
    · rw [hok] at hdatum
      exact .gathered hdata hdatum (hfault.trans hnone)
    · rw [herror] at hdatum
      exact .leftOut hdata hdatum (hfault.trans hsome)

/-- Every reply is gathered or left out, and none is both. -/
private theorem countP_isData (arrivals : List Arrival) :
    arrivals.countP isData =
      (arrivals.filterMap (·.datum? codecs policy)).length +
        (arrivals.filterMap (·.fault? codecs policy)).length := by
  induction arrivals with
  | nil => rfl
  | cons a rest ih =>
    rw [List.countP_cons, ih, List.filterMap_cons, List.filterMap_cons]
    cases a.outcome codecs policy with
    | noReply hdata hdatum hfault => simp [hdata, hdatum, hfault]
    | gathered hdata hdatum hfault => simp [hdata, hdatum, hfault, Nat.add_right_comm]
    | leftOut hdata hdatum hfault => simp [hdata, hdatum, hfault, Nat.add_assoc]

/-- What is left out does not add to what is gathered. -/
private theorem filterMap_datum?_filter (arrivals : List Arrival) :
    (arrivals.filter fun a => (a.fault? codecs policy).isNone).filterMap
        (·.datum? codecs policy) =
      arrivals.filterMap (·.datum? codecs policy) := by
  rw [List.filterMap_filter]
  refine List.filterMap_congr fun a _ => ?_
  cases a.outcome codecs policy with
  | noReply _ _ hfault | gathered _ _ hfault => simp [hfault]
  | leftOut _ hdatum hfault => simp [hfault, hdatum]

end Arrival

/-- All that is heard of a get: some events, and then that nothing more comes. -/
structure Hearing where
  arrivals : List Arrival
  /-- What the wall clock shows in the end. -/
  last : Instant
  not_final : ∀ a ∈ arrivals, a.event.isFinal = false

namespace Hearing

/-- All events, the last one included. -/
def all (h : Hearing) : List Arrival := h.arrivals ++ [⟨h.last, .replyFinal⟩]

/-- The same without the replies that are left out. -/
def readable (codecs : CodecTable) (policy : MissingTimestamp) (h : Hearing) : Hearing where
  arrivals := h.arrivals.filter fun a => (a.fault? codecs policy).isNone
  last := h.last
  not_final a ha := h.not_final a (List.mem_filter.1 ha).1

/-- What can be read of a hearing are the arrivals without fault. -/
private theorem all_readable (codecs : CodecTable) (policy : MissingTimestamp) (h : Hearing) :
    (h.readable codecs policy).all = h.all.filter fun a => (a.fault? codecs policy).isNone := by
  rw [all, all, List.filter_append]
  rfl

/-- What cannot be read adds no datum. -/
private theorem filterMap_datum?_readable (codecs : CodecTable) (policy : MissingTimestamp)
    (h : Hearing) :
    (h.readable codecs policy).all.filterMap (·.datum? codecs policy) =
      h.all.filterMap (·.datum? codecs policy) := by
  rw [all_readable, Arrival.filterMap_datum?_filter]

/-- A hearing has a last event. -/
private theorem any_isFinal_all (h : Hearing) : (h.all.any fun a => a.event.isFinal) = true := by
  rw [all, List.any_append]
  exact Bool.or_true _

end Hearing

/-! ## Counters -/

/-- Whether a sample was left out. -/
def Incident.isDropped : Incident → Bool
  | .dropped _ => true
  | .error _ | .listenerFault _ => false

/-- How many samples have been left out, for whatever reason. -/
def Counters.dropped (c : Counters) : Nat := c.incidents.countP Incident.isDropped

/-- Every reason counts as one reply that was dropped. -/
private theorem Counters.dropped_of_incidents {c c' : Counters} {reasons : List DropReason}
    (h : c'.incidents = c.incidents ++ reasons.map .dropped) :
    c'.dropped = c.dropped + reasons.length := by
  have hall : ((reasons.map Incident.dropped).countP Incident.isDropped) = reasons.length := by
    rw [List.countP_map, List.countP_eq_length]
    exact fun _ _ => rfl
  rw [dropped, h, List.countP_append, hall, dropped]

/-- Every reason is counted under its own name. -/
private theorem Counters.count_of_incidents {c c' : Counters} {reasons : List DropReason}
    (h : c'.incidents = c.incidents ++ reasons.map .dropped) (reason : DropReason) :
    c'.count (.dropped reason) = c.count (.dropped reason) + reasons.count reason := by
  have hcount : (reasons.map Incident.dropped).count (.dropped reason) = reasons.count reason := by
    rw [List.count, List.countP_map, List.count]
    exact List.countP_congr fun r _ => by simp
  rw [count, h, List.count_append, hcount, count]

namespace Network

variable {n n' n'' : Network} {q : Query} {id : GatheringId} {policy : MissingTimestamp}
  {g : Gathering}

/-- What is gathered is not counted. -/
private theorem changeGathering_counters (n : Network) (id : GatheringId)
    (f : Gathering → Gathering) :
    (n.changeGathering id f).counters = n.counters := by
  unfold changeGathering
  split <;> rfl

/-- A listener that gathers counts what it leaves out. -/
private theorem incidents_gatherEffects (id : GatheringId) (policy : MissingTimestamp)
    (around : Surroundings) (event : ReplyEvent) (m : Network) :
    ((gatherEffects id policy around event).foldl perform m).counters.incidents =
      m.counters.incidents ++ (event.fault? around.codecs policy).toList.map .dropped := by
  -- to gather something counts nothing
  have hkept (f : Gathering → Gathering) :
      (m.changeGathering id f).counters.incidents = m.counters.incidents ++ [] := by
    rw [changeGathering_counters, List.append_nil]
  unfold gatherEffects ReplyEvent.fault? ReplyEvent.sample?
  cases event with
  | storageData x | evalData x =>
    simp only [Option.bind_some]
    rcases Data.ofReply_cases around.codecs policy around.wall x with
      ⟨d, hok, hnone⟩ | ⟨r, herror, hsome⟩
    · rw [hok, hnone]
      exact hkept _
    · rw [herror, hsome]
      rfl
  | storageFinal | evalFinal => exact (List.append_nil _).symm
  | replyFinal => exact hkept _

/-- A reply that is reported to a get is counted if it has a fault. -/
private theorem Waits.report_incidents (hw : Waits n q (some (id, policy))) (event : ReplyEvent) :
    (n.report q event).counters.incidents =
      n.counters.incidents ++ (event.fault? n.around.codecs policy).toList.map .dropped := by
  obtain ⟨heffects, hfaults, -⟩ := hw.reaction event
  rw [Network.report, absorb, heffects, hfaults]
  exact (List.append_nil _).trans (incidents_gatherEffects id policy n.around event _)

/-! ## What is heard -/

/-- The network while the wall clock shows `wall`. -/
def showing (n : Network) (wall : Instant) : Network :=
  n.changeAround fun around => { around with wall }

/-- Reports an event to the listener of a query. -/
def hear (q : Query) (n : Network) (a : Arrival) : Network :=
  (n.showing a.wall).report q a.event

/-- Reports some events, one after the other. -/
def hearAll (n : Network) (q : Query) (arrivals : List Arrival) : Network :=
  arrivals.foldl (hear q) n

/-- Some events were heard: what could be read of them is gathered, and the rest is counted. -/
structure Heard (policy : MissingTimestamp) (id : GatheringId) (g : Gathering) (n : Network)
    (arrivals : List Arrival) (n' : Network) : Prop where
  codecs : n'.around.codecs = n.around.codecs
  gathering : n'.gatherings.find? id =
    some ⟨g.aggregator.pushAll (arrivals.filterMap (·.datum? n.around.codecs policy)),
      g.concluded || arrivals.any (·.event.isFinal)⟩
  incidents : n'.counters.incidents =
    n.counters.incidents ++ (arrivals.filterMap (·.fault? n.around.codecs policy)).map .dropped

/-- The wall clock does not matter to those who wait. -/
private theorem Waits.showing {w : Option (GatheringId × MissingTimestamp)} (hw : Waits n q w)
    (wall : Instant) : Waits (n.showing wall) q w := hw.of_board rfl

/-- One event is gathered or counted. -/
theorem Waits.hear (hw : Waits n q (some (id, policy))) (hg : n.gatherings.find? id = some g)
    (a : Arrival) : Heard policy id g n [a] (hear q n a) := by
  have hwall := hw.showing a.wall
  -- what is gathered is the datum of the arrival, if it has one
  have hgathering : (gathered (n.showing a.wall).around (some (id, policy)) n.gatherings
      a.event).find? id = some ⟨g.aggregator.pushAll
        (a.event.datum? (n.showing a.wall).around policy).toList, g.concluded || a.event.isFinal⟩ :=
    find?_gathered hg a.event
  refine ⟨?_, ?_, ?_⟩
  · -- but for the wall clock, what listeners can look at stays as it is
    have haround : (Network.hear q n a).around = (n.showing a.wall).around :=
      (hwall.calm a.event).around
    rw [haround]
    rfl
  · rw [List.filterMap_eq_flatMap_toList, List.flatMap_singleton, List.any_cons, List.any_nil,
      Bool.or_false]
    exact (congrArg (SortedMap.find? · id) (hwall.report_gatherings a.event)).trans hgathering
  · rw [List.filterMap_eq_flatMap_toList, List.flatMap_singleton]
    exact hwall.report_incidents a.event

/-- The listener waits on unless the event was the last one. -/
private theorem Waits.waits_hear (hw : Waits n q (some (id, policy))) {a : Arrival}
    (ha : a.event.isFinal = false) : Waits (Network.hear q n a) q (some (id, policy)) :=
  (hw.showing a.wall).still ((hw.showing a.wall).report ha)

theorem Heard.trans {arrivals more : List Arrival} {g' : Gathering}
    (h : Heard policy id g n arrivals n') (hg' : n'.gatherings.find? id = some g')
    (h' : Heard policy id g' n' more n'') : Heard policy id g n (arrivals ++ more) n'' := by
  obtain rfl := Option.some.inj (h.gathering.symm.trans hg')
  refine ⟨h'.codecs.trans h.codecs, ?_, ?_⟩
  · rw [h'.gathering, h.codecs, List.filterMap_append, List.any_append, Bool.or_assoc]
    exact congrArg (fun a => some (Gathering.mk a _)) List.foldl_append.symm
  · rw [h'.incidents, h.incidents, h.codecs, List.filterMap_append, List.map_append,
      List.append_assoc]

/-- Any number of events before the last one: the listener still waits. -/
theorem Waits.hearAll (hw : Waits n q (some (id, policy))) (hg : n.gatherings.find? id = some g)
    {arrivals : List Arrival} (hopen : ∀ a ∈ arrivals, a.event.isFinal = false) :
    Heard policy id g n arrivals (n.hearAll q arrivals) ∧
      Waits (n.hearAll q arrivals) q (some (id, policy)) := by
  -- the gathering and the counters go along with the events, so the induction is for all of them
  induction arrivals generalizing n g with
  | nil =>
    refine ⟨⟨rfl, hg.trans ?_, (List.append_nil _).symm⟩, hw⟩
    exact congrArg (fun b => some (Gathering.mk _ b)) (Bool.or_false _).symm
  | cons a rest ih =>
    obtain ⟨ha, hrest⟩ := List.forall_mem_cons.1 hopen
    have hfirst := hw.hear hg a
    obtain ⟨hothers, hwaits⟩ := ih (hw.waits_hear ha) hfirst.gathering hrest
    exact ⟨hfirst.trans hfirst.gathering hothers, hwaits⟩

/-- All that arrives is heard. -/
private theorem Waits.heard_all (hw : Waits n q (some (id, policy)))
    (hg : n.gatherings.find? id = some g)
    (h : Hearing) : Heard policy id g n h.all (n.hearAll q h.all) := by
  obtain ⟨hheard, hwaits⟩ := hw.hearAll hg h.not_final
  rw [Hearing.all, Network.hearAll, List.foldl_append]
  exact hheard.trans hheard.gathering (hwaits.hear hheard.gathering _)

end Network

/-! ## Gets -/

namespace Workspace

open Network

variable {w : Workspace} {s : Selector} {g : PendingGet} {q : Query} {n₀ n : Network}

/-- Once a get has begun, its listener waits and nothing is gathered yet. -/
private theorem waits_of_beginGet (h : (w.beginGet s).run n₀ = (.ok g, n))
    (hq : q.querier = w.session)
    (hh : q.handle = g.query.handle) :
    Waits n q (some (g.gathering, w.settings.missingTimestamp)) ∧
      n.gatherings.find? g.gathering = some {} := by
  rcases w.beginGet_cases s n₀ with ⟨query, m, hquery, hbegin⟩ | ⟨e, m, -, hbegin⟩
  · obtain ⟨hg, rfl⟩ := Prod.mk.inj (h.symm.trans hbegin)
    obtain rfl := Except.ok.inj hg
    -- the gathering was made for this get, and its listener is parked under the handle of the query
    have hlistener := Session.find?_of_query hquery
    refine ⟨?_, SortedMap.find?_insert_self _ _ _⟩
    unfold Waits
    rw [hq, hh]
    exact congrArg (Option.map (·.call)) hlistener
  · cases h.symm.trans hbegin

/-- A get whose last event has come is answered with what was gathered. -/
private theorem concludeGet_of_concluded {aggregator : Aggregator}
    (h : n.gatherings.find? g.gathering = some ⟨aggregator, true⟩) :
    ((w.concludeGet s g).run n).1 = .ok (aggregator.finish g.series) := by
  rcases w.concludeGet_cases s g n with ⟨aggregator', hfind, hrun⟩ | ⟨e, hfind, -⟩
  · obtain rfl := congrArg Gathering.aggregator (Option.some.inj (h.symm.trans hfind))
    rw [hrun]
  · exact absurd h (hfind aggregator)

/-- What a get makes of all that it hears, if it has gathered `aggregator`. -/
structure Accounts (w : Workspace) (s : Selector) (g : PendingGet) (q : Query) (n : Network)
    (h : Hearing) (aggregator : Aggregator) : Prop where
  gathered : (n.hearAll q h.all).gatherings.find? g.gathering = some ⟨aggregator, true⟩
  result : ((w.concludeGet s g).run (n.hearAll q h.all)).1 = .ok (aggregator.finish g.series)
  /-- The result would be the same if the replies that are left out had not come. -/
  isolated : ((w.concludeGet s g).run (n.hearAll q
    (h.readable n.around.codecs w.settings.missingTimestamp).all)).1 =
      .ok (aggregator.finish g.series)
  /-- Each of these is counted once, for the first check that it does not pass. -/
  counted : ∀ reason, (n.hearAll q h.all).counters.count (.dropped reason) =
    n.counters.count (.dropped reason) + h.all.countP fun a =>
      a.fault? n.around.codecs w.settings.missingTimestamp == some reason
  /-- No reply is lost. -/
  accounted : n.counters.dropped + h.all.countP Arrival.isData =
    (n.hearAll q h.all).counters.dropped + aggregator.size

/-- A get that has begun gives a result, whatever replies come before the last event.  Those that
cannot be read are counted and have no influence on it. -/
theorem accounts_of_beginGet (hbegin : (w.beginGet s).run n₀ = (.ok g, n))
    (hquerier : q.querier = w.session) (hhandle : q.handle = g.query.handle) (h : Hearing) :
    ∃ aggregator, Accounts w s g q n h aggregator := by
  obtain ⟨hwaits, hnothing⟩ := waits_of_beginGet hbegin hquerier hhandle
  have hall := hwaits.heard_all hnothing h
  have hreadable :=
    hwaits.heard_all hnothing (h.readable n.around.codecs w.settings.missingTimestamp)
  have hgathered := hall.gathering
  rw [h.any_isFinal_all] at hgathered
  -- without the replies that are left out the same is gathered
  have hgathered' := hreadable.gathering
  rw [Hearing.any_isFinal_all, Hearing.filterMap_datum?_readable] at hgathered'
  exact ⟨_, {
    gathered := hgathered
    result := concludeGet_of_concluded hgathered
    isolated := concludeGet_of_concluded hgathered'
    counted := fun reason => by
      rw [Counters.count_of_incidents hall.incidents, List.count_filterMap]
    accounted := by
      have hempty : Aggregator.size {} = 0 := rfl
      rw [Counters.dropped_of_incidents hall.incidents, Aggregator.size_pushAll, hempty,
        Arrival.countP_isData n.around.codecs w.settings.missingTimestamp]
      omega }⟩

/-! ### Good and bad replies -/

/-- The path `/s`. -/
def strictRoot : Path := ⟨"/s", by decide, by simp [Path.forbidden], by decide⟩

/-- A workspace of the first session that leaves replies without a timestamp out. -/
def strictWorkspace : Workspace :=
  { root := strictRoot, session := 0, settings := { missingTimestamp := .reject } }

/-- The selector `/s/*`. -/
def strictSelector : Selector :=
  ⟨⟨['/', 's', '/', '*'], [], [], []⟩,
    ⟨by decide, by simp [Selector.isPathChar], by simp, by decide, by decide, by decide⟩⟩

/-- A network with one session. -/
def oneSession : Network := ((Session.openSession none ∅).run (start ⟨0⟩ .zero .builtIn)).2

/-- A good reply, one that passes no check, one that is no text, and one without a timestamp. -/
def mixedReplies : Hearing where
  arrivals :=
    [⟨⟨5⟩, .storageData ⟨"/s/a", [1], ⟨some ⟨1, .zero⟩, none, none⟩⟩⟩,
      ⟨⟨6⟩, .storageData ⟨"", [0xff], ⟨none, some .string, none⟩⟩⟩,
      ⟨⟨7⟩, .storageFinal⟩,
      ⟨⟨8⟩, .evalData ⟨"/s/b", [0xff], ⟨some ⟨2, .zero⟩, some .string, none⟩⟩⟩,
      ⟨⟨9⟩, .evalData ⟨"/s/d", [2], {}⟩⟩]
  last := ⟨10⟩
  not_final := by decide

/-- The first get of the session. -/
def firstGet : PendingGet := ⟨⟨0, 0⟩, 0, false⟩

/-- Of four replies one is gathered, and three are dropped for three reasons. -/
theorem accounts_of_mixedReplies :
    mixedReplies.arrivals.map (·.fault? .builtIn .reject) =
        [none, some .invalidPath, none, some .decode, some .missingTimestamp] ∧
      ∃ n, (strictWorkspace.beginGet strictSelector).run oneSession = (.ok firstGet, n) ∧
        ∃ aggregator, Accounts strictWorkspace strictSelector firstGet
          ⟨strictWorkspace.session, firstGet.query.handle, "/s/*", "", true, []⟩ n mixedReplies
          aggregator := by
  have hbegin : (strictWorkspace.beginGet strictSelector).run oneSession =
      (.ok firstGet, ((strictWorkspace.beginGet strictSelector).run oneSession).2) := rfl
  exact ⟨by decide, _, hbegin, accounts_of_beginGet hbegin rfl rfl mixedReplies⟩

end Workspace

end PathSpace
