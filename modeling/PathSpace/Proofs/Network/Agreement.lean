import PathSpace.Proofs.Network.Chores
import PathSpace.Proofs.Network.Subscriptions
/-!
# Registries, declarations and workspaces agree

A listener that is declared is written down three times: in the registry of its session, in
the declarations of the router, and, if it was declared through a workspace, in what the
workspace remembers.  Every call changes two or three of these, and may be refused half way.
As long as no registry has run through all its handles, the three agree after every call.

Two things carry the induction.  A handle that was handed out once is not handed out again,
so a token that was used up stands for nothing.  And every token has one holder, so nobody
takes back what somebody else relies on.

## Key results

- `Books.Balanced`: what registries and declarations have to do with each other
- `Books.Recorded`: every declaration has a token of its own
- `Site.InStep.run`: a call keeps all in step
- `Site.registries_agree`: they agree after every run
-/

namespace PathSpace

open PathSpace.Computation

/-! ## Registries and declarations -/

namespace Books

variable {b : Books} {role : Role} {s : SessionId} {h : Handle} {e : String}

/-- Open sessions have the handles of their declarations in use, and no others. -/
structure Balanced (b : Books) : Prop where
  lt_of_open : ∀ s, b.isClosed s = false → s < b.nextSession
  owned : ∀ role, ∀ d ∈ b.declared role, b.isClosed d.session = false
  inUse_iff : ∀ role s h, b.isClosed s = false →
    ((b.tally role s).inUse h = true ↔ ∃ d ∈ b.declared role, d.session = s ∧ d.handle = h)
  once : ∀ role, ((b.declared role).map fun d => (d.session, d.handle)).Nodup
  handle_lt : ∀ role, ∀ d ∈ b.declared role, d.handle < (b.tally role d.session).next

/-- A declaration that is entered joins those of its role, and no others. -/
private theorem mem_enter (b : Books) (role role' : Role) (s : SessionId) (e : String)
    (d : Declaration) :
    d ∈ (b.enter role s e).declared role' ↔
      d ∈ b.declared role' ∨ role' = role ∧ d = ⟨s, (b.tally role s).next, e⟩ := by
  unfold enter setDeclared
  by_cases hrole : role' = role
  · subst hrole
    simp
  · simp [hrole, setTally]

/-- Only the registry that was asked hands a handle out. -/
private theorem tally_enter (b : Books) (role role' : Role) (s s' : SessionId) (e : String) :
    (b.enter role s e).tally role' s' =
      if role' = role ∧ s' = s then (b.tally role s).give else b.tally role' s' := rfl

/-- The handle that was handed out is in use besides those that were. -/
private theorem inUse_enter (b : Books) (role role' : Role) (s s' : SessionId) (e : String)
    (h' : Handle) :
    ((b.enter role s e).tally role' s').inUse h' = true ↔
      (b.tally role' s').inUse h' = true ∨
        role' = role ∧ s' = s ∧ h' = (b.tally role s).next := by
  rw [tally_enter]
  -- in the registry that was asked the new handle comes first, in the others nothing changes
  by_cases hkey : role' = role ∧ s' = s
  · obtain ⟨rfl, rfl⟩ := hkey
    simp [Tally.give, or_comm]
  · simp [hkey, ← and_assoc]

/-- No counter goes back when a declaration is entered. -/
private theorem next_le_enter (b : Books) (role role' : Role) (s s' : SessionId) (e : String) :
    (b.tally role' s').next ≤ ((b.enter role s e).tally role' s').next := by
  rw [tally_enter]
  split
  · next hkey =>
    rw [hkey.1, hkey.2]
    exact Nat.le_succ _
  · exact Nat.le_refl _

/-- The counter that handed the handle out has gone on. -/
private theorem lt_next_enter (b : Books) (role : Role) (s : SessionId) (e : String) :
    (b.tally role s).next < ((b.enter role s e).tally role s).next := by
  rw [tally_enter, if_pos ⟨rfl, rfl⟩]
  exact Nat.lt_succ_self _

/-- No counter goes back when a handle is passed over. -/
private theorem next_le_pass (b : Books) (role role' : Role) (s s' : SessionId) :
    (b.tally role' s').next ≤ ((b.pass role s).tally role' s').next := by
  unfold pass setTally
  by_cases hkey : role' = role ∧ s' = s
  · simp [hkey, Tally.pass]
  · simp [hkey]

/-- To give a handle up does not touch the counters. -/
private theorem next_leave (b : Books) (role role' : Role) (s s' : SessionId) (h : Handle) :
    ((b.leave role s h).tally role' s').next = (b.tally role' s').next := by
  unfold leave setDeclared setTally
  by_cases hkey : role' = role ∧ s' = s
  · simp [hkey, Tally.drop]
  · simp [hkey]

/-- What is left is all but the declaration under the handle. -/
theorem mem_leave (b : Books) (role role' : Role) (s : SessionId) (h : Handle) (d : Declaration) :
    d ∈ (b.leave role s h).declared role' ↔
      d ∈ b.declared role' ∧ ¬ (role' = role ∧ d.session = s ∧ d.handle = h) := by
  unfold leave setDeclared
  by_cases hrole : role' = role
  · subst hrole
    simp [Declaration.isOf, imp_iff_not_or]
  · simp [hrole, setTally]

/-- What is still in use is all but the handle that was given up. -/
theorem inUse_leave (b : Books) (role role' : Role) (s s' : SessionId) (h h' : Handle) :
    ((b.leave role s h).tally role' s').inUse h' = true ↔
      (b.tally role' s').inUse h' = true ∧ ¬ (role' = role ∧ s' = s ∧ h' = h) := by
  unfold leave setDeclared setTally
  by_cases hkey : role' = role ∧ s' = s
  · simp [hkey, Tally.drop, and_comm]
  · simp [hkey, ← and_assoc]

/-- What a closed session has declared is gone. -/
theorem mem_close (b : Books) (role : Role) (s : SessionId) (d : Declaration) :
    d ∈ (b.close s).declared role ↔ d ∈ b.declared role ∧ d.session ≠ s := by
  simp [close]

/-- No handle from the counter on is declared. -/
private theorem Balanced.next_not_declared (hb : b.Balanced) (role : Role) (s : SessionId) :
    (s, (b.tally role s).next) ∉ (b.declared role).map fun d => (d.session, d.handle) := by
  -- a declaration under it would have a handle at the counter, not below
  intro hmem
  obtain ⟨d, hd, heq⟩ := List.mem_map.1 hmem
  obtain ⟨rfl, hnext⟩ := Prod.mk.inj heq
  exact Nat.ne_of_lt (hb.handle_lt role d hd) hnext

/-- To enter a declaration under the next handle of an open session keeps the balance. -/
private theorem Balanced.enter (hb : b.Balanced) (hopen : b.isClosed s = false) :
    (b.enter role s e).Balanced where
  lt_of_open := hb.lt_of_open
  owned role' d hd := by
    rcases (mem_enter ..).1 hd with hd | ⟨-, rfl⟩
    · exact hb.owned role' d hd
    · exact hopen
  inUse_iff role' s' h' hs' := by
    -- both sides gain the handle at the counter
    rw [inUse_enter, hb.inUse_iff role' s' h' hs']
    simp only [mem_enter]
    constructor
    · rintro (⟨d, hd, rfl, rfl⟩ | ⟨rfl, rfl, rfl⟩)
      · exact ⟨d, .inl hd, rfl, rfl⟩
      · exact ⟨_, .inr ⟨rfl, rfl⟩, rfl, rfl⟩
    · rintro ⟨d, hd | ⟨rfl, rfl⟩, rfl, rfl⟩
      · exact .inl ⟨d, hd, rfl, rfl⟩
      · exact .inr ⟨rfl, rfl, rfl⟩
  once role' := by
    unfold Books.enter setDeclared
    by_cases hrole : role' = role
    · subst hrole
      -- the handle at the counter is new
      have hnew := hb.next_not_declared role' s
      have hold := hb.once role'
      simp only [if_true, List.map_append, List.map_cons, List.map_nil]
      rw [List.nodup_append]
      refine ⟨hold, List.nodup_singleton _, ?_⟩
      intro a ha a' ha' heq
      rw [List.mem_singleton] at ha'
      exact hnew (ha' ▸ heq ▸ ha)
    · simpa only [hrole, if_false, setTally] using hb.once role'
  handle_lt role' d hd := by
    rcases (mem_enter ..).1 hd with hd | ⟨rfl, rfl⟩
    · exact Nat.lt_of_lt_of_le (hb.handle_lt role' d hd) (next_le_enter ..)
    · exact lt_next_enter ..

/-- Nothing that is declared has to do with a counter that goes on. -/
private theorem Balanced.pass (hb : b.Balanced) : (b.pass role s).Balanced where
  lt_of_open := hb.lt_of_open
  owned := hb.owned
  inUse_iff role' s' h' hs' := by
    have hin : ((b.pass role s).tally role' s').inUse h' = (b.tally role' s').inUse h' := by
      unfold Books.pass setTally
      by_cases hkey : role' = role ∧ s' = s
      · simp [hkey, Tally.pass]
      · simp [hkey]
    rw [hin]
    exact hb.inUse_iff role' s' h' hs'
  once := hb.once
  handle_lt role' d hd := Nat.lt_of_lt_of_le (hb.handle_lt role' d hd) (next_le_pass ..)

/-- To take a declaration back with its handle keeps the balance. -/
private theorem Balanced.leave (hb : b.Balanced) : (b.leave role s h).Balanced where
  lt_of_open := hb.lt_of_open
  owned role' d hd := hb.owned role' d ((mem_leave ..).1 hd).1
  inUse_iff role' s' h' hs' := by
    have hold := hb.inUse_iff role' s' h' hs'
    -- both sides lose the handle
    rw [inUse_leave, hold]
    simp only [mem_leave]
    constructor
    · rintro ⟨⟨d, hd, rfl, rfl⟩, hne⟩
      exact ⟨d, ⟨hd, hne⟩, rfl, rfl⟩
    · rintro ⟨d, ⟨hd, hne⟩, rfl, rfl⟩
      exact ⟨⟨d, hd, rfl, rfl⟩, hne⟩
  once role' := by
    have hsub : ((b.leave role s h).declared role').Sublist (b.declared role') := by
      unfold Books.leave setDeclared
      by_cases hrole : role' = role
      · simp [hrole]
      · simp [hrole, setTally]
    exact (hb.once role').sublist (hsub.map _)
  handle_lt role' d hd := by
    rw [next_leave]
    exact hb.handle_lt role' d ((mem_leave ..).1 hd).1

/-- A session that is closed takes its declarations with it, and its registry counts no more. -/
private theorem Balanced.close (hb : b.Balanced) : (b.close s).Balanced where
  lt_of_open s' hs' := by
    simp only [Books.close, Bool.or_eq_false_iff] at hs'
    exact hb.lt_of_open s' hs'.2
  owned role' d hd := by
    obtain ⟨hd, hne⟩ := (mem_close ..).1 hd
    simp [Books.close, hne, hb.owned role' d hd]
  inUse_iff role' s' h' hs' := by
    simp only [Books.close, Bool.or_eq_false_iff, beq_eq_false_iff_ne] at hs'
    -- of the sessions that are still open nothing has changed
    have hold := hb.inUse_iff role' s' h' hs'.2
    simp only [mem_close]
    refine hold.trans ⟨?_, ?_⟩
    · rintro ⟨d, hd, rfl, hdh⟩
      exact ⟨d, ⟨hd, hs'.1⟩, rfl, hdh⟩
    · rintro ⟨d, ⟨hd, -⟩, hds, hdh⟩
      exact ⟨d, hd, hds, hdh⟩
  once role' := (hb.once role').sublist (List.filter_sublist.map _)
  handle_lt role' d hd := hb.handle_lt role' d ((mem_close ..).1 hd).1

/-- A session that is opened had nothing declared before. -/
private theorem Balanced.session_ne (hb : b.Balanced) {d : Declaration} (hd : d ∈ b.declared role) :
    d.session ≠ b.nextSession :=
  Nat.ne_of_lt (hb.lt_of_open d.session (hb.owned role d hd))

/-- A new session begins in balance, with nothing declared and nothing in use. -/
private theorem Balanced.opened (hb : b.Balanced) : b.opened.Balanced where
  lt_of_open s hs := by
    by_cases heq : s = b.nextSession
    · simp [Books.opened, heq]
    · have hopen : b.isClosed s = false := by simpa [Books.opened, heq] using hs
      exact Nat.lt_succ_of_lt (hb.lt_of_open s hopen)
  owned role d hd := by
    simp [Books.opened, hb.owned role d hd]
  inUse_iff role s h hs := by
    by_cases heq : s = b.nextSession
    · -- nobody has declared anything in a session that was not there
      have hnone : ¬ ∃ d ∈ b.declared role, d.session = s ∧ d.handle = h := by
        rintro ⟨d, hd, hds, -⟩
        exact hb.session_ne hd (hds.trans heq)
      subst heq
      have hunused : (b.opened.tally role b.nextSession).inUse h = false := by
        simp [Books.opened, Tally.fresh]
      rw [hunused]
      exact ⟨nofun, fun hd => absurd hd hnone⟩
    · have hopen : b.isClosed s = false := by simpa [Books.opened, heq] using hs
      simpa [Books.opened, heq] using hb.inUse_iff role s h hopen
  once := hb.once
  handle_lt role d hd := by
    have hne := hb.session_ne hd
    simpa [Books.opened, hne] using hb.handle_lt role d hd

end Books

/-! ## Tokens -/

/-- The handle that a token stands for, with its registry. -/
def Issue.key (i : Issue) : Role × SessionId × Handle := (i.token.role, i.session, i.token.handle)

namespace Books

variable {b b' : Books} {role : Role} {s : SessionId} {h : Handle} {e : String}
  {issued : List Issue}

/-- Every declaration has a token, and no two tokens stand for one handle. -/
structure Recorded (b : Books) (issued : List Issue) : Prop where
  once : (issued.map Issue.key).Nodup
  session_lt : ∀ i ∈ issued, i.session < b.nextSession
  handle_lt : ∀ i ∈ issued, i.token.handle < (b.tally i.token.role i.session).next
  covers : ∀ role, ∀ d ∈ b.declared role,
    ∃ i ∈ issued, i.token.role = role ∧ i.token.declaration i.session = d

/-- Two tokens for one handle are the same. -/
private theorem Recorded.eq_of_key (hr : b.Recorded issued) {i j : Issue} (hi : i ∈ issued)
    (hj : j ∈ issued) (hkey : i.key = j.key) : i = j :=
  List.inj_on_of_nodup_map hr.once hi hj hkey

/-- Tokens stay what they are while counters go on and declarations go. -/
private theorem Recorded.of_le (hr : b.Recorded issued) (hsession : b.nextSession ≤ b'.nextSession)
    (hnext : ∀ role s, s < b.nextSession → (b.tally role s).next ≤ (b'.tally role s).next)
    (hdeclared : ∀ role, ∀ d ∈ b'.declared role, d ∈ b.declared role) : b'.Recorded issued where
  once := hr.once
  session_lt i hi := Nat.lt_of_lt_of_le (hr.session_lt i hi) hsession
  handle_lt i hi :=
    Nat.lt_of_lt_of_le (hr.handle_lt i hi) (hnext i.token.role i.session (hr.session_lt i hi))
  covers role d hd := hr.covers role d (hdeclared role d hd)

/-- The handle at the counter has no token yet. -/
private theorem Recorded.next_not_issued (hr : b.Recorded issued) (role : Role) (s : SessionId) :
    (role, s, (b.tally role s).next) ∉ issued.map Issue.key := by
  intro hmem
  obtain ⟨i, hi, hkey⟩ := List.mem_map.1 hmem
  simp only [Issue.key, Prod.mk.injEq] at hkey
  obtain ⟨rfl, rfl, hnext⟩ := hkey
  exact Nat.ne_of_lt (hr.handle_lt i hi) hnext

/-- The token that is handed out for a new declaration is recorded with it. -/
private theorem Recorded.enter (hr : b.Recorded issued) (hs : s < b.nextSession) {token : Token}
    (hhandle : token.handle = (b.tally token.role s).next) (owner : Option Nat) :
    (b.enter token.role s token.expression).Recorded (issued ++ [⟨s, token, owner⟩]) where
  once := by
    -- the handle at the counter was never handed out, so no token has this key
    have hnew := hr.next_not_issued token.role s
    rw [List.map_append, List.nodup_append]
    refine ⟨hr.once, List.nodup_singleton _, ?_⟩
    intro key hkey key' hkey' heq
    have hsame : key = (token.role, s, (b.tally token.role s).next) := by
      rw [heq, List.mem_singleton.1 hkey', Issue.key, hhandle]
    exact hnew (hsame ▸ hkey)
  session_lt i hi := by
    rcases List.mem_append.1 hi with hi | hi
    · exact hr.session_lt i hi
    · rw [List.mem_singleton.1 hi]
      exact hs
  handle_lt i hi := by
    rcases List.mem_append.1 hi with hi | hi
    · exact Nat.lt_of_lt_of_le (hr.handle_lt i hi) (next_le_enter ..)
    · rw [List.mem_singleton.1 hi, hhandle]
      exact lt_next_enter ..
  covers role d hd := by
    rcases (mem_enter ..).1 hd with hd | ⟨rfl, rfl⟩
    · obtain ⟨i, hi, hid⟩ := hr.covers role d hd
      exact ⟨i, List.mem_append_left _ hi, hid⟩
    · refine ⟨_, List.mem_append_right _ (List.mem_singleton_self _), rfl, ?_⟩
      rw [Token.declaration, hhandle]

/-- Tokens stay recorded when a handle is passed over. -/
private theorem Recorded.pass (hr : b.Recorded issued) : (b.pass role s).Recorded issued :=
  hr.of_le (Nat.le_refl _) (fun _ _ _ => next_le_pass ..) fun _ _ hd => hd

/-- Tokens stay recorded when a declaration goes: a token may outlive it. -/
private theorem Recorded.leave (hr : b.Recorded issued) : (b.leave role s h).Recorded issued :=
  hr.of_le (Nat.le_refl _) (fun _ _ _ => Nat.le_of_eq (next_leave ..).symm)
    fun _ _ hd => ((mem_leave ..).1 hd).1

/-- Tokens stay recorded when a session is closed. -/
private theorem Recorded.close (hr : b.Recorded issued) : (b.close s).Recorded issued :=
  hr.of_le (Nat.le_refl _) (fun _ _ _ => Nat.le_refl _) fun _ _ hd => ((mem_close ..).1 hd).1

/-- Tokens stay recorded when a session is opened, of which there are none yet. -/
private theorem Recorded.opened (hr : b.Recorded issued) : b.opened.Recorded issued := by
  refine hr.of_le (Nat.le_succ _) (fun role s hs => ?_) fun _ _ hd => hd
  have hne : s ≠ b.nextSession := Nat.ne_of_lt hs
  simp [Books.opened, hne]

end Books

/-! ## Workspaces -/

namespace Workspace

variable {b b' : Books} {issued issued' : List Issue} {i : Nat} {w : Workspace}

/-- What a workspace remembers was handed out to it, and is declared while its session is
open. -/
structure Kept (b : Books) (issued : List Issue) (i : Nat) (w : Workspace) : Prop where
  keyed : w.Keyed
  issued : ∀ t, w.Holds t → ⟨w.session, t, some i⟩ ∈ issued
  declared : ∀ t, w.Holds t → b.isClosed w.session = false →
    t.declaration w.session ∈ b.declared t.role

/-- Nothing that a workspace relies on has gone. -/
private theorem Kept.of_subset (hk : Kept b issued i w) (hissued : ∀ i ∈ issued, i ∈ issued')
    (hdeclared : ∀ t, w.Holds t → b'.isClosed w.session = false →
      b.isClosed w.session = false ∧
        (t.declaration w.session ∈ b.declared t.role →
          t.declaration w.session ∈ b'.declared t.role)) : Kept b' issued' i w where
  keyed := hk.keyed
  issued t ht := hissued _ (hk.issued t ht)
  declared t ht hopen := by
    obtain ⟨hopen', hstays⟩ := hdeclared t ht hopen
    exact hstays (hk.declared t ht hopen')

/-- A workspace keeps what it has when somebody declares something else. -/
private theorem Kept.enter (hk : Kept b issued i w) {role : Role} {s : SessionId} {e : String}
    (new : Issue) : Kept (b.enter role s e) (issued ++ [new]) i w :=
  hk.of_subset (fun _ hi => List.mem_append_left _ hi) fun _ _ hopen =>
    ⟨hopen, fun hd => (Books.mem_enter ..).2 (.inl hd)⟩

/-- Nobody takes back what a workspace relies on but that workspace. -/
private theorem Kept.leave (hk : Kept b issued i w) (hr : b.Recorded issued) {s : SessionId}
    {token : Token} {owner : Option Nat} (howner : ⟨s, token, owner⟩ ∈ issued)
    (hne : ∀ t, w.Holds t → (⟨w.session, t, some i⟩ : Issue) ≠ ⟨s, token, owner⟩) :
    Kept (b.leave token.role s token.handle) issued i w := by
  refine hk.of_subset (fun _ hi => hi) fun t ht hopen => ⟨hopen, fun hd => ?_⟩
  refine (Books.mem_leave ..).2 ⟨hd, ?_⟩
  rintro ⟨hrole, hsession, hhandle⟩
  -- two tokens for one handle would be the same
  have hkey : (⟨w.session, t, some i⟩ : Issue).key = (⟨s, token, owner⟩ : Issue).key :=
    Prod.ext hrole (Prod.ext hsession hhandle)
  exact hne t ht (hr.eq_of_key (hk.issued t ht) howner hkey)

/-- When a session is closed, what its workspaces remember need not be declared any more. -/
private theorem Kept.close (hk : Kept b issued i w) (s : SessionId) :
    Kept (b.close s) issued i w := by
  refine hk.of_subset (fun _ hi => hi) fun t _ hopen => ?_
  -- a workspace of an open session is not one of the session that was closed
  simp only [Books.close, Bool.or_eq_false_iff, beq_eq_false_iff_ne] at hopen
  exact ⟨hopen.2, fun hd => (Books.mem_close ..).2 ⟨hd, hopen.1⟩⟩

/-- A workspace keeps what it has when a session is opened. -/
private theorem Kept.opened (hk : Kept b issued i w) (hr : b.Recorded issued) :
    Kept b.opened issued i w := by
  refine hk.of_subset (fun _ hi => hi) fun t ht hopen => ?_
  -- a workspace that remembers something is not one of the new session
  have hne : w.session ≠ b.nextSession := Nat.ne_of_lt (hr.session_lt _ (hk.issued t ht))
  exact ⟨by simpa [Books.opened, hne] using hopen, fun hd => hd⟩

/-- A workspace with one token more keeps in step if the token is its own. -/
private theorem Kept.gets (hk : Kept b issued i w) {w' : Workspace} {token : Token}
    (hgets : w.Gets token w') (hissued : ⟨w.session, token, some i⟩ ∈ issued)
    (hdeclared : token.declaration w.session ∈ b.declared token.role) : Kept b issued i w' where
  keyed := hgets.keyed hk.keyed
  issued t ht := by
    rw [hgets.session]
    rcases hgets.holds t ht with rfl | ht
    · exact hissued
    · exact hk.issued t ht
  declared t ht hopen := by
    rw [hgets.session] at hopen ⊢
    rcases hgets.holds t ht with rfl | ht
    · exact hdeclared
    · exact hk.declared t ht hopen

/-- A workspace with one token less keeps in step. -/
private theorem Kept.gives (hk : Kept b issued i w) {w' : Workspace} {token : Token}
    (hgives : w.Gives token w') : Kept b issued i w' where
  keyed := hgives.keyed hk.keyed
  issued t ht := hgives.session ▸ hk.issued t (hgives.holds t ht).2
  declared t ht hopen := by
    rw [hgives.session] at hopen ⊢
    exact hk.declared t (hgives.holds t ht).2 hopen

end Workspace

namespace Site

variable {site : Site} {made made' : Role → SessionId → Nat}

/-- Registries, declarations, tokens and workspaces agree, and no registry was asked for more
handles than said. -/
structure InStep (made : Role → SessionId → Nat) (site : Site) : Prop where
  balanced : site.network.books.Balanced
  recorded : site.network.books.Recorded site.issued
  kept : ∀ i w, site.workspaces[i]? = some w →
    Workspace.Kept site.network.books site.issued i w
  next_le : ∀ role s, (site.network.books.tally role s).next ≤ made role s
  capacity : ∀ role s,
    (site.network.books.tally role s).capacity = HandleTable.defaultCapacity

/-- A registry that was asked for few handles is in its first round and has room. -/
private theorem InStep.hasRoom (h : site.InStep made) {role : Role} {s : SessionId}
    (hfew : made role s + 1 < HandleTable.defaultCapacity) : site.network.HasRoom role s := by
  intro hopen
  have hnext := h.next_le role s
  have hcapacity := h.capacity role s
  refine ⟨fun k listener hfind => ?_, ?_⟩
  · -- what is in use is declared, and what is declared was handed out
    have hin : (site.network.books.tally role s).inUse k = true :=
      (HandleTable.contains_iff _ k).2 ⟨listener, hfind⟩
    obtain ⟨d, hd, rfl, rfl⟩ := (h.balanced.inUse_iff role s k hopen).1 hin
    exact h.balanced.handle_lt role d hd
  · change (site.network.books.tally role s).next + 1 <
      (site.network.books.tally role s).capacity
    rw [hcapacity]
    exact Nat.lt_of_le_of_lt (Nat.succ_le_succ hnext) hfew

/-- Nothing has happened to the books. -/
private theorem InStep.of_books (h : site.InStep made)
    (hmade : ∀ role s, made role s ≤ made' role s)
    {n : Network} (hn : n.books = site.network.books) :
    InStep made' { site with network := n } where
  balanced := hn ▸ h.balanced
  recorded := hn ▸ h.recorded
  kept i w hw := hn ▸ h.kept i w hw
  next_le role s := by
    rw [hn]
    exact Nat.le_trans (h.next_le role s) (hmade role s)
  capacity role s := by
    rw [hn]
    exact h.capacity role s

/-- A session was opened, whose registries begin at their first handles. -/
private theorem InStep.opened (h : site.InStep made) {n : Network}
    (hn : n.books = site.network.books.opened) : InStep made { site with network := n } where
  balanced := hn ▸ h.balanced.opened
  recorded := hn ▸ h.recorded.opened
  kept i w hw := hn ▸ (h.kept i w hw).opened h.recorded
  next_le role s := by
    -- the counters of the new session are at zero
    rw [hn]
    unfold Books.opened
    dsimp only
    split
    · exact Nat.zero_le _
    · exact h.next_le role s
  capacity role s := by
    rw [hn]
    unfold Books.opened
    dsimp only
    split
    · rfl
    · exact h.capacity role s

/-- A session was closed. -/
private theorem InStep.close (h : site.InStep made) {s : SessionId} {n : Network}
    (hn : n.books = site.network.books.close s) : InStep made { site with network := n } where
  balanced := hn ▸ h.balanced.close
  recorded := hn ▸ h.recorded.close
  kept i w hw := hn ▸ (h.kept i w hw).close s
  next_le role s := hn ▸ h.next_le role s
  capacity role s := hn ▸ h.capacity role s

/-- The counters after a handle was given out, in vain or not. -/
private theorem next_le_of_counted (h : site.InStep made)
    (hmade : ∀ role s, made role s ≤ made' role s) {role : Role} {s : SessionId}
    (hcount : made role s + 1 ≤ made' role s) {t : Tally}
    (ht : t.next = (site.network.books.tally role s).next + 1) (role' : Role) (s' : SessionId) :
    ((site.network.books.setTally role s t).tally role' s').next ≤ made' role' s' := by
  have hnext := h.next_le role' s'
  unfold Books.setTally
  by_cases hkey : role' = role ∧ s' = s
  · obtain ⟨rfl, rfl⟩ := hkey
    simp only [and_self, if_true, ht]
    exact Nat.le_trans (Nat.succ_le_succ hnext) hcount
  · simpa only [hkey, if_false] using Nat.le_trans hnext (hmade role' s')

/-- No registry is resized when one of them hands a handle out or takes it back. -/
private theorem capacity_setTally (h : site.InStep made) {role : Role} {s : SessionId} {t : Tally}
    (ht : t.capacity = (site.network.books.tally role s).capacity) (role' : Role)
    (s' : SessionId) :
    ((site.network.books.setTally role s t).tally role' s').capacity =
      HandleTable.defaultCapacity := by
  have hcapacity := h.capacity role' s'
  unfold Books.setTally
  by_cases hkey : role' = role ∧ s' = s
  · obtain ⟨rfl, rfl⟩ := hkey
    simpa only [and_self, if_true, ht] using hcapacity
  · simpa only [hkey, if_false] using hcapacity

/-- A registry has given a handle out in vain. -/
private theorem InStep.pass (h : site.InStep made) (hmade : ∀ role s, made role s ≤ made' role s)
    {role : Role} {s : SessionId} (hcount : made role s + 1 ≤ made' role s) {n : Network}
    (hn : n.books = site.network.books.pass role s) :
    InStep made' { site with network := n } where
  balanced := hn ▸ h.balanced.pass
  recorded := hn ▸ h.recorded.pass
  kept i w hw := by
    rw [hn]
    exact (h.kept i w hw).of_subset (fun _ hi => hi) fun _ _ hopen => ⟨hopen, fun hd => hd⟩
  next_le := hn ▸ next_le_of_counted h hmade hcount rfl
  capacity := hn ▸ capacity_setTally h rfl

/-- A listener was declared, and its token handed out. -/
private theorem InStep.enter (h : site.InStep made) (hmade : ∀ role s, made role s ≤ made' role s)
    {token : Token} {s : SessionId} (hcount : made token.role s + 1 ≤ made' token.role s)
    (hopen : site.network.books.isClosed s = false)
    (hhandle : token.handle = (site.network.books.tally token.role s).next) {n : Network}
    (hn : n.books = site.network.books.enter token.role s token.expression)
    (owner : Option Nat) :
    InStep made' { site with network := n, issued := site.issued ++ [⟨s, token, owner⟩] } where
  balanced := hn ▸ h.balanced.enter hopen
  recorded := hn ▸ h.recorded.enter (h.balanced.lt_of_open s hopen) hhandle owner
  kept i w hw := hn ▸ (h.kept i w hw).enter _
  next_le := hn ▸ next_le_of_counted h hmade hcount rfl
  capacity := hn ▸ capacity_setTally h rfl

/-- A declaration was taken back on which no workspace relies. -/
private theorem InStep.leave (h : site.InStep made) {s : SessionId} {token : Token}
    {owner : Option Nat} (howner : ⟨s, token, owner⟩ ∈ site.issued)
    (hne : ∀ i w, site.workspaces[i]? = some w → ∀ t, w.Holds t →
      (⟨w.session, t, some i⟩ : Issue) ≠ ⟨s, token, owner⟩) {n : Network}
    (hn : n.books = site.network.books.leave token.role s token.handle) :
    InStep made { site with network := n } where
  balanced := hn ▸ h.balanced.leave
  recorded := hn ▸ h.recorded.leave
  kept i w hw := hn ▸ (h.kept i w hw).leave h.recorded howner (hne i w hw)
  next_le role' s' := by
    rw [hn, Books.next_leave]
    exact h.next_le role' s'
  capacity := hn ▸ capacity_setTally h rfl

/-- A workspace was replaced by one that keeps in step. -/
private theorem InStep.setWorkspace (h : site.InStep made) {i : Nat} {w : Workspace}
    (hw : Workspace.Kept site.network.books site.issued i w) :
    InStep made { site with workspaces := site.workspaces.set i w } where
  balanced := h.balanced
  recorded := h.recorded
  kept j w' hw' := by
    dsimp only at hw'
    -- the workspace at this place is the new one, the others are as they were
    by_cases hji : j = i
    · subst hji
      obtain ⟨-, rfl⟩ : j < site.workspaces.length ∧ w = w' := by
        simpa [List.getElem?_set] using hw'
      exact hw
    · rw [List.getElem?_set_ne (Ne.symm hji)] at hw'
      exact h.kept j w' hw'
  next_le := h.next_le
  capacity := h.capacity

/-- A new workspace remembers nothing. -/
private theorem InStep.openWorkspace (h : site.InStep made) (root : Path) (s : SessionId)
    (settings : WorkspaceSettings) :
    InStep made
      { site with workspaces := site.workspaces ++ [{ root, session := s, settings }] } where
  balanced := h.balanced
  recorded := h.recorded
  kept i w hw := by
    dsimp only at hw
    -- what stands behind the workspaces that were there is the new one
    by_cases hi : i < site.workspaces.length
    · rw [List.getElem?_append_left hi] at hw
      exact h.kept i w hw
    · rw [List.getElem?_append_right (Nat.le_of_not_lt hi), List.getElem?_singleton] at hw
      split at hw
      · obtain rfl := Option.some.inj hw
        exact ⟨Workspace.keyed_new root s settings,
          fun t ht => absurd ht (Workspace.not_holds_new root s settings t),
          fun t ht => absurd ht (Workspace.not_holds_new root s settings t)⟩
      · cases hw
  next_le := h.next_le
  capacity := h.capacity

/-! ## Calls -/

/-- The number of handles asked for, once a call has been counted. -/
def counted (made : Role → SessionId → Nat) (site : Site) (t : Task) (role : Role)
    (s : SessionId) : Nat :=
  (if t.registry site = some (role, s) then 1 else 0) + made role s

/-- To count a call makes no number smaller. -/
private theorem le_counted (made : Role → SessionId → Nat) (site : Site) (t : Task) (role : Role)
    (s : SessionId) : made role s ≤ counted made site t role s :=
  Nat.le_add_left _ _

/-- The registry that a call asks is counted with it. -/
private theorem counted_of_registry (made : Role → SessionId → Nat) {t : Task} {role : Role}
    {s : SessionId}
    (hreg : t.registry site = some (role, s)) : made role s + 1 ≤ counted made site t role s := by
  rw [counted, if_pos hreg]
  omega

/-- A call that has to do with no token keeps all in step: it leaves the books alone, or opens or
closes a session. -/
private theorem InStep.operate (h : site.InStep made) (op : Operation)
    (hop : op.isOrdinary = true) :
    InStep made { site with network := op.run site.network } := by
  rcases Network.books_ordinary op hop site.network with hbooks | hbooks | ⟨s, hbooks⟩
  · exact h.of_books (fun _ _ => Nat.le_refl _) hbooks
  · exact h.opened hbooks
  · exact h.close hbooks

/-- A client that takes a declaration of its own back keeps all in step. -/
private theorem InStep.undeclare (h : site.InStep made) (s : SessionId) (token : Token)
    (howner : ⟨s, token, none⟩ ∈ site.issued) :
    InStep made (Task.run (.undeclare s token) site) := by
  have htaken := Network.takenBack_token (n := site.network) (s := s) token
  -- the books lose the declaration, or the call was refused and they stay
  rw [Task.run, Task.attempt_undeclare]
  generalize (token.undeclare s).run site.network = result at htaken ⊢
  cases htaken with
  | done m hopen hbooks =>
    -- the client has the token, so no workspace has it
    exact h.leave howner (fun i w _ t _ heq => nomatch congrArg Issue.workspace heq) hbooks
  | kept e m hbooks => exact h.of_books (fun _ _ => Nat.le_refl _) hbooks

/-- A client that declares a listener keeps all in step. -/
private theorem InStep.declare (h : site.InStep made) (s : SessionId) (offer : Offer)
    (hfew : ∀ role s', Task.registry site (.declare s offer) = some (role, s') →
      made role s' + 1 < HandleTable.defaultCapacity) :
    InStep (counted made site (.declare s offer)) (Task.run (.declare s offer) site) := by
  -- a closed session refuses before a handle is used up
  have hreg : site.network.books.isClosed s = false →
      Task.registry site (.declare s offer) = some (offer.role, s) := by
    intro hopen
    have hclosed : Session.isClosed site.network s = false := hopen
    simp [Task.registry, hclosed]
  have hroom : site.network.HasRoom offer.role s := fun hopen =>
    h.hasRoom (hfew _ _ (hreg hopen)) hopen
  have hoffered := Network.offered_offer offer hroom
  have hmade := le_counted made site (.declare s offer)
  rw [Task.run, Task.attempt_declare]
  generalize (offer.declare s).run site.network = result at hoffered ⊢
  -- entered in the books, handed out in vain, or not tried at all
  cases hoffered with
  | accepted token m hopen hrole hhandle hbooks =>
    rw [← hrole] at hhandle hbooks
    have hcount := counted_of_registry made (hrole ▸ hreg hopen)
    exact h.enter hmade hcount hopen hhandle hbooks none
  | refused e m hopen hbooks =>
    exact h.pass hmade (counted_of_registry made (hreg hopen)) hbooks
  | untried e m hbooks => exact h.of_books hmade hbooks

/-- A listener was declared through a workspace, which keeps the token. -/
private theorem InStep.got (h : site.InStep made) (hmade : ∀ role s, made role s ≤ made' role s)
    {i : Nat}
    {w w' : Workspace} (hw : site.workspaces[i]? = some w) {token : Token}
    (hcount : made token.role w.session + 1 ≤ made' token.role w.session)
    (hopen : site.network.books.isClosed w.session = false)
    (hhandle : token.handle = (site.network.books.tally token.role w.session).next) {n : Network}
    (hn : n.books = site.network.books.enter token.role w.session token.expression)
    (hgets : w.Gets token w') :
    InStep made' (Site.keep i w' (some token) { site with network := n }) := by
  have hentered := h.enter hmade hcount hopen hhandle hn (some i)
  have hissued : (⟨w.session, token, some i⟩ : Issue) ∈
      site.issued ++ [⟨w.session, token, some i⟩] :=
    List.mem_append_right _ (List.mem_singleton_self _)
  have hdeclared : token.declaration w.session ∈ n.books.declared token.role := by
    rw [hn, Books.mem_enter, Token.declaration, hhandle]
    exact .inr ⟨rfl, rfl⟩
  have hset := hentered.setWorkspace ((hentered.kept i w hw).gets hgets hissued hdeclared)
  simpa [Site.keep, hgets.session] using hset

/-- A workspace has taken back what it had declared. -/
private theorem InStep.gave (h : site.InStep made) {i : Nat} {w w' : Workspace}
    (hw : site.workspaces[i]? = some w) {token : Token} {n : Network}
    (hn : n.books = site.network.books.leave token.role w.session token.handle)
    (hgives : w.Gives token w') :
    InStep made (Site.keep i w' none { site with network := n }) := by
  have hkept := h.kept i w hw
  -- the workspace gives its token up before anybody looks
  have hset := h.setWorkspace (hkept.gives hgives)
  have hleft := hset.leave (hkept.issued token hgives.held) ?_ hn
  · simpa [Site.keep] using hleft
  · intro j w₁ hw₁ t ht heq
    obtain ⟨-, rfl, hj⟩ := Issue.mk.inj heq
    obtain rfl := Option.some.inj hj
    dsimp only at hw₁
    obtain ⟨-, rfl⟩ : j < site.workspaces.length ∧ w' = w₁ := by
      simpa [List.getElem?_set] using hw₁
    exact (hgives.holds t ht).1 rfl

/-- A chore of a workspace keeps all in step, whether it declares, takes back, or comes to nothing.
-/
private theorem InStep.work (h : site.InStep made) (i : Nat) (chore : Chore)
    (hfew : ∀ role s, Task.registry site (.work i chore) = some (role, s) →
      made role s + 1 < HandleTable.defaultCapacity) :
    InStep (counted made site (.work i chore)) (Task.run (.work i chore) site) := by
  have hmade := le_counted made site (.work i chore)
  cases hw : site.workspaces[i]? with
  | none =>
    rw [Task.run, Task.attempt_work_missing i chore hw]
    exact h.of_books hmade rfl
  | some w =>
    rw [Task.run, Task.attempt_work i chore hw]
    -- a chore uses a handle up only if it gets as far as to declare something
    have hreg : ∀ role, chore.role w = some role →
        site.network.books.isClosed w.session = false →
        Task.registry site (.work i chore) = some (role, w.session) := by
      intro role hrole hopen
      have hclosed : Session.isClosed site.network w.session = false := hopen
      simp [Task.registry, hw, hclosed, hrole]
    have hworked := Network.worked_chore (h.kept i w hw).keyed chore (n := site.network)
      fun role hrole hopen => h.hasRoom (hfew _ _ (hreg role hrole hopen)) hopen
    generalize (chore.perform w).run site.network = result at hworked ⊢
    cases hworked with
    | got token w' m hrole hopen hhandle hbooks hgets =>
      have hcount := counted_of_registry made (hreg _ hrole hopen)
      exact h.got hmade hw hcount hopen hhandle hbooks hgets
    | gave token w' m hopen hbooks hgives =>
      exact (h.of_books hmade rfl).gave hw hbooks hgives
    | refused role e m hrole hopen hbooks =>
      exact h.pass hmade (counted_of_registry made (hreg role hrole hopen)) hbooks
    | untried e m hbooks => exact h.of_books hmade hbooks

/-- A call keeps all in step. -/
theorem InStep.run (h : site.InStep made) (t : Task) (hproper : t.IsProper site)
    (hfew : ∀ role s, t.registry site = some (role, s) →
      made role s + 1 < HandleTable.defaultCapacity) :
    InStep (counted made site t) (t.run site) := by
  have hmade := le_counted made site t
  cases t with
  | operate op hop => exact (h.of_books hmade rfl).operate op hop
  | declare s offer => exact h.declare s offer hfew
  | undeclare s token => exact (h.of_books hmade rfl).undeclare s token hproper
  | openWorkspace root s settings => exact (h.of_books hmade rfl).openWorkspace root s settings
  | work i chore => exact h.work i chore hfew

/-! ## Runs -/

/-- A run keeps all in step, as long as no registry is asked for all its handles. -/
private theorem InStep.runAll (h : site.InStep made) (tasks : List Task)
    (hproper : site.Proper tasks)
    (hfew : ∀ role s, site.declarations role s tasks + made role s < HandleTable.defaultCapacity) :
    ∃ made', InStep made' (site.runAll tasks) := by
  induction tasks generalizing site made with
  | nil => exact ⟨made, h⟩
  | cons t rest ih =>
    -- what is counted for the first call is not counted for the rest any more
    have hcounted : ∀ role s, (t.run site).declarations role s rest + counted made site t role s <
        HandleTable.defaultCapacity := by
      intro role s
      have hall := hfew role s
      unfold declarations at hall
      unfold counted
      omega
    have hfirst : ∀ role s, t.registry site = some (role, s) →
        made role s + 1 < HandleTable.defaultCapacity := by
      intro role s hreg
      have hall := hcounted role s
      rw [counted, if_pos hreg] at hall
      omega
    -- so the rest of the run starts with what is left to be asked for
    exact ih (h.run t hproper.1 hfirst) hproper.2 hcounted

/-- What registries, declarations and workspaces say of each other. -/
structure Agrees (site : Site) : Prop where
  /-- The handles in a registry of an open session are those of its declarations, each once. -/
  handles : ∀ (role : Role) (s : SessionId), Session.isClosed site.network s = false →
    (site.network.registry role s).handles.Perm
      (((role.declared site.network.router).filter (·.session == s)).map (·.handle))
  /-- Every declaration has the expression of the one token that was handed out for it. -/
  tokens : ∀ role : Role, ∀ d ∈ role.declared site.network.router,
    ∃ i ∈ site.issued, i.token.role = role ∧ i.token.declaration i.session = d ∧
      ∀ j ∈ site.issued, j.key = i.key → j = i
  /-- A subscription of an open session is declared under its handle, with its selector path. -/
  subscriptions : ∀ (i : Nat) w h sub, site.workspaces[i]? = some w →
    Session.isClosed site.network w.session = false → w.subscriptions.find? h = some sub →
    sub.handle = h ∧
      ⟨w.session, h, sub.selector.path⟩ ∈ Role.subscriber.declared site.network.router
  /-- An eval of an open session is declared with its path. -/
  evals : ∀ (i : Nat) w p ev, site.workspaces[i]? = some w →
    Session.isClosed site.network w.session = false → w.evals.find? p = some ev →
    ev.path = p ∧ ⟨w.session, ev.handle, p.text⟩ ∈ Role.eval.declared site.network.router
  /-- No two subscriptions name one handle, whatever workspaces of a session they are in. -/
  subscription_unique : ∀ (i j : Nat) w w' h h' sub sub', site.workspaces[i]? = some w →
    site.workspaces[j]? = some w' → w.session = w'.session →
    w.subscriptions.find? h = some sub → w'.subscriptions.find? h' = some sub' →
    sub.handle = sub'.handle → i = j ∧ h = h'
  /-- No two evals name one handle. -/
  eval_unique : ∀ (i j : Nat) w w' p p' ev ev', site.workspaces[i]? = some w →
    site.workspaces[j]? = some w' → w.session = w'.session →
    w.evals.find? p = some ev → w'.evals.find? p' = some ev' →
    ev.handle = ev'.handle → i = j ∧ p = p'
  /-- Only open sessions have declarations. -/
  owned : ∀ role : Role, ∀ d ∈ role.declared site.network.router,
    Session.isClosed site.network d.session = false

/-- A handle of a session has one token, wherever it is kept. -/
private theorem InStep.eq_of_holds (h : site.InStep made) {i j : Nat} {w w' : Workspace}
    {t u : Token}
    (hw : site.workspaces[i]? = some w) (hw' : site.workspaces[j]? = some w')
    (hs : w.session = w'.session) (ht : w.Holds t) (hu : w'.Holds u)
    (hrole : t.role = u.role) (hhandle : t.handle = u.handle) : i = j ∧ t = u := by
  have hsame := h.recorded.eq_of_key ((h.kept i w hw).issued t ht) ((h.kept j w' hw').issued u hu)
    (Prod.ext hrole (Prod.ext hs hhandle))
  obtain ⟨-, htoken, hij⟩ := Issue.mk.inj hsame
  exact ⟨Option.some.inj hij, htoken⟩

/-- If all are in step, registries, declarations and workspaces agree. -/
private theorem InStep.agrees (h : site.InStep made) : site.Agrees where
  handles role s hopen := by
    -- the handles of a session's declarations are distinct
    have hdistinct : (((role.declared site.network.router).filter (·.session == s)).map
        (·.handle)).Nodup := by
      have honce := h.balanced.once role
      refine List.Nodup.map_on (fun d hd d' hd' heq => ?_) ((honce.of_map _).filter _)
      obtain ⟨hd, hds⟩ := List.mem_filter.1 hd
      obtain ⟨hd', hds'⟩ := List.mem_filter.1 hd'
      have hsession : d.session = d'.session := (beq_iff_eq.1 hds).trans (beq_iff_eq.1 hds').symm
      exact List.inj_on_of_nodup_map honce hd hd' (Prod.ext hsession heq)
    -- no handle occurs twice on either side, so it is enough that the same handles occur
    refine (List.perm_ext_iff_of_nodup (HandleTable.nodup_handles _) hdistinct).2 fun k => ?_
    rw [HandleTable.mem_handles_iff]
    refine (h.balanced.inUse_iff role s k hopen).trans ?_
    simp [and_assoc, Network.books]
  tokens role d hd := by
    obtain ⟨i, hi, hrole, hdecl⟩ := h.recorded.covers role d hd
    exact ⟨i, hi, hrole, hdecl, fun j hj hkey => h.recorded.eq_of_key hj hi hkey⟩
  subscriptions i w k sub hw hopen hsub := by
    have hkept := h.kept i w hw
    obtain rfl := hkept.keyed.subscription k sub hsub
    exact ⟨rfl, hkept.declared (.subscriber sub) hsub hopen⟩
  evals i w p ev hw hopen hev := by
    have hkept := h.kept i w hw
    obtain rfl := hkept.keyed.eval p ev hev
    exact ⟨rfl, hkept.declared (.eval ev) hev hopen⟩
  subscription_unique i j w w' k k' sub sub' hw hw' hs hsub hsub' hhandle := by
    obtain rfl := (h.kept i w hw).keyed.subscription k sub hsub
    obtain rfl := (h.kept j w' hw').keyed.subscription k' sub' hsub'
    obtain ⟨hij, -⟩ := h.eq_of_holds hw hw' hs (t := .subscriber sub) (u := .subscriber sub')
      hsub hsub' rfl hhandle
    exact ⟨hij, hhandle⟩
  eval_unique i j w w' p p' ev ev' hw hw' hs hev hev' hhandle := by
    obtain rfl := (h.kept i w hw).keyed.eval p ev hev
    obtain rfl := (h.kept j w' hw').keyed.eval p' ev' hev'
    obtain ⟨hij, htoken⟩ := h.eq_of_holds hw hw' hs (t := .eval ev) (u := .eval ev')
      hev hev' rfl hhandle
    exact ⟨hij, congrArg Eval.path (Token.eval.inj htoken)⟩
  owned := h.balanced.owned

/-- A session that is being closed has no declarations when the call returns. -/
private theorem InStep.session_ne_of_close (h : site.InStep made) (s : SessionId) {role : Role}
    {d : Declaration} (hd : d ∈ role.declared ((Session.close s).run site.network).2.router) :
    d.session ≠ s := by
  have hbooks := Network.books_close s site.network
  have hd' : d ∈ ((Session.close s).run site.network).2.books.declared role := hd
  rw [hbooks] at hd'
  -- in a closed session nothing was declared; an open one loses all it has
  cases hclosed : site.network.books.isClosed s with
  | true =>
    rw [hclosed, if_pos rfl] at hd'
    rintro rfl
    have hopen := h.balanced.owned role d hd'
    rw [hclosed] at hopen
    cases hopen
  | false =>
    rw [hclosed, if_neg Bool.false_ne_true] at hd'
    exact ((Books.mem_close ..).1 hd').2

/-- In the beginning there is nothing. -/
private theorem inStep_start (wall : Instant) (clock : ClockId) (codecs : CodecTable) :
    (start wall clock codecs).InStep fun _ _ => 0 where
  balanced :=
    { lt_of_open := nofun
      owned := fun role d hd => by cases role <;> cases hd
      inUse_iff := nofun
      once := fun role => by cases role <;> exact List.nodup_nil
      handle_lt := fun role d hd => by cases role <;> cases hd }
  recorded :=
    { once := List.nodup_nil
      session_lt := nofun
      handle_lt := nofun
      covers := fun role d hd => by cases role <;> cases hd }
  kept := nofun
  next_le role s := by cases role <;> exact Nat.le_refl 0
  capacity role s := by cases role <;> rfl

/-- After every run in which tokens are used as they should and no registry is asked for all
its handles, registries, declarations and workspaces agree; and a session that is closed
leaves no declaration behind. -/
theorem registries_agree (wall : Instant) (clock : ClockId) (codecs : CodecTable)
    (tasks : List Task) (hproper : (start wall clock codecs).Proper tasks)
    (hfew : ∀ role s, (start wall clock codecs).declarations role s tasks < 2 ^ 32) :
    ((start wall clock codecs).runAll tasks).Agrees ∧
      ∀ (s : SessionId) (role : Role), ∀ d ∈ role.declared
        ((Session.close s).run ((start wall clock codecs).runAll tasks).network).2.router,
        d.session ≠ s := by
  obtain ⟨made, hstep⟩ := (inStep_start wall clock codecs).runAll tasks hproper hfew
  exact ⟨hstep.agrees, fun s _ _ hd => hstep.session_ne_of_close s hd⟩

/-! ### A busy client -/

/-- A client subscribes and registers an eval through a workspace, and declares a storage by
itself.  It cannot end the subscription, because the router refuses, but it takes the storage
back. -/
def busyClient : List Task :=
  [.operate (.openSession none ∅) rfl, .openWorkspace Network.leafPath 0 {},
    .work 0 (.subscribe Network.leafSelector fun _ => {}),
    .work 0 (.registerEval Network.leafPath fun _ _ => { value := none }),
    .declare 0 (.storage Network.leafSelector ⟨fun _ _ => {}, fun _ _ _ => {}⟩),
    .operate (.failNext 1 7 "lost") rfl, .work 0 (.unsubscribe 0),
    .undeclare 0 (.storage ⟨0, Network.leafSelector⟩)]

/-- The handle of the subscription that could not be ended is still in use, that of the storage is
free again. -/
theorem registries_agree_of_busyClient :
    ((start ⟨0⟩ .zero {}).runAll busyClient).Agrees ∧
      (((start ⟨0⟩ .zero {}).runAll busyClient).network.registry .subscriber 0).handles = [0] ∧
      (((start ⟨0⟩ .zero {}).runAll busyClient).network.registry .storage 0).handles = [] := by
  have hproper : (start ⟨0⟩ .zero {}).Proper busyClient := by
    refine ⟨trivial, trivial, trivial, trivial, trivial, trivial, trivial, ?_, trivial⟩
    -- the storage that is taken back is the client's own
    show (⟨0, .storage ⟨0, Network.leafSelector⟩, none⟩ : Issue) ∈ Site.issued _
    decide
  have hfew : ∀ role s, (start ⟨0⟩ .zero {}).declarations role s busyClient < 2 ^ 32 :=
    fun role s => Nat.lt_of_le_of_lt (declarations_le_length role s _ _) (by decide)
  exact ⟨(registries_agree ⟨0⟩ .zero {} busyClient hproper hfew).1, rfl, rfl⟩

end Site

end PathSpace
