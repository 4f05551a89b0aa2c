import PathSpace.Proofs.Pattern.Program
import Mathlib.Logic.Relation
/-!
# What a search finds

A search takes all its threads along at once, and runs no instruction twice at a place.  This loses
no match that counts: where an instruction has been run before, all that it leads to is wanted more
than what it would lead to now, and if that was nothing, it is nothing now.  So a search finds the
first outcome at the first place that has one.

## Key results

- `Yields.acyclic`: what yields something does not come back to itself without a character
- `Yields.goes`: what becomes of one thread at a place
- `Comes.front`: what becomes of all threads at a place
- `scan_eq`, `search_eq`: the search as a whole
- `search_ofRegex`: the search for an expression finds its first outcome at the first place that
  has one
-/

namespace PathSpace

namespace Program

variable {p : Program} {n : Nat} {c : Cursor} {f : Found} {l : List Found}

/-! ## Instructions at one place -/

/-- One instruction leads to another one at a place, without a character. -/
inductive Leads (p : Program) (c : Cursor) : Nat → Nat → Prop
  | look {n next : Nat} {k : Look} (hi : p.instrs[n]? = some (.look k next))
      (hk : k.holds c = true) : Leads p c n next
  | mark {n next i : Nat} (hi : p.instrs[n]? = some (.mark i next)) : Leads p c n next
  | first {n first second : Nat} (hi : p.instrs[n]? = some (.fork first second)) :
      Leads p c n first
  | second {n first second : Nat} (hi : p.instrs[n]? = some (.fork first second)) :
      Leads p c n second

/-- What yields something does not come back to itself without a character. -/
theorem Yields.acyclic (h : Yields p n f l) : ¬ Relation.TransGen (p.Leads f.behind) n n := by
  -- a way back would begin with a step to an instruction that comes back to itself as well
  have hstep {n : Nat} {c : Cursor} (h : ∀ k, p.Leads c n k → ¬ Relation.TransGen (p.Leads c) k k) :
      ¬ Relation.TransGen (p.Leads c) n n := by
    intro hcycle
    obtain ⟨k, hk, hback⟩ := Relation.TransGen.head'_iff.1 hcycle
    exact h k hk (.tail' hback hk)
  induction h with
  | accept hi | take hi | miss hi | away hi =>
    refine hstep fun k hk => ?_
    cases hk <;> simp_all
  | look hi hk h ih =>
    refine hstep fun k hk => ?_
    cases hk <;> simp_all
  | mark hi h ih =>
    refine hstep fun k hk => ?_
    cases hk <;> simp_all
  | fork hi h h' ih ih' =>
    refine hstep fun k hk => ?_
    cases hk <;> simp_all

/-- What has been met before has no influence on whether something is yielded. -/
private theorem Yields.eq_nil_iff {f' : Found} {l' : List Found} (h : Yields p n f l)
    (h' : Yields p n f' l') (hf : f'.behind = f.behind) : l' = [] ↔ l = [] := by
  -- marks do not decide whether there is a match, only the place does
  induction h generalizing f' l' with
  | accept hi => cases h' <;> simp_all
  | take hi hrest hx h ih =>
    cases h' with
    | take hi' hrest' hx' h' => grind [Found.pass]
    | _ => simp_all
  | miss hi hx => cases h' <;> simp_all
  | look hi hk h ih =>
    cases h' with
    | look hi' hk' h' => grind
    | _ => simp_all
  | away hi hk => cases h' <;> simp_all
  | mark hi h ih =>
    cases h' with
    | mark hi' h' => grind [Found.mark]
    | _ => simp_all
  | fork hi h₁ h₂ ih₁ ih₂ =>
    cases h' with
    | fork hi' h₁' h₂' => grind [List.append_eq_nil_iff]
    | _ => simp_all

/-- An instruction comes to nothing at a place. -/
def Dry (p : Program) (c : Cursor) (n : Nat) : Prop := ∀ marks l, Yields p n ⟨marks, c⟩ l → l = []

private theorem Yields.dry (h : Yields p n f []) : Dry p f.behind n := fun _ _ h' =>
  (h.eq_nil_iff h' rfl).2 rfl

/-! ## Threads -/

/-- What threads at a place come to, one after the other. -/
inductive Comes (p : Program) (c : Cursor) : List Thread → List Found → Prop
  | nil : Comes p c [] []
  | cons {t : Thread} {ts : List Thread} {l l' : List Found} (h : Yields p t.next ⟨t.marks, c⟩ l)
      (h' : Comes p c ts l') : Comes p c (t :: ts) (l ++ l')

/-- What threads that wait for the next character come to, one after the other. -/
inductive Awaits (p : Program) (c : Cursor) : List (CharSet × Thread) → List Found → Prop
  | nil : Awaits p c [] []
  | go {s : CharSet} {t : Thread} {x : Char} {rest : List Char} {ts : List (CharSet × Thread)}
      {l l' : List Found} (hrest : c.rest = x :: rest) (hx : s.contains x = true)
      (h : Yields p t.next ⟨t.marks, c.behind x rest⟩ l) (h' : Awaits p c ts l') :
      Awaits p c ((s, t) :: ts) (l ++ l')
  | stay {s : CharSet} {t : Thread} {ts : List (CharSet × Thread)} {l : List Found}
      (hx : ∀ x ∈ c.rest.head?, s.contains x = false) (h : Awaits p c ts l) :
      Awaits p c ((s, t) :: ts) l

/-- More threads come to more matches. -/
theorem Comes.append {ts ts' : List Thread} {l' : List Found} (h : Comes p c ts l)
    (h' : Comes p c ts' l') : Comes p c (ts ++ ts') (l ++ l') := by
  induction h with
  | nil => exact h'
  | cons ht _ ih => rw [List.append_assoc]; exact .cons ht ih

/-- More threads await more matches. -/
theorem Awaits.append {ts ts' : List (CharSet × Thread)} {l' : List Found} (h : Awaits p c ts l)
    (h' : Awaits p c ts' l') : Awaits p c (ts ++ ts') (l ++ l') := by
  induction h with
  | nil => exact h'
  | go hrest hx ht _ ih => rw [List.append_assoc]; exact .go hrest hx ht ih
  | stay hx _ ih => exact .stay hx ih

/-- Without a next character nobody goes on. -/
private theorem Awaits.eq_nil {ts : List (CharSet × Thread)} (h : Awaits p c ts l)
    (hc : c.rest = []) :
    l = [] := by
  induction h with
  | nil => rfl
  | go hrest => cases hc.symm.trans hrest
  | stay _ _ ih => exact ih

/-- The next character takes along those that waited for it. -/
private theorem Awaits.comes {ts : List (CharSet × Thread)} {x : Char} {rest : List Char}
    (h : Awaits p c ts l) (hc : c.rest = x :: rest) :
    Comes p (c.behind x rest)
      (ts.filterMap fun (s, t) => if s.contains x then some t else none) l := by
  induction h with
  | nil => exact .nil
  | go hrest hx ht _ ih =>
    obtain ⟨rfl, rfl⟩ := List.cons.inj (hc.symm.trans hrest)
    simp only [List.filterMap_cons, hx, if_true]
    exact .cons ht ih
  | stay hx _ ih =>
    have hnot := hx x (by rw [hc]; rfl)
    simp only [List.filterMap_cons, hnot, Bool.false_eq_true, if_false]
    exact ih

/-! ## One place -/

/-- Whether an instruction has been run at a place; those that are not there count as run. -/
def isRun (seen : Array Bool) (n : Nat) : Bool := seen.getD n true

private theorem isRun_set {seen : Array Bool} {k : Nat}
    (h : isRun (seen.setIfInBounds n true) k = true) : k = n ∨ isRun seen k = true := by
  rw [isRun, Array.getD_eq_getD_getElem?, Array.getElem?_setIfInBounds] at h
  split at h
  · next heq => exact .inl heq.symm
  · exact .inr (by rwa [isRun, Array.getD_eq_getD_getElem?])

/-- Every instruction that is run leaves one fewer to be run. -/
private theorem count_set {seen : Array Bool} (h : isRun seen n = false) :
    (seen.setIfInBounds n true).count false + 1 = seen.count false := by
  have hn : n < seen.size := by
    by_contra hn
    simp [isRun, Array.getD, hn] at h
  have hfalse : seen[n] = false := by simpa [isRun, Array.getD, hn] using h
  have hpos : 0 < seen.count false := Array.count_pos_iff.2 (hfalse ▸ Array.getElem_mem hn)
  rw [Array.setIfInBounds, dif_pos hn, Array.count_set]
  simp only [hfalse, beq_self_eq_true, if_true]
  simp only [show (true == false) = false from rfl, Bool.false_eq_true, if_false]
  omega

/-- What becomes of a thread at a place, if what was wanted before and what it yields make up `l`.
Either it has found a match, or the others go on. -/
inductive Goes (p : Program) (c : Cursor) (rest : List Thread) (seen : Array Bool)
    (l : List Found) : Front → Prop
  | found {waiting : List (CharSet × Thread)} {marks : Marks} {l' : List Found}
      (hw : Awaits p c waiting.reverse l') (hhead : (l' ++ [Found.mk marks c]).head? = l.head?) :
      Goes p c rest seen l ⟨waiting.reverse, some marks⟩
  | on {waiting : List (CharSet × Thread)} {steps : Nat} {seen' : Array Bool} {l' : List Found}
      (hw : Awaits p c waiting.reverse l') (hhead : l'.head? = l.head?)
      (hsteps : rest.length + 2 * seen'.count false ≤ steps)
      (hseen : ∀ k, isRun seen' k = true → isRun seen k = true ∨ l' ≠ [] ∨ Dry p c k) :
      Goes p c rest seen l (p.follow c steps rest seen' waiting)

/-- Instructions that have been run need not be told apart from others, if they came to nothing or
something is wanted more anyway. -/
private theorem Goes.of_isRun {rest : List Thread} {seen seen' : Array Bool} {l' : List Found}
    {front : Front} (h : Goes p c rest seen' l' front) (hhead : l'.head? = l.head?)
    (hseen : ∀ k, isRun seen' k = true → isRun seen k = true ∨ l' ≠ [] ∨ Dry p c k) :
    Goes p c rest seen l front := by
  cases h with
  | found hw hl' => exact .found hw (hl'.trans hhead)
  | on hw hl' hsteps hrun =>
    refine .on hw (hl'.trans hhead) hsteps fun k hk => (hrun k hk).elim (fun hk => ?_) .inr
    refine (hseen k hk).imp_right fun hk => hk.imp_left fun hne hnil => hne ?_
    rw [hnil] at hl'
    exact List.head?_eq_none_iff.1 hl'.symm

/-- If the first list begins with something, then so does the one that begins like all of them. -/
private theorem ne_nil_of_head?_eq {l₀ l₁ l' : List Found} (hhead : l'.head? = (l₀ ++ l₁).head?)
    (hne : l₀ ≠ []) : l' ≠ [] := by
  rintro rfl
  exact hne (List.append_eq_nil_iff.1 (List.head?_eq_none_iff.1 hhead.symm)).1

/-- If something has come of what is wanted more, then nothing else matters. -/
private theorem head?_append_of_found {l' : List Found} {found : Found}
    (hhead : (l' ++ [found]).head? = l.head?) (l₂ : List Found) :
    (l' ++ [found]).head? = (l ++ l₂).head? := by
  rw [List.head?_append (l := l), ← hhead]
  cases l' <;> rfl

/-- A thread goes on with another one behind it, which is wanted less. -/
theorem Goes.cons {t : Thread} {rest : List Thread} {seen : Array Bool} {front : Front}
    {l₂ : List Found} (h : Goes p c (t :: rest) seen l front)
    (hnext : ∀ {steps : Nat} {seen' : Array Bool} {waiting : List (CharSet × Thread)}
      {l' : List Found}, Awaits p c waiting.reverse l' → l'.head? = l.head? →
      rest.length + 1 + 2 * seen'.count false ≤ steps →
      (∀ k, isRun seen' k = true → isRun seen k = true ∨ l' ≠ [] ∨ Dry p c k) →
      Goes p c rest seen' (l' ++ l₂) (p.follow c steps (t :: rest) seen' waiting)) :
    Goes p c rest seen (l ++ l₂) front := by
  cases h with
  | found hw hhead => exact .found hw (head?_append_of_found hhead l₂)
  | @on _ _ seen' l' hw hhead hsteps hseen =>
    refine (hnext hw hhead hsteps hseen).of_isRun ?_ fun k hk => ?_
    · rw [List.head?_append, hhead, ← List.head?_append]
    · refine (hseen k hk).imp_right fun hcame => hcame.imp_left fun hne hnil => ?_
      exact hne (List.append_eq_nil_iff.1 hnil).1

/-- A thread whose instruction has been run before is dropped.  If it would come to something, so
would one that is wanted more. -/
private theorem Yields.goes_of_isRun (h : Yields p n f l) {steps : Nat} {rest : List Thread}
    {seen : Array Bool} {waiting : List (CharSet × Thread)} {l₀ : List Found}
    (hw : Awaits p f.behind waiting.reverse l₀)
    (hsteps : rest.length + 2 * seen.count false ≤ steps)
    (hrun : isRun seen n = true) (hdry : l₀ ≠ [] ∨ Dry p f.behind n) :
    Goes p f.behind rest seen (l₀ ++ l)
      (p.follow f.behind (steps + 1) (⟨n, f.marks⟩ :: rest) seen waiting) := by
  rw [isRun] at hrun
  rw [follow, if_pos hrun]
  refine .on hw ?_ hsteps fun k hk => .inl hk
  rcases hdry with hne | hn
  · rw [List.head?_append_of_ne_nil _ hne]
  · rw [hn _ _ h, List.append_nil]

/-- What becomes of a thread whose instruction has not been run before. -/
private theorem follow_of_not_isRun {steps : Nat} {marks : Marks} {rest : List Thread}
    {seen : Array Bool}
    {waiting : List (CharSet × Thread)} (i : Instr) (hrun : isRun seen n = false) :
    p.instrs[n]? = some i → p.follow c (steps + 1) (⟨n, marks⟩ :: rest) seen waiting =
      let seen := seen.setIfInBounds n true
      match i with
      | .accept => { waiting := waiting.reverse, found := some marks }
      | .take s next => p.follow c steps rest seen ((s, ⟨next, marks⟩) :: waiting)
      | .look k next =>
        if k.holds c then p.follow c steps (⟨next, marks⟩ :: rest) seen waiting
        else p.follow c steps rest seen waiting
      | .mark j next => p.follow c steps (⟨next, (j, c.place) :: marks⟩ :: rest) seen waiting
      | .fork first second =>
        p.follow c steps (⟨first, marks⟩ :: ⟨second, marks⟩ :: rest) seen waiting := by
  intro hi
  rw [isRun] at hrun
  rw [follow, if_neg (by simp [hrun]), hi]
  cases i <;> rfl

/-- Whether an instruction has been run before is looked at once for all kinds of them. -/
private theorem Yields.goes_of_first (h : Yields p n f l) {steps : Nat} {rest : List Thread}
    {seen : Array Bool} {waiting : List (CharSet × Thread)} {l₀ : List Found}
    (hw : Awaits p f.behind waiting.reverse l₀)
    (hsteps : rest.length + 1 + 2 * seen.count false ≤ steps)
    (hseen : isRun seen n = true → l₀ ≠ [] ∨ Dry p f.behind n)
    (hfirst : ∀ steps', steps = steps' + 1 → isRun seen n = false →
      rest.length + 2 + 2 * (seen.setIfInBounds n true).count false ≤ steps' →
      Goes p f.behind rest (seen.setIfInBounds n true) (l₀ ++ l)
        (p.follow f.behind (steps' + 1) (⟨n, f.marks⟩ :: rest) seen waiting)) :
    Goes p f.behind rest seen (l₀ ++ l)
      (p.follow f.behind steps (⟨n, f.marks⟩ :: rest) seen waiting) := by
  obtain ⟨steps, rfl⟩ := Nat.exists_eq_add_one_of_ne_zero (n := steps) (by omega)
  cases hrun : isRun seen n with
  | true => exact h.goes_of_isRun hw (by omega) hrun (hseen hrun)
  | false =>
    have hcount := count_set hrun
    refine (hfirst steps rfl hrun (by omega)).of_isRun rfl fun k hk => ?_
    rcases isRun_set hk with rfl | hk
    · -- if nothing was found from it on, nothing can ever come of it
      refine .inr (or_iff_not_imp_left.2 fun hnil => ?_)
      exact ((List.append_eq_nil_iff.1 (not_not.1 hnil)).2 ▸ h).dry
    · exact .inl hk

/-- Where an instruction leads, it is not met again itself, so running it leaves the others as they
were. -/
private theorem Yields.not_met {k : Nat} {seen : Array Bool} {l₀ : List Found} (h : Yields p n f l)
    (hk : p.Leads f.behind n k)
    (hseen : ∀ k, Relation.ReflTransGen (p.Leads f.behind) n k → isRun seen k = true →
      l₀ ≠ [] ∨ Dry p f.behind k) (j : Nat) (hj : Relation.ReflTransGen (p.Leads f.behind) k j)
    (hrun : isRun (seen.setIfInBounds n true) j = true) : l₀ ≠ [] ∨ Dry p f.behind j := by
  rcases isRun_set hrun with rfl | hrun
  · exact absurd (.head' hk hj) h.acyclic
  · exact hseen j (.head hk hj) hrun

/-- What becomes of one thread.  Whatever it leads to and has been run before, has come to nothing,
unless something is wanted more anyway. -/
theorem Yields.goes (h : Yields p n f l) {steps : Nat} (rest : List Thread) {seen : Array Bool}
    {waiting : List (CharSet × Thread)} {l₀ : List Found}
    (hw : Awaits p f.behind waiting.reverse l₀)
    (hsteps : rest.length + 1 + 2 * seen.count false ≤ steps)
    (hseen : ∀ k, Relation.ReflTransGen (p.Leads f.behind) n k → isRun seen k = true →
      l₀ ≠ [] ∨ Dry p f.behind k) :
    Goes p f.behind rest seen (l₀ ++ l)
      (p.follow f.behind steps (⟨n, f.marks⟩ :: rest) seen waiting) := by
  -- for all that may have been run and be wanted before: a fork runs its second branch after all
  -- that its first one has run
  induction h generalizing steps rest seen waiting l₀ with
  | accept hi =>
    refine (Yields.accept hi).goes_of_first hw hsteps (hseen _ .refl) fun steps' _ hrun _ => ?_
    rw [follow_of_not_isRun _ hrun hi]
    exact .found hw rfl
  | take hi hrest hx h ih =>
    refine (Yields.take hi hrest hx h).goes_of_first hw hsteps (hseen _ .refl)
      fun steps' _ hrun hsteps' => ?_
    rw [follow_of_not_isRun _ hrun hi]
    have hgo := Awaits.go (t := ⟨_, _⟩) hrest hx h .nil
    rw [List.append_nil] at hgo
    refine .on ?_ rfl (by omega) fun k hk => .inl hk
    rw [List.reverse_cons]
    exact hw.append hgo
  | miss hi hx =>
    refine (Yields.miss hi hx).goes_of_first hw hsteps (hseen _ .refl)
      fun steps' _ hrun hsteps' => ?_
    rw [follow_of_not_isRun _ hrun hi]
    refine .on ?_ rfl (by omega) fun k hk => .inl hk
    rw [List.reverse_cons]
    exact hw.append (.stay hx .nil)
  | look hi hk h ih =>
    refine (Yields.look hi hk h).goes_of_first hw hsteps (hseen _ .refl)
      fun steps' _ hrun hsteps' => ?_
    rw [follow_of_not_isRun _ hrun hi]
    simp only [hk, if_true]
    exact ih rest hw (by omega) ((Yields.look hi hk h).not_met (.look hi hk) hseen)
  | away hi hk =>
    refine (Yields.away hi hk).goes_of_first hw hsteps (hseen _ .refl)
      fun steps' _ hrun hsteps' => ?_
    rw [follow_of_not_isRun _ hrun hi]
    simp only [hk, Bool.false_eq_true, if_false]
    exact .on hw (by rw [List.append_nil]) (by omega) fun k hk => .inl hk
  | @mark n next i f l hi h ih =>
    have hall : Yields p n f l := .mark hi h
    refine hall.goes_of_first hw hsteps (hseen _ .refl) fun steps' _ hrun hsteps' => ?_
    rw [follow_of_not_isRun _ hrun hi]
    exact ih rest hw (by omega) (hall.not_met (.mark hi) hseen)
  | @fork n first second f l₁ l₂ hi h₁ h₂ ih₁ ih₂ =>
    have hall : Yields p n f (l₁ ++ l₂) := .fork hi h₁ h₂
    refine hall.goes_of_first hw hsteps (hseen _ .refl) fun steps' _ hrun hsteps' => ?_
    rw [follow_of_not_isRun _ hrun hi, ← List.append_assoc]
    have hfirst := ih₁ (⟨second, f.marks⟩ :: rest) hw (by simpa using hsteps')
      (hall.not_met (.first hi) hseen)
    exact hfirst.cons fun hw' hhead hsteps'' hseen' => ih₂ rest hw' hsteps'' fun k hk hrun' => by
      -- it was run before the fork, or the first branch has run it
      rcases hseen' k hrun' with hrun' | hcame
      · exact (hall.not_met (.second hi) hseen k hk hrun').imp_left (ne_nil_of_head?_eq hhead)
      · exact hcame

/-- What becomes of several threads, one after the other. -/
private theorem Comes.follow {ts : List Thread} (h : Comes p c ts l) {steps : Nat}
    {seen : Array Bool}
    {waiting : List (CharSet × Thread)} {l₀ : List Found} (hw : Awaits p c waiting.reverse l₀)
    (hsteps : ts.length + 2 * seen.count false ≤ steps)
    (hseen : ∀ k, isRun seen k = true → l₀ ≠ [] ∨ Dry p c k) :
    ∃ l', Awaits p c (p.follow c steps ts seen waiting).waiting l' ∧
      l'.head?.or ((p.follow c steps ts seen waiting).found.map (⟨·, c⟩)) = (l₀ ++ l).head? := by
  induction h generalizing steps seen waiting l₀ with
  | nil =>
    refine ⟨l₀, ?_, ?_⟩
    · cases steps <;> exact hw
    · cases steps <;> simp [Program.follow]
  | @cons t ts l₁ l₂ ht hts ih =>
    have hfirst := ht.goes ts hw (by simpa using hsteps) fun k _ => hseen k
    rw [← List.append_assoc]
    generalize p.follow c steps (t :: ts) seen waiting = front at hfirst ⊢
    cases hfirst with
    | @found waiting' marks l' hw' hhead =>
      -- after a find nothing more is followed, so the later threads do not count
      refine ⟨l', hw', ?_⟩
      rw [← head?_append_of_found hhead l₂, List.head?_append]
      rfl
    | @on waiting' steps' seen' l' hw' hhead hsteps' hseen' =>
      obtain ⟨l'', hw'', hhead'⟩ := ih hw' hsteps' fun k hk =>
        (hseen' k hk).elim (fun hk => (hseen k hk).imp_left (ne_nil_of_head?_eq hhead)) id
      refine ⟨l'', hw'', hhead'.trans ?_⟩
      rw [List.head?_append, hhead, ← List.head?_append]

/-- What becomes of all threads at a place: the first of what they come to is awaited, or has been
found. -/
theorem Comes.front {ts : List Thread} (h : Comes p c ts l) :
    ∃ l', Awaits p c (p.front c ts).waiting l' ∧
      l'.head?.or ((p.front c ts).found.map (⟨·, c⟩)) = l.head? := by
  refine h.follow (show Awaits p c [].reverse [] from .nil) ?_ fun k hk => .inr fun marks l hl => ?_
  · simp
  · -- nothing has been run yet, and what is not there yields nothing
    have hsize : p.instrs.size ≤ k := by
      by_contra hlt
      simp [isRun, Array.getD, Nat.not_le.1 hlt] at hk
    cases hl <;> simp_all

/-! ## All places -/

end Program

/-- The places from some place on, of which `rest` is behind the first one. -/
def Cursor.placesFrom (place : Nat) (before : Option Char) : List Char → List Cursor
  | [] => [⟨place, before, []⟩]
  | x :: rest => ⟨place, before, x :: rest⟩ :: placesFrom (place + 1) (some x) rest

/-- A place with all places behind it. -/
def Cursor.places (c : Cursor) : List Cursor := placesFrom c.place c.before c.rest

namespace Program

/-- At a place the first of what the threads come to is awaited, or it is the match so far; while
there is none, one more thread begins. -/
private theorem settled_eq {threads : List Thread} {start : List Found} {place : Nat}
    {before : Option Char} {rest : List Char} (best : Option Found)
    (h : Comes p ⟨place, before, rest⟩ threads l)
    (hstart : Yields p p.start ⟨[], ⟨place, before, rest⟩⟩ start) :
    ∃ l', Awaits p ⟨place, before, rest⟩ (scan.settled p threads best place before rest).1 l' ∧
      l'.head?.or (scan.settled p threads best place before rest).2 =
        l.head?.or (best.or start.head?) := by
  cases best with
  | none =>
    obtain ⟨l', hw, hhead⟩ := (h.append (.cons (t := ⟨p.start, []⟩) hstart .nil)).front
    refine ⟨l', hw, ?_⟩
    rw [List.append_nil, List.head?_append] at hhead
    exact (congrArg l'.head?.or Option.or_none).trans hhead
  | some found =>
    obtain ⟨l', hw, hhead⟩ := h.front
    refine ⟨l', hw, ?_⟩
    rw [Option.some_or, ← hhead, Option.or_assoc]
    rfl

/-- A search goes on from what its threads come to, and tries all places until something has been
found. -/
theorem scan_eq {start : Cursor → List Found}
    (hstart : ∀ c, Yields p p.start ⟨[], c⟩ (start c)) (rest : List Char) {place : Nat}
    {before : Option Char} {threads : List Thread} (best : Option Found)
    (h : Comes p ⟨place, before, rest⟩ threads l) :
    p.scan threads best place before rest = l.head?.or
      (best.or ((Cursor.placesFrom place before rest).findSome? fun c => (start c).head?)) := by
  induction rest generalizing place before threads best l with
  | nil =>
    obtain ⟨l', hw, hhead⟩ := settled_eq best h (hstart _)
    rw [hw.eq_nil rfl, List.head?_nil, Option.none_or] at hhead
    rw [scan, Cursor.placesFrom, List.findSome?_singleton]
    exact hhead
  | cons x rest ih =>
    obtain ⟨l', hw, hhead⟩ := settled_eq best h (hstart _)
    have hplaces :
        (Cursor.placesFrom place before (x :: rest)).findSome? (fun c => (start c).head?) =
          (start ⟨place, before, x :: rest⟩).head?.or
            ((Cursor.placesFrom (place + 1) (some x) rest).findSome? fun c => (start c).head?) := by
      rw [Cursor.placesFrom, List.findSome?_cons]
      cases (start ⟨place, before, x :: rest⟩).head? <;> rfl
    have hall (later : Option Found) :
        l.head?.or (best.or ((start ⟨place, before, x :: rest⟩).head?.or later)) =
          l'.head?.or ((scan.settled p threads best place before (x :: rest)).2.or later) := by
      have hlater := congrArg (·.or later) hhead
      simp only [Option.or_assoc] at hlater
      exact hlater.symm
    rw [hplaces, hall, scan]
    generalize scan.settled p threads best place before (x :: rest) = settled at hw
    obtain ⟨waiting, best'⟩ := settled
    dsimp only at hw ⊢
    split
    · next hdone =>
      -- nobody waits any more, and the match so far is the last one
      rw [Bool.and_eq_true, List.isEmpty_iff] at hdone
      rw [hdone.1] at hw
      cases hw
      obtain ⟨found, hfound⟩ := Option.isSome_iff_exists.1 hdone.2
      rw [hfound]
      rfl
    · exact ih best' (hw.comes rfl)

/-- A search finds the first of what its program yields at the first place where that is
something. -/
theorem search_eq {start : Cursor → List Found}
    (hstart : ∀ c, Yields p p.start ⟨[], c⟩ (start c)) (c : Cursor) :
    p.search c = c.places.findSome? fun c => (start c).head? := by
  rw [search, scan_eq hstart c.rest none .nil]
  rfl

/-- The search for an expression finds its first outcome at the first place that has one. -/
theorem search_ofRegex {r : Regex} (hr : r.isSteady = true) (c : Cursor) :
    (ofRegex r).search c = c.places.findSome? fun c => ((Regex.group 0 r).outcomes ⟨[], c⟩).head? :=
  search_eq (fun c => yields_ofRegex hr ⟨[], c⟩) c

end Program

end PathSpace
