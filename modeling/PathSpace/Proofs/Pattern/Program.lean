import PathSpace.Proofs.Pattern.Outcomes
/-!
# What a program comes to

A program is followed instruction by instruction, and at a fork first one way and then the other.
All matches that are met so are what its first instruction yields.  The program of an expression
yields the outcomes of the expression, in their order.

A part of a program has its place in the code and goes on behind it, so what it yields depends on
what comes behind it: for every outcome of the part all that is yielded from there.

## Key results

- `Program.Yields`: what an instruction comes to
- `Regex.isSteady`: what is repeated without end consumes
- `Program.Realizes`: a part of the code does what a step says
- `Program.realizes_addRegex`: the code of an expression does what its outcomes say
- `Program.yields_ofRegex`: so does the program as a whole
-/

namespace PathSpace

/-- Whether everything that is repeated without end consumes, so that no repetition stays at its
place. -/
def Regex.isSteady : Regex → Bool
  | .empty | .set _ | .look _ => true
  | .cat a b | .alt a b => a.isSteady && b.isSteady
  | .repeated a _ max _ => a.isSteady && (max.isSome || a.consumes)
  | .group _ a => a.isSteady

namespace Program

/-- What is met from the instruction with number `n` on if `f` has been met before, the most wanted
match first.  Instructions that come back to themselves at one place yield nothing at all. -/
inductive Yields (p : Program) : (n : Nat) → Found → List Found → Prop
  | accept {n : Nat} {f : Found} (hi : p.instrs[n]? = some .accept) : Yields p n f [f]
  | take {n next : Nat} {f : Found} {s : CharSet} {x : Char} {rest : List Char} {l : List Found}
      (hi : p.instrs[n]? = some (.take s next)) (hrest : f.behind.rest = x :: rest)
      (hx : s.contains x = true) (h : Yields p next (f.pass x rest) l) : Yields p n f l
  | miss {n next : Nat} {f : Found} {s : CharSet} (hi : p.instrs[n]? = some (.take s next))
      (hx : ∀ x ∈ f.behind.rest.head?, s.contains x = false) : Yields p n f []
  | look {n next : Nat} {f : Found} {k : Look} {l : List Found}
      (hi : p.instrs[n]? = some (.look k next)) (hk : k.holds f.behind = true)
      (h : Yields p next f l) : Yields p n f l
  | away {n next : Nat} {f : Found} {k : Look} (hi : p.instrs[n]? = some (.look k next))
      (hk : k.holds f.behind = false) : Yields p n f []
  | mark {n next i : Nat} {f : Found} {l : List Found} (hi : p.instrs[n]? = some (.mark i next))
      (h : Yields p next (f.mark i) l) : Yields p n f l
  | fork {n first second : Nat} {f : Found} {l l' : List Found}
      (hi : p.instrs[n]? = some (.fork first second)) (h : Yields p first f l)
      (h' : Yields p second f l') : Yields p n f (l ++ l')

/-! ## Code -/

/-- Some code has been added to other code, which has stayed as it was. -/
structure Extends (code code' : Code) : Prop where
  size_le : code.size ≤ code'.size
  getElem? : ∀ i, i < code.size → code'[i]? = code[i]?

/-- The program has some code from the instruction with number `start` on. -/
def Has (p : Program) (start : Nat) (code : Code) : Prop :=
  ∀ i, start ≤ i → i < code.size → p.instrs[i]? = code[i]?

namespace Extends

variable {code code' code'' : Code}

theorem refl (c : Code) : Extends c c := ⟨Nat.le_refl _, fun _ _ => rfl⟩

theorem trans (h : Extends code code') (h' : Extends code' code'') : Extends code code'' :=
  ⟨Nat.le_trans h.size_le h'.size_le, fun i hi =>
    (h'.getElem? i (Nat.lt_of_lt_of_le hi h.size_le)).trans (h.getElem? i hi)⟩

/-- To add an instruction extends the code. -/
private theorem add (c : Code) (i : Instr) : Extends c (add c i).1 where
  size_le := by simp [Program.add]
  getElem? j hj := by rw [Program.add, Array.getElem?_push_lt hj, Array.getElem?_eq_getElem hj]

end Extends

variable {p : Program} {code code' : Code} {start : Nat}

/-- A program that has the code has what the code extends. -/
private theorem Has.of_extends (h : p.Has start code') (he : Extends code code') :
    p.Has start code :=
  fun i hi hlt => (h i hi (Nat.lt_of_lt_of_le hlt he.size_le)).trans (he.getElem? i hlt)

/-- A program that has the code from one place on has it from a later one. -/
private theorem Has.from (h : p.Has start code) {start' : Nat} (hle : start ≤ start') :
    p.Has start' code := fun i hi => h i (Nat.le_trans hle hi)

/-- The instruction that was added last is there. -/
private theorem Has.getElem?_add {i : Instr} (h : p.Has start (add code i).1)
    (hle : start ≤ code.size) :
    p.instrs[(add code i).2]? = some i :=
  (h code.size hle (by simp [add])).trans (by simp [add])

/-! ## Parts -/

/-- A part of the code does what a step says, whatever comes behind it. -/
structure Realizes (part : Nat → Code → Code × Nat) (step : Found → List Found) : Prop where
  extend : ∀ next code, Extends code (part next code).1
  yields : ∀ (p : Program) next code, p.Has code.size (part next code).1 →
    ∀ f (k : Found → List Found), (∀ g ∈ step f, Yields p next g (k g)) →
      Yields p (part next code).2 f ((step f).flatMap k)

namespace Realizes

variable {part part' : Nat → Code → Code × Nat} {step step' : Found → List Found}

/-- Code that is not there does nothing. -/
private theorem nothing : Realizes (fun next code => (code, next)) fun f => [f] where
  extend _ code := .refl code
  yields _ _ _ _ f k hk := by
    rw [List.flatMap_singleton]
    exact hk f List.mem_cons_self

/-- One part behind another, of which the second one is added first. -/
private theorem seq (h : Realizes part step) (h' : Realizes part' step') :
    Realizes (fun next code => part (part' next code).2 (part' next code).1)
      fun f => (step f).flatMap step' where
  extend next code := (h'.extend next code).trans (h.extend _ _)
  yields p next code hp f k hk := by
    have he := h'.extend next code
    rw [List.flatMap_assoc]
    refine h.yields p _ _ (hp.from he.size_le) f _ fun g hg => ?_
    refine h'.yields p next code (hp.of_extends (h.extend _ _)) g k fun g' hg' => ?_
    exact hk g' (List.mem_flatMap.2 ⟨g, hg, hg'⟩)

/-- The part of one instruction. -/
private theorem one {i : Nat → Instr}
    (h : ∀ (p : Program) n next f (k : Found → List Found), p.instrs[n]? = some (i next) →
      (∀ g ∈ step f, Yields p next g (k g)) → Yields p n f ((step f).flatMap k)) :
    Realizes (fun next code => add code (i next)) step where
  extend next code := .add code (i next)
  yields p next _ hp f k hk := h p _ next f k (hp.getElem?_add (Nat.le_refl _)) hk

/-- The instruction of a set realizes the set. -/
private theorem take (s : CharSet) : Realizes (fun next code => add code (.take s next))
    (Regex.set s).outcomes := by
  refine .one fun p n next f k hi hk => ?_
  rw [Regex.outcomes] at hk ⊢
  -- at the end of the text, or at a character that is not in the set, there is nothing
  cases hrest : f.behind.rest with
  | nil => exact .miss hi (by simp [hrest])
  | cons x rest =>
    simp only [hrest] at hk
    cases hx : s.contains x with
    | false => simpa [hx] using Yields.miss hi (by simp [hrest, hx])
    | true =>
      rw [if_pos hx] at hk
      simpa [hx] using Yields.take hi hrest hx (hk _ List.mem_cons_self)

/-- The instruction of a look realizes the look. -/
private theorem look (l : Look) : Realizes (fun next code => add code (.look l next))
    (Regex.look l).outcomes := by
  refine .one fun p n next f k hi hk => ?_
  rw [Regex.outcomes] at hk ⊢
  cases hl : l.holds f.behind with
  | false => simpa [hl] using Yields.away hi hl
  | true =>
    rw [if_pos hl] at hk
    simpa [hl] using Yields.look hi hl (hk f List.mem_cons_self)

/-- The instruction of a mark realizes the mark. -/
private theorem mark (i : Nat) : Realizes (fun next code => add code (.mark i next))
    fun f => [f.mark i] := by
  refine .one fun p n next f k hi hk => ?_
  rw [List.flatMap_singleton]
  exact .mark hi (hk _ List.mem_cons_self)

/-- One part or another; the second one is added first. -/
private theorem either (h : Realizes part step) (h' : Realizes part' step') :
    Realizes (fun next code =>
        let second := part' next code
        let first := part next second.1
        add first.1 (.fork first.2 second.2))
      fun f => step f ++ step' f where
  extend next code := ((h'.extend next code).trans (h.extend _ _)).trans (.add _ _)
  yields p next code hp f k hk := by
    have he' := h'.extend next code
    have he := h.extend next (part' next code).1
    have hfork := Extends.add (part next (part' next code).1).1
      (.fork (part next (part' next code).1).2 (part' next code).2)
    rw [List.flatMap_append]
    -- the first part is tried before the second
    refine .fork (hp.getElem?_add (he'.trans he).size_le) ?_ ?_
    · exact h.yields p _ _ ((hp.of_extends hfork).from he'.size_le) f k fun g hg =>
        hk g (List.mem_append_left _ hg)
    · exact h'.yields p _ _ (hp.of_extends (he.trans hfork)) f k fun g hg =>
        hk g (List.mem_append_right _ hg)

/-- A part several times. -/
private theorem copies (h : Realizes part step) (n : Nat) :
    Realizes (addCopies part n) (Regex.inRow step n) := by
  induction n with
  | zero => exact .nothing
  | succ n ih =>
    rw [show Regex.inRow step (n + 1) = fun f => (Regex.inRow step n f).flatMap step from
      funext (Regex.inRow_succ step n)]
    exact ih.seq h

end Realizes

/-- A fork yields what both ways yield, in the order of its greed. -/
private theorem yields_fork {n enter leave : Nat} {greedy : Bool} {f : Found} {l l' : List Found}
    (hi : p.instrs[n]? = some (if greedy then .fork enter leave else .fork leave enter))
    (h : Yields p enter f l) (h' : Yields p leave f l') :
    Yields p n f (Regex.prefer greedy l l') := by
  cases greedy with
  | false => exact .fork hi h' h
  | true => exact .fork hi h h'

/-! ## Repetitions -/

/-- Steps in a row are as many steps as there may be. -/
private theorem mem_upTo_of_mem_inRow {step : Found → List Found} {greedy : Bool} {n : Nat}
    (m : Nat)
    {f g : Found}
    (hg : g ∈ Regex.inRow step n f) : g ∈ Regex.upTo greedy step (n + m) f := by
  induction n generalizing f with
  | zero =>
    rw [List.mem_singleton.1 hg]
    cases m with
    | zero => exact List.mem_cons_self
    | succ m => exact Regex.mem_prefer.2 (.inr List.mem_cons_self)
  | succ n ih =>
    obtain ⟨f', hf', hg⟩ := List.mem_flatMap.1 hg
    rw [Nat.add_right_comm]
    exact Regex.mem_prefer.2 (.inl (List.mem_flatMap.2 ⟨f', hf', ih hg⟩))

/-- A repetition without end has its fork before the part, to which the fork leads in the end. -/
private theorem addLoop_eq (greedy : Bool) (part : Nat → Code → Code × Nat) (leave : Nat)
    (code : Code) :
    addLoop greedy part leave code =
      let body := part code.size (addFork greedy leave leave code).1
      (body.1.setIfInBounds code.size
        (if greedy then .fork body.2 leave else .fork leave body.2), body.2, code.size) := rfl

namespace Realizes

variable {part : Nat → Code → Code × Nat} {step : Found → List Found}

/-- Optional parts extend the code. -/
private theorem extends_addOptional (h : Realizes part step) (greedy : Bool) (leave n : Nat) :
    ∀ next code, Extends code (addOptional greedy part leave n next code).1 := by
  induction n with
  | zero => exact fun _ code => .refl code
  | succ n ih => exact fun next code => ((h.extend next code).trans (.add _ _)).trans (ih _ _)

/-- A part that may be left out, up to `n` times, before `m` more that have been added already. -/
private theorem yields_addOptional (h : Realizes part step) (greedy : Bool) (leave n : Nat)
    {m next : Nat} {code : Code} {f : Found} {k : Found → List Found}
    (hp : p.Has code.size (addOptional greedy part leave n next code).1)
    (hnext : ∀ g ∈ Regex.inRow step n f,
      Yields p next g ((Regex.upTo greedy step m g).flatMap k))
    (hleave : ∀ g ∈ Regex.upTo greedy step (n + m) f, Yields p leave g (k g)) :
    Yields p (addOptional greedy part leave n next code).2 f
      ((Regex.upTo greedy step (n + m) f).flatMap k) := by
  induction n generalizing m next code with
  | zero => rw [Nat.zero_add]; exact hnext f List.mem_cons_self
  | succ n ih =>
    have he := h.extend next code
    have hfork := Extends.add (part next code).1
      (if greedy then .fork (part next code).2 leave else .fork leave (part next code).2)
    have hrest := h.extends_addOptional greedy leave n
      (addFork greedy (part next code).2 leave (part next code).1).2
      (addFork greedy (part next code).2 leave (part next code).1).1
    rw [Nat.add_right_comm, Nat.add_assoc] at hleave ⊢
    -- the part and its fork are one layer more behind those that are still to be added
    refine ih (hp.from (he.trans hfork).size_le) (fun g hg => ?_) hleave
    have henter : Yields p (part next code).2 g
        ((step g).flatMap fun g' => (Regex.upTo greedy step m g').flatMap k) := by
      refine h.yields p next code (hp.of_extends (hfork.trans hrest)) g _ fun g' hg' => ?_
      refine hnext g' ?_
      rw [Regex.inRow_succ]
      exact List.mem_flatMap.2 ⟨g, hg, hg'⟩
    rw [Regex.upTo, Regex.flatMap_prefer, List.flatMap_assoc, List.flatMap_singleton]
    exact yields_fork ((hp.of_extends hrest).getElem?_add he.size_le) henter
      (hleave g (mem_upTo_of_mem_inRow (m + 1) hg))

/-- A part up to `n` times. -/
private theorem optional (h : Realizes part step) (greedy : Bool) (n : Nat) :
    Realizes (fun next code => addOptional greedy part next n next code)
      (Regex.upTo greedy step n) where
  extend next code := h.extends_addOptional greedy next n next code
  yields p next code hp f k hk := by
    refine h.yields_addOptional (m := 0) greedy next n hp (fun g hg => ?_) hk
    rw [Regex.upTo, List.flatMap_singleton]
    exact hk g (mem_upTo_of_mem_inRow 0 hg)

/-- A loop extends the code. -/
private theorem extends_addLoop (h : Realizes part step) (greedy : Bool) (leave : Nat)
    (code : Code) :
    Extends code (addLoop greedy part leave code).1 := by
  have hbody := (Extends.add code _).trans (h.extend code.size (addFork greedy leave leave code).1)
  rw [addLoop_eq]
  refine ⟨?_, fun i hi => ?_⟩
  · rw [Array.size_setIfInBounds]
    exact hbody.size_le
  · rw [Array.getElem?_setIfInBounds_ne (Nat.ne_of_gt hi)]
    exact hbody.getElem? i hi

/-- The fork has been put into its place, and the code of the part is behind it. -/
private theorem has_addLoop (h : Realizes part step) {greedy : Bool} {leave : Nat} {code : Code}
    (hp : p.Has code.size (addLoop greedy part leave code).1) :
    p.instrs[code.size]? = some (if greedy then .fork (addLoop greedy part leave code).2.1 leave
        else .fork leave (addLoop greedy part leave code).2.1) ∧
      p.Has (addFork greedy leave leave code).1.size
        (part code.size (addFork greedy leave leave code).1).1 := by
  rw [addLoop_eq] at hp ⊢
  have hbody := h.extend code.size (addFork greedy leave leave code).1
  have hfork : (addFork greedy leave leave code).1.size = code.size + 1 := by simp [addFork, add]
  have hle := hbody.size_le
  -- only the first place of the loop is written again once its end is known
  constructor
  · rw [hp code.size (Nat.le_refl _) (by rw [Array.size_setIfInBounds]; omega),
      Array.getElem?_setIfInBounds_self_of_lt (by omega)]
  · intro i hi hlt
    rw [hp i (by omega) (by rwa [Array.size_setIfInBounds]),
      Array.getElem?_setIfInBounds_ne (by omega)]

/-- The fork of a repetition without end yields all repetitions. -/
private theorem yields_addLoop (h : Realizes part step) (hstep : Regex.GoesOn 1 step)
    {greedy : Bool}
    {leave : Nat} {code : Code} (hp : p.Has code.size (addLoop greedy part leave code).1)
    (f : Found)
    {k : Found → List Found} (hk : ∀ g ∈ Regex.unlimited greedy step f, Yields p leave g (k g)) :
    Yields p code.size f ((Regex.unlimited greedy step f).flatMap k) := by
  obtain ⟨hagain, hpart⟩ := h.has_addLoop hp
  -- every repetition leaves fewer characters to the others
  induction hn : f.left using Nat.strongRecOn generalizing f with
  | _ n ih =>
    rw [Regex.unlimited_eq hstep] at hk ⊢
    rw [Regex.flatMap_prefer, List.flatMap_assoc, List.flatMap_singleton]
    refine yields_fork hagain ?_ (hk f (Regex.mem_prefer.2 (.inr List.mem_cons_self)))
    refine h.yields p _ _ hpart f _ fun g hg => ?_
    have hless := hstep f g hg
    refine ih g.left (by omega) g (fun g' hg' => hk g' ?_) rfl
    exact Regex.mem_prefer.2 (.inl (List.mem_flatMap.2 ⟨g, hg, hg'⟩))

/-- A part any number of times. -/
private theorem loop (h : Realizes part step) (hstep : Regex.GoesOn 1 step) (greedy : Bool) :
    Realizes (fun next code => ((addLoop greedy part next code).1, code.size))
      (Regex.unlimited greedy step) where
  extend := h.extends_addLoop greedy
  yields _ _ _ hp f _ hk := h.yields_addLoop hstep hp f hk

/-- A part at least once. -/
private theorem loopOnce (h : Realizes part step) (hstep : Regex.GoesOn 1 step) (greedy : Bool) :
    Realizes (fun next code =>
        ((addLoop greedy part next code).1, (addLoop greedy part next code).2.1))
      fun f => (step f).flatMap (Regex.unlimited greedy step) where
  extend := h.extends_addLoop greedy
  yields p next code hp f k hk := by
    rw [List.flatMap_assoc]
    refine h.yields p _ _ (h.has_addLoop hp).2 f _ fun g hg => ?_
    refine h.yields_addLoop hstep hp g fun g' hg' => ?_
    exact hk g' (List.mem_flatMap.2 ⟨g, hg, hg'⟩)

end Realizes

/-! ## Expressions -/

/-- A group is its inside between two places that are remembered. -/
private theorem outcomes_group (i : Nat) (a : Regex) : (Regex.group i a).outcomes = fun f =>
    [f.mark (2 * i)].flatMap fun g => (a.outcomes g).flatMap fun g => [g.mark (2 * i + 1)] := by
  funext f
  rw [List.flatMap_singleton, Regex.outcomes, List.map_eq_flatMap]

/-- A repetition without end is a loop, behind all the repetitions that must be but the last. -/
private theorem realizes_addRegex_unlimited {a : Regex} (hpart : Realizes (addRegex a) a.outcomes)
    (hconsumes : a.consumes = true) (min : Nat) (greedy : Bool) :
    Realizes (addRegex (.repeated a min none greedy))
      (Regex.repeated a min none greedy).outcomes := by
  have hstep := Regex.goesOn_of_consumes hconsumes
  cases min with
  | zero =>
    have hcode : addRegex (.repeated a 0 none greedy) = fun next code =>
        ((addLoop greedy (addRegex a) next code).1, code.size) := by
      funext next code
      rw [addRegex, addLoop_eq]
      exact if_pos hconsumes
    have houtcomes : (Regex.repeated a 0 none greedy).outcomes =
        Regex.unlimited greedy a.outcomes := by
      funext f
      rw [Regex.outcomes, Regex.inRow, List.flatMap_singleton]
    rw [hcode, houtcomes]
    exact hpart.loop hstep greedy
  | succ min =>
    -- the last repetition that must be is the first one of the loop
    have houtcomes : (Regex.repeated a (min + 1) none greedy).outcomes = fun f =>
        (Regex.inRow a.outcomes min f).flatMap fun g =>
          (a.outcomes g).flatMap (Regex.unlimited greedy a.outcomes) := by
      funext f
      rw [Regex.outcomes, Regex.inRow_succ, List.flatMap_assoc]
    rw [houtcomes]
    exact (hpart.copies min).seq (hpart.loopOnce hstep greedy)

/-- The code of an expression does what its outcomes say. -/
theorem realizes_addRegex {r : Regex} (hr : r.isSteady = true) :
    Realizes (addRegex r) r.outcomes := by
  induction r with
  | empty => exact .nothing
  | set s => exact .take s
  | look l => exact .look l
  | cat a b iha ihb =>
    rw [Regex.isSteady, Bool.and_eq_true] at hr
    exact (iha hr.1).seq (ihb hr.2)
  | alt a b iha ihb =>
    rw [Regex.isSteady, Bool.and_eq_true] at hr
    exact (iha hr.1).either (ihb hr.2)
  | group i a ih =>
    rw [outcomes_group]
    exact (Realizes.mark (2 * i)).seq ((ih hr).seq (.mark (2 * i + 1)))
  | repeated a min max greedy ih =>
    rw [Regex.isSteady, Bool.and_eq_true] at hr
    have hpart := ih hr.1
    -- a bounded repetition is copied, an unlimited one needs a loop
    cases max with
    | some max => exact (hpart.copies min).seq (hpart.optional greedy (max - min))
    | none => exact realizes_addRegex_unlimited hpart hr.2 min greedy

/-- The program of an expression yields its outcomes, of which the whole is group 0. -/
theorem yields_ofRegex {r : Regex} (hr : r.isSteady = true) (f : Found) :
    Yields (ofRegex r) (ofRegex r).start f ((Regex.group 0 r).outcomes f) := by
  have hrealizes := realizes_addRegex (r := .group 0 r) hr
  have haccept : (ofRegex r).instrs[0]? = some .accept :=
    (hrealizes.extend 0 #[.accept]).getElem? 0 (by simp)
  have hyields := hrealizes.yields (ofRegex r) 0 #[.accept] (fun i _ _ => rfl) f (fun g => [g])
    fun g _ => .accept haccept
  rwa [List.flatMap_singleton'] at hyields

end Program

end PathSpace
