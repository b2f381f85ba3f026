import ScriptHost.TaskQueue.Drain

/- Rules for drains. What each call of a callback keeps while it ends well, a drain
   keeps, and it ends in what the call that stopped it left. A drain does not see more
   of the callback's state than the callback does: callbacks that react alike, their
   states apart, are drained alike.

   What is proved: `drain_rule`, `drain_measure` and `drain_map` for a pass;
   `settle_eq_settled`, that settling is one pass, and the rule and the map for settling;
   and `drain_carry`, that callbacks which do the same under other names for their tasks
   are drained alike. -/
namespace ScriptHost

/-- What an ending comes with, by the way it ends. -/
def Ending.Leaves {ε α : Type} (x : Ending ε α) (value : α → Prop) (error : ε → Prop)
    (fault : Payload → Prop) : Prop :=
  match x with
  | .ok a => value a
  | .error e => error e
  | .fault payload => fault payload

theorem Ending.leaves_const {ε α : Type} {x : Ending ε α} {p : Prop} :
    x.Leaves (fun _ => p) (fun _ => p) (fun _ => p) ↔ p := by
  cases x <;> exact Iff.rfl

variable {ε σ τ : Type}

/-- The same drain, with something else made of the state. -/
def Drained.mapState (f : σ → τ) (d : Drained ε σ) : Drained ε τ :=
  ⟨d.calls, d.ending, d.queue, f d.state⟩

/-- The same settling, with something else made of the state. -/
def Settled.mapState (f : σ → τ) (d : Settled ε σ) : Settled ε τ :=
  ⟨d.passes, d.succeeded, d.ending, d.queue, f d.state⟩

/-- What settling comes to when one pass is all it takes. -/
def Drained.settled (d : Drained ε σ) : Settled ε σ :=
  match d.ending with
  | .ok () => ⟨1, d.succeeded, .ok (), d.queue, d.state⟩
  | .error e => ⟨1, d.succeeded, .error e, d.queue, d.state⟩
  | .fault payload => ⟨1, 0, .fault payload, d.queue, d.state⟩

theorem Drained.settled_mapState (f : σ → τ) (d : Drained ε σ) :
    (d.mapState f).settled = d.settled.mapState f := by
  obtain ⟨calls, ending, queue, s⟩ := d
  cases ending <;> rfl

namespace TaskQueue

variable {cb : Callback ε σ} {cb' : Callback ε τ} {P : σ → Prop} {R : ε → σ → Prop}
  {F : Payload → σ → Prop} {f : σ → τ}

theorem drain_eq (cb : Callback ε σ) (q : TaskQueue) (s : σ) :
    drain cb q s =
      match q.pop? with
      | none => ⟨[], .ok (), q, s⟩
      | some (t, q') =>
        match (cb.react s t).1.ending with
        | .ok () =>
          (drain cb (q'.moveAll (cb.react s t).1.moves) (cb.react s t).2).after t
        | .error e => ⟨[t], .error e, q'.moveAll (cb.react s t).1.moves, (cb.react s t).2⟩
        | .fault payload =>
          ⟨[t], .fault payload, q'.moveAll (cb.react s t).1.moves, (cb.react s t).2⟩ := by
  rw [drain]
  split
  · rename_i hpop
    exact hpop ▸ rfl
  · rename_i hpop
    exact hpop ▸ rfl

/-- The loop rule: what a call keeps that ends well, a drain keeps up to its last call. -/
theorem drain_rule (cb : Callback ε σ)
    (hcb : ∀ s t, P s → (cb.react s t).1.ending.Leaves (fun _ => P (cb.react s t).2)
      (R · (cb.react s t).2) (F · (cb.react s t).2)) (q : TaskQueue) (s : σ) (hs : P s) :
    (drain cb q s).ending.Leaves (fun _ => P (drain cb q s).state) (R · (drain cb q s).state)
      (F · (drain cb q s).state) := by
  fun_induction drain cb q s with
  | case1 => exact hs
  | case2 q s t q' hpop reaction queue hok ih =>
    have hcall := hcb s t hs
    rw [hok] at hcall
    exact ih hcall
  | case3 q s t q' hpop reaction queue e herror =>
    have hcall := hcb s t hs
    rwa [herror] at hcall
  | case4 q s t q' hpop reaction queue payload hfault =>
    have hcall := hcb s t hs
    rwa [hfault] at hcall

/-- The measure rule: where every call that ends well takes one off a number that is positive
    while tasks wait, a drain makes no more calls than that, and one that ends well makes so
    many. -/
theorem drain_measure (cb : Callback ε σ) {I : TaskQueue → Nat → σ → Prop}
    (hempty : ∀ {q n s}, q.pop? = none → I q n s → n = 0)
    (hcall : ∀ {q q' t n s}, q.pop? = some (t, q') → I q n s → 0 < n ∧
      ((cb.react s t).1.ending = .ok () →
        I (q'.moveAll (cb.react s t).1.moves) (n - 1) (cb.react s t).2))
    {q : TaskQueue} {n : Nat} {s : σ} (h : I q n s) :
    (drain cb q s).calls.length ≤ n ∧
      ((drain cb q s).ending = .ok () →
        (drain cb q s).calls.length = n ∧ I (drain cb q s).queue 0 (drain cb q s).state) := by
  -- by the recursion of the drain, with the number going down along it
  fun_induction drain cb q s generalizing n with
  | case1 q s hpop =>
    obtain rfl := hempty hpop h
    exact ⟨Nat.le_refl _, fun _ => ⟨rfl, h⟩⟩
  | case2 q s t q' hpop reaction queue =>
    rename_i hok ih
    obtain ⟨hpos, hnext⟩ := hcall hpop h
    obtain ⟨hle, hdone⟩ := ih (hnext hok)
    simp only [Drained.after, List.length_cons]
    refine ⟨by omega, fun hends => ?_⟩
    obtain ⟨hlength, hleft⟩ := hdone hends
    exact ⟨by omega, hleft⟩
  | case3 q s t q' hpop =>
    refine ⟨(hcall hpop h).1, fun hends => ?_⟩
    cases hends
  | case4 q s t q' hpop =>
    refine ⟨(hcall hpop h).1, fun hends => ?_⟩
    cases hends

theorem drain_map (hreact : ∀ s t, cb'.react (f s) t = ((cb.react s t).1, f (cb.react s t).2))
    (q : TaskQueue) (s : σ) : drain cb' q (f s) = (drain cb q s).mapState f := by
  fun_induction drain cb q s with
  | case1 q s hpop =>
    rw [drain_eq, hpop]
    rfl
  | case2 q s t q' hpop reaction queue hok ih =>
    have hending : (cb.react s t).1.ending = .ok () := hok
    rw [drain_eq, hpop]
    dsimp only
    rw [hreact, hending]
    exact congrArg (Drained.after t) ih
  | case3 q s t q' hpop reaction queue e herror =>
    have hending : (cb.react s t).1.ending = .error e := herror
    rw [drain_eq, hpop]
    dsimp only
    rw [hreact, hending]
    rfl
  | case4 q s t q' hpop reaction queue payload hfault =>
    have hending : (cb.react s t).1.ending = .fault payload := hfault
    rw [drain_eq, hpop]
    dsimp only
    rw [hreact, hending]
    rfl

/-- A pass that ends well leaves nothing for another. -/
theorem settle_eq_settled (cb : Callback ε σ) (q : TaskQueue) (s : σ) :
    settle cb q s = (drain cb q s).settled := by
  unfold settle Drained.settled
  dsimp only
  split
  · rename_i hok
    rw [dif_pos (drain_queue_of_ok cb q s hok), hok]
  · rename_i e herror
    rw [herror]
  · rename_i payload hfault
    rw [hfault]

theorem settle_eq_drain (cb : Callback ε σ) (q : TaskQueue) (s : σ) :
    (settle cb q s).ending = (drain cb q s).ending ∧
      (settle cb q s).state = (drain cb q s).state := by
  rw [settle_eq_settled]
  generalize drain cb q s = d
  obtain ⟨calls, ending, queue, s'⟩ := d
  cases ending <;> exact ⟨rfl, rfl⟩

theorem settle_rule (cb : Callback ε σ)
    (hcb : ∀ s t, P s → (cb.react s t).1.ending.Leaves (fun _ => P (cb.react s t).2)
      (R · (cb.react s t).2) (F · (cb.react s t).2)) (q : TaskQueue) (s : σ) (hs : P s) :
    (settle cb q s).ending.Leaves (fun _ => P (settle cb q s).state) (R · (settle cb q s).state)
      (F · (settle cb q s).state) := by
  have hdrain := drain_rule cb hcb q s hs
  rw [settle_eq_settled]
  revert hdrain
  generalize drain cb q s = d
  obtain ⟨calls, ending, queue, s'⟩ := d
  cases ending <;> exact id

/-- What every call keeps, however it ends, a drain keeps. -/
theorem settle_keeps (hcb : ∀ s t, P s → P (cb.react s t).2) (q : TaskQueue) (s : σ) (hs : P s) :
    P (settle cb q s).state := by
  have hrule := settle_rule cb (P := P) (R := fun _ => P) (F := fun _ => P)
    (fun s t hs => Ending.leaves_const.2 (hcb s t hs)) q s hs
  exact Ending.leaves_const.1 hrule

theorem settle_map (hreact : ∀ s t, cb'.react (f s) t = ((cb.react s t).1, f (cb.react s t).2))
    (q : TaskQueue) (s : σ) : settle cb' q (f s) = (settle cb q s).mapState f := by
  rw [settle_eq_settled, settle_eq_settled, drain_map hreact, Drained.settled_mapState]

end TaskQueue

/-! Tasks under other names. -/

def Task.carry (f : TaskId → TaskId) (t : Task) : Task :=
  { t with callback := f t.callback }

/-- The move, of a task under another name. -/
def Move.carry (f : TaskId → TaskId) : Move → Move
  | .push callback => .push (f callback)
  | .pop => .pop

def Reaction.carry (f : TaskId → TaskId) (r : Reaction ε) : Reaction ε :=
  ⟨r.moves.map (Move.carry f), r.ending⟩

namespace TaskQueue

variable {cb : Callback ε σ} {cb' : Callback ε τ} {P : σ → τ → Prop}

def carry (f : TaskId → TaskId) (q : TaskQueue) : TaskQueue :=
  { q with tasks := q.tasks.map (Task.carry f) }

theorem push_carry (f : TaskId → TaskId) (q : TaskQueue) (callback : TaskId) :
    (q.carry f).push (f callback) = (q.push callback).carry f := by
  simp [push, carry, Task.carry]

theorem moveAll_carry (f : TaskId → TaskId) (q : TaskQueue) (moves : List Move) :
    (q.carry f).moveAll (moves.map (Move.carry f)) = (q.moveAll moves).carry f := by
  induction moves generalizing q with
  | nil => rfl
  | cons m rest ih =>
    cases m with
    | push callback =>
      have hpush := push_carry f q callback
      have hrest := ih (q.push callback)
      rw [← hpush] at hrest
      exact hrest
    | pop =>
      have hpop : (q.carry f).move .pop = (q.move .pop).carry f := by
        simp [move, carry, List.map_tail]
      have hrest := ih (q.move .pop)
      rw [← hpop] at hrest
      exact hrest

theorem pop?_carry (f : TaskId → TaskId) (q : TaskQueue) :
    (q.carry f).pop? = q.pop?.map (Prod.map (Task.carry f) (carry f)) := by
  obtain ⟨tasks, pushed⟩ := q
  cases tasks with
  | nil => rfl
  | cons t rest => rfl

/-- Two drains alike, but for the names of the tasks and for states that are related. -/
structure Carried (f : TaskId → TaskId) (P : σ → τ → Prop) (d : Drained ε σ) (d' : Drained ε τ) :
    Prop where
  calls : d.calls.length = d'.calls.length
  ending : d.ending = d'.ending
  queue : d.queue = d'.queue.carry f
  state : P d.state d'.state

theorem drain_eq_carry {f : TaskId → TaskId} {q q' : TaskQueue} {task : Task} {s : σ}
    {r : Reaction ε} (hpop : q.pop? = some (task, q'))
    (hreact : (cb.react s (task.carry f)).1 = r.carry f) :
    drain cb (q.carry f) s =
      match r.ending with
      | .ok () =>
        (drain cb ((q'.moveAll r.moves).carry f) (cb.react s (task.carry f)).2).after (task.carry f)
      | .error e =>
        ⟨[task.carry f], .error e, (q'.moveAll r.moves).carry f, (cb.react s (task.carry f)).2⟩
      | .fault payload =>
        ⟨[task.carry f], .fault payload, (q'.moveAll r.moves).carry f,
          (cb.react s (task.carry f)).2⟩ := by
  rw [drain_eq, pop?_carry, hpop]
  dsimp only [Option.map_some, Prod.map]
  rw [hreact, ← moveAll_carry]
  rfl

/-- Callbacks that react alike in related states, and leave related states, are drained alike. -/
theorem drain_carry (f : TaskId → TaskId)
    (hcb : ∀ s t task, P s t →
      (cb.react s (task.carry f)).1 = (cb'.react t task).1.carry f ∧
        P (cb.react s (task.carry f)).2 (cb'.react t task).2)
    (q : TaskQueue) (s : σ) (t : τ) (h : P s t) :
    Carried f P (drain cb (q.carry f) s) (drain cb' q t) := by
  fun_induction drain cb' q t generalizing s with
  | case1 q t hpop =>
    rw [drain_eq, pop?_carry, hpop]
    exact ⟨rfl, rfl, rfl, h⟩
  | case2 q t task q' hpop reaction queue hok ih =>
    obtain ⟨hreact, hstate⟩ := hcb s t task h
    have hending : (cb'.react t task).1.ending = .ok () := hok
    have hrest := ih _ hstate
    rw [drain_eq_carry hpop hreact, hending]
    exact ⟨congrArg Nat.succ hrest.calls, hrest.ending, hrest.queue, hrest.state⟩
  | case3 q t task q' hpop reaction queue e herror =>
    obtain ⟨hreact, hstate⟩ := hcb s t task h
    have hending : (cb'.react t task).1.ending = .error e := herror
    rw [drain_eq_carry hpop hreact, hending]
    exact ⟨rfl, rfl, rfl, hstate⟩
  | case4 q t task q' hpop reaction queue payload hfault =>
    obtain ⟨hreact, hstate⟩ := hcb s t task h
    have hending : (cb'.react t task).1.ending = .fault payload := hfault
    rw [drain_eq_carry hpop hreact, hending]
    exact ⟨rfl, rfl, rfl, hstate⟩

theorem settle_carry (f : TaskId → TaskId)
    (hcb : ∀ s t task, P s t →
      (cb.react s (task.carry f)).1 = (cb'.react t task).1.carry f ∧
        P (cb.react s (task.carry f)).2 (cb'.react t task).2)
    (q : TaskQueue) (s : σ) (t : τ) (h : P s t) :
    (settle cb (q.carry f) s).passes = (settle cb' q t).passes ∧
      (settle cb (q.carry f) s).succeeded = (settle cb' q t).succeeded ∧
      (settle cb (q.carry f) s).ending = (settle cb' q t).ending ∧
      (settle cb (q.carry f) s).queue = (settle cb' q t).queue.carry f ∧
      P (settle cb (q.carry f) s).state (settle cb' q t).state := by
  have hcarried := drain_carry f hcb q s t h
  rw [settle_eq_settled, settle_eq_settled]
  generalize drain cb (q.carry f) s = d at hcarried
  generalize drain cb' q t = d' at hcarried
  obtain ⟨calls, ending, queue, s'⟩ := d
  obtain ⟨calls', ending', queue', t'⟩ := d'
  obtain ⟨hcalls, hending, hqueue, hstate⟩ := hcarried
  dsimp only at hcalls hending hqueue hstate
  subst hending
  cases ending with
  | ok => exact ⟨rfl, hcalls, rfl, hqueue, hstate⟩
  | error e => exact ⟨rfl, congrArg (· - 1) hcalls, rfl, hqueue, hstate⟩
  | fault payload => exact ⟨rfl, rfl, rfl, hqueue, hstate⟩

end TaskQueue
end ScriptHost
