import ScriptHost.Proofs.Engine.Waiting
import ScriptHost.Proofs.Host.Logs
import ScriptHost.Proofs.Host.ProgramRun
import ScriptHost.Proofs.TaskQueue.Conservation

/- How long a drain takes. The queue grows while it is drained, and the tasks it holds are not
   the whole of what is left: each is still to be put back as often as it has `defer`s. What
   gets smaller with every call is what the tasks come to (`callsLeft`), read off the table of
   the context; the queue holds the same tasks in the same order, so the two run out together.

   What is proved: `Paired.react`, what one call does to the queue and to the table, and
   `drain_paired`, the calls of a drain, by what the tasks come to. -/
namespace ScriptHost

open Engine (Waiting)

/-! One call of the callback. -/

theorem Hook.moves_told (hook : Hook) (new : List (TaskId × PendingTask)) (q : TaskQueue) :
    (q.moveAll (hook.moves (hook.told new))).tasks.map (·.callback) =
      q.tasks.map (·.callback) ++ new.map Prod.fst := by
  rw [← TaskQueue.receive_eq_moveAll]
  exact Supervised.callbacks_receive_behind q hook new

theorem Engine.Waiting.handled {hook : Hook} {id : ContextId}
    {tasks : List (TaskId × PendingTask)} {e : Engine} (h : Waiting hook id tasks e)
    (error : Option ErrorCode) : Waiting hook id tasks (e.handled error) := by
  obtain ⟨x, heq, -⟩ := e.handled_eq error
  rw [heq]
  exact h.of_same (Nat.le_refl _) rfl rfl

theorem Host.perform_eq_ok_iff {h : Host} {op : Operation} {f : Engine → Execution} :
    (h.perform op f).ending = .ok () ↔ (f h.engine).ending = .ok () := by
  unfold Host.perform
  rcases f h.engine with ⟨⟨⟩ | code | payload, e, signals⟩
  · exact iff_of_true rfl rfl
  · exact iff_of_false nofun nofun
  · exact iff_of_false nofun nofun

/-- The queue of a hook holds the tasks that wait in a context, in the same order, and they come
    to so many calls. -/
structure Paired (hook : Hook) (id : ContextId) (q : TaskQueue) (n : Nat) (h : Host) : Prop where
  waiting : ∃ tasks, q.tasks.map (·.callback) = tasks.map Prod.fst ∧ callsLeft tasks = n ∧
    Waiting hook id tasks h.engine

variable {hook : Hook} {id : ContextId} {q q' : TaskQueue} {n : Nat}

theorem Paired.eq_zero {h : Host} (hpaired : Paired hook id q n h) (hpop : q.pop? = none) :
    n = 0 := by
  obtain ⟨tasks, hq, rfl, -⟩ := hpaired.waiting
  have hempty : q.tasks = [] := by
    simpa [TaskQueue.isEmpty] using (TaskQueue.pop?_eq_none_iff q).1 hpop
  rw [hempty] at hq
  obtain rfl : tasks = [] := List.map_eq_nil_iff.1 hq.symm
  rfl

/-- A call that ends well takes the first task off the queue and off the table, and puts what it
    deferred behind the others in both. -/
theorem Paired.react {h : Host} {t : Task} (hpaired : Paired hook id q n h)
    (hpop : q.pop? = some (t, q')) :
    0 < n ∧ (((Host.taskCallback hook).react h t).1.ending = .ok () →
      Paired hook id (q'.moveAll ((Host.taskCallback hook).react h t).1.moves) (n - 1)
        ((Host.taskCallback hook).react h t).2) := by
  obtain ⟨tasks, hq, rfl, hwaiting⟩ := hpaired.waiting
  rw [TaskQueue.tasks_of_pop? hpop, List.map_cons] at hq
  cases tasks with
  | nil => cases hq
  | cons entry rest =>
    obtain ⟨task, p⟩ := entry
    -- the oldest task of the queue is the first one in the table
    obtain ⟨rfl, hrest⟩ := List.cons.inj hq
    rw [callsLeft_cons]
    refine ⟨by omega, fun hok => ?_⟩
    have hcall : (h.engine.callTask t.callback).ending = .ok () := Host.perform_eq_ok_iff.1 hok
    obtain ⟨new, hsignals, hcalls, hnew⟩ := hwaiting.callTask hcall
    refine ⟨rest ++ new, ?_, ?_, ?_⟩
    · show (q'.moveAll (hook.moves (h.perform .callTask (·.callTask t.callback)).signals)).tasks.map
        (·.callback) = _
      rw [Host.signals_perform, hsignals, Hook.moves_told, hrest, List.map_append]
    · rw [callsLeft_append, hcalls]
      omega
    · show Waiting hook id (rest ++ new) (h.perform .callTask (·.callTask t.callback)).host.engine
      rw [Host.engine_perform]
      exact hnew.handled _

namespace Traced

theorem log_drain (hook : Hook) (q : TaskQueue) (p : Host × Log) :
    ∃ calls, (q.drain (loggedCallback hook) p).state.2 = p.2 ++ calls ∧
      calls.map (·.act) =
        (q.drain (loggedCallback hook) p).calls.map (fun t => .callTask t.callback) ∧
      ((∀ a ∈ calls, a.ending = .ok ()) → (q.drain (loggedCallback hook) p).ending = .ok ()) := by
  have hending : ∀ (p : Host × Log) (t : Task),
      Attempt.ending ⟨p.1.engine, .callTask t.callback⟩ = .ok () ↔
        ((loggedCallback hook).react p t).1.ending = .ok () := by
    intro p t
    rw [(calls_callTask t.callback).ending]
    exact (@Host.perform_eq_ok_iff p.1 .callTask (·.callTask t.callback)).symm
  -- by the recursion of the drain, a call and its attempt at a time
  fun_induction TaskQueue.drain (loggedCallback hook) q p with
  | case1 q p hpop => exact ⟨[], (List.append_nil _).symm, rfl, fun _ => rfl⟩
  | case2 q p t q' hpop reaction queue =>
    rename_i hok ih
    obtain ⟨calls, hstate, hacts, hall⟩ := ih
    refine ⟨⟨p.1.engine, .callTask t.callback⟩ :: calls, ?_, ?_, ?_⟩
    · simp only [Drained.after]
      rw [hstate]
      exact List.append_assoc ..
    · simp only [Drained.after, List.map_cons]
      rw [hacts]
    · exact fun hends => hall (List.forall_mem_cons.1 hends).2
  | case3 q p t q' hpop reaction queue e herror =>
    refine ⟨[⟨p.1.engine, .callTask t.callback⟩], rfl, rfl, fun hends => ?_⟩
    have hok := (hending p t).1 (hends _ (List.mem_singleton_self _))
    cases herror.symm.trans hok
  | case4 q p t q' hpop reaction queue code hfault =>
    refine ⟨[⟨p.1.engine, .callTask t.callback⟩], rfl, rfl, fun hends => ?_⟩
    have hok := (hending p t).1 (hends _ (List.mem_singleton_self _))
    cases hfault.symm.trans hok

/-- **A drain makes no more calls than its tasks come to**, in one pass, and exactly as many if
    every call ends well; then nothing is left to call. -/
theorem drain_paired {h : Host} (hpaired : Paired hook id q n h) :
    (∀ a ∈ (loggedDrain hook q h).state.2, ∃ task, a.act = .callTask task) ∧
      (loggedDrain hook q h).state.2.length ≤ n ∧ (loggedDrain hook q h).passes = 1 ∧
      ((∀ a ∈ (loggedDrain hook q h).state.2, a.ending = .ok ()) →
        (loggedDrain hook q h).state.2.length = n ∧ (loggedDrain hook q h).succeeded = n ∧
        (loggedDrain hook q h).ending = .ok () ∧ (loggedDrain hook q h).queue.isEmpty = true ∧
        Paired hook id (loggedDrain hook q h).queue 0 (loggedDrain hook q h).state.1) := by
  -- the number goes down by one with each call that ends well
  obtain ⟨hle, hdone⟩ := TaskQueue.drain_measure (loggedCallback hook)
    (I := fun q n p => Paired hook id q n p.1) (fun hpop hp => hp.eq_zero hpop)
    (fun hpop hp => hp.react hpop) (q := q) (s := (h, [])) hpaired
  obtain ⟨calls, hstate, hacts, hends⟩ := log_drain hook q (h, [])
  have hempty := TaskQueue.drain_queue_of_ok (loggedCallback hook) q (h, [])
  have hlength : calls.length = (q.drain (loggedCallback hook) (h, [])).calls.length := by
    rw [← List.length_map (f := (·.act)), hacts, List.length_map]
  have hcalls := acts_loggedDrain hook q h
  rw [loggedDrain, TaskQueue.settle_eq_settled] at hcalls ⊢
  generalize q.drain (loggedCallback hook) (h, []) = d at *
  obtain ⟨handed, ending, left, h', l⟩ := d
  dsimp only at *
  rw [List.nil_append] at hstate
  subst hstate
  rw [← hlength] at hle hdone
  cases ending with
  | ok u =>
    obtain ⟨hcount, hleft⟩ := hdone rfl
    refine ⟨hcalls, hle, rfl, fun _ => ⟨hcount, ?_, rfl, hempty rfl, hleft⟩⟩
    exact hlength.symm.trans hcount
  | error e => exact ⟨hcalls, hle, rfl, fun hall => nomatch hends hall⟩
  | fault payload => exact ⟨hcalls, hle, rfl, fun hall => nomatch hends hall⟩

end Traced

end ScriptHost
