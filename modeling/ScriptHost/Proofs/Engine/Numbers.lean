import ScriptHost.Proofs.Engine.Statements

/- The numbers that an engine hands out: a runtime's, a context's, a task's. They all
   come from one counter, which only grows, and a number comes into use only by being
   handed out. That is what each thing done to an engine keeps, `Hands`, and it
   composes: so over any calls, however they end, no number is handed out twice, and
   what is in use was handed out. What faults or fails midway has handed out the
   numbers of the tasks it had scheduled by then.

   What is proved: `Hands.after`, one case for each call, and from it
   `numbers_of_calls` for any sequence of calls. -/
namespace ScriptHost.Engine

/-! Sequences of calls. -/

/-- The engine that calls, one after another, leave behind. -/
def afterAll (e : Engine) (calls : List EngineCall) : Engine :=
  calls.foldl after e

/-- The reachable engines are those that sequences of calls lead to. -/
theorem reachable_iff_exists_calls {e : Engine} :
    Reachable e ↔ ∃ calls, e = initial.afterAll calls := by
  constructor
  · intro h
    induction h with
    | initial => exact ⟨[], rfl⟩
    | next _ call ih =>
      obtain ⟨calls, rfl⟩ := ih
      exact ⟨calls ++ [call], by rw [afterAll, afterAll, List.foldl_append]; rfl⟩
  · rintro ⟨calls, rfl⟩
    suffices h : ∀ e, Reachable e → Reachable (e.afterAll calls) from h _ .initial
    induction calls with
    | nil => exact fun _ h => h
    | cons call rest ih => exact fun e h => ih _ (h.next call)

/-- The numbers that statements hand out, to the tasks that they schedule. -/
def handedOutBy (ss : List Executed) : List Nat :=
  ss.filterMap fun x => x.scheduled?.map (·.value)

/-- The numbers a call hands out: of the runtime or the context that it creates, or of the
    tasks that are scheduled while it executes. -/
def handedOut (e : Engine) : EngineCall → List Nat
  | .createRuntime attributes =>
    match e.createRuntime attributes with
    | (.ok r, _) => [r.value]
    | (.error _, _) => []
  | .createContext runtime =>
    match e.createContext runtime with
    | (.ok id, _) => [id.value]
    | (.error _, _) => []
  | call => handedOutBy (e.statements call)

def handedOutAll (e : Engine) : List EngineCall → List Nat
  | [] => []
  | call :: rest => e.handedOut call ++ (e.after call).handedOutAll rest

/-! What is kept. -/

/-- From one engine to another numbers were handed out: in increasing order, all new to the
    counter, and no other number has come into use. -/
structure Hands (e e' : Engine) (given : List Nat) : Prop where
  le : e.issued ≤ e'.issued
  increasing : given.Pairwise (· < ·)
  new : ∀ n ∈ given, e.issued < n ∧ n ≤ e'.issued
  used : ∀ n ∈ e'.ids, n ∈ e.ids ∨ n ∈ given

namespace Hands

variable {e e' e'' : Engine} {given given' : List Nat}

/-- Nothing is handed out where the counter stays and no number comes into use. -/
theorem none (hissued : e'.issued = e.issued) (hids : ∀ n ∈ e'.ids, n ∈ e.ids) :
    Hands e e' [] where
  le := Nat.le_of_eq hissued.symm
  increasing := .nil
  new := fun _ hn => nomatch hn
  used := fun n hn => .inl (hids n hn)

theorem refl (e : Engine) : Hands e e [] :=
  .none rfl fun _ hn => hn

/-- One number is handed out where the counter goes up by one and only that comes into use. -/
theorem one (hissued : e'.issued = e.issued + 1)
    (hids : ∀ n ∈ e'.ids, n ∈ e.ids ∨ n = e.issued + 1) : Hands e e' [e.issued + 1] where
  le := by omega
  increasing := List.pairwise_singleton _ _
  new := by
    intro n hn
    have heq := List.mem_singleton.1 hn
    omega
  used := fun n hn => (hids n hn).imp_right List.mem_singleton.2

theorem trans (h : Hands e e' given) (h' : Hands e' e'' given') :
    Hands e e'' (given ++ given') where
  le := Nat.le_trans h.le h'.le
  increasing := by
    refine List.pairwise_append.2 ⟨h.increasing, h'.increasing, fun n hn n' hn' => ?_⟩
    -- the first were all at most the counter that the others are all above
    have hbefore := (h.new n hn).2
    have hafter := (h'.new n' hn').1
    omega
  new := by
    intro n hn
    have hle := h.le
    have hle' := h'.le
    rcases List.mem_append.1 hn with hn | hn
    · have hn := h.new n hn
      omega
    · have hn := h'.new n hn
      omega
  used := by
    intro n hn
    rcases h'.used n hn with hn | hn
    · exact (h.used n hn).imp_right (List.mem_append_left _)
    · exact .inr (List.mem_append_right _ hn)

end Hands

/-! Statements and programs. -/

theorem hands_schedule (e : Engine) {id : ContextId} {c : Context}
    (hc : e.currentContext? = some (id, c)) (task : PendingTask) :
    Hands e
      { e with
        issued := e.issued + 1
        contexts := e.contexts.insert id { c with tasks := c.tasks.insert ⟨e.issued + 1⟩ task } }
      [e.issued + 1] := by
  refine .one rfl fun n hn => ?_
  have htrade := count_ids_insert (get?_of_currentContext? hc)
    { c with tasks := c.tasks.insert ⟨e.issued + 1⟩ task } (e.issued + 1) n
  have hmore := count_keys_insert_le c.tasks (e.issued + 1) n task
  have hpos := List.count_pos_iff.2 hn
  dsimp only at htrade
  by_cases heq : n = e.issued + 1
  · exact .inr heq
  · have hnone : [e.issued + 1].count n = 0 :=
      List.count_eq_zero.2 fun h => heq (List.mem_singleton.1 h)
    exact .inl (List.count_pos_iff.1 (by omega))

theorem hands_execution (x : Executed) :
    Hands x.engine x.execution.engine (handedOutBy [x]) := by
  obtain ⟨e, line, s⟩ := x
  cases s with
  | act column action => cases action <;> exact .none rfl fun _ hn => hn
  | defer column inner =>
    show Hands e (e.schedule line inner).engine _
    cases hc : e.currentContext? with
    | none =>
      have hnone : Executed.scheduled? ⟨e, line, .defer column inner⟩ = none := by
        rw [Executed.scheduled?, hc, Option.map_none]
      -- the number is spent, but nothing carries it
      have hspent : Hands e { e with issued := e.issued + 1 } [] :=
        ⟨Nat.le_succ _, .nil, fun _ hn => (List.not_mem_nil hn).elim, fun _ hn => .inl hn⟩
      simpa [schedule, handedOutBy, hnone, hc] using hspent
    | some entry =>
      obtain ⟨id, c⟩ := entry
      have hsome : Executed.scheduled? ⟨e, line, .defer column inner⟩ = some ⟨e.issued + 1⟩ := by
        rw [Executed.scheduled?, hc, Option.map_some]
      simpa [schedule, handedOutBy, hsome, hc] using hands_schedule e hc ⟨line, inner⟩

theorem hands_executeAll (e : Engine) (p : Program) :
    Hands e (e.executeAll p).engine (handedOutBy (e.statementsAll p)) := by
  induction p generalizing e with
  | nil => exact .refl e
  | cons i rest ih =>
    have hfirst : Hands e (e.execute i.line i.statement).engine
        (handedOutBy [⟨e, i.line, i.statement⟩]) := hands_execution ⟨e, i.line, i.statement⟩
    by_cases hok : (e.execute i.line i.statement).ending = .ok ()
    · obtain ⟨-, hengine, hstatements⟩ := executeAll_of_ok hok rest
      rw [hengine, hstatements, ← List.singleton_append, handedOutBy, List.filterMap_append]
      exact hfirst.trans (ih _)
    · obtain ⟨hexecute, hstatements⟩ := executeAll_of_not_ok hok rest
      rw [hexecute, hstatements]
      exact hfirst

theorem Performs.hands {e : Engine} {begun : List JournalEntry} {x : Execution}
    {ss : List Executed} (h : Performs e begun x ss) :
    Hands e x.engine (handedOutBy ss) := by
  cases h with
  | refused houtput hissued hids => exact .none hissued fun n hn => by rwa [hids] at hn
  | executed p hprepared =>
    exact (Hands.none hprepared.issued hprepared.ids).trans (hands_executeAll _ p)

/-! Calls. -/

theorem hands_withRuntime (e : Engine) (a : Attributes) :
    Hands e (e.withRuntime a) [e.issued + 1] := by
  refine .one rfl fun n hn => ?_
  rcases List.mem_append.1 hn with hn | hn
  · obtain ⟨r, hr, rfl⟩ := List.mem_map.1 hn
    obtain ⟨b, hb⟩ := Table.mem_keys_iff.1 hr
    rcases Table.mem_entries_insert hb with heq | hb
    · cases heq
      exact .inr rfl
    · exact .inl (List.mem_append_left _ (List.mem_map_of_mem (Table.mem_keys_iff.2 ⟨b, hb⟩)))
  · exact .inl (List.mem_append_right _ hn)

theorem hands_withContext (e : Engine) (r : RuntimeId) :
    Hands e (e.withContext r) [e.issued + 1] := by
  refine .one rfl fun n hn => ?_
  rcases List.mem_append.1 hn with hn | hn
  · exact .inl (List.mem_append_left _ hn)
  · obtain ⟨entry, hentry, hn⟩ := List.mem_flatMap.1 hn
    rcases Table.mem_entries_insert hentry with rfl | hentry
    · exact .inr (List.mem_singleton.1 hn)
    · exact .inl (List.mem_append_right _ (List.mem_flatMap.2 ⟨entry, hentry, hn⟩))

theorem hands_withoutRuntime (e : Engine) (r : RuntimeId) : Hands e (e.withoutRuntime r) [] := by
  refine .none rfl fun n hn => ?_
  rcases List.mem_append.1 hn with hn | hn
  · exact List.mem_append_left _
      (((Table.keys_erase_sublist e.runtimes r).map (·.value)).subset hn)
  · exact List.mem_append_right _
      ((List.filter_sublist.flatMap contextIds).subset hn)

theorem hands_withHook {e : Engine} {id : ContextId} {c : Context}
    (hc : e.currentContext? = some (id, c)) (hook : Option Hook) :
    Hands e { e with contexts := e.contexts.insert id { c with hook := hook } } [] := by
  refine .none rfl fun n hn => ?_
  have htrade := count_ids_insert (get?_of_currentContext? hc) { c with hook := hook } e.issued n
  exact List.count_pos_iff.1 (Nat.add_right_cancel htrade ▸ List.count_pos_iff.2 hn)

theorem handedOut_of_refused {e : Engine} {call : EngineCall} {code : ErrorCode}
    (hcall : ¬ call.Executes) (hcode : e.error? call = some code) : e.handedOut call = [] := by
  cases call with
  | createRuntime a =>
    rw [handedOut]
    rw [error?] at hcode
    cases hresult : (e.createRuntime a).1 with
    | error code' => rw [← Prod.eta (e.createRuntime a), hresult]
    | ok r => rw [hresult] at hcode; cases hcode
  | createContext r =>
    rw [handedOut]
    rw [error?] at hcode
    cases hresult : (e.createContext r).1 with
    | error code' => rw [← Prod.eta (e.createContext r), hresult]
    | ok id => rw [hresult] at hcode; cases hcode
  | runScript => exact absurd trivial hcall
  | runSerialized => exact absurd trivial hcall
  | callTask => exact absurd trivial hcall
  | _ => rfl

/-- Every call hands out what it says it does, however it ends. -/
theorem Hands.after (e : Engine) (call : EngineCall) :
    Hands e (e.after call) (e.handedOut call) := by
  have hdoes := e.does call
  generalize e.after call = e' at hdoes ⊢
  cases hdoes with
  | refused hcall hcode x =>
    rw [handedOut_of_refused hcall hcode]
    exact .none rfl fun _ hn => hn
  | createRuntime hcall =>
    rw [handedOut, hcall]
    exact hands_withRuntime e _
  | disposeRuntime => exact hands_withoutRuntime e _
  | createContext _ hcall =>
    rw [handedOut, hcall]
    exact hands_withContext e _
  | getCurrentContext | serializedSize | serializeInto => exact .refl e
  | setCurrentContext => exact .none rfl fun _ hn => hn
  | runScript => exact (performs_runScript e _ _).hands
  | runSerialized => exact (performs_runSerialized e _ _).hands
  | setHook hook hc => exact hands_withHook hc hook
  | callTask => exact (performs_callTask e _).hands
  | takeException | injectFailure | setSizes => exact .none rfl fun _ hn => hn

theorem Hands.afterAll (e : Engine) (calls : List EngineCall) :
    Hands e (e.afterAll calls) (e.handedOutAll calls) := by
  induction calls generalizing e with
  | nil => exact .refl e
  | cons call rest ih => exact (Hands.after e call).trans (ih _)

/-- After any calls on a new engine, in any order and however each of them ended: every context
    belongs to a live runtime, and so does the current one, which is one of them; the numbers
    of runtimes, contexts and pending tasks are distinct, positive and at most the counter; no
    number was handed out twice, and what is in use was handed out. -/
theorem numbers_of_calls (calls : List EngineCall) :
    (∀ entry ∈ (initial.afterAll calls).contexts.entries,
      entry.2.runtime ∈ (initial.afterAll calls).runtimes.keys) ∧
    (∀ id, (initial.afterAll calls).current = some id →
      ∃ c, (initial.afterAll calls).contexts.get? id = some c ∧
        c.runtime ∈ (initial.afterAll calls).runtimes.keys) ∧
    (initial.afterAll calls).ids.Nodup ∧
    (∀ n ∈ (initial.afterAll calls).ids, 0 < n ∧ n ≤ (initial.afterAll calls).issued) ∧
    (initial.handedOutAll calls).Pairwise (· < ·) ∧
    (∀ n ∈ initial.handedOutAll calls, 0 < n ∧ n ≤ (initial.afterAll calls).issued) ∧
    ∀ n ∈ (initial.afterAll calls).ids, n ∈ initial.handedOutAll calls := by
  have hwell := wellFormed_of_reachable (reachable_iff_exists_calls.2 ⟨calls, rfl⟩)
  have hhands := Hands.afterAll initial calls
  refine ⟨hwell.owned, fun id hid => ?_, hwell.distinct, hwell.numbered, hhands.increasing,
    hhands.new, fun n hn => ?_⟩
  · obtain ⟨c, hc⟩ := mem_contexts_keys_iff.1 (hwell.current id hid)
    exact ⟨c, hc, hwell.owned _ (Table.mem_entries_of_get? hc)⟩
  · rcases hhands.used n hn with hn | hn
    · cases hn
    · exact hn

/-- The numbers of a disposed runtime, of its context and of a task called there are not handed
    out again. -/
example :
    initial.handedOutAll
      [.createRuntime .none, .createContext ⟨1⟩, .setCurrentContext (some ⟨2⟩),
        .runScript "defer fault 0x7" ⟨0⟩, .callTask ⟨3⟩, .setCurrentContext none,
        .disposeRuntime ⟨1⟩, .createRuntime .none] = [1, 2, 3, 4] := by
  decide +kernel

end ScriptHost.Engine
