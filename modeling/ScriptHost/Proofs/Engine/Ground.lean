import ScriptHost.Proofs.Engine.Reachable

/- An engine on ground. What was done to an engine before leaves runtimes, contexts and
   tasks in it and a counter that has gone on; what is done to it from then on could as
   well be done to a new engine, but for the numbers. `atop` puts an engine on such
   ground: its numbers are carried past those handed out there, what it holds comes
   after what the ground holds, and where it has no current context it has the one of
   the ground.

   Each call commutes with this. Calls that create, enter, leave and dispose do so
   because a number that is carried over is never one of the ground; calls that act in
   the current context do so when that context is not the ground's.

   What is proved: one equation for each call, `createRuntime_atop` and its neighbours. -/
namespace ScriptHost

/-- What an engine is put on: an engine, and how many hooks and source contexts were handed out. -/
structure Ground where
  engine : Engine
  hooks : Nat
  sourceContexts : Nat

namespace Ground

variable (G : Ground)

/-- A number past those handed out on the ground; zero, which is never handed out, stays. -/
def number (n : Nat) : Nat := if n = 0 then 0 else n + G.engine.issued

def runtime (r : RuntimeId) : RuntimeId := ⟨G.number r.value⟩

def context (id : ContextId) : ContextId := ⟨G.number id.value⟩

def task (t : TaskId) : TaskId := ⟨G.number t.value⟩

def hook (k : Hook) : Hook := ⟨G.hooks + k.value⟩

def source (tag : SourceContext) : SourceContext := ⟨G.sourceContexts + tag.value⟩

/-- The current context: that of the ground where there is no other. -/
def entered : Option ContextId → Option ContextId
  | none => G.engine.current
  | some id => some (G.context id)

def record (c : Context) : Context where
  runtime := G.runtime c.runtime
  hook := c.hook.map G.hook
  tasks := Table.empty.atop c.tasks G.task id

def signal (s : Signal) : Signal := ⟨G.hook s.hook, G.task s.task⟩

def entry : JournalEntry → JournalEntry
  | .createRuntime r attributes => .createRuntime (G.runtime r) attributes
  | .disposeRuntime r => .disposeRuntime (G.runtime r)
  | .createContext id => .createContext (G.context id)
  | .setCurrentContext context => .setCurrentContext (G.entered context)
  | .runScript tag => .runScript (G.source tag)
  | .runSerializedScript tag => .runSerializedScript (G.source tag)

end Ground

def Engine.atop (e : Engine) (G : Ground) : Engine where
  issued := e.issued + G.engine.issued
  runtimes := G.engine.runtimes.atop e.runtimes G.runtime id
  contexts := G.engine.contexts.atop e.contexts G.context G.record
  current := G.entered e.current
  exception := e.exception
  journal := G.engine.journal ++ e.journal.map G.entry
  output := G.engine.output ++ e.output
  injected := e.injected
  sizes := e.sizes

def Execution.atop (x : Execution) (G : Ground) : Execution :=
  ⟨x.ending, x.engine.atop G, x.signals.map G.signal⟩

namespace Ground

/-! Numbers. -/

theorem number_injective (G : Ground) : Function.Injective G.number := by
  intro n n' h
  unfold number at h
  split at h <;> split at h <;> omega

theorem runtime_injective (G : Ground) : Function.Injective G.runtime := by
  intro r r' h
  cases r
  cases r'
  exact congrArg RuntimeId.mk (G.number_injective (RuntimeId.mk.inj h))

theorem context_injective (G : Ground) : Function.Injective G.context := by
  intro id id' h
  cases id
  cases id'
  exact congrArg ContextId.mk (G.number_injective (ContextId.mk.inj h))

theorem task_injective (G : Ground) : Function.Injective G.task := by
  intro t t' h
  cases t
  cases t'
  exact congrArg TaskId.mk (G.number_injective (TaskId.mk.inj h))

theorem hook_injective (G : Ground) : Function.Injective G.hook := by
  intro k k' h
  cases k
  cases k'
  exact congrArg Hook.mk (Nat.add_left_cancel (Hook.mk.inj h))

theorem number_succ (G : Ground) (n : Nat) : G.number (n + 1) = n + G.engine.issued + 1 := by
  rw [number, if_neg (Nat.succ_ne_zero n)]
  omega

theorem number_not_mem {G : Ground} (hG : G.engine.WellFormed) (n : Nat) :
    G.number n ∉ G.engine.ids := by
  intro hmem
  have hnumbered := hG.numbered _ hmem
  unfold number at hnumbered
  split at hnumbered <;> omega

theorem runtime_not_mem {G : Ground} (hG : G.engine.WellFormed) (r : RuntimeId) :
    G.runtime r ∉ G.engine.runtimes.keys := by
  intro hmem
  exact number_not_mem hG r.value (List.mem_append_left _ (List.mem_map_of_mem hmem))

theorem context_not_mem {G : Ground} (hG : G.engine.WellFormed) (id : ContextId) :
    G.context id ∉ G.engine.contexts.keys := by
  intro hmem
  obtain ⟨c, hc⟩ := Table.mem_keys_iff.1 hmem
  refine number_not_mem hG id.value (List.mem_append_right _ ?_)
  exact List.mem_flatMap.2 ⟨_, hc, List.mem_cons_self⟩

end Ground

namespace Engine

variable {G : Ground} {e : Engine}

theorem next_runtime (G : Ground) (e : Engine) :
    (⟨(e.atop G).issued + 1⟩ : RuntimeId) = G.runtime ⟨e.issued + 1⟩ :=
  congrArg RuntimeId.mk (G.number_succ e.issued).symm

theorem next_context (G : Ground) (e : Engine) :
    (⟨(e.atop G).issued + 1⟩ : ContextId) = G.context ⟨e.issued + 1⟩ :=
  congrArg ContextId.mk (G.number_succ e.issued).symm

theorem next_task (G : Ground) (e : Engine) :
    (⟨(e.atop G).issued + 1⟩ : TaskId) = G.task ⟨e.issued + 1⟩ :=
  congrArg TaskId.mk (G.number_succ e.issued).symm

theorem next_issued (G : Ground) (e : Engine) :
    (e.atop G).issued + 1 = e.issued + 1 + G.engine.issued :=
  Nat.add_right_comm _ _ _

theorem journal_append (G : Ground) (e : Engine) (entry : JournalEntry) :
    (e.atop G).journal ++ [G.entry entry] =
      G.engine.journal ++ (e.journal ++ [entry]).map G.entry := by
  rw [List.map_append, ← List.append_assoc]
  rfl

theorem unlessInjected_atop {α β : Type} (G : Ground) (e : Engine) (op : Operation) (g : β → α)
    {call : Except ErrorCode α × Engine} {call' : Except ErrorCode β × Engine}
    (h : call = (call'.1.map g, call'.2.atop G)) :
    (e.atop G).unlessInjected op call =
      ((e.unlessInjected op call').1.map g, (e.unlessInjected op call').2.atop G) := by
  have hinjected : (e.atop G).injected op = e.injected op := rfl
  unfold unlessInjected
  rw [hinjected]
  cases e.injected op with
  | some code => rfl
  | none => exact h

/-! Runtimes and contexts. -/

theorem withRuntime_atop (hG : G.engine.WellFormed) (e : Engine) (a : Attributes) :
    (e.atop G).withRuntime a = (e.withRuntime a).atop G := by
  have hruntimes : (e.atop G).runtimes.insert (G.runtime ⟨e.issued + 1⟩) a =
      G.engine.runtimes.atop (e.runtimes.insert ⟨e.issued + 1⟩ a) G.runtime id :=
    Table.insert_atop G.runtime_injective (Ground.runtime_not_mem hG _) a
  rw [withRuntime, next_runtime, next_issued, hruntimes]
  exact congrArg (fun journal => { (e.withRuntime a).atop G with journal := journal })
    (journal_append G e (.createRuntime ⟨e.issued + 1⟩ a))

theorem createRuntime_atop (hG : G.engine.WellFormed) (e : Engine) (a : Attributes) :
    (e.atop G).createRuntime a =
      ((e.createRuntime a).1.map G.runtime, (e.createRuntime a).2.atop G) := by
  apply unlessInjected_atop
  exact Prod.ext (congrArg Except.ok (next_runtime G e)) (withRuntime_atop hG e a)

theorem has_runtime_atop (hG : G.engine.WellFormed) (e : Engine) (r : RuntimeId) :
    (e.atop G).runtimes.has (G.runtime r) = e.runtimes.has r :=
  Table.has_atop G.runtime_injective (Ground.runtime_not_mem hG r)

theorem has_context_atop (hG : G.engine.WellFormed) (e : Engine) (id : ContextId) :
    (e.atop G).contexts.has (G.context id) = e.contexts.has id :=
  Table.has_atop G.context_injective (Ground.context_not_mem hG id)

theorem withContext_atop (hG : G.engine.WellFormed) (e : Engine) (r : RuntimeId) :
    (e.atop G).withContext (G.runtime r) = (e.withContext r).atop G := by
  have hcontexts : (e.atop G).contexts.insert (G.context ⟨e.issued + 1⟩)
      (G.record { runtime := r }) = G.engine.contexts.atop
        (e.contexts.insert ⟨e.issued + 1⟩ { runtime := r }) G.context G.record :=
    Table.insert_atop G.context_injective (Ground.context_not_mem hG _) _
  have hrecord : ({ runtime := G.runtime r } : Context) = G.record { runtime := r } := rfl
  rw [withContext, next_context, next_issued, hrecord, hcontexts]
  exact congrArg (fun journal => { (e.withContext r).atop G with journal := journal })
    (journal_append G e (.createContext ⟨e.issued + 1⟩))

theorem createContext_atop (hG : G.engine.WellFormed) (e : Engine) (r : RuntimeId) :
    (e.atop G).createContext (G.runtime r) =
      ((e.createContext r).1.map G.context, (e.createContext r).2.atop G) := by
  apply unlessInjected_atop
  rw [has_runtime_atop hG]
  cases e.runtimes.has r with
  | false => rfl
  | true => exact Prod.ext (congrArg Except.ok (next_context G e)) (withContext_atop hG e r)

theorem getCurrentContext_atop (G : Ground) (e : Engine) :
    (e.atop G).getCurrentContext =
      (e.getCurrentContext.1.map G.entered, e.getCurrentContext.2.atop G) := by
  apply unlessInjected_atop
  rfl

theorem withCurrent_atop (G : Ground) (e : Engine) (context : Option ContextId) :
    (e.atop G).withCurrent (G.entered context) = (e.withCurrent context).atop G :=
  congrArg (fun journal => { (e.withCurrent context).atop G with journal := journal })
    (journal_append G e (.setCurrentContext context))

/-- The context of the ground is there to go back to, and a context on top is there as it is
    without the ground. -/
theorem missing_atop (hG : G.engine.WellFormed) (e : Engine) (context : Option ContextId) :
    (G.entered context).any (fun id => !(e.atop G).contexts.has id) =
      context.any (fun id => !e.contexts.has id) := by
  cases context with
  | some id =>
    show (!(e.atop G).contexts.has (G.context id)) = !e.contexts.has id
    rw [has_context_atop hG]
  | none =>
    show G.engine.current.any _ = false
    cases hcurrent : G.engine.current with
    | none => rfl
    | some id =>
      obtain ⟨c, hc⟩ := Table.mem_keys_iff.1 (hG.current id hcurrent)
      have hkey : id ∈ (e.atop G).contexts.keys :=
        Table.mem_keys_iff.2 ⟨c, List.mem_append_left _ hc⟩
      show (!(e.atop G).contexts.has id) = false
      rw [Table.has_iff.2 hkey]
      rfl

theorem setCurrentContext_atop (hG : G.engine.WellFormed) (e : Engine)
    (context : Option ContextId) :
    (e.atop G).setCurrentContext (G.entered context) =
      ((e.setCurrentContext context).1.map id, (e.setCurrentContext context).2.atop G) := by
  apply unlessInjected_atop
  rw [missing_atop hG]
  cases context.any (fun id => !e.contexts.has id) with
  | true => rfl
  | false => exact Prod.ext rfl (withCurrent_atop G e context)

theorem currentContext?_atop (hG : G.engine.WellFormed) {e : Engine} (he : e.current.isSome) :
    (e.atop G).currentContext? =
      e.currentContext?.map fun entry => (G.context entry.1, G.record entry.2) := by
  obtain ⟨id, hid⟩ := Option.isSome_iff_exists.1 he
  have hcurrent : (e.atop G).current = some (G.context id) := by
    show G.entered e.current = _
    rw [hid]
    rfl
  have hget : (e.atop G).contexts.get? (G.context id) = (e.contexts.get? id).map G.record :=
    Table.get?_atop G.context_injective (Ground.context_not_mem hG id)
  unfold currentContext?
  rw [hcurrent, hid]
  dsimp only
  rw [hget, Option.map_map, Option.map_map]
  rfl

theorem currentIsOf_atop (hG : G.engine.WellFormed) (e : Engine) (r : RuntimeId) :
    (e.atop G).currentIsOf (G.runtime r) = e.currentIsOf r := by
  unfold currentIsOf
  cases hcurrent : e.current with
  | some id =>
    rw [currentContext?_atop hG (by rw [hcurrent]; rfl)]
    cases e.currentContext? with
    | none => rfl
    | some entry =>
      obtain ⟨id, c⟩ := entry
      show decide (G.runtime c.runtime = G.runtime r) = decide (c.runtime = r)
      simp [G.runtime_injective.eq_iff]
  | none =>
    -- the context of the ground belongs to a runtime of the ground
    have hground : (e.atop G).current = G.engine.current := by
      show G.entered e.current = _
      rw [hcurrent]
      rfl
    have hnone : e.currentContext? = none := by
      rw [currentContext?, hcurrent]
    rw [hnone]
    cases hc : (e.atop G).currentContext? with
    | none => rfl
    | some entry =>
      obtain ⟨id, c⟩ := entry
      have hid : G.engine.current = some id := by
        rw [← hground]
        exact current_of_currentContext? hc
      have hget : G.engine.contexts.get? id = some c := by
        rw [← get?_of_currentContext? hc]
        exact (Table.get?_atop_of_mem_keys (hG.current id hid)).symm
      have howned := hG.owned _ (Table.mem_entries_of_get? hget)
      have hne : c.runtime ≠ G.runtime r := by
        intro hsame
        rw [hsame] at howned
        exact Ground.runtime_not_mem hG r howned
      exact decide_eq_false hne

theorem withoutRuntime_atop (hG : G.engine.WellFormed) (e : Engine) (r : RuntimeId) :
    (e.atop G).withoutRuntime (G.runtime r) = (e.withoutRuntime r).atop G := by
  have hruntimes : (e.atop G).runtimes.erase (G.runtime r) =
      G.engine.runtimes.atop (e.runtimes.erase r) G.runtime id :=
    Table.erase_atop G.runtime_injective (Ground.runtime_not_mem hG r)
  have hcontexts : (e.atop G).contextsOutside (G.runtime r) =
      G.engine.contexts.atop (e.contextsOutside r) G.context G.record := by
    refine Table.filter_atop _ _ ?_ ?_
    · intro entry hentry
      have howned := hG.owned entry hentry
      have hne : entry.2.runtime ≠ G.runtime r := by
        intro hsame
        rw [hsame] at howned
        exact Ground.runtime_not_mem hG r howned
      simpa using hne
    · intro id c
      simp [Ground.record, G.runtime_injective.eq_iff]
  rw [withoutRuntime, hruntimes, hcontexts]
  exact congrArg (fun journal => { (e.withoutRuntime r).atop G with journal := journal })
    (journal_append G e (.disposeRuntime r))

theorem disposeRuntime_atop (hG : G.engine.WellFormed) (e : Engine) (r : RuntimeId) :
    (e.atop G).disposeRuntime (G.runtime r) =
      ((e.disposeRuntime r).1.map id, (e.disposeRuntime r).2.atop G) := by
  apply unlessInjected_atop
  rw [has_runtime_atop hG, currentIsOf_atop hG]
  cases e.runtimes.has r with
  | false => rfl
  | true =>
    cases e.currentIsOf r with
    | true => rfl
    | false => exact Prod.ext rfl (withoutRuntime_atop hG e r)

end Engine
end ScriptHost
