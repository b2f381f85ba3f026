import Mathlib.Logic.Relation
import ScriptHost.Engine.Execution
import ScriptHost.Engine.Lifetime
import ScriptHost.Engine.Reserve
import ScriptHost.Proofs.Table

/- What a call can do to an engine short of creating or disposing a runtime, creating
   a context or changing which context is current. Every such call comes down to a
   few effects, each on one thing: a line of output, the pending exception, the
   journal, the counter, or the record of the current context. What holds of each
   effect then holds of every call by one induction over its effects.

   What is proved: each executing call, the serializer and the hook have only such
   effects (`effects_runScript` and its neighbours); and effects leave alone the
   runtimes, the current context, the injected failures, and the contexts of every
   runtime but the current one's (`Effects.setting`, `Effects.contexts`). -/
namespace ScriptHost

/-- An entry that marks the start of a run. -/
def JournalEntry.IsRun : JournalEntry → Prop
  | .runScript _ => True
  | .runSerializedScript _ => True
  | _ => False

namespace Engine

/-- One thing done to an engine within its current context. -/
inductive Effect : Engine → Engine → Prop where
  | print {e : Engine} (line : String) : Effect e { e with output := e.output ++ [line] }
  | pend {e : Engine} (x : Option ScriptException) : Effect e { e with exception := x }
  | begin {e : Engine} {entry : JournalEntry} (h : entry.IsRun) : Effect e (e.record entry)
  | spend {e : Engine} : Effect e { e with issued := e.issued + 1 }
  | schedule {e : Engine} {id : ContextId} {c : Context} (task : PendingTask)
      (h : e.currentContext? = some (id, c)) : Effect e { e with
        issued := e.issued + 1
        contexts := e.contexts.insert id
          { c with tasks := c.tasks.insert ⟨e.issued + 1⟩ task } }
  | consume {e : Engine} {id : ContextId} {c : Context} (task : TaskId)
      (h : e.currentContext? = some (id, c)) : Effect e { e with
        contexts := e.contexts.insert id { c with tasks := c.tasks.erase task } }
  | hook {e : Engine} {id : ContextId} {c : Context} (hook : Option Hook)
      (h : e.currentContext? = some (id, c)) : Effect e { e with
        contexts := e.contexts.insert id { c with hook := hook } }

/-- Any number of effects, one after another. -/
abbrev Effects : Engine → Engine → Prop := Relation.ReflTransGen Effect

/-! The calls that have only effects. -/

theorem effects_schedule (e : Engine) (line : UInt32) (s : Statement) :
    Effects e (e.schedule line s).engine := by
  unfold schedule
  split
  · exact .single .spend
  · rename_i id c hc
    exact .single (.schedule _ hc)

theorem effects_execute (e : Engine) (line : UInt32) (s : Statement) :
    Effects e (e.execute line s).engine := by
  cases s with
  | act column action =>
    cases action with
    | print text => exact .single (.print text)
    | throw message => exact .single (.pend _)
    | fault code => exact .refl
  | defer column inner => exact effects_schedule e line inner

theorem effects_andThen {e : Engine} {x : Execution} {next : Engine → Execution}
    (hx : Effects e x.engine) (hnext : Effects x.engine (next x.engine).engine) :
    Effects e (x.andThen next).engine := by
  unfold Execution.andThen
  split
  · exact hx.trans hnext
  · exact hx
  · exact hx

theorem effects_executeAll (e : Engine) (p : Program) : Effects e (e.executeAll p).engine := by
  induction p generalizing e with
  | nil => exact .refl
  | cons i rest ih => exact effects_andThen (effects_execute e i.line i.statement) (ih _)

theorem effects_executeProgram (e : Engine) (p : Program) :
    Effects e (e.executeProgram p).engine := by
  unfold executeProgram
  split
  · exact .refl
  · exact effects_executeAll e p

theorem effects_compile (e : Engine) (source : String) : Effects e (e.compile source).2 := by
  unfold compile
  split
  · exact .refl
  · exact .single (.pend _)

theorem effects_serializedSize (e : Engine) (source : String) :
    Effects e (e.serializedSize source).2 := by
  have h := effects_compile e source
  unfold serializedSize whenCurrent
  split
  · exact .refl
  split
  · exact .refl
  split <;> simp_all

theorem effects_serializeInto (e : Engine) (source : String) (buffer : List UInt8) :
    Effects e (e.serializeInto source buffer).2.2 := by
  have h := effects_compile e source
  unfold serializeInto whenCurrent
  split
  · exact .refl
  split
  · exact .refl
  split
  · simp_all
  · dsimp only
    split <;> simp_all

theorem effects_runScript (e : Engine) (source : String) (tag : SourceContext) :
    Effects e (e.runScript source tag).engine := by
  have hbegin : Effects e (e.record (.runScript tag)) := .single (.begin trivial)
  have hcompile := hbegin.trans (effects_compile (e.record (.runScript tag)) source)
  unfold runScript whenCurrent
  split
  · exact .refl
  split
  · exact .refl
  split
  · rename_i code e' he
    rwa [he] at hcompile
  · rename_i p e' he
    rw [he] at hcompile
    exact hcompile.trans (effects_executeProgram e' p)

theorem effects_runSerialized (e : Engine) (bytecode : List UInt8) (tag : SourceContext) :
    Effects e (e.runSerialized bytecode tag).engine := by
  have hbegin : Effects e (e.record (.runSerializedScript tag)) := .single (.begin trivial)
  unfold runSerialized whenCurrent
  split
  · exact .refl
  split
  · exact .refl
  dsimp only
  split
  · exact hbegin
  · exact hbegin.trans (effects_executeProgram _ _)

theorem effects_callTask (e : Engine) (task : TaskId) : Effects e (e.callTask task).engine := by
  unfold callTask
  split
  · exact .refl
  split
  · exact .refl
  split
  · exact .refl
  rename_i id c hc
  split
  · exact .refl
  exact .trans (.single (.consume task hc)) (effects_execute _ _ _)

theorem effects_setHook (e : Engine) (hook : Option Hook) : Effects e (e.setHook hook).2 := by
  unfold setHook unlessInjected
  split
  · exact .refl
  split
  · exact .refl
  · rename_i id c hc
    exact .single (.hook hook hc)

theorem effects_takeException (e : Engine) : Effects e e.takeException.2 :=
  .single (.pend none)

/-! What effects leave alone. -/

theorem current_of_currentContext? {e : Engine} {id : ContextId} {c : Context}
    (h : e.currentContext? = some (id, c)) : e.current = some id := by
  unfold currentContext? at h
  split at h
  · cases h
  · rename_i id' hid
    obtain ⟨c', -, heq⟩ := Option.map_eq_some_iff.1 h
    cases heq
    exact hid

theorem currentContext?_insert {e : Engine} {id : ContextId} {c : Context}
    (h : e.currentContext? = some (id, c)) (c' : Context) (n : Nat) :
    { e with issued := n, contexts := e.contexts.insert id c' }.currentContext? =
      some (id, c') := by
  unfold currentContext? at h ⊢
  dsimp only
  split at h
  · cases h
  · obtain ⟨c'', -, heq⟩ := Option.map_eq_some_iff.1 h
    cases heq
    rw [Table.get?_insert_self]
    rfl

/-- Two engines with the same runtimes, current context, injected failures and size reports. -/
structure SameSetting (e e' : Engine) : Prop where
  runtimes : e'.runtimes = e.runtimes
  current : e'.current = e.current
  injected : e'.injected = e.injected
  sizes : e'.sizes = e.sizes

theorem Effect.setting {e e' : Engine} (h : Effect e e') : SameSetting e e' := by
  cases h <;> exact ⟨rfl, rfl, rfl, rfl⟩

theorem Effects.setting {e e' : Engine} (h : Effects e e') : SameSetting e e' := by
  induction h with
  | refl => exact ⟨rfl, rfl, rfl, rfl⟩
  | tail _ hstep ih =>
    have hs := hstep.setting
    exact ⟨hs.runtimes.trans ih.runtimes, hs.current.trans ih.current,
      hs.injected.trans ih.injected, hs.sizes.trans ih.sizes⟩

/-- The contexts that do not belong to a runtime. -/
def contextsOutside (e : Engine) (r : RuntimeId) : Table ContextId Context :=
  e.contexts.filter fun _ c => c.runtime ≠ r

/-- An effect keeps the current context in its runtime and leaves other runtimes' contexts alone. -/
theorem Effect.contexts {e e' : Engine} (h : Effect e e') {id : ContextId} {c : Context}
    (hc : e.currentContext? = some (id, c)) :
    e'.contextsOutside c.runtime = e.contextsOutside c.runtime ∧
      ∃ c', e'.currentContext? = some (id, c') ∧ c'.runtime = c.runtime := by
  -- the effects on the record of the current context all keep its runtime
  have record : ∀ (n : Nat) (c' : Context), c'.runtime = c.runtime →
      { e with issued := n, contexts := e.contexts.insert id c' }.contextsOutside c.runtime =
          e.contextsOutside c.runtime ∧
        ∃ d, { e with issued := n, contexts := e.contexts.insert id c' }.currentContext? =
          some (id, d) ∧ d.runtime = c.runtime := by
    intro n c' hr
    refine ⟨?_, c', currentContext?_insert hc c' n, hr⟩
    exact Table.filter_insert_of_get? (get?_of_currentContext? hc) (by simp) (by simp [hr])
  cases h with
  | print => exact ⟨rfl, c, hc, rfl⟩
  | pend => exact ⟨rfl, c, hc, rfl⟩
  | begin => exact ⟨rfl, c, hc, rfl⟩
  | spend => exact ⟨rfl, c, hc, rfl⟩
  | schedule task h =>
    obtain ⟨rfl, rfl⟩ := Prod.mk.inj (Option.some.inj (h.symm.trans hc))
    exact record _ _ rfl
  | consume task h =>
    obtain ⟨rfl, rfl⟩ := Prod.mk.inj (Option.some.inj (h.symm.trans hc))
    exact record e.issued _ rfl
  | hook hook h =>
    obtain ⟨rfl, rfl⟩ := Prod.mk.inj (Option.some.inj (h.symm.trans hc))
    exact record e.issued _ rfl

theorem Effects.contexts {e e' : Engine} (h : Effects e e') {id : ContextId} {c : Context}
    (hc : e.currentContext? = some (id, c)) :
    e'.contextsOutside c.runtime = e.contextsOutside c.runtime ∧
      ∃ c', e'.currentContext? = some (id, c') ∧ c'.runtime = c.runtime := by
  induction h with
  | refl => exact ⟨rfl, c, hc, rfl⟩
  | tail _ hstep ih =>
    obtain ⟨hsame, c', hc', hr⟩ := ih
    obtain ⟨hsame', c'', hc'', hr'⟩ := hstep.contexts hc'
    rw [hr] at hsame' hr'
    exact ⟨hsame'.trans hsame, c'', hc'', hr'⟩

end Engine
end ScriptHost
