import ScriptHost.Proofs.Engine.Pending
import ScriptHost.Proofs.Engine.Reachable

/- A runtime opened over an engine. From its creation on, the engine is the one there
   was before, its base, with one runtime and that runtime's contexts on top: taking
   the runtime off again gives the tables of the base. What happens inside the
   entered context touches nothing under it, so the order is always the same:
   created, entered, left, disposed.

   What is proved: `Created` and `Entered` say how the engine stands over its base
   before and after the context is entered; each call of the order leads from one to
   the next, and the last one to `Restored`, where nothing is left on the base. -/
namespace ScriptHost.Engine

/-- What a run has to give back: the tables and the current context of its base, and no
    exception that was not pending there. -/
structure Restored (base e : Engine) : Prop where
  runtimes : e.runtimes = base.runtimes
  contexts : e.contexts = base.contexts
  current : e.current = base.current
  injected : e.injected = base.injected
  quiet : base.exception = none → e.exception = none
  wellFormed : e.WellFormed

/-- A runtime over a base: without it and its contexts, the tables are those of the base. -/
structure Over (base : Engine) (r : RuntimeId) (e : Engine) : Prop where
  live : r ∈ e.runtimes.keys
  runtimes : e.runtimes.erase r = base.runtimes
  contexts : e.contextsOutside r = base.contexts
  injected : e.injected = base.injected
  quiet : base.exception = none → e.exception = none
  wellFormed : e.WellFormed

/-- A runtime over a base, with none of its contexts entered. -/
structure Created (base : Engine) (r : RuntimeId) (e : Engine) : Prop extends Over base r e where
  current : e.current = base.current

def HasContext (e : Engine) (r : RuntimeId) (id : ContextId) : Prop :=
  ∃ c, e.contexts.get? id = some c ∧ c.runtime = r

/-- A runtime over a base, with one of its contexts entered. -/
structure Entered (base : Engine) (r : RuntimeId) (id : ContextId) (e : Engine) : Prop
    extends Over base r e where
  current : e.current = some id
  inside : e.HasContext r id
  free : e.injected .setCurrentContext = none

/-! The base itself. -/

theorem Restored.refl {base : Engine} (h : base.WellFormed) : Restored base base :=
  ⟨rfl, rfl, rfl, rfl, id, h⟩

theorem handled_eq (e : Engine) (error : Option ErrorCode) :
    ∃ x, e.handled error = { e with exception := x } ∧ (e.exception = none → x = none) := by
  unfold Engine.handled
  split
  · split
    · exact ⟨none, rfl, fun _ => rfl⟩
    · exact ⟨e.exception, rfl, id⟩
  · exact ⟨e.exception, rfl, id⟩

theorem WellFormed.pending {e : Engine} (h : e.WellFormed) (x : Option ScriptException) :
    { e with exception := x }.WellFormed :=
  (Effect.pend x).wellFormed h

theorem Restored.handled {base e : Engine} (h : Restored base e) (error : Option ErrorCode) :
    Restored base (e.handled error) := by
  obtain ⟨x, heq, hx⟩ := handled_eq e error
  rw [heq]
  exact ⟨h.runtimes, h.contexts, h.current, h.injected, hx ∘ h.quiet, h.wellFormed.pending x⟩

theorem Created.handled {base e : Engine} {r : RuntimeId} (h : Created base r e)
    (error : Option ErrorCode) : Created base r (e.handled error) := by
  obtain ⟨x, heq, hx⟩ := handled_eq e error
  rw [heq]
  exact ⟨⟨h.live, h.runtimes, h.contexts, h.injected, hx ∘ h.quiet, h.wellFormed.pending x⟩,
    h.current⟩

/-! The runtime comes and goes. -/

theorem Restored.withRuntime {base e : Engine} (h : Restored base e) (a : Attributes) :
    Created base ⟨e.issued + 1⟩ (e.withRuntime a) where
  live := by
    rw [← Table.has_iff, Table.has, Engine.withRuntime, Table.get?_insert_self]
    rfl
  runtimes := by
    rw [Engine.withRuntime, Table.erase_insert_of_not_mem a
      (h.wellFormed.not_mem_runtimes (Nat.lt_succ_self _))]
    exact h.runtimes
  contexts := by
    -- no context belongs to a runtime that is only now created
    rw [← h.contexts]
    refine Table.filter_eq_self fun entry hentry => ?_
    have hne : entry.2.runtime ≠ ⟨e.issued + 1⟩ := fun heq =>
      h.wellFormed.not_mem_runtimes (Nat.lt_succ_self e.issued)
        (heq ▸ h.wellFormed.owned entry hentry)
    simpa using hne
  injected := h.injected
  quiet := h.quiet
  wellFormed := h.wellFormed.withRuntime a
  current := h.current

/-- A context whose record is kept when a runtime goes belongs to another runtime. -/
theorem Over.not_current {base e : Engine} {r : RuntimeId} (h : Over base r e)
    (hbase : base.WellFormed) (hcurrent : e.current = base.current) :
    e.currentIsOf r = false := by
  unfold currentIsOf currentContext?
  cases hid : e.current with
  | none => rfl
  | some id =>
    -- the context is one of the base's, and those are the ones of other runtimes
    have hmem := hbase.current id (hcurrent.symm.trans hid)
    rw [← h.contexts] at hmem
    obtain ⟨c, hc⟩ := Table.mem_keys_iff.1 hmem
    obtain ⟨hentry, hne⟩ := mem_contextsOutside_iff.1 hc
    simp [Table.get?_of_mem_entries h.wellFormed.nodup_contexts hentry, hne]

theorem Created.withoutRuntime {base e : Engine} {r : RuntimeId} (h : Created base r e)
    (hbase : base.WellFormed) : Restored base (e.withoutRuntime r) where
  runtimes := h.runtimes
  contexts := h.contexts
  current := h.current
  injected := h.injected
  quiet := h.quiet
  wellFormed := h.wellFormed.withoutRuntime (h.not_current hbase h.current)

/-- Unless told to fail, the engine disposes of a runtime that has no context entered. -/
theorem Created.disposeRuntime {base e : Engine} {r : RuntimeId} (h : Created base r e)
    (hbase : base.WellFormed) (hfree : base.injected .disposeRuntime = none) :
    e.disposeRuntime r = (.ok (), e.withoutRuntime r) :=
  disposeRuntime_of_free (by rw [h.injected]; exact hfree) h.live (h.not_current hbase h.current)

/-! The context comes, is entered and left. -/

theorem Created.withContext {base e : Engine} {r : RuntimeId} (h : Created base r e) :
    Created base r (e.withContext r) ∧ (e.withContext r).HasContext r ⟨e.issued + 1⟩ := by
  refine ⟨⟨⟨h.live, h.runtimes, ?_, h.injected, h.quiet, h.wellFormed.withContext h.live⟩,
    h.current⟩, _, Table.get?_insert_self _ _ _, rfl⟩
  rw [← h.contexts]
  exact Table.filter_insert_of_not_mem
    (h.wellFormed.not_mem_contexts (Nat.lt_succ_self e.issued)) (by simp)

theorem Created.withCurrent {base e : Engine} {r : RuntimeId} {id : ContextId}
    (h : Created base r e) (hid : e.HasContext r id)
    (hfree : e.injected .setCurrentContext = none) :
    Entered base r id (e.withCurrent (some id)) where
  live := h.live
  runtimes := h.runtimes
  contexts := h.contexts
  injected := h.injected
  quiet := h.quiet
  wellFormed := h.wellFormed.withCurrent fun id' heq => by
    cases heq
    obtain ⟨c, hc, -⟩ := hid
    exact mem_contexts_keys_iff.2 ⟨c, hc⟩
  current := rfl
  inside := hid
  free := hfree

theorem Entered.currentContext? {base e : Engine} {r : RuntimeId} {id : ContextId}
    (h : Entered base r id e) : ∃ c, e.currentContext? = some (id, c) ∧ c.runtime = r := by
  obtain ⟨c, hc, hr⟩ := h.inside
  exact ⟨c, by simp [Engine.currentContext?, h.current, hc], hr⟩

/-- What happens inside the context stays on top of the base. -/
theorem Entered.within {base e e' : Engine} {r : RuntimeId} {id : ContextId}
    (h : Entered base r id e) (hin : Inside e e') : Entered base r id e' := by
  obtain ⟨c, hc, rfl⟩ := h.currentContext?
  obtain ⟨hout, c', hc', hr⟩ := hin.effects.contexts hc
  have hset := hin.effects.setting
  exact {
    live := hset.runtimes ▸ h.live
    runtimes := by rw [hset.runtimes, h.runtimes]
    contexts := hout.trans h.contexts
    injected := hset.injected.trans h.injected
    quiet := hin.quiet ∘ h.quiet
    wellFormed := hin.effects.wellFormed h.wellFormed
    current := hset.current.trans h.current
    inside := ⟨c', get?_of_currentContext? hc', hr⟩
    free := by rw [hset.injected, h.free] }

/-- A run that gives back the engine it began with leaves the context entered. -/
theorem Entered.restored {base e e' : Engine} {r : RuntimeId} {id : ContextId}
    (h : Entered base r id e) (hrun : Restored e e') : Entered base r id e' where
  live := hrun.runtimes ▸ h.live
  runtimes := by rw [hrun.runtimes, h.runtimes]
  contexts := by rw [contextsOutside, hrun.contexts]; exact h.contexts
  injected := hrun.injected.trans h.injected
  quiet := hrun.quiet ∘ h.quiet
  wellFormed := hrun.wellFormed
  current := hrun.current.trans h.current
  inside := by rw [HasContext, hrun.contexts]; exact h.inside
  free := by rw [hrun.injected, h.free]

theorem Entered.leave {base e : Engine} {r : RuntimeId} {id : ContextId}
    (h : Entered base r id e) (hbase : base.WellFormed) :
    e.setCurrentContext base.current = (.ok (), e.withCurrent base.current) ∧
      Created base r (e.withCurrent base.current) := by
  have hmem : ∀ id', base.current = some id' → id' ∈ e.contexts.keys := fun id' hid => by
    have hkey := hbase.current id' hid
    rw [← h.contexts] at hkey
    exact (Table.keys_filter_sublist _ _).subset hkey
  exact ⟨setCurrentContext_of_free h.free hmem,
    ⟨h.live, h.runtimes, h.contexts, h.injected, h.quiet, h.wellFormed.withCurrent hmem⟩, rfl⟩

/-! All of it at once. -/

/-- The engine with a new runtime, and a new context of it entered. -/
def opened (e : Engine) (a : Attributes) : Engine :=
  ((e.withRuntime a).withContext ⟨e.issued + 1⟩).withCurrent (some ⟨e.issued + 2⟩)

/-- The entered context is new: no hook is installed and no task is pending in it. -/
theorem currentContext?_opened (e : Engine) (a : Attributes) :
    (e.opened a).currentContext? = some (⟨e.issued + 2⟩, { runtime := ⟨e.issued + 1⟩ }) := by
  show (((e.contexts.insert ⟨e.issued + 2⟩ { runtime := ⟨e.issued + 1⟩ }).get?
    ⟨e.issued + 2⟩).map fun c => ((⟨e.issued + 2⟩ : ContextId), c)) = _
  rw [Table.get?_insert_self]
  rfl

theorem entered_opened {e : Engine} (h : e.WellFormed)
    (hfree : e.injected .setCurrentContext = none) (a : Attributes) :
    Entered e ⟨e.issued + 1⟩ ⟨e.issued + 2⟩ (e.opened a) := by
  obtain ⟨hcreated, hcontext⟩ := ((Restored.refl h).withRuntime a).withContext
  exact hcreated.withCurrent hcontext hfree

end ScriptHost.Engine
