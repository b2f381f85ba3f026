import ScriptHost.Proofs.Engine.Opened

/- Acquisitions given back. Between two moments at which everything acquired in between
   was given back, an engine has kept its runtimes and its current context, and of
   contexts it has at most more: those made in runtimes that are still held. This
   composes, and it closes under each pair of calls that belong together: creating and
   disposing of a runtime, entering and leaving a context. The remembered context is
   there to go back to, because the contexts of a moment are there at every later one.

   What is proved: `Balanced.left` and `Balanced.disposed`, the two pairs, each with the
   fact that the call that gives back is not refused. -/
namespace ScriptHost.Engine

/-- The contexts, each with the runtime it belongs to, in the order of their creation. -/
def owned (e : Engine) : List (ContextId × RuntimeId) :=
  e.contexts.entries.map fun entry => (entry.1, entry.2.runtime)

/-- From one engine to another all that was acquired was given back, except for contexts
    made in the runtimes of `holders`. -/
structure Balanced (holders : List RuntimeId) (e e' : Engine) : Prop where
  runtimes : e'.runtimes = e.runtimes
  contexts : ∃ more, e'.owned = e.owned ++ more ∧ ∀ entry ∈ more, entry.2 ∈ holders
  current : e'.current = e.current
  injected : e'.injected = e.injected
  wellFormed : e'.WellFormed

/-! Contexts and their runtimes. -/

theorem keys_contexts (e : Engine) : e.contexts.keys = e.owned.map Prod.fst := by
  rw [owned, List.map_map]
  rfl

theorem mem_contexts_iff_owned {e : Engine} {id : ContextId} :
    id ∈ e.contexts.keys ↔ ∃ r, (id, r) ∈ e.owned := by
  simp [keys_contexts]

theorem WellFormed.nodup_owned {e : Engine} (h : e.WellFormed) :
    (e.owned.map Prod.fst).Nodup := by
  rw [← keys_contexts]
  exact h.nodup_contexts

theorem WellFormed.owner_unique {e : Engine} (h : e.WellFormed) {id : ContextId}
    {r r' : RuntimeId} (hr : (id, r) ∈ e.owned) (hr' : (id, r') ∈ e.owned) : r = r' :=
  congrArg Prod.snd (List.inj_on_of_nodup_map h.nodup_owned hr hr' rfl)

/-- Contexts belong to live runtimes. -/
theorem WellFormed.live_of_owned {e : Engine} (h : e.WellFormed) {id : ContextId}
    {r : RuntimeId} (hr : (id, r) ∈ e.owned) : r ∈ e.runtimes.keys := by
  obtain ⟨entry, hentry, heq⟩ := List.mem_map.1 hr
  cases heq
  exact h.owned entry hentry

theorem WellFormed.keys_withRuntime {e : Engine} (h : e.WellFormed) (a : Attributes) :
    (e.withRuntime a).runtimes.keys = e.runtimes.keys ++ [⟨e.issued + 1⟩] := by
  rw [Table.keys, Engine.withRuntime, Table.entries_insert_of_not_mem a
    (h.not_mem_runtimes (Nat.lt_succ_self _)), List.map_append]
  rfl

theorem WellFormed.currentIsOf_iff {e : Engine} (h : e.WellFormed) {r : RuntimeId} :
    e.currentIsOf r = true ↔ ∃ id, e.current = some id ∧ (id, r) ∈ e.owned := by
  unfold currentIsOf currentContext?
  cases hcurrent : e.current with
  | none => simp
  | some id =>
    obtain ⟨c, hc⟩ := mem_contexts_keys_iff.1 (h.current id hcurrent)
    have howned : (id, c.runtime) ∈ e.owned :=
      List.mem_map_of_mem (Table.mem_entries_of_get? hc)
    simp only [hc, Option.map_some, decide_eq_true_eq, Option.some.injEq, exists_eq_left']
    constructor
    · rintro rfl
      exact howned
    · exact h.owner_unique howned

theorem owned_withContext {e : Engine} (h : e.WellFormed) (r : RuntimeId) :
    (e.withContext r).owned = e.owned ++ [(⟨e.issued + 1⟩, r)] := by
  have hentries : (e.withContext r).contexts.entries =
      e.contexts.entries ++ [(⟨e.issued + 1⟩, { runtime := r })] :=
    Table.entries_insert_of_not_mem _ (h.not_mem_contexts (Nat.lt_succ_self _))
  rw [owned, hentries, List.map_append]
  rfl

theorem owned_withoutRuntime (e : Engine) (r : RuntimeId) :
    (e.withoutRuntime r).owned = e.owned.filter fun entry => entry.2 ≠ r := by
  rw [owned, owned, List.filter_map]
  rfl

/-- Effects leave each context where it is and in its runtime. -/
theorem Effect.owned {e e' : Engine} (h : Effect e e') : e'.owned = e.owned := by
  have record : ∀ (id : ContextId) (c c' : Context), e.currentContext? = some (id, c) →
      c'.runtime = c.runtime →
      (e.contexts.insert id c').entries.map (fun entry => (entry.1, entry.2.runtime)) =
        e.owned := by
    intro id c c' hc hr
    obtain ⟨before, after, hes, hnew⟩ :=
      Table.exists_split_of_get? (get?_of_currentContext? hc)
    rw [hnew, Engine.owned, hes]
    simp [hr]
  cases h with
  | print => rfl
  | pend => rfl
  | begin => rfl
  | spend => rfl
  | schedule task hc => exact record _ _ _ hc rfl
  | consume task hc => exact record _ _ _ hc rfl
  | hook hook hc => exact record _ _ _ hc rfl

theorem Effects.owned {e e' : Engine} (h : Effects e e') : e'.owned = e.owned := by
  induction h with
  | refl => rfl
  | tail _ hstep ih => exact hstep.owned.trans ih

namespace Balanced

variable {holders : List RuntimeId} {e e' e'' : Engine}

theorem refl (h : e.WellFormed) : Balanced holders e e where
  runtimes := rfl
  contexts := ⟨[], (List.append_nil _).symm, fun _ h => by cases h⟩
  current := rfl
  injected := rfl
  wellFormed := h

theorem trans (h : Balanced holders e e') (h' : Balanced holders e' e'') :
    Balanced holders e e'' where
  runtimes := h'.runtimes.trans h.runtimes
  contexts := by
    obtain ⟨more, hmore, hholders⟩ := h.contexts
    obtain ⟨more', hmore', hholders'⟩ := h'.contexts
    refine ⟨more ++ more', by rw [hmore', hmore, List.append_assoc], ?_⟩
    intro entry hentry
    rcases List.mem_append.1 hentry with hentry | hentry
    · exact hholders entry hentry
    · exact hholders' entry hentry
  current := h'.current.trans h.current
  injected := h'.injected.trans h.injected
  wellFormed := h'.wellFormed

theorem mono {more : List RuntimeId} (h : Balanced holders e e') (hsub : holders ⊆ more) :
    Balanced more e e' :=
  { h with
    contexts := by
      obtain ⟨made, hmade, hholders⟩ := h.contexts
      exact ⟨made, hmade, fun entry hentry => hsub (hholders entry hentry)⟩ }

theorem of_effects (hwell : e.WellFormed) (h : Effects e e') : Balanced holders e e' where
  runtimes := h.setting.runtimes
  contexts := ⟨[], by rw [h.owned, List.append_nil], fun _ h => by cases h⟩
  current := h.setting.current
  injected := h.setting.injected
  wellFormed := h.wellFormed hwell

theorem owned_subset (h : Balanced holders e e') : e.owned ⊆ e'.owned := by
  obtain ⟨more, hmore, -⟩ := h.contexts
  rw [hmore]
  exact List.subset_append_left _ _

theorem mem_contexts (h : Balanced holders e e') {id : ContextId} (hid : id ∈ e.contexts.keys) :
    id ∈ e'.contexts.keys := by
  obtain ⟨r, hr⟩ := mem_contexts_iff_owned.1 hid
  exact mem_contexts_iff_owned.2 ⟨r, h.owned_subset hr⟩

theorem keys_eq (h : Balanced [] e e') : e'.contexts.keys = e.contexts.keys := by
  obtain ⟨more, hmore, hholders⟩ := h.contexts
  have hnil : more = [] := List.eq_nil_iff_forall_not_mem.2 fun entry hentry =>
    List.not_mem_nil (hholders entry hentry)
  rw [keys_contexts, keys_contexts, hmore, hnil, List.append_nil]

theorem withContext (hwell : e.WellFormed) {r : RuntimeId} (hlive : r ∈ e.runtimes.keys)
    (hr : r ∈ holders) : Balanced holders e (e.withContext r) where
  runtimes := rfl
  contexts := ⟨[(⟨e.issued + 1⟩, r)], owned_withContext hwell r, fun entry hentry => by
    rw [List.mem_singleton.1 hentry]
    exact hr⟩
  current := rfl
  injected := rfl
  wellFormed := hwell.withContext hlive

/-- The context that was current before another was entered can be entered again. -/
theorem left {id : ContextId} (hwell : e.WellFormed)
    (hfree : e.injected .setCurrentContext = none)
    (h : Balanced holders (e.withCurrent (some id)) e') :
    e'.setCurrentContext e.current = (.ok (), e'.withCurrent e.current) ∧
      Balanced holders e (e'.withCurrent e.current) := by
  have hstays : ∀ id', e.current = some id' → id' ∈ e'.contexts.keys := by
    intro id' hid'
    exact h.mem_contexts (hwell.current id' hid')
  have hfree' : e'.injected .setCurrentContext = none := by
    rw [h.injected]
    exact hfree
  exact ⟨setCurrentContext_of_free hfree' hstays,
    h.runtimes, h.contexts, rfl, h.injected, h.wellFormed.withCurrent hstays⟩

/-- The runtime that was created can be disposed of, and takes its contexts with it. -/
theorem disposed {a : Attributes} (hwell : e.WellFormed)
    (hfree : e.injected .disposeRuntime = none)
    (h : Balanced (holders ++ [⟨e.issued + 1⟩]) (e.withRuntime a) e') :
    e'.disposeRuntime ⟨e.issued + 1⟩ = (.ok (), e'.withoutRuntime ⟨e.issued + 1⟩) ∧
      Balanced holders e (e'.withoutRuntime ⟨e.issued + 1⟩) := by
  have hnew : (⟨e.issued + 1⟩ : RuntimeId) ∉ e.runtimes.keys :=
    hwell.not_mem_runtimes (Nat.lt_succ_self _)
  have hlive : (⟨e.issued + 1⟩ : RuntimeId) ∈ e'.runtimes.keys := by
    rw [h.runtimes, hwell.keys_withRuntime]
    exact List.mem_append_right _ (List.mem_singleton_self _)
  -- the current context was there before the runtime was, so it belongs to another one
  have hcurrent : e'.currentIsOf ⟨e.issued + 1⟩ = false := by
    rw [← Bool.not_eq_true, h.wellFormed.currentIsOf_iff]
    rintro ⟨id, hid, hmine⟩
    obtain ⟨r, hr⟩ := mem_contexts_iff_owned.1 (hwell.current id (h.current.symm.trans hid))
    have hsame := h.wellFormed.owner_unique hmine (h.owned_subset hr)
    exact hnew (hsame ▸ hwell.live_of_owned hr)
  have hfree' : e'.injected .disposeRuntime = none := by
    rw [h.injected]
    exact hfree
  refine ⟨disposeRuntime_of_free hfree' hlive hcurrent, ?_, ?_, h.current, h.injected,
    h.wellFormed.withoutRuntime hcurrent⟩
  · show e'.runtimes.erase _ = e.runtimes
    rw [h.runtimes]
    exact Table.erase_insert_of_not_mem a hnew
  · obtain ⟨more, hmore, hholders⟩ := h.contexts
    have hkeep : e.owned.filter (fun entry => entry.2 ≠ ⟨e.issued + 1⟩) = e.owned := by
      refine List.filter_eq_self.2 fun entry hentry => ?_
      have hne : entry.2 ≠ ⟨e.issued + 1⟩ := fun heq =>
        hnew (heq ▸ hwell.live_of_owned hentry)
      simpa using hne
    have howned : e'.owned = e.owned ++ more := hmore
    refine ⟨more.filter fun entry => entry.2 ≠ ⟨e.issued + 1⟩, ?_, ?_⟩
    · rw [owned_withoutRuntime, howned, List.filter_append, hkeep]
    · intro entry hentry
      obtain ⟨hmem, hne⟩ := List.mem_filter.1 hentry
      rcases List.mem_append.1 (hholders entry hmem) with hholder | hlast
      · exact hholder
      · exact absurd (List.mem_singleton.1 hlast) (by simpa using hne)

/-- A runtime and a context of it that were opened together can be closed together. -/
theorem closed {a : Attributes} (hwell : e.WellFormed) (hfree : ∀ op, e.injected op = none)
    (h : Balanced holders (e.opened a) e') :
    e'.setCurrentContext e.current = (.ok (), e'.withCurrent e.current) ∧
      (e'.withCurrent e.current).disposeRuntime ⟨e.issued + 1⟩ =
        (.ok (), (e'.withCurrent e.current).withoutRuntime ⟨e.issued + 1⟩) ∧
      Balanced holders e ((e'.withCurrent e.current).withoutRuntime ⟨e.issued + 1⟩) := by
  have hcreated := hwell.withRuntime a
  have hlive : (⟨e.issued + 1⟩ : RuntimeId) ∈ (e.withRuntime a).runtimes.keys := by
    rw [hwell.keys_withRuntime]
    exact List.mem_append_right _ (List.mem_singleton_self _)
  have hcontext : Balanced (holders ++ [⟨e.issued + 1⟩]) (e.withRuntime a)
      ((e.withRuntime a).withContext ⟨e.issued + 1⟩) :=
    withContext hcreated hlive (List.mem_append_right _ (List.mem_singleton_self _))
  have hbody : Balanced (holders ++ [⟨e.issued + 1⟩]) (e.opened a) e' :=
    h.mono (List.subset_append_left _ _)
  obtain ⟨hleave, hleft⟩ := left hcontext.wellFormed (hfree _) hbody
  exact ⟨hleave, disposed hwell (hfree _) (hcontext.trans hleft)⟩

end Balanced
end ScriptHost.Engine
