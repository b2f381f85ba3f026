import ScriptHost.Proofs.Engine.Opened
import ScriptHost.Proofs.Host.Composition

/- Where a fault can come from. Most steps of a run never fault (`Step.Returns`), so a
   fault is traced back to the step that can: what was begun before it had returned a
   value, and what stands after it was not begun. The engine is then the one that the
   steps before the fault have made, each of them known exactly by the value it returned.

   What is proved: the rules for `Step.Returns`; that opening, closing, serializing and
   the files never fault; and what the openings leave when they return a value. -/
namespace ScriptHost

namespace Step

variable {σ ε δ α β : Type} {m : Step σ ε α} {next : α → Step σ ε β} {s s' : σ} {payload : Payload}

/-- The step never faults. -/
def Returns (m : Step σ ε α) : Prop :=
  ∀ s, (m s).1.fault? = none

namespace Returns

theorem ne_fault (h : Returns m) : m s ≠ (.fault payload, s') := by
  intro hm
  have hnone := h s
  rw [hm] at hnone
  cases hnone

theorem pure (a : α) : Returns (Pure.pure a : Step σ ε α) := fun _ => rfl

theorem fail (e : ε) : Returns (Step.fail e : Step σ ε α) := fun _ => rfl

theorem change (f : σ → σ) : Returns (Step.change f : Step σ ε Unit) := fun _ => rfl

theorem ofExcept (r : Except ε α) : Returns (Step.ofExcept r : Step σ ε α) := fun _ => by
  cases r <;> rfl

theorem bind (hm : Returns m) (hnext : ∀ a, Returns (next a)) : Returns (m >>= next) := by
  intro s
  rw [bind_apply]
  rcases hstep : m s with ⟨a | e | payload, s'⟩
  · exact hnext a s'
  · rfl
  · exact absurd hstep hm.ne_fault

theorem attempt (hm : Returns m) : Returns (m.attempt : Step σ δ (Except ε α)) := by
  intro s
  rw [Step.attempt]
  rcases hstep : m s with ⟨a | e | payload, s'⟩
  · rfl
  · rfl
  · exact absurd hstep hm.ne_fault

theorem onError (hm : Returns m) (f : σ → σ) : Returns (m.onError f) := by
  intro s
  rw [Step.onError]
  rcases hstep : m s with ⟨a | e | payload, s'⟩
  · rfl
  · rfl
  · exact absurd hstep hm.ne_fault

end Returns

/-! What a fault says of the steps around it. -/

theorem bind_eq_fault (h : (m >>= next) s = (.fault payload, s')) :
    m s = (.fault payload, s') ∨ ∃ a t, m s = (.ok a, t) ∧ next a t = (.fault payload, s') := by
  rw [bind_apply] at h
  split at h
  · exact .inr ⟨_, _, ‹_›, h⟩
  · cases h
  · cases h
    exact .inl ‹_›

theorem Returns.bind_eq_fault (hm : Returns m) (h : (m >>= next) s = (.fault payload, s')) :
    ∃ a t, m s = (.ok a, t) ∧ next a t = (.fault payload, s') :=
  (Step.bind_eq_fault h).resolve_left hm.ne_fault

theorem bind_eq_fault_of_returns (hnext : ∀ a, Returns (next a))
    (h : (m >>= next) s = (.fault payload, s')) : m s = (.fault payload, s') := by
  rcases bind_eq_fault h with hm | ⟨a, t, -, ha⟩
  · exact hm
  · exact absurd ha (hnext a).ne_fault

theorem attempt_eq_fault (h : (m.attempt : Step σ δ (Except ε α)) s = (.fault payload, s')) :
    m s = (.fault payload, s') := by
  unfold attempt at h
  split at h <;> cases h
  assumption

theorem onFault_eq_fault {f : σ → σ} (h : m.onFault f s = (.fault payload, s')) :
    ∃ t, m s = (.fault payload, t) ∧ s' = f t := by
  unfold onFault at h
  split at h
  · cases h
    exact ⟨_, ‹_›, rfl⟩
  · rename_i hne
    exact absurd h (hne _ _)

end Step

open Step (Returns)

/-! Steps of the host that never fault. -/

namespace Traced

theorem returns_calling : Calling (fun _ => True) fun m => Returns m.step where
  pure _ := .pure _
  bind hm hnext := .bind hm hnext
  debug _ := .change _
  call {_ _ op f} _ _ := Host.fault?_call op f
  ofExcept r _ := .ofExcept r
  fail e _ := .fail e
  onFiles f _ := Host.fault?_onFiles f
  settle r := .ofExcept r
  attempt hm := .attempt hm
  orDrop _ hm := .onError hm _

theorem returns_opening : Opening fun m => Returns m.step :=
  returns_calling.opening (fun _ => trivial) fun _ => trivial

theorem returns_emitting : Emitting fun m => Returns m.step :=
  returns_calling.emitting (fun _ => trivial) (fun _ => trivial) fun _ => trivial

end Traced

namespace Host

variable {h h' : Host}

/-! What a value says of the engine. No hook is handed out on the way. -/

theorem createRuntime_eq_ok {a : Attributes} {g : RuntimeGuard}
    (hstep : createRuntime a h = (.ok g, h')) :
    g = ⟨⟨h.engine.issued + 1⟩⟩ ∧ h'.engine = h.engine.withRuntime a ∧ h'.hooks = h.hooks := by
  obtain ⟨r, h₁, hcall, hrest⟩ := Step.bind_eq_ok hstep
  obtain ⟨e, hcreate, rfl⟩ := call_eq_ok hcall
  cases hrest
  cases hop : h.engine.injected .createRuntime with
  | some code => cases (Engine.createRuntime_of_injected hop a).symm.trans hcreate
  | none =>
    cases (Engine.createRuntime_of_free hop a).symm.trans hcreate
    exact ⟨rfl, rfl, rfl⟩

theorem enter_eq_ok {id : ContextId} {scope : ContextScope}
    (hstep : enter id h = (.ok scope, h')) :
    h'.engine = h.engine.withCurrent (some id) ∧ h'.hooks = h.hooks := by
  obtain ⟨previous, h₁, hfirst, hrest⟩ := Step.bind_eq_ok hstep
  obtain ⟨e, hget, rfl⟩ := call_eq_ok hfirst
  obtain ⟨u, h₂, hsecond, hdone⟩ := Step.bind_eq_ok hrest
  obtain ⟨e', hset, rfl⟩ := call_eq_ok hsecond
  cases hdone
  have hsame : e = h.engine := by
    rcases h.engine.getCurrentContext_cases with ⟨code, heq⟩ | heq <;> cases heq.symm.trans hget
    rfl
  subst hsame
  rcases h.engine.setCurrentContext_cases (some id) with ⟨code, heq⟩ | ⟨-, -, heq⟩ <;>
    cases heq.symm.trans hset
  exact ⟨rfl, rfl⟩

theorem enterNew_eq_ok {g : RuntimeGuard} {scope : ContextScope}
    (hstep : enterNew g h = (.ok scope, h')) :
    h'.engine = (h.engine.withContext g.runtime).withCurrent (some ⟨h.engine.issued + 1⟩) ∧
      h'.hooks = h.hooks := by
  have hopen : (createContext g >>= enter) h = (.ok scope, h') := by
    unfold enterNew Step.onError at hstep
    split at hstep
    · cases hstep
    · exact hstep
  obtain ⟨id, h₁, hcall, henter⟩ := Step.bind_eq_ok hopen
  obtain ⟨e, hcreate, rfl⟩ := call_eq_ok hcall
  obtain ⟨hengine, hhooks⟩ := enter_eq_ok henter
  rcases h.engine.createContext_cases g.runtime with ⟨code, heq⟩ | ⟨-, heq⟩ <;>
    cases heq.symm.trans hcreate
  exact ⟨hengine, hhooks⟩

theorem openContext_eq_ok {a : Attributes} {active : ActiveContext}
    (hstep : openContext a h = (.ok active, h')) :
    h'.engine = h.engine.opened a ∧ h'.hooks = h.hooks := by
  obtain ⟨g, h₁, hcreate, hrest⟩ := Step.bind_eq_ok hstep
  obtain ⟨scope, h₂, henter, hdone⟩ := Step.bind_eq_ok hrest
  cases hdone
  obtain ⟨rfl, hcreated, hhooks⟩ := createRuntime_eq_ok hcreate
  obtain ⟨hentered, hhooks'⟩ := enterNew_eq_ok henter
  rw [hentered, hcreated]
  exact ⟨rfl, hhooks'.trans hhooks⟩

end Host

theorem Host.readBytecode_eq_ok {h h' : Host} {path : Path} {bytes : List UInt8}
    (hstep : readBytecode path h = (.ok bytes, h')) : h' = h := by
  cases hread : h.files.read path with
  | ok content =>
    cases (readBytecode_of_ok hread).symm.trans hstep
    rfl
  | error reason => cases (readBytecode_of_error hread).symm.trans hstep

end ScriptHost
