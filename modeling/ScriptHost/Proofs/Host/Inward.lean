import ScriptHost.Proofs.Host.Freeze
import ScriptHost.Proofs.Host.Silence

/- What is journaled inside a context. Of an attempt that neither opens nor closes anything that
   is the entry a run begins with, and nothing else; so it is with a log of such attempts, by
   induction along it. Between entering a context and leaving it a run attempts nothing else.

   What is proved:
     1. `Attempt.journal_after`, one case for each attempt;
     2. `Accounts.within`, the same of a log;
     3. `log_runScript`, that a script is run once, with `kind_createRuntime` and `kind_enterNew`
        for what is logged before. -/
namespace ScriptHost

open Engine (Inside Entered)

namespace Act

/-- What the journal gets of an attempt inside a context: the entry that a run begins with. -/
def begins : Act → List JournalEntry
  | runScript _ tag => [.runScript tag]
  | runSerialized _ tag => [.runSerializedScript tag]
  | _ => []

theorem begins_of_ne {act : Act} (h : act.kind ≠ .runs) : act.begins = [] := by
  cases act <;> first | rfl | exact absurd rfl h

end Act

namespace Engine

/-- The runtime that the current context belongs to. -/
def currentRuntime? (e : Engine) : Option RuntimeId :=
  e.currentContext?.map (·.2.runtime)

theorem currentIsOf_eq_false_iff {e : Engine} {r : RuntimeId} :
    e.currentIsOf r = false ↔ e.currentRuntime? ≠ some r := by
  unfold currentIsOf currentRuntime?
  cases e.currentContext? with
  | none => exact iff_of_true rfl nofun
  | some entry => simp

/-- A context of the runtime is entered, and no call is made to fail. -/
structure Ready (r : RuntimeId) (e : Engine) : Prop where
  free : ∀ op, e.injected op = none
  inside : e.currentRuntime? = some r

variable {r : RuntimeId} {e e' : Engine}

theorem Ready.currentContext? (h : Ready r e) : ∃ id c, e.currentContext? = some (id, c) ∧
    c.runtime = r := by
  obtain ⟨⟨id, c⟩, hc, hr⟩ := Option.map_eq_some_iff.1 h.inside
  exact ⟨id, c, hc, hr⟩

theorem Ready.within (h : Ready r e) (hin : Inside e e') : Ready r e' where
  free op := by
    rw [hin.effects.setting.injected]
    exact h.free op
  inside := by
    obtain ⟨id, c, hc, hr⟩ := h.currentContext?
    obtain ⟨-, c', hc', hr'⟩ := hin.effects.contexts hc
    rw [currentRuntime?, hc', ← hr, ← hr']
    rfl

theorem Entered.ready {base : Engine} {id : ContextId} (h : Entered base r id e)
    (hfree : ∀ op, base.injected op = none) : Ready r e where
  free op := by
    rw [h.injected]
    exact hfree op
  inside := by
    obtain ⟨c, hc, hr⟩ := h.currentContext?
    rw [currentRuntime?, hc, ← hr]
    rfl

/-! The journal of a call. -/

theorem Ready.whenCurrent {α : Type} (h : Ready r e) (op : Operation) (fail : ErrorCode → α)
    (call : α) : e.whenCurrent op fail call = call := by
  obtain ⟨id, c, hc, -⟩ := h.currentContext?
  rw [Engine.whenCurrent, h.free, hc]
  rfl

theorem journal_handled (e : Engine) (error : Option ErrorCode) :
    (e.handled error).journal = e.journal :=
  congrArg Scene.journal (scene_handled e error)

theorem journal_executeProgram (e : Engine) (p : Program) :
    (e.executeProgram p).engine.journal = e.journal := by
  unfold executeProgram
  split
  · rfl
  · exact congrArg Scene.journal (scene_executeAll e p)

theorem journal_compile (e : Engine) (source : String) :
    (e.compile source).2.journal = e.journal := by
  unfold compile
  split <;> rfl

theorem Ready.journal_runScript (h : Ready r e) (source : String) (tag : SourceContext) :
    (e.runScript source tag).engine.journal = e.journal ++ [.runScript tag] := by
  have hcompile := journal_compile (e.record (.runScript tag)) source
  rw [Engine.runScript, h.whenCurrent]
  rcases hresult : (e.record (.runScript tag)).compile source with ⟨code | p, e'⟩ <;>
    rw [hresult] at hcompile
  · exact hcompile
  · exact (journal_executeProgram e' p).trans hcompile

theorem Ready.journal_runSerialized (h : Ready r e) (bytecode : List UInt8) (tag : SourceContext) :
    (e.runSerialized bytecode tag).engine.journal = e.journal ++ [.runSerializedScript tag] := by
  rw [Engine.runSerialized, h.whenCurrent]
  cases Bytecode.decode bytecode with
  | none => rfl
  | some p => exact journal_executeProgram _ p

end Engine

open Engine (Ready)

/-- Of what is attempted inside a context only a run is journaled. -/
theorem Attempt.journal_after {r : RuntimeId} {a : Attempt} (hready : Ready r a.engine)
    (hact : a.act.Inward) : a.after.journal = a.engine.journal ++ a.act.begins := by
  obtain ⟨e, act⟩ := a
  have hnone : e.journal = e.journal ++ [] := (List.append_nil _).symm
  cases act with
  | installHook hook =>
    refine (Engine.journal_handled _ _).trans ?_
    show (e.setHook (some hook)).2.journal = _
    rcases e.setHook_cases (some hook) with ⟨code, heq⟩ | ⟨-, id, c, -, heq⟩ <;> rw [heq] <;>
      exact hnone
  | clearHook =>
    show (e.setHook none).2.journal = _
    rcases e.setHook_cases none with ⟨code, heq⟩ | ⟨-, id, c, -, heq⟩ <;> rw [heq] <;> exact hnone
  | serializedSize source =>
    refine (Engine.journal_handled _ _).trans ?_
    show (e.serializedSize source).2.journal = _
    rcases e.serializedSize_cases source with ⟨code, x, heq⟩ | ⟨n, heq⟩ <;> rw [heq] <;> exact hnone
  | serializeInto source buffer =>
    refine (Engine.journal_handled _ _).trans ?_
    show (e.serializeInto source buffer).2.2.journal = _
    rcases e.serializeInto_cases source buffer with ⟨code, x, heq⟩ | ⟨n, filled, heq⟩ <;>
      rw [heq] <;> exact hnone
  | runScript source tag =>
    exact (Engine.journal_handled _ _).trans (hready.journal_runScript source tag)
  | runSerialized bytecode tag =>
    exact (Engine.journal_handled _ _).trans (hready.journal_runSerialized bytecode tag)
  | callTask task =>
    refine (Engine.journal_handled _ _).trans ?_
    exact (congrArg Engine.Scene.journal (Engine.scene_callTask e task)).trans hnone
  | drain | host | files => exact hnone
  | createRuntime | createContext | getCurrentContext | enter => exact absurd rfl hact.1
  | exit | dispose | drop => exact absurd rfl hact.2

/-- A log without openings and closings: everything is attempted in the one context, and the
    runs are journaled. -/
theorem Accounts.within {r : RuntimeId} {e e' : Engine} {l : Log} {fault : Option Payload}
    (h : Accounts e l fault e') (hready : Ready r e) (hacts : ∀ a ∈ l, a.act.Inward) :
    (∀ a ∈ l, a.engine.currentRuntime? = some r) ∧
      e'.journal = e.journal ++ l.flatMap (·.act.begins) := by
  induction h with
  | nil => exact ⟨List.forall_mem_nil _, (List.append_nil _).symm⟩
  | @cons e e' a l fault hengine hgoes _ ih =>
    subst hengine
    obtain ⟨hact, hrest⟩ := List.forall_mem_cons.1 hacts
    -- an attempt leaves the context current, so the next is made in it as well
    obtain ⟨hinside, hjournal⟩ := ih (hready.within (a.within hact)) hrest
    refine ⟨List.forall_mem_cons.2 ⟨hready.inside, hinside⟩, ?_⟩
    rw [hjournal, a.journal_after hready hact, List.flatMap_cons, List.append_assoc]
  | @fault e a payload hengine hfault =>
    subst hengine
    have hact := hacts a (List.mem_singleton_self _)
    refine ⟨List.forall_mem_singleton.2 hready.inside, ?_⟩
    rw [a.journal_after hready hact, List.flatMap_singleton]

/-! What is logged. -/

/-- The entry that a run of a script begins with, by what is run. -/
def JournalEntry.beginning (bytecode : Option (List UInt8)) (tag : SourceContext) : JournalEntry :=
  if bytecode.isSome then .runSerializedScript tag else .runScript tag

namespace Traced

theorem kind_createRuntime (a : Attributes) (h : Host) :
    ∀ b ∈ (createRuntime a).log h, b.act.kind = .opens :=
  ((logs_calling (A := fun b => b.act.kind = .opens)).createRuntime (fun hkind _ => hkind)
    a).attempts trivial

/-- A guard is not dropped when its context is entered. -/
theorem kind_enterNew {g : RuntimeGuard} {h h' : Host} {scope : ContextScope}
    (henter : (enterNew g).step h = (.ok scope, h')) :
    ∀ b ∈ (enterNew g).log h, b.act.kind = .opens := by
  have hok : (createContext g >>= enter g).step h = (.ok scope, h') := by
    have hstep : (createContext g >>= enter g).step.onError g.drop h = (.ok scope, h') := henter
    unfold Step.onError at hstep
    split at hstep
    · cases hstep
    · exact hstep
  rw [enterNew, log_orDrop_of_ok hok]
  exact ((logs_calling (A := fun b => b.act.kind = .opens)).createContext_enter
    (fun hkind _ => hkind) g).attempts trivial

theorem log_runThenDrain (script : Script) (bytecode : Option (List UInt8)) (hook : Hook)
    (tag : SourceContext) (s : Supervised) :
    ∃ call rest, (runThenDrain script bytecode hook tag).log s = call :: rest ∧
      call.act.kind = .runs ∧ call.act.begins = [.beginning bytecode tag] ∧
      ∀ a ∈ rest, a.act.kind = .other := by
  have hcall : ∃ call, (onHost (runCall script bytecode tag)).log s = [call] ∧
      call.act.kind = .runs ∧ call.act.begins = [.beginning bytecode tag] := by
    cases bytecode with
    | none => exact ⟨_, rfl, rfl, rfl⟩
    | some bytes => exact ⟨_, rfl, rfl, rfl⟩
  obtain ⟨call, hlog, hkind, hbegins⟩ := hcall
  unfold runThenDrain
  rcases bind_cases (onHost (runCall script bytecode tag)) _ s with
    ⟨⟨ran, signals⟩, s₁, -, hrest, -⟩ | ⟨hnone, -⟩
  · rw [hrest, hlog]
    refine ⟨call, _, rfl, hkind, hbegins, ?_⟩
    refine Logs.attempts (P := fun _ => True) (Q := fun _ => True) ?_ trivial
    refine .then_ (.quiet fun _ hs => hs) fun _ => .then_ (.change fun _ hs => hs) fun _ => ?_
    refine .then_ (logs_drain hook _ (fun _ => rfl) fun _ _ => rfl) fun (drained, queue) => ?_
    refine .then_ (.quiet fun _ hs => hs) fun _ => ?_
    exact .then_ (logs_clearHook queue fun _ => rfl) fun _ => .settle _
  · rw [hnone, hlog]
    exact ⟨call, [], rfl, hkind, hbegins, List.forall_mem_nil _⟩

theorem log_runScript {r : RuntimeId} {s : Supervised} (script : Script)
    (bytecode : Option (List UInt8)) (hready : Ready r s.host.engine) :
    (∀ a ∈ (runScript script bytecode).log s, a.act.kind = .other ∨ a.act.kind = .runs) ∧
      ∃ tag, ((runScript script bytecode).log s).flatMap (·.act.begins) =
        [.beginning bytecode tag] := by
  -- up to the call nothing can fail: a context is entered, and no failure was asked for
  obtain ⟨s₁, hnew, he₁⟩ : ∃ s₁, (onHost newHook).step s = (.ok ⟨s.host.hooks⟩, s₁) ∧
      s₁.host.engine = s.host.engine := ⟨_, rfl, rfl⟩
  obtain ⟨e, hset⟩ : ∃ e, s₁.host.engine.setHook (some ⟨s.host.hooks⟩) = (.ok (), e) := by
    obtain ⟨id, c, hc, -⟩ := hready.currentContext?
    rw [he₁, Engine.setHook, Engine.unlessInjected_of_none _ (hready.free _), hc]
    exact ⟨_, rfl⟩
  obtain ⟨s₂, hinstall⟩ : ∃ s₂, Supervised.onHost (Host.call .setContinuationCallback
      (·.setHook (some ⟨s.host.hooks⟩))) s₁ = (.ok (), s₂) :=
    ⟨_, Supervised.onHost_of (Host.call_of_ok _ (f := (·.setHook _)) hset)⟩
  obtain ⟨s₃, hmoved⟩ : ∃ s₃, (transition .running).step s₂ = (.ok (), s₃) := ⟨_, rfl⟩
  obtain ⟨tag, s₄, htag⟩ : ∃ tag s₄, (onHost nextSourceContext).step s₃ = (.ok tag, s₄) :=
    ⟨_, _, rfl⟩
  obtain ⟨call, rest, hlog, hkind, hbegins, hrest⟩ :=
    log_runThenDrain script bytecode ⟨s.host.hooks⟩ tag s₄
  have hwhole : (runScript script bytecode).log s =
      ⟨s₁.host.engine, .installHook ⟨s.host.hooks⟩⟩ :: call :: rest := by
    rw [runScript, log_bind_of_ok hnew, log_bind_of_ok hinstall, log_bind_of_ok hmoved,
      log_bind_of_ok htag, hlog]
    rfl
  rw [hwhole]
  refine ⟨?_, tag, ?_⟩
  · refine List.forall_mem_cons.2 ⟨.inl rfl, List.forall_mem_cons.2 ⟨.inr hkind, ?_⟩⟩
    exact fun a ha => .inl (hrest a ha)
  · have hnone : rest.flatMap (·.act.begins) = [] := by
      refine List.flatMap_eq_nil_iff.2 fun a ha => Act.begins_of_ne ?_
      rw [hrest a ha]
      decide
    rw [List.flatMap_cons, List.flatMap_cons, hbegins, hnone]
    rfl

end Traced

end ScriptHost
