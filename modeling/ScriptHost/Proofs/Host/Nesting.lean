import ScriptHost.Proofs.Engine.Nested
import ScriptHost.Proofs.Host.Attempt
import ScriptHost.Proofs.Host.Guarding

/- Well-nested use of guards. Whoever uses the host acquires runtimes and contexts and
   gives each back before what was acquired earlier; in between there are further
   acquisitions and calls of the engine. Such a use is a tree: the body of an acquisition
   is what is done until it is given back. A runtime that is held and a context that was
   made are referred to by their places in the order of acquisition, so that only what is
   still there can be referred to. What is done may depend on what the engine answers, but
   any one run is one such tree.

   What is proved:
     1. `Use.succeeds` — by induction on the tree, a use goes through or is left by a
        fault, and where it goes through all it acquired was given back.
     2. `nested_use_restores` — for whole uses, and for openings that fail. -/
namespace ScriptHost

/-- The calls of the engine that are made between acquisitions: those that run scripts or call
    tasks, those of the serializer, of the hook and of the pending exception. -/
def EngineCall.IsInner : EngineCall → Prop
  | .serializedSize _ => True
  | .serializeInto _ _ => True
  | .runScript _ _ => True
  | .runSerialized _ _ => True
  | .setHook _ => True
  | .callTask _ => True
  | .takeException => True
  | _ => False

/-- A well-nested use, with `n` runtimes held and `m` contexts made around it. -/
inductive Use : Nat → Nat → Type where
  | done {n m : Nat} : Use n m
  /-- A call of the engine, whose answer is not asked for. -/
  | call {n m : Nat} (call : EngineCall) (inner : call.IsInner) (next : Use n m) : Use n m
  /-- A runtime and a context of it, opened and ended together. -/
  | opened {n m : Nat} (attributes : Attributes) (body : Use n (m + 1)) (ending : GuardEnd)
      (next : Use n m) : Use n m
  /-- A runtime. -/
  | held {n m : Nat} (attributes : Attributes) (body : Use (n + 1) m) (ending : GuardEnd)
      (next : Use n m) : Use n m
  /-- A context of a runtime that is held; it goes when its runtime does. -/
  | made {n m : Nat} (runtime : Fin n) (next : Use n (m + 1)) : Use n m
  /-- A context that was made, entered and left. -/
  | entered {n m : Nat} (context : Fin m) (body : Use n m) (ending : GuardEnd) (next : Use n m) :
      Use n m

namespace Use

/-- A call of the engine, whose answer is not asked for. -/
def inner (call : EngineCall) : HostStep Unit := fun h =>
  let h' := { h with engine := h.engine.after call }
  match (h.engine.ends call).fault? with
  | some code => (.fault code, h')
  | none => (.ok (), h')

/-- What is done while a guard is held, the guard's end, and what is done then: whether every
    guard could be ended as it should. The guard is dropped if an error passes, and abandoned if
    a fault does. -/
def bracket (drop abandon : Host → Host) (body finish next : HostStep Bool) : HostStep Bool := do
  let settled ← (body.onError drop).onFault abandon
  let ended ← finish
  let later ← next
  return settled && ended && later

/-- Runs a use, and tells whether every guard could be ended as it should. -/
def run : {n m : Nat} → Use n m → Vector RuntimeGuard n → Vector ContextId m → HostStep Bool
  | _, _, .done, _, _ => return true
  | _, _, .call c _ next, runtimes, contexts => do
    inner c
    next.run runtimes contexts
  | _, _, .opened attributes body ending next, runtimes, contexts => do
    let g ← Host.openContext attributes
    bracket g.drop g.abandon (body.run runtimes (contexts.push g.scope.context)) (g.endBy ending)
      (next.run runtimes contexts)
  | _, _, .held attributes body ending next, runtimes, contexts => do
    let g ← Host.createRuntime attributes
    bracket g.drop g.abandon (body.run (runtimes.push g) contexts) (g.endBy ending)
      (next.run runtimes contexts)
  | _, _, .made runtime next, runtimes, contexts => do
    let id ← Host.createContext runtimes[runtime]
    next.run runtimes (contexts.push id)
  | _, _, .entered context body ending next, runtimes, contexts => do
    let scope ← Host.enter contexts[context]
    bracket scope.drop scope.abandon (body.run runtimes contexts) (scope.endBy ending)
      (next.run runtimes contexts)

end Use

/-! Steps that go through unless they fault. -/

/-- From a state, the step faults, or it returns a value that stands in `Q` with the state it
    leaves. -/
def Step.Succeeds {σ ε α : Type} (m : Step σ ε α) (s : σ) (Q : α → σ → Prop) : Prop :=
  (∃ a s', m s = (.ok a, s') ∧ Q a s') ∨ ∃ code s', m s = (.fault code, s')

namespace Step.Succeeds

variable {σ ε α β : Type} {m : Step σ ε α} {s s' : σ} {Q : α → σ → Prop}

theorem of_ok {a : α} (h : m s = (.ok a, s')) (hq : Q a s') : m.Succeeds s Q :=
  .inl ⟨a, s', h, hq⟩

theorem imp {R : α → σ → Prop} (hm : m.Succeeds s Q) (h : ∀ a s', Q a s' → R a s') :
    m.Succeeds s R := by
  rcases hm with ⟨a, s', hok, hq⟩ | hfault
  · exact .of_ok hok (h a s' hq)
  · exact .inr hfault

theorem bind_of_ok {a : α} {next : α → Step σ ε β} {R : β → σ → Prop} (h : m s = (.ok a, s'))
    (hnext : (next a).Succeeds s' R) : (m >>= next).Succeeds s R := by
  rw [Succeeds, bind_apply_of_ok _ h]
  exact hnext

theorem bind {next : α → Step σ ε β} {R : β → σ → Prop} (hm : m.Succeeds s Q)
    (hnext : ∀ a s', Q a s' → (next a).Succeeds s' R) : (m >>= next).Succeeds s R := by
  rcases hm with ⟨a, s', h, hq⟩ | ⟨code, s', h⟩
  · exact bind_of_ok h (hnext a s' hq)
  · exact .inr ⟨code, s', bind_apply_of_fault _ h⟩

theorem onFault (hm : m.Succeeds s Q) (f : σ → σ) : (m.onFault f).Succeeds s Q := by
  rcases hm with ⟨a, s', h, hq⟩ | ⟨code, s', h⟩
  · exact .inl ⟨a, s', by rw [Step.onFault, h], hq⟩
  · exact .inr ⟨code, f s', by rw [Step.onFault, h]⟩

theorem onError (hm : m.Succeeds s Q) (f : σ → σ) : (m.onError f).Succeeds s Q := by
  rcases hm with ⟨a, s', h, hq⟩ | ⟨code, s', h⟩
  · exact .inl ⟨a, s', by rw [Step.onError, h], hq⟩
  · exact .inr ⟨code, s', by rw [Step.onError, h]⟩

theorem returns (hm : m.Succeeds s Q) (hfault : ∀ code, (m s).1 ≠ .fault code) :
    ∃ a s', m s = (.ok a, s') ∧ Q a s' := by
  refine hm.resolve_right ?_
  rintro ⟨code, s', h⟩
  exact hfault code (by rw [h])

end Step.Succeeds

/-! The tree. -/

namespace Engine

/-- What a use relies on: runtimes that are held are live, and contexts that were made exist. -/
structure Provides (e : Engine) (runtimes : List RuntimeId) (contexts : List ContextId) :
    Prop where
  wellFormed : e.WellFormed
  free : ∀ op, e.injected op = none
  live : ∀ r ∈ runtimes, r ∈ e.runtimes.keys
  present : ∀ id ∈ contexts, id ∈ e.contexts.keys

namespace Provides

variable {e e' : Engine} {runtimes holders : List RuntimeId} {contexts : List ContextId}

theorem balanced (h : e.Provides runtimes contexts) (hbalanced : Balanced holders e e') :
    e'.Provides runtimes contexts where
  wellFormed := hbalanced.wellFormed
  free := by rw [hbalanced.injected]; exact h.free
  live := by rw [hbalanced.runtimes]; exact h.live
  present := fun id hid => hbalanced.mem_contexts (h.present id hid)

theorem withContext (h : e.Provides runtimes contexts) {r : RuntimeId}
    (hr : r ∈ e.runtimes.keys) :
    (e.withContext r).Provides runtimes (contexts ++ [⟨e.issued + 1⟩]) := by
  have hbalanced : Balanced [r] e (e.withContext r) :=
    .withContext h.wellFormed hr (List.mem_singleton_self r)
  have hafter := h.balanced hbalanced
  exact { hafter with
    present := fun id hid => by
      rcases List.mem_append.1 hid with hid | hid
      · exact hafter.present id hid
      · rw [List.mem_singleton.1 hid]
        exact mem_contexts_keys_iff.2 ⟨_, Table.get?_insert_self _ _ _⟩ }

theorem withRuntime (h : e.Provides runtimes contexts) (a : Attributes) :
    (e.withRuntime a).Provides (runtimes ++ [⟨e.issued + 1⟩]) contexts where
  wellFormed := h.wellFormed.withRuntime a
  free := h.free
  live := fun r hr => by
    rw [h.wellFormed.keys_withRuntime]
    rcases List.mem_append.1 hr with hr | hr
    · exact List.mem_append_left _ (h.live r hr)
    · exact List.mem_append_right _ hr
  present := h.present

theorem withCurrent (h : e.Provides runtimes contexts) {id : ContextId}
    (hid : id ∈ e.contexts.keys) : (e.withCurrent (some id)).Provides runtimes contexts :=
  { h with
    wellFormed := h.wellFormed.withCurrent fun id' heq => by
      cases heq
      exact hid }

theorem opened (h : e.Provides runtimes contexts) (a : Attributes) :
    (e.opened a).Provides runtimes (contexts ++ [⟨e.issued + 2⟩]) := by
  have hcreated := h.withRuntime a
  have hcontext := hcreated.withContext
    (hcreated.live _ (List.mem_append_right _ (List.mem_singleton_self _)))
  have hentered := hcontext.withCurrent
    (hcontext.present _ (List.mem_append_right _ (List.mem_singleton_self _)))
  exact { hentered with live := fun r hr => hentered.live r (List.mem_append_left _ hr) }

end Provides

theorem effects_after {call : EngineCall} (h : call.IsInner) (e : Engine) :
    Effects e (e.after call) := by
  cases call with
  | serializedSize source => exact e.effects_serializedSize source
  | serializeInto source buffer => exact e.effects_serializeInto source buffer
  | runScript source tag => exact e.effects_runScript source tag
  | runSerialized bytecode tag => exact e.effects_runSerialized bytecode tag
  | setHook hook => exact e.effects_setHook hook
  | callTask task => exact e.effects_callTask task
  | takeException => exact e.effects_takeException
  | _ => exact h.elim

end Engine

namespace Use

open Engine (Balanced)

def runtimesOf {n : Nat} (guards : Vector RuntimeGuard n) : List RuntimeId :=
  guards.toList.map (·.runtime)

theorem runtimesOf_push {n : Nat} (guards : Vector RuntimeGuard n) (g : RuntimeGuard) :
    runtimesOf (guards.push g) = runtimesOf guards ++ [g.runtime] := by
  rw [runtimesOf, Vector.toList_push, List.map_append]
  rfl

theorem inner_succeeds {c : EngineCall} (hinner : c.IsInner) {h : Host}
    (hwell : h.engine.WellFormed) {holders : List RuntimeId} :
    (inner c).Succeeds h fun _ h' => Balanced holders h.engine h'.engine := by
  have heffects := h.engine.effects_after hinner
  cases hfault : (h.engine.ends c).fault? with
  | some code => exact .inr ⟨code, _, by rw [inner, hfault]⟩
  | none => exact .of_ok (by rw [inner, hfault]) (.of_effects hwell heffects)

/-! Each guard, ended after a body that gave back what it acquired. -/

theorem endBy_opened {e : Engine} {a : Attributes} {holders : List RuntimeId} {h : Host}
    (hwell : e.WellFormed) (hfree : ∀ op, e.injected op = none)
    (hbody : Balanced holders (e.opened a) h.engine) (ending : GuardEnd) :
    ∃ h', ActiveContext.endBy ⟨⟨⟨e.issued + 2⟩, e.current⟩, ⟨⟨e.issued + 1⟩⟩⟩ ending h =
      (.ok true, h') ∧ Balanced holders e h'.engine := by
  obtain ⟨hleave, hdispose, hclosed⟩ := hbody.closed hwell hfree
  have hfree' : ∀ op, h.engine.injected op = none := by
    rw [hbody.injected]
    exact hfree
  obtain ⟨h', hended, hengine⟩ := ActiveContext.endBy_apply
    ⟨⟨⟨e.issued + 2⟩, e.current⟩, ⟨⟨e.issued + 1⟩⟩⟩ ending hfree'
  refine ⟨h', ?_, ?_⟩
  · rw [hended, hleave, hdispose]
    rfl
  · rw [hengine, hleave, hdispose]
    exact hclosed

theorem endBy_held {e : Engine} {a : Attributes} {holders : List RuntimeId} {h : Host}
    (hwell : e.WellFormed) (hfree : e.injected .disposeRuntime = none)
    (hbody : Balanced (holders ++ [⟨e.issued + 1⟩]) (e.withRuntime a) h.engine)
    (ending : GuardEnd) :
    ∃ h', RuntimeGuard.endBy ⟨⟨e.issued + 1⟩⟩ ending h = (.ok true, h') ∧
      Balanced holders e h'.engine := by
  obtain ⟨hdispose, hdisposed⟩ := hbody.disposed hwell hfree
  have hfree' : h.engine.injected .disposeRuntime = none := by
    rw [hbody.injected]
    exact hfree
  obtain ⟨h', hended, hengine⟩ := RuntimeGuard.endBy_apply ⟨⟨e.issued + 1⟩⟩ ending hfree'
  refine ⟨h', ?_, ?_⟩
  · rw [hended, hdispose]
    rfl
  · rw [hengine, hdispose]
    exact hdisposed

theorem endBy_entered {e : Engine} {id : ContextId} {holders : List RuntimeId} {h : Host}
    (hwell : e.WellFormed) (hfree : e.injected .setCurrentContext = none)
    (hbody : Balanced holders (e.withCurrent (some id)) h.engine) (ending : GuardEnd) :
    ∃ h', ContextScope.endBy ⟨id, e.current⟩ ending h = (.ok true, h') ∧
      Balanced holders e h'.engine := by
  obtain ⟨hleave, hleft⟩ := hbody.left hwell hfree
  have hfree' : h.engine.injected .setCurrentContext = none := by
    rw [hbody.injected]
    exact hfree
  obtain ⟨h', hended, hengine⟩ := ContextScope.endBy_apply ⟨id, e.current⟩ ending hfree'
  refine ⟨h', ?_, ?_⟩
  · rw [hended, hleave]
    rfl
  · rw [hengine, hleave]
    exact hleft

/-- The way through a guard that is held: the body leads to where it can be ended, its end to
    where nothing is left of it, and what is done then keeps to that. -/
theorem bracket_succeeds {drop abandon : Host → Host} {body finish next : HostStep Bool}
    {e : Engine} {h : Host} {holders : List RuntimeId} {B : Engine → Prop}
    (hbody : body.Succeeds h fun settled h' => settled = true ∧ B h'.engine)
    (hfinish : ∀ h', B h'.engine → ∃ h'', finish h' = (.ok true, h'') ∧
      Balanced holders e h''.engine)
    (hnext : ∀ h', Balanced holders e h'.engine →
      next.Succeeds h' fun settled h'' => settled = true ∧ Balanced holders h'.engine h''.engine) :
    (bracket drop abandon body finish next).Succeeds h fun settled h' =>
      settled = true ∧ Balanced holders e h'.engine := by
  refine .bind ((hbody.onError drop).onFault abandon) ?_
  rintro settled h₁ ⟨rfl, hb⟩
  obtain ⟨h₂, hended, hbalanced⟩ := hfinish h₁ hb
  apply Step.Succeeds.bind_of_ok hended
  refine .bind (hnext h₂ hbalanced) ?_
  rintro later h₃ ⟨rfl, hlater⟩
  exact .of_ok rfl ⟨rfl, hbalanced.trans hlater⟩

/-- A use goes through or is left by a fault. Where it goes through, every guard was ended as it
    should, and of what was acquired only contexts of runtimes held around it are left. -/
theorem succeeds {n m : Nat} (use : Use n m) (runtimes : Vector RuntimeGuard n)
    (contexts : Vector ContextId m) {h : Host}
    (hold : h.engine.Provides (runtimesOf runtimes) contexts.toList) :
    (use.run runtimes contexts).Succeeds h fun settled h' =>
      settled = true ∧ Balanced (runtimesOf runtimes) h.engine h'.engine := by
  -- what the tree relies on lasts from one acquisition to the next, and so does the balance
  induction use generalizing h with
  | done => exact .of_ok rfl ⟨rfl, .refl hold.wellFormed⟩
  | call c hinner next ih =>
    have hcall : (inner c).Succeeds h fun _ h' =>
        Balanced (runtimesOf runtimes) h.engine h'.engine := inner_succeeds hinner hold.wellFormed
    refine hcall.bind fun _ h₁ hbalanced => ?_
    exact (ih runtimes contexts (hold.balanced hbalanced)).imp fun _ _ hnext =>
      ⟨hnext.1, hbalanced.trans hnext.2⟩
  | opened attributes body ending next ihbody ihnext =>
    obtain ⟨h₁, hopen, hengine⟩ := Host.openContext_apply hold.wellFormed hold.free attributes
    refine .bind_of_ok hopen (bracket_succeeds (ihbody runtimes _ ?_) ?_ ?_)
    · rw [hengine, Vector.toList_push]
      exact hold.opened attributes
    · intro h₂ hbody
      rw [hengine] at hbody
      exact endBy_opened hold.wellFormed hold.free hbody ending
    · intro h₃ hbalanced
      exact ihnext runtimes contexts (hold.balanced hbalanced)
  | held attributes body ending next ihbody ihnext =>
    obtain ⟨h₁, hcreate, hengine, -⟩ := Host.createRuntime_apply (hold.free _) attributes
    refine .bind_of_ok hcreate (bracket_succeeds (ihbody (runtimes.push _) contexts ?_) ?_ ?_)
    · rw [hengine, runtimesOf_push]
      exact hold.withRuntime attributes
    · intro h₂ hbody
      rw [hengine, runtimesOf_push] at hbody
      exact endBy_held hold.wellFormed (hold.free _) hbody ending
    · intro h₃ hbalanced
      exact ihnext runtimes contexts (hold.balanced hbalanced)
  | made runtime next ih =>
    have hmem : runtimes[runtime].runtime ∈ runtimesOf runtimes :=
      List.mem_map_of_mem (Vector.mem_toList_iff.2 (Vector.getElem_mem _))
    have hlive := hold.live _ hmem
    have hcreate : Host.createContext runtimes[runtime] h = (.ok ⟨h.engine.issued + 1⟩,
        { h with engine := h.engine.withContext runtimes[runtime].runtime }) :=
      Host.call_of_ok _ (f := (·.createContext runtimes[runtime].runtime))
        (Engine.createContext_of_free (hold.free _) hlive)
    have hbalanced : Balanced (runtimesOf runtimes) h.engine
        (h.engine.withContext runtimes[runtime].runtime) :=
      .withContext hold.wellFormed hlive hmem
    refine .bind_of_ok hcreate ((ih runtimes (contexts.push _) ?_).imp fun _ _ hnext =>
      ⟨hnext.1, hbalanced.trans hnext.2⟩)
    rw [Vector.toList_push]
    exact hold.withContext hlive
  | entered context body ending next ihbody ihnext =>
    have hpresent : contexts[context] ∈ h.engine.contexts.keys :=
      hold.present _ (Vector.mem_toList_iff.2 (Vector.getElem_mem _))
    obtain ⟨h₁, henter, hengine, -⟩ := Host.enter_apply hpresent hold.free
    refine .bind_of_ok henter (bracket_succeeds (ihbody runtimes contexts ?_) ?_ ?_)
    · rw [hengine]
      exact hold.withCurrent hpresent
    · intro h₂ hbody
      rw [hengine] at hbody
      exact endBy_entered hold.wellFormed (hold.free _) hbody ending
    · intro h₃ hbalanced
      exact ihnext runtimes contexts (hold.balanced hbalanced)

end Use

namespace Host

/-- **Well-nested guards restore the engine.** In any reachable state, and with no failure injected,
    a well-nested use that no fault passes ends every guard as it should, and then the live
    runtimes, the contexts and the current one are those there were. Whatever else than a disposal
    is made to fail, an opening that fails leaves them as they were. -/
theorem nested_use_restores {h : Host} (hreach : h.engine.Reachable)
    (hdispose : h.engine.injected .disposeRuntime = none) :
    (∀ use : Use 0 0, (∀ op, h.engine.injected op = none) →
      (∀ code, (use.run #v[] #v[] h).1 ≠ .fault code) →
      ∃ h', use.run #v[] #v[] h = (.ok true, h') ∧
        h'.engine.runtimes = h.engine.runtimes ∧
        h'.engine.contexts.keys = h.engine.contexts.keys ∧
        h'.engine.current = h.engine.current) ∧
    ∀ attributes error h', openContext attributes h = (.error error, h') →
      h'.engine.runtimes = h.engine.runtimes ∧
      h'.engine.contexts.keys = h.engine.contexts.keys ∧
      h'.engine.current = h.engine.current := by
  have hwell := Engine.wellFormed_of_reachable hreach
  constructor
  · intro use hfree hfault
    have hold : h.engine.Provides (Use.runtimesOf #v[]) (#v[] : Vector ContextId 0).toList :=
      ⟨hwell, hfree, (fun _ hr => by cases hr), fun _ hid => by cases hid⟩
    obtain ⟨settled, h', hrun, rfl, hbalanced⟩ := (use.succeeds #v[] #v[] hold).returns hfault
    exact ⟨h', hrun, hbalanced.runtimes, hbalanced.keys_eq, hbalanced.current⟩
  · intro attributes error h' hopen
    have hrestored := (leads_openContext hwell hdispose attributes).error
      (Engine.Restored.refl hwell) hopen
    exact ⟨hrestored.runtimes, by rw [hrestored.contexts], hrestored.current⟩

/-- In an engine with a context entered, a runtime is held over a run in another one, and over a
    context of its own in which a script throws; then entering is made to fail. -/
theorem nested_use_restores_occupied :
    let h := (Supervised.occupied .source).host
    let use : Use 0 0 := .held .none
      (.opened .allowScriptInterrupt (.call (.runScript "print a" ⟨0⟩) trivial .done) .dropped
        (.made 0 (.entered 0 (.call (.runScript "throw b" ⟨1⟩) trivial .done) .asked .done)))
      .dropped .done
    let refusing : Host :=
      { h with engine := h.engine.injectFailure .setCurrentContext .invalidArgument }
    (∃ h', use.run #v[] #v[] h = (.ok true, h') ∧ h'.engine.runtimes.entries = [(⟨1⟩, .none)] ∧
      h'.engine.contexts.keys = [⟨2⟩] ∧ h'.engine.current = some ⟨2⟩) ∧
    ∃ error h', openContext .none refusing = (.error error, h') ∧
      h'.engine.runtimes.entries = [(⟨1⟩, .none)] ∧ h'.engine.contexts.keys = [⟨2⟩] ∧
      h'.engine.current = some ⟨2⟩ := by
  intro h use refusing
  have hreach : h.engine.Reachable := Supervised.reachable_occupied .source
  have hending : (use.run #v[] #v[] h).1 = .ok true := by decide +kernel
  have hfault : ∀ code, (use.run #v[] #v[] h).1 ≠ .fault code := by
    intro code heq
    cases hending.symm.trans heq
  constructor
  · obtain ⟨h', hrun, hruntimes, hcontexts, hcurrent⟩ :=
      (nested_use_restores hreach rfl).1 use (fun _ => rfl) hfault
    exact ⟨h', hrun, by rw [hruntimes]; rfl, hcontexts.trans rfl, hcurrent.trans rfl⟩
  · have hrefused : (openContext .none refusing).1 =
        .error (.engine .setCurrentContext .invalidArgument) := by decide +kernel
    generalize hopen : openContext .none refusing = r at hrefused
    obtain ⟨ending, h'⟩ := r
    cases hrefused
    obtain ⟨hruntimes, hcontexts, hcurrent⟩ := (nested_use_restores
      (hreach.next (.injectFailure .setCurrentContext .invalidArgument)) rfl).2 _ _ _ hopen
    exact ⟨_, h', rfl, by rw [hruntimes]; rfl, hcontexts.trans rfl, hcurrent.trans rfl⟩

end Host
end ScriptHost
