import ScriptHost.Proofs.Host.Attempts

/- What a log has to tell of a step that has returned: its first failure is the one that
   was returned, a run is followed by its drain, and a context that was entered is left
   and then its runtime disposed. Logs told of two results, one after the other, tell of
   the first failure of the two.

   What is proved: `Told.append` and `Told.bracket` for logs, and `Sound`, that a step's
   log tells of what it returns, by the ways in which steps are put together. -/
namespace ScriptHost

/-- The error that a failure is reported as: a code of the script's category is an error of
    the script, with the exception that was pending; what the host fails with itself is not. -/
def Failure.Reported : Failure → HostError → Prop
  | .call op code, e =>
    if code.isScriptError then ∃ exception, e = .script op code exception
    else e = .engine op code
  | .host reason, e => e = reason ∧ Outcome.ofError e = .hostError e

/-- The first failure decides the result. -/
def Verdict (l : Log) : Except HostError Unit → Prop
  | .ok () => l.findSome? (·.failure?) = none
  | .error e => ∃ failure, l.findSome? (·.failure?) = some failure ∧ failure.Reported e

theorem Verdict.append {l l' : Log} {r r' : Except HostError Unit} (h : Verdict l r)
    (h' : Verdict l' r') : Verdict (l ++ l') (firstFailure r r') := by
  cases r with
  | ok u =>
    have hnone : l.findSome? (·.failure?) = none := h
    cases r' with
    | ok u' =>
      show List.findSome? _ (l ++ l') = none
      rw [List.findSome?_append, hnone]
      exact h'
    | error e =>
      obtain ⟨failure, hfirst, hreported⟩ := h'
      exact ⟨failure, by rw [List.findSome?_append, hnone, hfirst]; rfl, hreported⟩
  | error e =>
    obtain ⟨failure, hfirst, hreported⟩ := h
    exact ⟨failure, by rw [List.findSome?_append, hfirst]; rfl, hreported⟩

theorem firstFailure_assoc {ε : Type} (r r' r'' : Except ε Unit) :
    firstFailure (firstFailure r r') r'' = firstFailure r (firstFailure r' r'') := by
  cases r <;> rfl

theorem verdict_ok {a : Attempt} (h : a.failure? = none) : Verdict [a] (.ok ()) := by
  show List.findSome? _ [a] = none
  rw [List.findSome?_cons, h]
  rfl

theorem verdict_error {a : Attempt} {failure : Failure} {e : HostError}
    (h : a.failure? = some failure) (hreported : failure.Reported e) : Verdict [a] (.error e) :=
  ⟨failure, by rw [List.findSome?_cons, h], hreported⟩

/-! What has to follow an attempt. -/

/-- A run is followed by its drain. A context that was entered is left later on, and then the
    runtime it was created in is disposed. -/
structure Attempt.Followed (a : Attempt) (later : Log) : Prop where
  run : a.act.IsRun → ∃ drain rest, later = drain :: rest ∧ drain.act = .drain
  enter : ∀ guard context, a.act = .enter guard context → a.failure? = none →
    ∃ inside exit dispose rest previous, later = inside ++ exit :: dispose :: rest ∧
      exit.act = .exit ⟨context, previous⟩ ∧ dispose.act = .dispose guard

theorem Attempt.Followed.append {a : Attempt} {later : Log} (h : a.Followed later) (l : Log) :
    a.Followed (later ++ l) where
  run hrun := by
    obtain ⟨drain, rest, rfl, hdrain⟩ := h.run hrun
    exact ⟨drain, rest ++ l, rfl, hdrain⟩
  enter guard context hact hgoes := by
    obtain ⟨inside, exit, dispose, rest, previous, rfl, hexit, hdispose⟩ :=
      h.enter guard context hact hgoes
    exact ⟨inside, exit, dispose, rest ++ l, previous, by rw [List.append_assoc]; rfl, hexit,
      hdispose⟩

/-- Neither a run nor an entering: nothing has to follow. -/
def Act.Plain : Act → Prop
  | runScript _ _ => False
  | runSerialized _ _ => False
  | enter _ _ => False
  | _ => True

theorem Act.Plain.followed {a : Attempt} (h : a.act.Plain) (later : Log) : a.Followed later where
  run hrun := by
    obtain ⟨e, act⟩ := a
    cases act <;> first | exact h.elim | exact hrun.elim
  enter guard context hact _ := by
    rw [hact] at h
    exact h.elim

/-- Every attempt is followed by what has to follow it. -/
def Orderly : Log → Prop
  | [] => True
  | a :: later => a.Followed later ∧ Orderly later

theorem Orderly.append {l l' : Log} (h : Orderly l) (h' : Orderly l') : Orderly (l ++ l') := by
  induction l with
  | nil => exact h'
  | cons a later ih => exact ⟨h.1.append l', ih h.2⟩

theorem Orderly.followed {l before later : Log} {a : Attempt} (h : Orderly l)
    (hl : l = before ++ a :: later) : a.Followed later := by
  induction before generalizing l with
  | nil =>
    subst hl
    exact h.1
  | cons b before ih =>
    subst hl
    exact ih h.2 rfl

/-! Both together. -/

/-- A log that tells of a result. -/
structure Told (l : Log) (r : Except HostError Unit) : Prop where
  verdict : Verdict l r
  orderly : Orderly l

namespace Told

variable {l l' : Log} {r r' : Except HostError Unit}

theorem nil : Told [] (.ok ()) := ⟨rfl, trivial⟩

theorem append (h : Told l r) (h' : Told l' r') : Told (l ++ l') (firstFailure r r') :=
  ⟨h.verdict.append h'.verdict, h.orderly.append h'.orderly⟩

theorem single {a : Attempt} (hact : a.act.Plain) (h : Verdict [a] r) : Told [a] r :=
  ⟨h, hact.followed [], trivial⟩

theorem refused {a : Attempt} {e : HostError} (hrun : ¬ a.act.IsRun) (h : Verdict [a] (.error e)) :
    Told [a] (.error e) := by
  refine ⟨h, ⟨fun h => absurd h hrun, fun guard context _ hgoes => ?_⟩, trivial⟩
  obtain ⟨failure, hfirst, -⟩ := h
  rw [List.findSome?_cons, hgoes] at hfirst
  cases hfirst

theorem run {a drain : Attempt} {calls : Log} {ran drained : Except HostError Unit}
    (hrun : a.act.IsRun) (hran : Verdict [a] ran) (hdrain : drain.act = .drain)
    (hcalls : Told calls drained) : Told (a :: drain :: calls) (firstFailure ran drained) := by
  have hgoes : drain.failure? = none := by
    unfold Attempt.failure?
    rw [hdrain]
    rfl
  have hplain : drain.act.Plain := by
    rw [hdrain]
    trivial
  have hrest : Told (drain :: calls) drained :=
    Told.append (l := [drain]) (.single hplain (verdict_ok hgoes)) hcalls
  refine ⟨hran.append hrest.verdict, ⟨fun _ => ⟨drain, calls, rfl, hdrain⟩, ?_⟩, hrest.orderly⟩
  intro guard context hact
  rw [hact] at hrun
  exact hrun.elim

theorem bracket {before inside : Log} {enter exit dispose : Attempt} {guard : RuntimeGuard}
    {scope : ContextScope} {ran exited disposed : Except HostError Unit}
    (hbefore : Told before (.ok ())) (henter : enter.act = .enter guard scope.context)
    (hgoes : enter.failure? = none) (hinside : Told inside ran) (hexit : exit.act = .exit scope)
    (hexited : Verdict [exit] exited) (hdispose : dispose.act = .dispose guard)
    (hdisposed : Verdict [dispose] disposed) :
    Told (before ++ enter :: (inside ++ [exit, dispose]))
      (firstFailure (firstFailure ran exited) disposed) := by
  have hplain : exit.act.Plain ∧ dispose.act.Plain := by
    rw [hexit, hdispose]
    exact ⟨trivial, trivial⟩
  have hrest : Told (inside ++ [exit, dispose])
      (firstFailure (firstFailure ran exited) disposed) := by
    have hboth := (hinside.append (.single hplain.1 hexited)).append (.single hplain.2 hdisposed)
    rwa [List.append_assoc] at hboth
  have hfollowed : enter.Followed (inside ++ [exit, dispose]) := by
    refine ⟨fun hrun => ?_, fun guard' context hact _ => ?_⟩
    · rw [henter] at hrun
      exact hrun.elim
    · obtain ⟨rfl, rfl⟩ := Act.enter.inj (henter.symm.trans hact)
      exact ⟨inside, exit, dispose, [], scope.previous, rfl, hexit, hdispose⟩
  have hentered : Verdict [enter] (.ok ()) := verdict_ok hgoes
  refine ⟨hbefore.verdict.append (hentered.append hrest.verdict), ?_⟩
  exact hbefore.orderly.append ⟨hfollowed, hrest.orderly⟩

end Told

/-! Steps. -/

namespace Traced

variable {σ α β : Type} [HasEngine σ]

/-- The log of a step that returns tells of what it returns. -/
structure Sound (P : σ → Prop) (m : Traced σ α) : Prop where
  told : ∀ {s s' : σ} {r : Except HostError α}, P s → m.step s = (.ofExcept r, s') →
    Told (m.log s) (r.map fun _ => ())

theorem log_bind_of_ok {m : Traced σ α} {next : α → Traced σ β} {s t : σ} {a : α}
    (hm : m.step s = (.ok a, t)) : (m >>= next).log s = m.log s ++ (next a).log t := by
  show logThen m next s = _
  rw [logThen, hm]

/-- One step after another: the second begins where the first returned, or there is none. -/
theorem bind_cases (m : Traced σ α) (next : α → Traced σ β) (s : σ) :
    (∃ a s₁, m.step s = (.ok a, s₁) ∧ (m >>= next).log s = m.log s ++ (next a).log s₁ ∧
      ((m >>= next).step s).2 = ((next a).step s₁).2) ∨
    ((m >>= next).log s = m.log s ∧ ((m >>= next).step s).2 = (m.step s).2) := by
  have hlog : (m >>= next).log s = logThen m next s := rfl
  have hstep : (m >>= next).step s = (m.step >>= fun a => (next a).step) s := rfl
  rw [hlog, hstep, logThen, Step.bind_apply]
  rcases m.step s with ⟨a | e | payload, s₁⟩
  · exact .inl ⟨a, s₁, rfl, rfl, rfl⟩
  · exact .inr ⟨rfl, rfl⟩
  · exact .inr ⟨rfl, rfl⟩

theorem bind_ok {m : Traced σ α} {next : α → Traced σ β} {s s' : σ} {b : β}
    (h : (m >>= next).step s = (.ok b, s')) :
    ∃ a t, m.step s = (.ok a, t) ∧ (next a).step t = (.ok b, s') ∧
      (m >>= next).log s = m.log s ++ (next a).log t := by
  obtain ⟨a, t, ha, hb⟩ := Step.bind_eq_ok h
  exact ⟨a, t, ha, hb, log_bind_of_ok ha⟩

theorem bind_error {m : Traced σ α} {next : α → Traced σ β} {s s' : σ} {e : HostError}
    (h : (m >>= next).step s = (.error e, s')) :
    (m.step s = (.error e, s') ∧ (m >>= next).log s = m.log s) ∨
      ∃ a t, m.step s = (.ok a, t) ∧ (next a).step t = (.error e, s') ∧
        (m >>= next).log s = m.log s ++ (next a).log t := by
  have hlog : (m >>= next).log s = logThen m next s := rfl
  rw [hlog, logThen]
  rcases Step.bind_eq_error h with he | ⟨a, t, ha, he⟩
  · rw [he]
    exact .inl ⟨rfl, rfl⟩
  · rw [ha]
    exact .inr ⟨a, t, rfl, he, rfl⟩

/-- Two steps return together when the first does and, after a value, the second. -/
theorem bind_returns {m : Traced σ α} {next : α → Traced σ β} {s s' : σ} {r : Except HostError β}
    (h : (m >>= next).step s = (.ofExcept r, s')) :
    (∃ e, r = .error e ∧ m.step s = (.error e, s') ∧ (m >>= next).log s = m.log s) ∨
      ∃ a t, m.step s = (.ok a, t) ∧ (next a).step t = (.ofExcept r, s') ∧
        (m >>= next).log s = m.log s ++ (next a).log t := by
  cases r with
  | ok b => exact .inr (bind_ok h)
  | error e =>
    rcases bind_error h with ⟨he, hlog⟩ | hgoes
    · exact .inl ⟨e, rfl, he, hlog⟩
    · exact .inr hgoes

theorem bind_returns_of_ok {m : Traced σ α} {next : α → Traced σ β} {s t s' : σ} {a : α}
    {r : Except HostError β} (hm : m.step s = (.ok a, t))
    (h : (m >>= next).step s = (.ofExcept r, s')) :
    (next a).step t = (.ofExcept r, s') ∧ (m >>= next).log s = m.log s ++ (next a).log t := by
  have hbind : (m >>= next).step s = (next a).step t := Step.bind_apply_of_ok _ hm
  exact ⟨hbind.symm.trans h, log_bind_of_ok hm⟩

theorem attempt_bind_returns {m : Traced σ α} {next : Except HostError α → Traced σ β} {s s' : σ}
    {r : Except HostError β} (h : (m.attempt >>= next).step s = (.ofExcept r, s')) :
    ∃ r' t, m.step s = (.ofExcept r', t) ∧ (next r').step t = (.ofExcept r, s') ∧
      (m.attempt >>= next).log s = m.log s ++ (next r').log t := by
  rcases bind_returns h with ⟨e, -, hm, -⟩ | ⟨r', t, hm, hnext, hlog⟩
  · exact absurd hm Step.attempt_ne_error
  · exact ⟨r', t, Step.attempt_eq_ok hm, hnext, hlog⟩

theorem value_bind_returns {m : Traced σ α} {next : α → Traced σ β} {s s' : σ}
    {r : Except HostError β} (hvalue : ∀ e t, m.step s ≠ (.error e, t))
    (h : (m >>= next).step s = (.ofExcept r, s')) :
    ∃ a t, m.step s = (.ok a, t) ∧ (next a).step t = (.ofExcept r, s') ∧
      (m >>= next).log s = m.log s ++ (next a).log t := by
  rcases bind_returns h with ⟨e, -, hm, -⟩ | hgoes
  · exact absurd hm (hvalue e _)
  · exact hgoes

theorem onHost_returns {m : Traced Host α} {s s' : Supervised} {r : Except HostError α}
    (h : (onHost m).step s = (.ofExcept r, s')) : m.step s.host = (.ofExcept r, s'.host) := by
  obtain ⟨hending, rfl⟩ := Prod.mk.inj h
  exact Prod.ext hending rfl

theorem onHost_attempt_bind_returns {m : Traced Host α}
    {next : Except HostError α → Traced Supervised β} {s s' : Supervised} {r : Except HostError β}
    (h : (onHost m.attempt >>= next).step s = (.ofExcept r, s')) :
    ∃ r' t, m.step s.host = (.ofExcept r', t.host) ∧ (next r').step t = (.ofExcept r, s') ∧
      (onHost m.attempt >>= next).log s = m.log s.host ++ (next r').log t := by
  rcases bind_returns h with ⟨e, -, hm, -⟩ | ⟨r', t, hm, hnext, hlog⟩
  · exact absurd (onHost_returns (r := .error e) hm) Step.attempt_ne_error
  · exact ⟨r', t, Step.attempt_eq_ok (onHost_returns (r := .ok r') hm), hnext, hlog⟩

theorem onFault_returns {m : Traced σ α} {f : σ → σ}
    {hf : ∀ s, HasEngine.engine (f s) = HasEngine.engine s} {s s' : σ} {r : Except HostError α}
    (h : (m.onFault f hf).step s = (.ofExcept r, s')) : m.step s = (.ofExcept r, s') := by
  have hstep : m.step.onFault f s = (.ofExcept r, s') := h
  unfold Step.onFault at hstep
  split at hstep
  · cases r <;> cases hstep
  · exact hstep

theorem settle_returns {r r' : Except HostError α} {s s' : σ}
    (h : (settle r).step s = (.ofExcept r', s')) : r' = r := by
  have hending : (.ofExcept r : Ending HostError α) = .ofExcept r' := congrArg Prod.fst h
  cases r <;> cases r' <;> cases hending <;> rfl

namespace Sound

variable {P : σ → Prop}

theorem told_unit {m : Traced σ Unit} (h : Sound P m) {s s' : σ} {r : Except HostError Unit}
    (hs : P s) (hm : m.step s = (.ofExcept r, s')) : Told (m.log s) r := by
  have htold := h.told hs hm
  cases r <;> exact htold

theorem of_unit {m : Traced σ Unit} (h : ∀ {s s' : σ} {r : Except HostError Unit}, P s →
    m.step s = (.ofExcept r, s') → Told (m.log s) r) : Sound P m := by
  refine ⟨fun {s s' r} hs hm => ?_⟩
  cases r with
  | ok u => exact h (r := .ok ()) hs hm
  | error e => exact h (r := .error e) hs hm

theorem of_nil {m : Traced σ α} (hlog : ∀ s, m.log s = [])
    (hvalue : ∀ s e t, m.step s ≠ (.error e, t)) : Sound P m := by
  refine ⟨fun {s s' r} _ hm => ?_⟩
  cases r with
  | ok a =>
    rw [hlog]
    exact .nil
  | error e => exact absurd hm (hvalue s e s')

theorem pure (a : α) : Sound P (Pure.pure a : Traced σ α) :=
  of_nil (fun _ => rfl) fun _ _ _ h => by cases h

theorem bind {Q : α → σ → Prop} {m : Traced σ α} {next : α → Traced σ β} (hm : Sound P m)
    (hQ : ∀ {s t a}, P s → m.step s = (.ok a, t) → Q a t) (hnext : ∀ a, Sound (Q a) (next a)) :
    Sound P (m >>= next) := by
  refine ⟨fun {s s' r} hs h => ?_⟩
  rcases bind_returns h with ⟨e, rfl, he, hlog⟩ | ⟨a, t, ha, hr, hlog⟩
  · rw [hlog]
    exact hm.told (r := .error e) hs he
  · rw [hlog]
    exact (hm.told (r := .ok a) hs ha).append ((hnext a).told (hQ hs ha) hr)

theorem then_ {m : Traced σ α} {next : α → Traced σ β} (hm : Sound P m)
    (hnext : ∀ a, Sound (fun _ => True) (next a)) : Sound P (m >>= next) :=
  hm.bind (Q := fun _ _ => True) (fun _ _ => trivial) hnext

theorem own {m : Step σ HostError α} {hfault : ∀ s, (m s).1.fault? = none}
    {hengine : ∀ s, HasEngine.engine (m s).2 = HasEngine.engine s}
    (hhost : ∀ {s s' e}, m s = (.error e, s') → Outcome.ofError e = .hostError e) :
    Sound P (Traced.own m hfault hengine) := by
  refine ⟨fun {s s' r} _ hm => ?_⟩
  have hresult : (m s).1 = .ofExcept r := congrArg Prod.fst hm
  refine .single trivial ?_
  cases r with
  | ok a =>
    refine verdict_ok ?_
    show Attempt.failure? ⟨_, .host (m s).1.result⟩ = none
    rw [hresult]
    rfl
  | error e =>
    have hfailure : Attempt.failure? ⟨HasEngine.engine s, .host (m s).1.result⟩ =
        some (.host e) := by
      rw [hresult]
      rfl
    exact verdict_error hfailure ⟨rfl, hhost hm⟩

theorem ofExcept {r : Except HostError α}
    (hhost : ∀ e, r = .error e → Outcome.ofError e = .hostError e) :
    Sound P (Traced.ofExcept r : Traced σ α) := by
  refine .own fun {s s' e} hm => hhost e ?_
  have hending : (.ofExcept r : Ending HostError α) = .error e := congrArg Prod.fst hm
  cases r <;> cases hending
  rfl

theorem fail {e : HostError} (hhost : Outcome.ofError e = .hostError e) :
    Sound P (Traced.fail e : Traced σ α) :=
  .own fun hm => by cases hm; exact hhost

theorem onFault {m : Traced σ α} {f : σ → σ}
    {hf : ∀ s, HasEngine.engine (f s) = HasEngine.engine s} (h : Sound P m) :
    Sound P (m.onFault f hf) :=
  ⟨fun hs hm => h.told hs (onFault_returns hm)⟩

theorem onHost {P : Host → Prop} {m : Traced Host α} (h : Sound P m) :
    Sound (fun s : Supervised => P s.host) (Traced.onHost m) := by
  refine ⟨fun {s s' r} hs hm => ?_⟩
  obtain ⟨hending, -⟩ := Prod.mk.inj hm
  exact h.told hs (Prod.ext hending rfl)

end Sound
end Traced

/-! Calls of the engine. -/

theorem Host.reported_failure (h : Host) (op : Operation) (code : ErrorCode) :
    (Failure.call op code).Reported (h.failure op code).1 := by
  unfold Host.failure Failure.Reported
  dsimp only
  split
  · exact ⟨_, rfl⟩
  · rfl

/-- A call's failure is the code that the engine returned. -/
theorem Traced.verdict_call {α : Type} {act : Act} {op : Operation}
    {f : Engine → Except ErrorCode α × Engine}
    {hact : act.Calls op (fun e => .unit (f e).1) fun e => (f e).2} {h h' : Host}
    {r : Except HostError α} (hcall : (Traced.call act op f hact).step h = (.ofExcept r, h')) :
    Verdict [⟨h.engine, act⟩] (r.map fun _ => ()) := by
  have hfailure := hact.failure? h.engine
  rcases hf : f h.engine with ⟨code | a, e⟩
  · have heq := (Host.call_of_error op hf).symm.trans hcall
    rw [hf] at hfailure
    cases r with
    | ok b => cases heq
    | error e' =>
      cases heq
      exact verdict_error hfailure (Host.reported_failure _ op code)
  · have heq := (Host.call_of_ok op hf).symm.trans hcall
    rw [hf] at hfailure
    cases r with
    | ok b => exact verdict_ok hfailure
    | error e' => cases heq

theorem Traced.Sound.onFiles {α : Type} {P : Host → Prop}
    {f : FileSystem → Except HostError α × FileSystem}
    (hhost : ∀ {files files' e}, f files = (.error e, files') → Outcome.ofError e = .hostError e) :
    Sound P (Traced.onFiles f) := by
  refine ⟨fun {h h' r} _ hrequest => .single trivial ?_⟩
  have hanswer := Host.onFiles_returns hrequest
  have hfailure : Attempt.failure? ⟨h.engine, .files (Ending.ofExcept (f h.files).1).result⟩ =
      (errorOf r).map .host := by
    rw [hanswer]
    cases r <;> rfl
  cases r with
  | ok a => exact verdict_ok hfailure
  | error e => exact verdict_error hfailure ⟨rfl, hhost hanswer⟩

theorem Traced.Sound.call {α : Type} {P : Host → Prop} {act : Act} {op : Operation}
    {f : Engine → Except ErrorCode α × Engine}
    {hact : act.Calls op (fun e => .unit (f e).1) fun e => (f e).2} (hplain : act.Plain) :
    Sound P (Traced.call act op f hact) :=
  ⟨fun _ hcall => .single hplain (verdict_call hcall)⟩

theorem Host.verdict_perform {act : Act} {op : Operation} {f : Engine → Execution}
    (hact : act.Calls op (fun e => (f e).ending) fun e => (f e).engine) (h : Host)
    {r : Except HostError Unit} (hr : (h.perform op f).ending = .ofExcept r) :
    Verdict [⟨h.engine, act⟩] r := by
  have hfailure := hact.failure? h.engine
  unfold Host.perform at hr
  generalize f h.engine = x at hfailure hr
  obtain ⟨⟨⟩ | code | payload, e, signals⟩ := x
  · cases r with
    | ok u => exact verdict_ok hfailure
    | error e => cases hr
  · cases r with
    | ok u => cases hr
    | error e' =>
      cases hr
      exact verdict_error hfailure (Host.reported_failure _ op code)
  · cases r <;> cases hr

end ScriptHost
