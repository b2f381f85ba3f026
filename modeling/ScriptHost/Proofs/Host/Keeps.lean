import ScriptHost.Host.Supervisor
import ScriptHost.Proofs.Engine.Pending
import ScriptHost.Proofs.TaskQueue.Rules

/- What steps lead to. `Step.Leads P m Q R` says that `m`, begun in a state with `P`,
   leaves `Q` beside a value and `R` beside an error; `Step.Keeps P m` says that it
   leaves `P` beside either. What a fault leaves is not asked. The rules follow the
   ways in which steps are put together.

   What is proved: the rules, and what a call of the host leaves of the engine. -/
namespace ScriptHost

namespace Step

variable {σ ε δ α β : Type} {P : σ → Prop}

theorem bind_eq_ok {m : Step σ ε α} {next : α → Step σ ε β} {s s' : σ} {b : β}
    (h : (m >>= next) s = (.ok b, s')) : ∃ a t, m s = (.ok a, t) ∧ next a t = (.ok b, s') := by
  rw [bind_apply] at h
  split at h
  · exact ⟨_, _, ‹_›, h⟩
  · cases h
  · cases h

theorem bind_eq_error {m : Step σ ε α} {next : α → Step σ ε β} {s s' : σ} {e : ε}
    (h : (m >>= next) s = (.error e, s')) :
    m s = (.error e, s') ∨ ∃ a t, m s = (.ok a, t) ∧ next a t = (.error e, s') := by
  rw [bind_apply] at h
  split at h
  · exact .inr ⟨_, _, ‹_›, h⟩
  · cases h
    exact .inl ‹_›
  · cases h

theorem attempt_eq_ok {m : Step σ ε α} {s s' : σ} {r : Except ε α}
    (h : (m.attempt : Step σ δ (Except ε α)) s = (.ok r, s')) :
    m s = (.ofExcept r, s') := by
  unfold attempt at h
  split at h <;> cases h <;> assumption

theorem attempt_ne_error {m : Step σ ε α} {s s' : σ} {e : δ} :
    (m.attempt : Step σ δ (Except ε α)) s ≠ (.error e, s') := by
  unfold attempt
  split <;> nofun

/-- From a state with `P`, the step leaves `Q` beside a value and `R` beside an error. -/
structure Leads (P : σ → Prop) (m : Step σ ε α) (Q : α → σ → Prop) (R : ε → σ → Prop) :
    Prop where
  value : ∀ {s s' a}, P s → m s = (.ok a, s') → Q a s'
  error : ∀ {s s' e}, P s → m s = (.error e, s') → R e s'

/-- From a state with `P`, the step leaves `P` beside a value or an error. -/
def Keeps (P : σ → Prop) (m : Step σ ε α) : Prop :=
  Leads P m (fun _ => P) fun _ => P

namespace Leads

variable {Q : α → σ → Prop} {R R' : ε → σ → Prop}

theorem pure {a : α} (h : ∀ s, P s → Q a s) : Leads P (Pure.pure a : Step σ ε α) Q R where
  value hs hm := by cases hm; exact h _ hs
  error _ hm := by cases hm

theorem bind {m : Step σ ε α} {next : α → Step σ ε β} {Q' : β → σ → Prop} (hm : Leads P m Q R)
    (hnext : ∀ a, Leads (Q a) (next a) Q' R) : Leads P (m >>= next) Q' R where
  value hs h := by
    obtain ⟨a, t, ha, hb⟩ := bind_eq_ok h
    exact (hnext a).value (hm.value hs ha) hb
  error hs h := by
    rcases bind_eq_error h with he | ⟨a, t, ha, he⟩
    · exact hm.error hs he
    · exact (hnext a).error (hm.value hs ha) he

theorem attempt {m : Step σ ε α} {Q : σ → Prop} {R : δ → σ → Prop}
    (hm : Leads P m (fun _ => Q) fun _ => Q) :
    Leads P (m.attempt : Step σ δ (Except ε α)) (fun _ => Q) R where
  value {_ _ r} hs h := by
    cases r with
    | ok a => exact hm.value hs (attempt_eq_ok h)
    | error e => exact hm.error hs (attempt_eq_ok h)
  error _ h := absurd h attempt_ne_error

theorem onError {m : Step σ ε α} {f : σ → σ} (hm : Leads P m Q R)
    (hf : ∀ e s, R e s → R' e (f s)) : Leads P (m.onError f) Q R' := by
  constructor <;> intro s s' x hs h <;> unfold Step.onError at h <;> split at h
  · cases h
  · exact hm.value hs h
  · cases h
    exact hf _ _ (hm.error hs ‹_›)
  · rename_i hne
    exact absurd h (hne _ _)

theorem onFault {m : Step σ ε α} (hm : Leads P m Q R) (f : σ → σ) : Leads P (m.onFault f) Q R := by
  constructor <;> intro s s' x hs h <;> unfold Step.onFault at h <;> split at h
  · cases h
  · exact hm.value hs h
  · cases h
  · exact hm.error hs h

theorem change {f : σ → σ} {Q : σ → Prop} (hf : ∀ s, P s → Q (f s)) :
    Leads P (Step.change f : Step σ ε Unit) (fun _ => Q) R where
  value hs h := by cases h; exact hf _ hs
  error _ h := by cases h

/-- What is known besides the state can be used on the way. -/
theorem given {φ : Prop} {m : Step σ ε α} (hm : φ → Leads P m Q R) :
    Leads (fun s => φ ∧ P s) m Q R where
  value hs h := (hm hs.1).value hs.2 h
  error hs h := (hm hs.1).error hs.2 h

theorem ofExcept (r : Except ε α) (hR : ∀ e s, P s → R e s) :
    Leads P (Step.ofExcept r : Step σ ε α) (fun a s => r = .ok a ∧ P s) R where
  value hs h := by
    cases r <;> cases h
    exact ⟨rfl, hs⟩
  error hs h := by
    cases r <;> cases h
    exact hR _ _ hs

end Leads

namespace Keeps

theorem of_snd {m : Step σ ε α} (h : ∀ s, P s → P (m s).2) : Keeps P m where
  value {s _ _} hs hm := by simpa only [hm] using h s hs
  error {s _ _} hs hm := by simpa only [hm] using h s hs

theorem ofExcept_eq {m : Step σ ε α} (hm : Keeps P m) {s s' : σ} {r : Except ε α} (hs : P s)
    (h : m s = (.ofExcept r, s')) : P s' := by
  cases r with
  | ok a => exact Leads.value hm hs h
  | error e => exact Leads.error hm hs h

theorem bind {m : Step σ ε α} {next : α → Step σ ε β} (hm : Keeps P m)
    (hnext : ∀ a, Keeps P (next a)) : Keeps P (m >>= next) :=
  Leads.bind hm hnext

theorem attempt {m : Step σ ε α} (hm : Keeps P m) :
    Keeps P (m.attempt : Step σ δ (Except ε α)) :=
  Leads.attempt hm

theorem pure (a : α) : Keeps P (Pure.pure a : Step σ ε α) := .of_snd fun _ h => h

theorem fail (e : ε) : Keeps P (Step.fail e : Step σ ε α) := .of_snd fun _ h => h

theorem state : Keeps P (Step.state : Step σ ε σ) := .of_snd fun _ h => h

theorem ofExcept (r : Except ε α) : Keeps P (Step.ofExcept r : Step σ ε α) := .of_snd fun _ h => h

theorem change {f : σ → σ} (hf : ∀ s, P s → P (f s)) : Keeps P (Step.change f : Step σ ε Unit) :=
  .of_snd hf

end Keeps
end Step

/-! The engine after a call of the host. -/

namespace Host

theorem engine_failure (h : Host) (op : Operation) (code : ErrorCode) :
    (h.failure op code).2.engine = h.engine.handled (some code) := by
  unfold failure Engine.handled
  split
  · rename_i hcode
    dsimp only
    rw [if_pos hcode]
    rfl
  · rename_i hcode
    dsimp only
    rw [if_neg hcode]
    rfl

theorem call_of_ok {α : Type} (op : Operation) {f : Engine → Except ErrorCode α × Engine}
    {h : Host} {a : α} {e : Engine} (heq : f h.engine = (.ok a, e)) :
    call op f h = (.ok a, { h with engine := e }) := by
  unfold call
  rw [heq]

theorem call_of_error {α : Type} (op : Operation) {f : Engine → Except ErrorCode α × Engine}
    {h : Host} {code : ErrorCode} {e : Engine} (heq : f h.engine = (.error code, e)) :
    call op f h = (.error ({ h with engine := e }.failure op code).1,
      ({ h with engine := e }.failure op code).2) := by
  unfold call
  rw [heq]

theorem call_eq_ok {α : Type} {op : Operation} {f : Engine → Except ErrorCode α × Engine}
    {h h' : Host} {a : α} (hcall : call op f h = (.ok a, h')) :
    ∃ e, f h.engine = (.ok a, e) ∧ h' = { h with engine := e } := by
  rcases hf : f h.engine with ⟨code | a', e⟩
  · cases (call_of_error op hf).symm.trans hcall
  · cases (call_of_ok op hf).symm.trans hcall
    exact ⟨e, rfl, rfl⟩

theorem engine_call {α : Type} (op : Operation) (f : Engine → Except ErrorCode α × Engine)
    (h : Host) : (call op f h).2.engine = (f h.engine).2.handled (errorOf (f h.engine).1) := by
  rcases hf : f h.engine with ⟨code | a, e⟩
  · rw [call_of_error op hf]
    exact engine_failure { h with engine := e } op code
  · rw [call_of_ok op hf]
    rfl

theorem engine_perform (h : Host) (op : Operation) (f : Engine → Execution) :
    (h.perform op f).host.engine = (f h.engine).engine.handled (f h.engine).ending.error? := by
  unfold perform
  generalize f h.engine = x
  obtain ⟨ending, e, signals⟩ := x
  cases ending with
  | ok => rfl
  | error code => exact engine_failure { h with engine := e } op code
  | fault payload => rfl

theorem perform_of_error (op : Operation) {f : Engine → Execution} {h : Host} {code : ErrorCode}
    {e : Engine} {signals : List Signal} (heq : f h.engine = ⟨.error code, e, signals⟩) :
    h.perform op f = ⟨.error ({ h with engine := e }.failure op code).1, signals,
      ({ h with engine := e }.failure op code).2⟩ := by
  unfold perform
  rw [heq]

theorem snd_performStep (op : Operation) (f : Engine → Execution) (h : Host) :
    (performStep op f h).2 = (h.perform op f).host := by
  unfold performStep
  generalize h.perform op f = p
  obtain ⟨ending, signals, h'⟩ := p
  cases ending <;> rfl

/-! Requests to the files. -/

/-- What a request returns, and the files it leaves. -/
theorem onFiles_returns {α : Type} {f : FileSystem → Except HostError α × FileSystem}
    {h h' : Host} {r : Except HostError α} (hrequest : onFiles f h = (.ofExcept r, h')) :
    f h.files = (r, h'.files) := by
  unfold onFiles at hrequest
  rcases hf : f h.files with ⟨e | a, files⟩ <;> rw [hf] at hrequest <;> cases r <;>
    cases hrequest <;> rfl

theorem writeFile_returns {output : Path} {content : List UInt8} {h h' : Host}
    {r : Except HostError Unit} (hwrite : writeFile output content h = (.ofExcept r, h')) :
    Written h.files output content (r, h'.files) := by
  rw [← onFiles_returns hwrite]
  exact written_writing output content h.files

theorem readBytecode_of_ok {h : Host} {path : Path} {content : List UInt8}
    (hread : h.files.read path = .ok content) : readBytecode path h = (.ok content, h) := by
  unfold readBytecode onFiles reading
  rw [hread]
  rfl

theorem readBytecode_of_error {h : Host} {path : Path} {reason : SystemError}
    (hread : h.files.read path = .error reason) : readBytecode path h =
      (.error (.system s!"cannot read byte code {path.display}" reason), h) := by
  unfold readBytecode onFiles reading
  rw [hread]
  rfl

/-! Steps of the host. -/

theorem leads_debug {P R : Engine → Prop} (text : String) :
    Step.Leads (fun h : Host => P h.engine) (debug text) (fun _ h => P h.engine)
      (fun _ h => R h.engine) :=
  .change fun _ h => h

/-- A call of the host leads where the engine's call leads, its error handled. -/
theorem leads_call {α : Type} {P R : Engine → Prop} {Q : α → Engine → Prop} (op : Operation)
    {f : Engine → Except ErrorCode α × Engine}
    (hok : ∀ e e' a, P e → f e = (.ok a, e') → Q a e')
    (herror : ∀ e e' code, P e → f e = (.error code, e') → R (e'.handled (some code))) :
    Step.Leads (fun h : Host => P h.engine) (call op f) (fun a h => Q a h.engine)
      (fun _ h => R h.engine) := by
  constructor
  · intro h h' a hh hcall
    rcases hf : f h.engine with ⟨code | a', e⟩
    · cases (call_of_error op hf).symm.trans hcall
    · cases (call_of_ok op hf).symm.trans hcall
      exact hok _ _ _ hh hf
  · intro h h' e' hh hcall
    rcases hf : f h.engine with ⟨code | a', e⟩
    · cases (call_of_error op hf).symm.trans hcall
      rw [engine_failure]
      exact herror _ _ _ hh hf
    · cases (call_of_ok op hf).symm.trans hcall

end Host

namespace Supervised

variable {Q : Engine → Prop}

def Having (Q : Engine → Prop) (s : Supervised) : Prop := Q s.host.engine

theorem leads_host {ε α : Type} {m : Step Host ε α} {P : Host → Prop} {Q : α → Host → Prop}
    {R : ε → Host → Prop} (hm : Step.Leads P m Q R) :
    Step.Leads (fun s : Supervised => P s.host) (onHost m) (fun a s => Q a s.host)
      (fun e s => R e s.host) where
  value hs h := by
    obtain ⟨hending, rfl⟩ := Prod.mk.inj h
    exact hm.value hs (Prod.ext hending rfl)
  error hs h := by
    obtain ⟨hending, rfl⟩ := Prod.mk.inj h
    exact hm.error hs (Prod.ext hending rfl)

theorem leads_onHost {ε α : Type} {m : Step Host ε α} {P : Engine → Prop}
    {Q : α → Engine → Prop} {R : Engine → Prop}
    (hm : Step.Leads (fun h : Host => P h.engine) m (fun a h => Q a h.engine)
      (fun _ h => R h.engine)) :
    Step.Leads (Having P) (onHost m) (fun a => Having (Q a)) fun _ => Having R :=
  leads_host hm

theorem keeps_onHost {ε α : Type} {m : Step Host ε α}
    (hm : Step.Keeps (fun h : Host => Q h.engine) m) : Step.Keeps (Having Q) (onHost m) :=
  leads_onHost hm

theorem leads_transition {P R : Engine → Prop} (next : SupervisorState) :
    Step.Leads (Having P) (transition next) (fun _ => Having P) fun _ => Having R :=
  .change fun _ h => h

theorem keeps_transition (next : SupervisorState) : Step.Keeps (Having Q) (transition next) :=
  leads_transition next

end Supervised
end ScriptHost
