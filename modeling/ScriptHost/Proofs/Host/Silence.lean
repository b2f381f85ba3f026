import ScriptHost.Proofs.Host.Executed
import ScriptHost.Proofs.Host.Logs
import ScriptHost.Proofs.Host.Serializing

/- Runs that execute nothing. Where none of the attempts that a run logs executes, the
   engine shows it: nothing more is printed, no run is begun, and every number handed out
   went to a runtime or a context, so that no task was given one.

   What is proved: `Accounts.unexecuted`, what a log without such attempts leaves of the
   engine; and that opening, closing, serializing and writing files attempt nothing that
   executes. -/
namespace ScriptHost

/-- Whether what is attempted is a call that executes. -/
def Act.Executes (act : Act) : Prop :=
  match act.call? with
  | some (_, call) => call.Executes
  | none => False

theorem Act.unexecuted_of_kind {act : Act} (h : act.kind ≠ .runs ∧ act.kind ≠ .other) :
    ¬ act.Executes := by
  obtain ⟨hruns, hother⟩ := h
  cases act <;> first | exact id | exact absurd rfl hruns | exact absurd rfl hother

/-! What the engine shows of calls that do not execute. -/

/-- Whether a call numbered what it created. -/
def JournalEntry.creates : JournalEntry → Bool
  | .createRuntime _ _ => true
  | .createContext _ => true
  | _ => false

namespace Engine

/-- From one engine to another nothing was executed: nothing was printed, no run was begun,
    and the numbers handed out are those of the runtimes and contexts created. -/
structure Unexecuted (e e' : Engine) : Prop where
  output : e'.output = e.output
  journal : ∃ added, e'.journal = e.journal ++ added ∧ (∀ entry ∈ added, ¬ entry.IsRun) ∧
    e'.issued = e.issued + added.countP (·.creates)

namespace Unexecuted

variable {e e' e'' : Engine}

theorem of_eq (houtput : e'.output = e.output) (hjournal : e'.journal = e.journal)
    (hissued : e'.issued = e.issued) : Unexecuted e e' :=
  ⟨houtput, [], by rw [hjournal, List.append_nil], nofun, hissued⟩

/-- A call that is journaled under an entry that is no run, and numbered if it creates. -/
theorem entry {entry : JournalEntry} (hentry : ¬ entry.IsRun) (houtput : e'.output = e.output)
    (hjournal : e'.journal = e.journal ++ [entry])
    (hissued : e'.issued = e.issued + [entry].countP (·.creates)) : Unexecuted e e' :=
  ⟨houtput, [entry], hjournal, by simpa using hentry, hissued⟩

theorem refl (e : Engine) : Unexecuted e e := of_eq rfl rfl rfl

theorem trans (h : Unexecuted e e') (h' : Unexecuted e' e'') : Unexecuted e e'' := by
  obtain ⟨added, hjournal, hruns, hissued⟩ := h.journal
  obtain ⟨added', hjournal', hruns', hissued'⟩ := h'.journal
  refine ⟨h'.output.trans h.output, added ++ added', ?_, fun entry hentry => ?_, ?_⟩
  · rw [hjournal', hjournal, List.append_assoc]
  · rcases List.mem_append.1 hentry with hentry | hentry
    · exact hruns entry hentry
    · exact hruns' entry hentry
  · rw [hissued', hissued, List.countP_append, Nat.add_assoc]

theorem handled (h : Unexecuted e e') (error : Option ErrorCode) :
    Unexecuted e (e'.handled error) := by
  obtain ⟨x, heq, -⟩ := handled_eq e' error
  rw [heq]
  exact h.trans (of_eq rfl rfl rfl)

end Unexecuted

theorem unexecuted_call (e : Engine) {call : EngineCall} (hcall : ¬ call.Executes) :
    Unexecuted e (e.after call) := by
  have hdoes := e.does call
  generalize e.after call = e' at hdoes ⊢
  cases hdoes with
  | createRuntime | disposeRuntime | createContext | setCurrentContext =>
    exact .entry id rfl rfl rfl
  | runScript | runSerialized | callTask => exact absurd trivial hcall
  | _ => exact .of_eq rfl rfl rfl

end Engine

theorem Attempt.unexecuted {a : Attempt} (hact : ¬ a.act.Executes) :
    Engine.Unexecuted a.engine a.after := by
  unfold Act.Executes at hact
  unfold Attempt.after
  cases hcall : a.act.call? with
  | none => exact .refl _
  | some entry =>
    rw [hcall] at hact
    have hdone := a.engine.unexecuted_call hact
    dsimp only
    split
    · exact hdone
    · exact hdone.handled _

theorem Attempt.executed_eq_nil (a : Attempt) (hact : ¬ a.act.Executes) : a.executed = [] := by
  unfold Act.Executes at hact
  unfold Attempt.executed
  cases hcall : a.act.call? with
  | none => rfl
  | some entry =>
    rw [hcall] at hact
    have hprogram : a.engine.program? entry.2 = none := by
      obtain ⟨op, call⟩ := entry
      cases call <;> first | rfl | exact absurd trivial hact
    dsimp only
    rw [Engine.statements, hprogram]

/-- **Attempts that execute nothing show in the engine.** -/
theorem Accounts.unexecuted {e e' : Engine} {l : Log} {fault : Option Payload}
    (h : Accounts e l fault e') (hacts : ∀ a ∈ l, ¬ a.act.Executes) :
    Engine.Unexecuted e e' := by
  induction h with
  | nil e => exact .refl e
  | @cons e e' a l fault hengine _ _ ih =>
    subst hengine
    have hfirst := Attempt.unexecuted (hacts a (List.mem_cons_self ..))
    exact hfirst.trans (ih fun b hb => hacts b (List.mem_cons_of_mem a hb))
  | @fault e a payload hengine _ =>
    subst hengine
    exact Attempt.unexecuted (hacts a (List.mem_cons_self ..))

/-! Steps none of whose attempts executes. -/

namespace Traced

section
variable {A : Attempt → Prop} (hA : ∀ a : Attempt, ¬ a.act.Executes → A a)
include hA

theorem logs_ofExcept {σ α : Type} [HasEngine σ] {P : σ → Prop} (r : Except HostError α) :
    Logs P A (ofExcept r : Traced σ α) fun _ => True :=
  .own (fun _ _ => hA _ id) fun _ hs => hs

theorem silent_opening : Opening fun m => Logs (fun _ => True) A m fun _ => True :=
  logs_opening (fun a hkind => hA a (Act.unexecuted_of_kind (by simp [hkind])))
    fun a hkind => hA a (Act.unexecuted_of_kind (by simp [hkind]))

theorem silent_emitting : Emitting fun m => Logs (fun _ => True) A m fun _ => True :=
  logs_emitting (fun a hkind => hA a (Act.unexecuted_of_kind (by simp [hkind])))
    (fun _ _ => hA _ id) fun _ _ => hA _ id

theorem logs_serialize (source : String) :
    Logs (fun _ => True) A (serialize source) fun bytes =>
      ∃ p, Program.parse source = .ok p ∧ bytes = Bytecode.encode p where
  attempts hh := ((silent_emitting hA).serialize source).attempts hh
  keeps _ := trivial
  value _ hm := (Host.serialize_eq_ok hm).bytes

end

/-! The supervisor. -/

section
variable {A : Attempt → Prop}

theorem logs_transition {mode : Mode} (next : SupervisorState) :
    Logs (fun s => s.supervisor.mode = mode) A (transition next) fun _ => True :=
  .change fun _ hs => hs

/-- What a whole run attempts besides what its mode does opens and closes. -/
theorem logs_execute (hA : ∀ a : Attempt, ¬ a.act.Executes → A a) {mode : Mode} {script : Script}
    {Q : Unit → Prop} (hdispatch : Logs (fun s => s.supervisor.mode = mode) A (dispatch script) Q) :
    Logs (fun s => s.supervisor.mode = mode) A (execute script) fun _ => True := by
  have hopening := silent_opening hA
  have logs_host : ∀ {α : Type} {m : Traced Host α}, Logs (fun _ => True) A m (fun _ => True) →
      Logs (fun s => s.supervisor.mode = mode) A (onHost m) fun _ => True :=
    fun hm => .onHost (R := fun u => u.mode = mode) hm
  refine .then_ .read fun s => .then_ (logs_host (hopening.createRuntime _)) fun runtime => ?_
  refine .then_ (logs_transition _) fun _ => ?_
  refine .then_ (logs_host (hopening.enterNew runtime)) fun scope => ?_
  refine .then_ (logs_transition _) fun _ => ?_
  refine .then_ (.attempt (.onFault hdispatch fun _ hs => hs)) fun ran => ?_
  refine .then_ (logs_host (.attempt (hopening.exit scope))) fun _ => ?_
  refine .then_ (logs_host (.attempt (hopening.dispose runtime))) fun _ => ?_
  exact .settle _

end

end Traced
end ScriptHost
