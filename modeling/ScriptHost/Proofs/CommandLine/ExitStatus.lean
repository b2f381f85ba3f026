import ScriptHost.CommandLine.Run
import ScriptHost.Proofs.Host.Containment

/- Exit statuses. A process keeps the low eight bits of what it ends with. The codes of
   an outcome that was returned survive that, but a script chooses its fault codes among
   all 32-bit words, and a fault that is contained ends the process with its code: where
   the low eight bits are zero, the status is that of a success.

   What is proved:
     1. `exitStatus_signed32` and `exitStatus_exitCode_eq_zero_iff` — which codes are kept.
     2. `FaultPolicy.status_handsOn_fault` — what a fault leaves of its code, by the policy.
     3. `Report.status_ofConfig` — the status, by how the run ends.
     4. `Report.status_eq_zero_iff` — when it is zero. -/
namespace ScriptHost

/-! Codes. -/

/-- A fault code leaves its low eight bits, whatever its sign as a signed number. -/
theorem exitStatus_signed32 (code : UInt32) : exitStatus (signed32 code) = code.toNat % 256 := by
  have hbound : code.toNat < 4294967296 := code.toNat_lt
  unfold exitStatus signed32
  split
  · show ((code.toNat : Int) % 256).toNat = code.toNat % 256
    omega
  · show (((code.toNat : Int) - 0x100000000) % 256).toNat = code.toNat % 256
    omega

theorem exitStatus_exitCode_eq_zero_iff {outcome : Outcome} (h : ∀ code, outcome ≠ .fault code) :
    exitStatus outcome.exitCode = 0 ↔ outcome = .success := by
  cases outcome with
  | success => exact iff_of_true rfl rfl
  | scriptError op code exception =>
    have hstatus : exitStatus exitScriptError ≠ 0 := by decide
    exact iff_of_false hstatus nofun
  | hostError e =>
    have hstatus : exitStatus exitHostError ≠ 0 := by decide
    exact iff_of_false hstatus nofun
  | fault code => exact absurd rfl (h code)

theorem Outcome.ofResult_ne_fault (r : Except HostError Unit) (code : UInt32) :
    ofResult r ≠ .fault code := by
  rcases r with e | u
  · cases e <;> nofun
  · nofun

theorem Supervised.run_ne_fault (script : Script) (s : Supervised) (code : UInt32) :
    (run script s).1 ≠ .ok (.fault code) := by
  unfold run
  rw [Step.bind_apply]
  rcases result script s with ⟨r | e | code', s'⟩
  · exact fun hrun => Outcome.ofResult_ne_fault r code (Ending.ok.inj hrun)
  · cases e
  · nofun

/-! The worker. -/

/-- The exit status of the process, by what comes back from its worker. -/
def WorkerResult.status : WorkerResult → Nat
  | outcome o => exitStatus o.exitCode
  | failed _ => exitStatus exitHostError
  | propagated _ => statusPropagated
  | terminated code => exitStatus (signed32 code)

/-- Whether it ends the process at once or is reported first, a fault that is contained leaves the
    low eight bits of its code. -/
theorem FaultPolicy.status_handsOn_fault (policy : FaultPolicy) (payload : Payload) :
    (policy.handsOn (.fault payload)).status =
      if policy = .propagate then statusPropagated else payload.code.toNat % 256 := by
  cases policy with
  | terminate => exact exitStatus_signed32 payload.code
  | report => exact exitStatus_signed32 payload.code
  | propagate => rfl

/-- What was raised without a code does not pass for a success. -/
theorem Payload.structured_of_low_zero {payload : Payload} (h : payload.code.toNat % 256 = 0) :
    ∃ code, payload = .structured code ∧ code.toNat % 256 = 0 := by
  have hother : uncategorizedFault.toNat % 256 ≠ 0 := by decide
  cases payload with
  | structured code => exact ⟨code, rfl, h⟩
  | text message => exact absurd h hother
  | unknown => exact absurd h hother

/-! The process. -/

/-- How the run of a configuration ends, if its script can be loaded and the system starts its
    worker. -/
def Config.ending? (c : Config) (refusal : ThreadRefusal) (h : Host) :
    Option (Ending Empty Outcome) :=
  match h.files.load c.script with
  | .error _ => none
  | .ok loaded =>
    match refusal c.worker.stackSize with
    | some _ => none
    | none => some (Supervised.run loaded.script (h.under c.mode)).1

theorem Config.ending?_unheard (c : Config) (refusal : ThreadRefusal) (h : Host)
    (messages : List Message) :
    c.ending? refusal { h with messages := messages } = c.ending? refusal h := by
  unfold ending?
  dsimp only
  cases h.files.load c.script with
  | error e => rfl
  | ok loaded =>
    dsimp only
    rw [Supervised.ending_unheard]

theorem Config.ending?_ne_fault (c : Config) (refusal : ThreadRefusal) (h : Host) (code : UInt32) :
    c.ending? refusal h ≠ some (.ok (.fault code)) := by
  unfold ending?
  split
  · nofun
  · split
    · nofun
    · exact fun hending => Supervised.run_ne_fault _ _ code (Option.some.inj hending)

/-- While the lock is held, the status is what the worker hands on of the run; without a run it is
    that of an error of the host. -/
theorem Host.fst_runHolding (refusal : ThreadRefusal) (g : LockGuard) (c : Config) (h : Host) :
    (runHolding refusal g c h).1 =
      ((c.ending? refusal h).map fun ending => (c.worker.faultPolicy.handsOn ending).status).getD
        (exitStatus exitHostError) := by
  cases hload : h.files.load c.script with
  | error e =>
    rw [runHolding, Config.ending?, hload]
    rfl
  | ok loaded =>
    -- the line about the loading is written before the run, which does not depend on it
    let noted := h.note
      s!"loaded {c.script.display} ({loaded.script.raw.length} bytes, {loaded.encoding.name})"
    have hstatus : (runHolding refusal g c h).1 =
        (Worker.run refusal loaded.script c.mode c.worker noted).1.status := by
      rw [runHolding, hload]
      dsimp only
      rcases Worker.run refusal loaded.script c.mode c.worker noted with ⟨_ | _ | _ | _, h'⟩ <;> rfl
    rw [hstatus, Config.ending?, hload]
    dsimp only
    cases hanswer : refusal c.worker.stackSize with
    | none =>
      have hsame := Supervised.ending_unheard loaded.script c.mode h noted.messages
      rw [(Worker.run_of_started hanswer _ _ _).1, ← hsame]
      rfl
    | some reason =>
      rw [Worker.run, hanswer]
      rfl

namespace Report

theorem status_ofConfig (refusal : ThreadRefusal) (c : Config) (files : FileSystem) :
    (ofConfig refusal c files).status =
      ((c.ending? refusal { files }).map fun ending =>
        (c.worker.faultPolicy.handsOn ending).status).getD (exitStatus exitHostError) := by
  let started : Host :=
    (({ files } : Host).note s!"{hostName} version: {hostVersion}").note "Host: linux"
  have hheld : (ofConfig refusal c files).status =
      (Host.runHolding refusal { name := c.lockName } c
        (started.note (LockGuard.acquiredLine { name := c.lockName }))).1 := rfl
  rw [hheld, Host.fst_runHolding]
  exact congrArg (fun ending? => (Option.map _ ending?).getD _)
    (c.ending?_unheard refusal { files } _)

/-- **An exit status of zero does not tell a success from every fault.** Whatever the script, the
    mode, the files, the rest of the configuration and what the system refuses: the status is zero
    exactly if the run ends with success, or in a structured fault that is contained and whose code
    has its low eight bits zero. -/
theorem status_eq_zero_iff (refusal : ThreadRefusal) (c : Config) (files : FileSystem) :
    (ofConfig refusal c files).status = 0 ↔
      c.ending? refusal { files } = some (.ok .success) ∨
      ∃ code, c.ending? refusal { files } = some (.fault (.structured code)) ∧
        c.worker.faultPolicy ≠ .propagate ∧ code.toNat % 256 = 0 := by
  have hresult := c.ending?_ne_fault refusal { files }
  rw [status_ofConfig]
  generalize c.ending? refusal { files } = ending? at hresult
  -- there is no run, or it returns an outcome, which is no fault, or it faults
  rcases ending? with _ | outcome | e | payload
  · have hstatus : exitStatus exitHostError ≠ 0 := by decide
    exact iff_of_false hstatus (by rintro (h | ⟨code, h, -⟩) <;> cases h)
  · have hcode : exitStatus outcome.exitCode = 0 ↔ outcome = .success :=
      exitStatus_exitCode_eq_zero_iff fun code hfault => hresult code (by rw [hfault])
    show exitStatus outcome.exitCode = 0 ↔ _
    rw [hcode]
    constructor
    · rintro rfl
      exact .inl rfl
    · rintro (h | ⟨code, h, -⟩) <;> cases h
      rfl
  · cases e
  · show (c.worker.faultPolicy.handsOn (.fault payload)).status = 0 ↔ _
    rw [FaultPolicy.status_handsOn_fault]
    constructor
    · intro hzero
      split at hzero
      · cases hzero
      · obtain ⟨code, rfl, hlow⟩ := Payload.structured_of_low_zero hzero
        exact .inr ⟨code, rfl, ‹_›, hlow⟩
    · rintro (h | ⟨code, h, hpolicy, hzero⟩) <;> cases h
      rw [if_neg hpolicy]
      exact hzero

def faultingFiles : FileSystem :=
  FileSystem.put { workingDirectory := [] } [Text.utf8 "a.js"] (Text.utf8 "fault 100")

/-- The process that runs it ends with the status of a success. -/
theorem status_hides_fault :
    ({ script := .ofText "a.js" } : Config).ending? (fun _ => none) { files := faultingFiles } =
        some (.fault (.structured 0x100)) ∧
      (ofConfig (fun _ => none) { script := .ofText "a.js" } faultingFiles).status = 0 :=
  ⟨by decide +kernel, by decide +kernel⟩

end Report
end ScriptHost
