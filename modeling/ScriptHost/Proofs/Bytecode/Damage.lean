import ScriptHost.Engine.Execution
import ScriptHost.Proofs.Bytecode.Canonical
import ScriptHost.Proofs.Engine.Opened

/- Byte code that lost its end or got one too many. The count in front says how many
   instructions there are, and each of them says where it ends; so a reader of the whole
   is done exactly at the last byte, and what stands behind that byte is refused. A byte
   code whose end is missing is refused for the same reason: were it accepted, it would
   be the byte code of some other program, and the missing end would stand behind it.

   What is proved:
     1. `decode_encode_append` — nothing may follow the byte code of a program.
     2. `decode_eq_none_of_damaged` — a part of it from the front is no byte code either.
     3. `damaged_never_runs` — an engine that is handed either runs nothing. -/
namespace ScriptHost

/-- Byte code that does not decode is refused: all it leaves is the journal's note of the
    attempt. -/
theorem Engine.runSerialized_of_undecodable {e : Engine} {bytes : List UInt8}
    (hcurrent : e.currentContext?.isSome) (hfree : e.injected .runSerializedScript = none)
    (hbytes : Bytecode.decode bytes = none) (tag : SourceContext) :
    e.runSerialized bytes tag =
      ⟨.error .badSerializedScript,
        { e with journal := e.journal ++ [.runSerializedScript tag] }, []⟩ := by
  have hcontext : e.currentContext?.isNone = false := by simpa using hcurrent
  simp [runSerialized, whenCurrent, hfree, hcontext, hbytes, record]

namespace Bytecode

theorem decode_encode_append {p : Program} (hfits : p.Fits) (hshallow : p.Shallow)
    {extra : List UInt8} (hextra : extra ≠ []) : decode (encode p ++ extra) = none := by
  obtain ⟨b, later, rfl⟩ := List.exists_cons_of_ne_nil hextra
  have hread := readInstructions_append hfits.2 hshallow 0 (b :: later)
  rw [decode_encode_append_eq hfits.1]
  simpa [readInstructions] using hread

/-- The byte code of a program with bytes missing at its end, or with bytes added there. -/
def Damaged (p : Program) (bytes : List UInt8) : Prop :=
  (bytes <+: encode p ∨ encode p <+: bytes) ∧ bytes ≠ encode p

theorem decode_eq_none_of_damaged {p : Program} (hfits : p.Fits) (hshallow : p.Shallow)
    {bytes : List UInt8} (h : Damaged p bytes) : decode bytes = none := by
  obtain ⟨⟨lost, hlost⟩ | ⟨extra, hextra⟩, hne⟩ := h
  · cases hdecode : decode bytes with
    | none => rfl
    | some q =>
      -- the bytes would be those of `q`, and `p` would be `q` with the lost bytes behind it
      obtain ⟨hq, hqfits, hqshallow⟩ := encode_of_decode hdecode
      have hnonempty : lost ≠ [] := by
        rintro rfl
        exact hne (by simpa using hlost)
      have hnone : decode (encode p) = none := by
        rw [← hlost, ← hq]
        exact decode_encode_append hqfits hqshallow hnonempty
      rw [decode_encode_of_shallow hfits hshallow] at hnone
      cases hnone
  · have hnonempty : extra ≠ [] := by
      rintro rfl
      exact hne (by simpa using hextra.symm)
    rw [← hextra]
    exact decode_encode_append hfits hshallow hnonempty

/-- **Damaged byte code never runs.** The byte code of a program decodes, but not with bytes
    missing at its end or added there; and an engine in which a context is current and byte
    code can be run answers to it that it is bad byte code. It calls no hook, and the journal
    with one more entry is all that it leaves changed. -/
theorem damaged_never_runs {p : Program} (hfits : p.Fits) (hshallow : p.Shallow) :
    decode (encode p) = some p ∧
    ∀ bytes, Damaged p bytes → decode bytes = none ∧
      ∀ (e : Engine) (tag : SourceContext), e.currentContext?.isSome →
        e.injected .runSerializedScript = none →
        e.runSerialized bytes tag =
          ⟨.error .badSerializedScript,
            { e with journal := e.journal ++ [.runSerializedScript tag] }, []⟩ := by
  refine ⟨decode_encode_of_shallow hfits hshallow, fun bytes hdamaged => ?_⟩
  have hnone := decode_eq_none_of_damaged hfits hshallow hdamaged
  exact ⟨hnone, fun e tag hcurrent hfree => e.runSerialized_of_undecodable hcurrent hfree hnone tag⟩

/-- An engine with a context entered refuses the byte code of `defer throw é` without its last
    byte, which is inside a character, and with its only instruction written twice. -/
theorem damaged_never_runs_throw :
    let p : Program := [⟨1, .defer 1 (.act 7 (.throw "é"))⟩]
    let e := Engine.initial.opened .none
    p.Fits ∧ p.Shallow ∧ e.currentContext?.isSome ∧ e.injected .runSerializedScript = none ∧
    ∀ bytes, bytes = throwBytes.dropLast ∨ bytes = throwBytes ++ throwBytes.drop 9 →
      Damaged p bytes ∧ decode bytes = none ∧
      e.runSerialized bytes ⟨0⟩ = ⟨.error .badSerializedScript,
        { e with journal := e.journal ++ [.runSerializedScript ⟨0⟩] }, []⟩ := by
  intro p e
  have hdecode : decode throwBytes = some p := by decide +kernel
  obtain ⟨hencode, hfits, hshallow⟩ := encode_of_decode hdecode
  have hcurrent : e.currentContext?.isSome := by
    rw [Engine.currentContext?_opened]
    rfl
  refine ⟨hfits, hshallow, hcurrent, rfl, fun bytes hbytes => ?_⟩
  have hdamaged : Damaged p bytes := by
    rw [Damaged, hencode]
    rcases hbytes with rfl | rfl
    · exact ⟨.inl (List.dropLast_prefix _), by decide⟩
    · exact ⟨.inr (List.prefix_append _ _), by decide⟩
  obtain ⟨hnone, hrun⟩ := (damaged_never_runs hfits hshallow).2 bytes hdamaged
  exact ⟨hdamaged, hnone, hrun e ⟨0⟩ hcurrent rfl⟩

end Bytecode
end ScriptHost
