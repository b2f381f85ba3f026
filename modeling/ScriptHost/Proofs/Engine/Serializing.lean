import ScriptHost.Engine.Execution

/- The two phases of serializing. The first tells how many bytes the byte code has, the
   second writes it to the front of a buffer; both compile the source anew. An engine
   serves them if a context is current and no failure was asked for. What it then
   answers depends on the source, on the buffer and on how it reports sizes; whatever it
   answers, it is changed at most by the exception of a source that does not compile.

   What is proved: the answer of each phase to a source that compiles and to one that does
   not, and that an engine which answers with a size serves. -/
namespace ScriptHost

theorem Bytecode.length_encode_pos (p : Program) : 0 < (encode p).length := by
  simp only [encode, List.length_append, List.length_cons]
  omega

namespace Engine

variable {e e' : Engine} {source : String} {p : Program} {err : CompileError} {n : Nat}
  {buffer filled : List UInt8}

/-- Nothing stands in the way of the serializer: a context is current and no failure of it
    was asked for. -/
structure Serves (e : Engine) : Prop where
  current : e.currentContext?.isSome
  free : e.injected .serializeScript = none

theorem whenCurrent_cases {α : Type} (e : Engine) (fail : ErrorCode → α) (call : α) :
    (∃ code, e.whenCurrent .serializeScript fail call = fail code) ∨
      e.Serves ∧ e.whenCurrent .serializeScript fail call = call := by
  unfold whenCurrent
  split
  · exact .inl ⟨_, rfl⟩
  · rename_i hfree
    by_cases hnone : e.currentContext?.isNone = true
    · exact .inl ⟨.noCurrentContext, if_pos hnone⟩
    · refine .inr ⟨⟨?_, hfree⟩, if_neg hnone⟩
      simpa [Option.isSome_iff_ne_none] using hnone

theorem serves_of_serializedSize (h : (e.serializedSize source).1 = .ok n) : e.Serves := by
  unfold serializedSize at h
  rcases whenCurrent_cases e (fun code => ((.error code, e) : Except ErrorCode Nat × Engine)) _ with
    ⟨code, hfail⟩ | ⟨hserves, -⟩
  · rw [hfail] at h
    cases h
  · exact hserves

namespace Serves

theorem whenCurrent {α : Type} (h : e.Serves) (fail : ErrorCode → α) (call : α) :
    e.whenCurrent .serializeScript fail call = call := by
  have hcurrent := h.current
  simp [Engine.whenCurrent, h.free, Option.isNone_iff_eq_none, Option.isSome_iff_ne_none.1 hcurrent]

/-! A source that compiles. -/

theorem serializedSize (h : e.Serves) (hparse : Program.parse source = .ok p) :
    e.serializedSize source =
      (.ok (if e.sizes = .zeroLength then 0 else (Bytecode.encode p).length), e) := by
  rw [Engine.serializedSize, h.whenCurrent, compile, hparse]

/-- A buffer that is long enough has the byte code at its front and is as it was behind it. -/
theorem serializeInto (h : e.Serves) (hparse : Program.parse source = .ok p)
    (hroom : (Bytecode.encode p).length ≤ buffer.length) :
    e.serializeInto source buffer =
      (.ok (if e.sizes = .shortFill then (Bytecode.encode p).length - 1
        else (Bytecode.encode p).length),
        Bytecode.encode p ++ buffer.drop (Bytecode.encode p).length, e) := by
  rw [Engine.serializeInto, h.whenCurrent, compile, hparse]
  dsimp only
  rw [if_neg (Nat.not_lt.2 hroom)]

theorem serializeInto_short (h : e.Serves) (hparse : Program.parse source = .ok p)
    (hshort : buffer.length < (Bytecode.encode p).length) :
    e.serializeInto source buffer = (.error .invalidArgument, buffer, e) := by
  rw [Engine.serializeInto, h.whenCurrent, compile, hparse]
  dsimp only
  rw [if_pos hshort]

/-! A source that does not compile. -/

theorem serializedSize_error (h : e.Serves) (hparse : Program.parse source = .error err) :
    e.serializedSize source =
      (.error .scriptCompile, { e with exception := some err.toException }) := by
  rw [Engine.serializedSize, h.whenCurrent, compile, hparse]

theorem serializeInto_error (h : e.Serves) (hparse : Program.parse source = .error err)
    (buffer : List UInt8) :
    e.serializeInto source buffer =
      (.error .scriptCompile, buffer, { e with exception := some err.toException }) := by
  rw [Engine.serializeInto, h.whenCurrent, compile, hparse]

/-- No buffer is such that filling it would change the engine. -/
theorem engine_serializeInto (h : e.Serves) (hparse : Program.parse source = .ok p)
    (buffer : List UInt8) : (e.serializeInto source buffer).2.2 = e := by
  by_cases hroom : (Bytecode.encode p).length ≤ buffer.length
  · rw [h.serializeInto hparse hroom]
  · rw [h.serializeInto_short hparse (Nat.not_le.1 hroom)]

end Serves

theorem serializedSize_eq_ok (h : e.serializedSize source = (.ok n, e')) :
    e' = e ∧ ∃ p, Program.parse source = .ok p ∧
      n = if e.sizes = .zeroLength then 0 else (Bytecode.encode p).length := by
  have hserves : e.Serves := serves_of_serializedSize (congrArg Prod.fst h)
  cases hparse : Program.parse source with
  | error err =>
    rw [hserves.serializedSize_error hparse] at h
    cases h
  | ok p =>
    rw [hserves.serializedSize hparse] at h
    cases h
    exact ⟨rfl, p, rfl, rfl⟩

end Engine
end ScriptHost
