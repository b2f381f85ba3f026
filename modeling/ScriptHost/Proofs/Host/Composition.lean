import ScriptHost.Proofs.Host.Attempts

/- Judgements that follow the way in which steps are put together. One that holds of two
   steps holds of the one after the other, so it holds of each program of the host if it
   does of the steps that the program is made of. The programs are gone through here, once
   for all such judgements; for a judgement only its rules are left to be shown.

   `Judgement` asks for the least, what does nothing and what only writes a debug line, and
   takes the rest as it comes. `Calling A` holds of all calls of the engine that are
   attempted under an act with `A`, and of what catches an error or acts upon it. -/
namespace ScriptHost.Traced

/-- A judgement on steps of the host that holds of steps one after the other. -/
structure Judgement (J : {α : Type} → Traced Host α → Prop) : Prop where
  pure : ∀ {α : Type} (a : α), J (pure a)
  bind : ∀ {α β : Type} {m : Traced Host α} {next : α → Traced Host β}, J m →
    (∀ a, J (next a)) → J (m >>= next)
  debug : ∀ text, J (debug text)

/-- What serializing fails with if the engine has broken its promise. -/
inductive BrokenPromise : HostError → Prop where
  | zero : BrokenPromise (.invariant "serialized buffer size should not be zero")
  | changed (required filled : Nat) : BrokenPromise (.invariant
      s!"serialized buffer size changed between size query ({required}) and fill ({filled})")

namespace Judgement

variable {J : {α : Type} → Traced Host α → Prop}

theorem serialize (hJ : Judgement J) {source : String} (hsize : J (serializedSize source))
    (hfill : ∀ buffer, J (serializeInto source buffer))
    (hbroken : ∀ {e}, BrokenPromise e → J (fail e : Traced Host (List UInt8))) :
    J (serialize source) := by
  rw [Traced.serialize, logging_eq]
  refine hJ.bind hsize fun required => ?_
  split
  · exact hJ.bind (hJ.debug _) fun _ => hbroken .zero
  refine hJ.bind (hfill _) fun (filled, buffer) => ?_
  dsimp only
  split
  · exact hJ.bind (hJ.debug _) fun _ => hbroken (.changed required filled)
  · exact hJ.bind (hJ.debug _) fun _ => hJ.pure buffer

theorem emitHeader (hJ : Judgement J) {script : Script} {output : Path} {symbol : String}
    (hchecked : J (ofExcept (Host.checkSymbol symbol)))
    (hserialize : J (Traced.serialize script.text))
    (hwrite : ∀ content, J (writeFile output content)) : J (emitHeader script output symbol) :=
  hJ.bind hchecked fun _ => hJ.bind hserialize fun _ => hJ.bind (hwrite _) fun _ => hJ.debug _

theorem emitBytecode (hJ : Judgement J) {source : String} {output : Path}
    (hserialize : J (Traced.serialize source)) (hwrite : ∀ content, J (writeFile output content)) :
    J (emitBytecode source output) :=
  hJ.bind hserialize fun _ => hJ.bind (hwrite _) fun _ => hJ.debug _

end Judgement

/-- The judgement holds of the programs that open and close runtimes and contexts. -/
structure Opening (J : {α : Type} → Traced Host α → Prop) : Prop where
  createRuntime : ∀ a, J (createRuntime a)
  enterNew : ∀ g, J (enterNew g)
  openContext : ∀ a, J (openContext a)
  exit : ∀ scope, J (exit scope)
  dispose : ∀ g, J (dispose g)
  close : ∀ g, J (close g)

/-- The judgement holds of the programs that make byte code, read it or write it. -/
structure Emitting (J : {α : Type} → Traced Host α → Prop) : Prop where
  serialize : ∀ source, J (serialize source)
  readBytecode : ∀ path, J (readBytecode path)
  emitHeader : ∀ script output symbol, J (emitHeader script output symbol)
  emitBytecode : ∀ source output, J (emitBytecode source output)

/-- A judgement that holds of what is attempted under acts with `A`, whatever it returns. -/
structure Calling (A : Act → Prop) (J : {α : Type} → Traced Host α → Prop) : Prop
    extends Judgement J where
  call : ∀ {α : Type} {act : Act} {op : Operation} {f : Engine → Except ErrorCode α × Engine}
    (h : act.Calls op (fun e => .unit (f e).1) fun e => (f e).2), A act → J (call act op f h)
  ofExcept : ∀ {α : Type} (r : Except HostError α), (∀ r, A (.host r)) → J (ofExcept r)
  fail : ∀ {α : Type} (e : HostError), (∀ r, A (.host r)) → J (fail e : Traced Host α)
  onFiles : ∀ {α : Type} (f : FileSystem → Except HostError α × FileSystem),
    (∀ r, A (.files r)) → J (onFiles f)
  settle : ∀ {α : Type} (r : Except HostError α), J (settle r)
  attempt : ∀ {α : Type} {m : Traced Host α}, J m → J m.attempt
  orDrop : ∀ {α : Type} {m : Traced Host α} {g : RuntimeGuard}, A (.drop g) → J m → J (m.orDrop g)

namespace Calling

variable {A : Act → Prop} {J : {α : Type} → Traced Host α → Prop} (hJ : Calling A J)
include hJ

section
variable (hopens : ∀ {act : Act}, act.kind = .opens → A act)
include hopens

theorem createRuntime (a : Attributes) : J (createRuntime a) :=
  hJ.bind (hJ.call _ (hopens rfl)) fun _ => hJ.bind (hJ.debug _) fun _ => hJ.pure _

/-- Creating a context and entering it, but for the guard that is dropped if that fails. -/
theorem createContext_enter (g : RuntimeGuard) : J (createContext g >>= enter g) :=
  hJ.bind (hJ.call _ (hopens rfl)) fun _ => hJ.bind (hJ.call _ (hopens rfl)) fun _ =>
    hJ.bind (hJ.call _ (hopens rfl)) fun _ => hJ.bind (hJ.debug _) fun _ => hJ.pure _

theorem opening (hcloses : ∀ {act : Act}, act.kind = .closes → A act) : Opening J := by
  have henterNew : ∀ g, J (enterNew g) := fun g =>
    hJ.orDrop (hcloses rfl) (hJ.createContext_enter hopens g)
  have hexit : ∀ scope, J (exit scope) := fun scope =>
    hJ.bind (hJ.debug _) fun _ => hJ.call _ (hcloses rfl)
  have hdispose : ∀ g, J (dispose g) := fun g =>
    hJ.bind (hJ.debug _) fun _ => hJ.call _ (hcloses rfl)
  refine ⟨hJ.createRuntime hopens, henterNew, fun a => ?_, hexit, hdispose, fun g => ?_⟩
  · exact hJ.bind (hJ.createRuntime hopens a) fun g => hJ.bind (henterNew g) fun _ => hJ.pure _
  · exact hJ.bind (hJ.attempt (hexit g.scope)) fun _ =>
      hJ.bind (hJ.attempt (hdispose g.runtime)) fun _ => hJ.settle _

end

theorem emitting (hcompiles : ∀ {act : Act}, act.kind = .compiles → A act)
    (hhost : ∀ r, A (.host r)) (hfiles : ∀ r, A (.files r)) : Emitting J := by
  have hserialize : ∀ source, J (serialize source) := fun source =>
    hJ.serialize (hJ.call _ (hcompiles rfl)) (fun _ => hJ.call _ (hcompiles rfl))
      fun _ => hJ.fail _ hhost
  exact ⟨hserialize, fun _ => hJ.onFiles _ hfiles,
    fun script _ _ => hJ.emitHeader (hJ.ofExcept _ hhost) (hserialize script.text)
      fun _ => hJ.onFiles _ hfiles,
    fun source _ => hJ.emitBytecode (hserialize source) fun _ => hJ.onFiles _ hfiles⟩

end Calling
end ScriptHost.Traced
