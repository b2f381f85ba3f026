import ScriptHost.Proofs.Engine.Opened
import ScriptHost.Proofs.Engine.Serializing
import ScriptHost.Proofs.Host.Keeps

/- Serializing through the host. It asks for the size, has a buffer of that size filled,
   and believes neither phase alone: a size of zero is refused, and so is a fill that says
   another size than was told. The engine is able to report sizes wrongly in two ways, and
   each is caught by one of the two checks.

   What is proved:
     1. `serialize_of_serves` and `serialize_eq_ok` — when byte code is returned, what it
        is, and what the host is left as.
     2. `two_phases_agree` — the contract of the two phases, and that byte code is returned
        if and only if nothing stands in the way, and then it is that of the source. -/
namespace ScriptHost

namespace Host

variable {h h' : Host} {source : String} {bytes : List UInt8} {p : Program}

theorem serialize_of_serves (hserves : h.engine.Serves) (hsizes : h.engine.sizes = .exact)
    (hparse : Program.parse source = .ok p) :
    ∃ h', serialize source h = (.ok (Bytecode.encode p), h') ∧ h'.engine = h.engine ∧
      h'.files = h.files := by
  have hpos := Bytecode.length_encode_pos p
  have hsize : call .serializeScript (·.serializedSize source) h =
      (.ok (Bytecode.encode p).length, h) := by
    refine call_of_ok _ (f := (·.serializedSize source)) ?_
    rw [hserves.serializedSize hparse, hsizes]
    rfl
  have hfill : h.engine.serializeInto source
      (List.replicate (Bytecode.encode p).length 0) =
        (.ok (Bytecode.encode p).length, Bytecode.encode p, h.engine) := by
    rw [hserves.serializeInto hparse (by simp), hsizes]
    simp
  rw [serialize, Step.bind_apply_of_ok _ hsize, if_neg (by omega), Step.bind_apply_of_ok _
    (call_of_ok _ (a := ((Bytecode.encode p).length, Bytecode.encode p)) (e := h.engine) ?filled)]
  case filled =>
    rw [hfill]
    rfl
  dsimp only
  rw [if_neg (by simp)]
  exact ⟨_, rfl, rfl, rfl⟩

/-- What there is to know once byte code was returned. -/
structure Serialized (source : String) (h : Host) (bytes : List UInt8) (h' : Host) : Prop where
  serves : h.engine.Serves
  sizes : h.engine.sizes = .exact
  bytes : ∃ p, Program.parse source = .ok p ∧ bytes = Bytecode.encode p
  engine : h'.engine = h.engine
  hooks : h'.hooks = h.hooks

theorem serialize_eq_ok (hstep : serialize source h = (.ok bytes, h')) :
    Serialized source h bytes h' := by
  obtain ⟨required, h₁, hfirst, hrest⟩ := Step.bind_eq_ok hstep
  obtain ⟨e, hsize, rfl⟩ := call_eq_ok hfirst
  have hserves : h.engine.Serves := Engine.serves_of_serializedSize (congrArg Prod.fst hsize)
  obtain ⟨rfl, p, hparse, hrequired⟩ := Engine.serializedSize_eq_ok hsize
  have hpos := Bytecode.length_encode_pos p
  split at hrest
  · cases hrest
  rename_i hnonzero
  -- a size other than zero was told truthfully, so the buffer has room for the byte code
  have hasked : h.engine.sizes ≠ .zeroLength := by
    intro hzero
    exact hnonzero (by rw [hrequired, if_pos hzero])
  rw [if_neg hasked] at hrequired
  subst hrequired
  obtain ⟨⟨filled, buffer⟩, h₂, hsecond, hdone⟩ := Step.bind_eq_ok hrest
  obtain ⟨e', hfill, rfl⟩ := call_eq_ok hsecond
  dsimp only at hfill hdone
  rw [hserves.serializeInto hparse (by simp)] at hfill
  cases hfill
  split at hdone
  · -- a fill that says one byte less than was told is refused
    rw [if_pos (by omega)] at hdone
    cases hdone
  rename_i hshort
  rw [if_neg (by simp)] at hdone
  cases hdone
  refine ⟨hserves, ?_, ⟨p, hparse, by simp⟩, rfl, rfl⟩
  cases hreport : h.engine.sizes with
  | exact => rfl
  | zeroLength => contradiction
  | shortFill => contradiction

end Host

/-- The contract of the two phases for a source. With sizes reported truthfully, the size told
    first decides which buffers are filled, and with what. A source that does not compile is
    refused in both phases, with its exception left pending; otherwise neither phase changes
    the engine, however it reports sizes. -/
structure Engine.TwoPhase (e : Engine) (source : String) : Prop where
  filled : e.sizes = .exact → ∀ n, (e.serializedSize source).1 = .ok n →
    0 < n ∧ ∃ p, Program.parse source = .ok p ∧ n = (Bytecode.encode p).length ∧
      ∀ buffer : List UInt8,
        (n ≤ buffer.length → e.serializeInto source buffer =
          (.ok n, Bytecode.encode p ++ buffer.drop n, e)) ∧
        (buffer.length < n → e.serializeInto source buffer = (.error .invalidArgument, buffer, e))
  refused : ∀ err, Program.parse source = .error err →
    e.serializedSize source =
      (.error .scriptCompile, { e with exception := some err.toException }) ∧
    ∀ buffer, e.serializeInto source buffer =
      (.error .scriptCompile, buffer, { e with exception := some err.toException })
  unchanged : ∀ p, Program.parse source = .ok p →
    (∃ n, e.serializedSize source = (.ok n, e)) ∧
    ∀ buffer, (e.serializeInto source buffer).2.2 = e

theorem Engine.Serves.twoPhase {e : Engine} (h : e.Serves) (source : String) :
    e.TwoPhase source where
  filled hsizes n hn := by
    have hsize : e.serializedSize source = (.ok n, (e.serializedSize source).2) :=
      Prod.ext hn rfl
    obtain ⟨-, p, hparse, heq⟩ := serializedSize_eq_ok hsize
    rw [hsizes, if_neg (by decide)] at heq
    subst heq
    refine ⟨Bytecode.length_encode_pos p, p, hparse, rfl, fun buffer => ⟨fun hroom => ?_, ?_⟩⟩
    · rw [h.serializeInto hparse hroom, hsizes, if_neg (by decide)]
    · exact h.serializeInto_short hparse
  refused err hparse := ⟨h.serializedSize_error hparse, h.serializeInto_error hparse⟩
  unchanged p hparse := ⟨⟨_, h.serializedSize hparse⟩, h.engine_serializeInto hparse⟩

/-- **Serializing takes two phases that agree.** In an engine in which a context is current and
    no failure of the serializer was asked for, the two phases keep their contract for every
    source. So through the host, whatever failures were asked for and however sizes are
    reported, byte code is returned exactly if a context is current, no failure of the
    serializer was asked for, sizes are reported truthfully and the source compiles; and it
    is the byte code of the source, whole, alone and not empty. -/
theorem two_phases_agree :
    (∀ (e : Engine) (source : String), e.currentContext?.isSome →
      e.injected .serializeScript = none → e.TwoPhase source) ∧
    ∀ (h : Host) (source : String) (bytes : List UInt8),
      (∃ h', Host.serialize source h = (.ok bytes, h')) ↔
        h.engine.currentContext?.isSome ∧ h.engine.injected .serializeScript = none ∧
          h.engine.sizes = .exact ∧
          ∃ p, Program.parse source = .ok p ∧ bytes = Bytecode.encode p ∧ 0 < bytes.length := by
  refine ⟨fun e source hcurrent hfree => Engine.Serves.twoPhase ⟨hcurrent, hfree⟩ source,
    fun h source bytes => ⟨?_, ?_⟩⟩
  · rintro ⟨h', hstep⟩
    have hserialized := Host.serialize_eq_ok hstep
    obtain ⟨p, hparse, rfl⟩ := hserialized.bytes
    exact ⟨hserialized.serves.current, hserialized.serves.free, hserialized.sizes, p, hparse, rfl,
      Bytecode.length_encode_pos p⟩
  · rintro ⟨hcurrent, hfree, hsizes, p, hparse, rfl, -⟩
    obtain ⟨h', hstep, -⟩ := Host.serialize_of_serves ⟨hcurrent, hfree⟩ hsizes hparse
    exact ⟨h', hstep⟩

/-- With a context entered, `print hi` is serialized: a buffer with room for it is filled from
    the front, and the host has its byte code. Over an engine that fills short it has none. -/
theorem two_phases_agree_hi :
    let e := Engine.initial.opened .none
    let h : Host := { engine := e, files := { workingDirectory := [] } }
    let bytes := Bytecode.encode [⟨1, .act 1 (.print "hi")⟩]
    e.currentContext?.isSome ∧ e.injected .serializeScript = none ∧ e.sizes = .exact ∧
    (∀ buffer : List UInt8, bytes.length ≤ buffer.length → e.serializeInto "print hi" buffer =
      (.ok bytes.length, bytes ++ buffer.drop bytes.length, e)) ∧
    (∃ h', Host.serialize "print hi" h = (.ok bytes, h')) ∧
    ¬ ∃ bytes h', Host.serialize "print hi" { h with engine := e.setSizes .shortFill } =
      (.ok bytes, h') := by
  intro e h bytes
  have hparse : Program.parse "print hi" = .ok [⟨1, .act 1 (.print "hi")⟩] := by decide +kernel
  have hcurrent : e.currentContext?.isSome := by
    rw [Engine.currentContext?_opened]
    rfl
  obtain ⟨hphases, hserialize⟩ := two_phases_agree
  have hphases := hphases e "print hi" hcurrent rfl
  obtain ⟨⟨n, hsize⟩, -⟩ := hphases.unchanged _ hparse
  obtain ⟨hpos, p, hp, rfl, hfill⟩ := hphases.filled rfl n (congrArg Prod.fst hsize)
  cases hparse.symm.trans hp
  refine ⟨hcurrent, rfl, rfl, fun buffer => (hfill buffer).1, ?_, ?_⟩
  · exact (hserialize h "print hi" bytes).2 ⟨hcurrent, rfl, rfl, _, hparse, rfl, hpos⟩
  · rintro ⟨bytes', h', hstep⟩
    obtain ⟨-, -, hsizes, -⟩ := (hserialize _ "print hi" bytes').1 ⟨h', hstep⟩
    cases hsizes

end ScriptHost
