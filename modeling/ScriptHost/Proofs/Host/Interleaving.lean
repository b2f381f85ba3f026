import Mathlib.Data.List.Perm.Basic
import ScriptHost.Proofs.Engine.Nested
import ScriptHost.Proofs.Host.Guarding

/- Guards ended in any order. Opened contexts are held side by side and ended as whoever
   holds them likes. A guard that is ended restores the context it remembers; that one may
   be gone by then, and then the restoration is refused and what is current stays so. If
   that is the guard's own context, its runtime is in use and cannot be disposed of: the
   guard is stranded, and nobody holds its runtime any more.

   What is proved:
     1. `Guarded.Tracks.after` — what holds of the guards that are held, one case for
        each act: each has the one context of its runtime, and the live runtimes are those
        from before, those held and those of stranded guards.
     2. `live_after_guards` — once every guard was ended, a runtime is live if it was before
        or if it was left by a stranded guard, and only then.
   Three guards are enough for one that is stranded, as `guards_out_of_order` shows: the
   second remembers the first, which goes first, and the end of the third makes the
   second's context current again. -/
namespace ScriptHost

/-- A host with the guards that are held on it. -/
structure Guarded where
  host : Host
  held : List ActiveContext := []

/-- What is done with guards. The guard to be ended is named by its place among those held. -/
inductive GuardAct where
  | opening (attributes : Attributes)
  | ending (place : Nat) (how : GuardEnd)
  deriving DecidableEq, Repr

/-- A guard cannot be ended as it should: its context is current, and the one that was current
    before is gone. -/
def ActiveContext.stranded (g : ActiveContext) (e : Engine) : Bool :=
  e.current = some g.scope.context && g.scope.previous.any fun id => !e.contexts.has id

namespace Guarded

/-- What is held after an act. -/
def after (s : Guarded) : GuardAct → Guarded
  | .opening attributes =>
    match Host.openContext attributes s.host with
    | (.ok g, h) => ⟨h, s.held ++ [g]⟩
    | (_, h) => { s with host := h }
  | .ending place how =>
    match s.held[place]? with
    | some g => ⟨(g.endBy how s.host).2, s.held.eraseIdx place⟩
    | none => s

/-- The runtime an act leaves without anyone who holds it. -/
def left (s : Guarded) : GuardAct → List RuntimeId
  | .opening _ => []
  | .ending place _ =>
    match s.held[place]? with
    | some g => if g.stranded s.host.engine then [g.runtime.runtime] else []
    | none => []

def afterAll (s : Guarded) (acts : List GuardAct) : Guarded :=
  acts.foldl after s

/-- The runtimes that acts leave without anyone who holds them. -/
def leftAll (s : Guarded) : List GuardAct → List RuntimeId
  | [] => []
  | act :: rest => s.left act ++ (s.after act).leftAll rest

def runtimes (s : Guarded) : List RuntimeId :=
  s.held.map (·.runtime.runtime)

/-- What holds of the guards on a host whose runtimes before them were `base`, with the runtimes
    of `stranded` left behind. -/
structure Tracks (base stranded : List RuntimeId) (s : Guarded) : Prop where
  wellFormed : s.host.engine.WellFormed
  free : ∀ op, s.host.engine.injected op = none
  live : s.host.engine.runtimes.keys.Perm (base ++ s.runtimes ++ stranded)
  context : ∀ g ∈ s.held, ∀ id,
    (id, g.runtime.runtime) ∈ s.host.engine.owned ↔ id = g.scope.context
  previous : ∀ g ∈ s.held, g.scope.previous ≠ some g.scope.context

end Guarded

/-! The engine as one guard is ended. -/

namespace Engine

theorem WellFormed.nodup_runtimes {e : Engine} (h : e.WellFormed) : e.runtimes.keys.Nodup :=
  (List.nodup_append.1 h.distinct).1.of_map _

/-- An engine with a runtime and its contexts gone. What is current may have changed besides. -/
structure Lacks (e : Engine) (r : RuntimeId) (e' : Engine) : Prop where
  runtimes : e'.runtimes.keys = e.runtimes.keys.filter (· ≠ r)
  contexts : e'.owned = e.owned.filter fun entry => entry.2 ≠ r
  injected : e'.injected = e.injected
  wellFormed : e'.WellFormed

theorem lacks_withoutRuntime {e : Engine} {r : RuntimeId} (h : e.WellFormed)
    (hcurrent : e.currentIsOf r = false) : Lacks e r (e.withoutRuntime r) where
  runtimes := by
    rw [Table.keys, Table.keys, List.filter_map]
    rfl
  contexts := owned_withoutRuntime e r
  injected := rfl
  wellFormed := h.withoutRuntime hcurrent

theorem setCurrentContext_of_gone {e : Engine} {id : ContextId}
    (hfree : e.injected .setCurrentContext = none) (hid : id ∉ e.contexts.keys) :
    e.setCurrentContext (some id) = (.error .invalidArgument, e) := by
  have hhas : e.contexts.has id = false := by
    rw [← Bool.not_eq_true, Table.has_iff]
    exact hid
  rw [setCurrentContext, unlessInjected_of_none _ hfree, Option.any_some, hhas]
  rfl

/-- A runtime whose context is current cannot be disposed of. -/
theorem disposeRuntime_of_current {e : Engine} {r : RuntimeId}
    (hcurrent : e.currentIsOf r = true) : (e.disposeRuntime r).2 = e := by
  rcases e.disposeRuntime_cases r with ⟨code, heq⟩ | ⟨hnot, -⟩
  · rw [heq]
  · cases hcurrent.symm.trans hnot

end Engine

namespace ActiveContext

open Engine (Lacks)

/-- What the engine is asked when a guard is ended. -/
def released (g : ActiveContext) (e : Engine) : Engine :=
  ((e.setCurrentContext g.scope.previous).2.disposeRuntime g.runtime.runtime).2

theorem engine_endBy (g : ActiveContext) (how : GuardEnd) {h : Host}
    (hfree : ∀ op, h.engine.injected op = none) :
    (g.endBy how h).2.engine = g.released h.engine := by
  obtain ⟨h', hended, hengine⟩ := g.endBy_apply how hfree
  rw [hended]
  exact hengine

/-- The guard's runtime is live and has the guard's context only. -/
structure Owns (g : ActiveContext) (e : Engine) : Prop where
  live : g.runtime.runtime ∈ e.runtimes.keys
  context : ∀ id, (id, g.runtime.runtime) ∈ e.owned ↔ id = g.scope.context

section
variable {g : ActiveContext} {e : Engine} (hwell : e.WellFormed)
  (hfree : ∀ op, e.injected op = none) (howns : g.Owns e)

include hwell howns in
theorem Owns.currentIsOf_iff :
    e.currentIsOf g.runtime.runtime = true ↔ e.current = some g.scope.context := by
  rw [hwell.currentIsOf_iff]
  constructor
  · rintro ⟨id, hid, howned⟩
    rw [hid, (howns.context id).1 howned]
  · intro hcurrent
    exact ⟨_, hcurrent, (howns.context _).2 rfl⟩

include hwell hfree howns in
/-- A runtime whose context is not current can be disposed of. -/
theorem Owns.lacks (hcurrent : e.current ≠ some g.scope.context) :
    Lacks e g.runtime.runtime (e.disposeRuntime g.runtime.runtime).2 := by
  have hnot : e.currentIsOf g.runtime.runtime = false := by
    rw [← Bool.not_eq_true, howns.currentIsOf_iff hwell]
    exact hcurrent
  rw [Engine.disposeRuntime_of_free (hfree _) howns.live hnot]
  exact Engine.lacks_withoutRuntime hwell hnot

include hwell hfree howns in
/-- A stranded guard leaves the engine as it is. -/
theorem Owns.released_of_stranded (hstranded : g.stranded e = true) : g.released e = e := by
  rw [stranded, Bool.and_eq_true, decide_eq_true_eq, Option.any_eq_true] at hstranded
  obtain ⟨hcurrent, id, hid, hgone⟩ := hstranded
  have hrefused := Engine.setCurrentContext_of_gone (hfree .setCurrentContext)
    (show id ∉ e.contexts.keys by rw [← Table.has_iff]; simpa using hgone)
  rw [released, hid, hrefused]
  exact Engine.disposeRuntime_of_current ((howns.currentIsOf_iff hwell).2 hcurrent)

include hwell hfree howns in
/-- Any other guard takes its runtime with it: the context it remembers is made current, or
    another one is current already. -/
theorem Owns.lacks_released (hprevious : g.scope.previous ≠ some g.scope.context)
    (hstranded : g.stranded e = false) : Lacks e g.runtime.runtime (g.released e) := by
  by_cases hthere : ∀ id, g.scope.previous = some id → id ∈ e.contexts.keys
  · have hrestored : g.Owns (e.withCurrent g.scope.previous) := ⟨howns.live, howns.context⟩
    have hlacks := hrestored.lacks (hwell.withCurrent hthere) hfree hprevious
    rw [released, Engine.setCurrentContext_of_free (hfree _) hthere]
    exact ⟨hlacks.runtimes, hlacks.contexts, hlacks.injected, hlacks.wellFormed⟩
  · obtain ⟨id, hid, hgone⟩ : ∃ id, g.scope.previous = some id ∧ id ∉ e.contexts.keys := by
      simpa using hthere
    have hcurrent : e.current ≠ some g.scope.context := by
      intro hcurrent
      have hhas : e.contexts.has id = false := by
        rw [← Bool.not_eq_true, Table.has_iff]
        exact hgone
      simp [stranded, hcurrent, hid, hhas] at hstranded
    -- the restoration is refused, and what stays current is none of the guard's
    rw [released, hid, Engine.setCurrentContext_of_gone (hfree _) hgone]
    exact howns.lacks hwell hfree hcurrent

end

end ActiveContext

/-! The engine as a guard is opened. -/

theorem Engine.owned_opened {e : Engine} (h : e.WellFormed) (a : Attributes) :
    (e.opened a).owned = e.owned ++ [(⟨e.issued + 2⟩, ⟨e.issued + 1⟩)] :=
  owned_withContext (h.withRuntime a) ⟨e.issued + 1⟩

namespace Guarded

variable {base stranded : List RuntimeId} {s : Guarded}

/-! What an act does to the guards. -/

namespace Tracks

theorem live_of_mem (h : Tracks base stranded s) {g : ActiveContext} (hg : g ∈ s.held) :
    g.runtime.runtime ∈ s.host.engine.runtimes.keys := by
  apply h.live.mem_iff.2
  exact List.mem_append_left _ (List.mem_append_right _ (List.mem_map_of_mem hg))

theorem owns (h : Tracks base stranded s) {g : ActiveContext} (hg : g ∈ s.held) :
    g.Owns s.host.engine :=
  ⟨h.live_of_mem hg, h.context g hg⟩

theorem opening (h : Tracks base stranded s) (a : Attributes) :
    Tracks base stranded (s.after (.opening a)) := by
  obtain ⟨h₁, hopen, hengine⟩ := Host.openContext_apply h.wellFormed h.free a
  have hnew : (⟨s.host.engine.issued + 1⟩ : RuntimeId) ∉ s.host.engine.runtimes.keys :=
    h.wellFormed.not_mem_runtimes (Nat.lt_succ_self _)
  rw [after, hopen]
  constructor
  · show h₁.engine.WellFormed
    rw [hengine]
    exact (Engine.entered_opened h.wellFormed (h.free _) a).wellFormed
  · show ∀ op, h₁.engine.injected op = none
    rw [hengine]
    exact h.free
  · show h₁.engine.runtimes.keys.Perm _
    rw [hengine, runtimes, List.map_append]
    have hkeys : (s.host.engine.opened a).runtimes.keys =
        s.host.engine.runtimes.keys ++ [⟨s.host.engine.issued + 1⟩] :=
      h.wellFormed.keys_withRuntime a
    rw [hkeys]
    refine (h.live.append_right _).trans ?_
    simp only [runtimes, List.append_assoc]
    exact .append_left _ (.append_left _ List.perm_append_comm)
  · intro g hg id
    show (id, g.runtime.runtime) ∈ h₁.engine.owned ↔ _
    rw [hengine, Engine.owned_opened h.wellFormed, List.mem_append, List.mem_singleton]
    rcases List.mem_append.1 hg with hg | hg
    · -- the runtime is one that was there before
      have hne : (id, g.runtime.runtime) ≠
          (⟨s.host.engine.issued + 2⟩, ⟨s.host.engine.issued + 1⟩) := by
        intro heq
        rw [← (Prod.mk.inj heq).2] at hnew
        exact hnew (h.live_of_mem hg)
      rw [or_iff_left hne]
      exact h.context g hg id
    · rw [List.mem_singleton.1 hg]
      have hnone : (id, (⟨s.host.engine.issued + 1⟩ : RuntimeId)) ∉ s.host.engine.owned :=
        fun howned => hnew (h.wellFormed.live_of_owned howned)
      rw [or_iff_right hnone, Prod.mk.injEq, and_iff_left rfl]
  · intro g hg
    rcases List.mem_append.1 hg with hg | hg
    · exact h.previous g hg
    · -- what was current before has an older number than the new context
      rw [List.mem_singleton.1 hg]
      intro hcurrent
      exact h.wellFormed.not_mem_contexts (Nat.lt_add_of_pos_right (by decide))
        (h.wellFormed.current _ hcurrent)

theorem perm_of_held (h : Tracks base stranded s) {place : Nat} (hplace : place < s.held.length) :
    s.host.engine.runtimes.keys.Perm (s.held[place].runtime.runtime ::
      (base ++ (s.held.eraseIdx place).map (·.runtime.runtime) ++ stranded)) := by
  have hheld : s.runtimes.Perm (s.held[place].runtime.runtime ::
      (s.held.eraseIdx place).map (·.runtime.runtime)) :=
    ((List.getElem_cons_eraseIdx_perm hplace).symm.map _)
  calc s.host.engine.runtimes.keys.Perm (base ++ s.runtimes ++ stranded) := h.live
    List.Perm _ (base ++ s.held[place].runtime.runtime ::
        (s.held.eraseIdx place).map (·.runtime.runtime) ++ stranded) :=
      (hheld.append_left _).append_right _
    List.Perm _ _ := List.perm_middle.append_right _

/-- Without a guard whose runtime stays, one more runtime is left behind. -/
theorem abandoned (h : Tracks base stranded s) {place : Nat} (hplace : place < s.held.length)
    {host : Host} (hengine : host.engine = s.host.engine) :
    Tracks base (stranded ++ [s.held[place].runtime.runtime])
      ⟨host, s.held.eraseIdx place⟩ where
  wellFormed := by
    rw [hengine]
    exact h.wellFormed
  free := by
    rw [hengine]
    exact h.free
  live := by
    rw [hengine, ← List.append_assoc]
    exact (h.perm_of_held hplace).trans (List.perm_append_singleton _ _).symm
  context := fun g hg => by
    rw [hengine]
    exact h.context g (List.eraseIdx_subset hg)
  previous := fun g hg => h.previous g (List.eraseIdx_subset hg)

/-- Without a guard whose runtime goes, the others stand as they did. -/
theorem released (h : Tracks base stranded s) {place : Nat} (hplace : place < s.held.length)
    {host : Host} (hlacks : Engine.Lacks s.host.engine s.held[place].runtime.runtime host.engine) :
    Tracks base stranded ⟨host, s.held.eraseIdx place⟩ := by
  have hperm := h.perm_of_held hplace
  have hnot := (List.nodup_cons.1 (hperm.nodup_iff.1 h.wellFormed.nodup_runtimes)).1
  exact {
    wellFormed := hlacks.wellFormed
    free := by
      rw [hlacks.injected]
      exact h.free
    live := by
      rw [hlacks.runtimes]
      refine (hperm.filter _).trans ?_
      rw [List.filter_cons_of_neg (by simp), List.filter_eq_self.2]
      · exact .refl _
      · intro r hr
        simpa using ne_of_mem_of_not_mem hr hnot
    context := fun g hg id => by
      have hother : g.runtime.runtime ∈
          base ++ (s.held.eraseIdx place).map (·.runtime.runtime) ++ stranded :=
        List.mem_append_left _ (List.mem_append_right _ (List.mem_map_of_mem hg))
      have hne := ne_of_mem_of_not_mem hother hnot
      rw [hlacks.contexts, List.mem_filter, ← h.context g (List.eraseIdx_subset hg) id]
      simp [hne]
    previous := fun g hg => h.previous g (List.eraseIdx_subset hg) }

theorem ending (h : Tracks base stranded s) (place : Nat) (how : GuardEnd) :
    Tracks base (stranded ++ s.left (.ending place how)) (s.after (.ending place how)) := by
  rw [left, after]
  cases hplace : s.held[place]? with
  | none =>
    rw [List.append_nil]
    exact h
  | some g =>
    obtain ⟨hlt, rfl⟩ := List.getElem?_eq_some_iff.1 hplace
    have hmem : s.held[place] ∈ s.held := List.getElem_mem hlt
    have hengine := s.held[place].engine_endBy how h.free
    dsimp only
    cases hstranded : s.held[place].stranded s.host.engine with
    | true =>
      rw [(h.owns hmem).released_of_stranded h.wellFormed h.free hstranded] at hengine
      exact h.abandoned hlt hengine
    | false =>
      have hlacks := (h.owns hmem).lacks_released h.wellFormed h.free (h.previous _ hmem) hstranded
      rw [← hengine] at hlacks
      rw [if_neg Bool.false_ne_true, List.append_nil]
      exact h.released hlt hlacks

theorem after (h : Tracks base stranded s) (act : GuardAct) :
    Tracks base (stranded ++ s.left act) (s.after act) := by
  cases act with
  | opening a =>
    rw [left, List.append_nil]
    exact h.opening a
  | ending place how => exact h.ending place how

theorem afterAll (h : Tracks base stranded s) (acts : List GuardAct) :
    Tracks base (stranded ++ s.leftAll acts) (s.afterAll acts) := by
  induction acts generalizing s stranded with
  | nil =>
    rw [leftAll, List.append_nil]
    exact h
  | cons act rest ih =>
    rw [leftAll, ← List.append_assoc]
    exact ih (h.after act)

end Tracks

end Guarded

namespace Host

open Guarded (leftAll)

/-- **Only a stranded guard leaks.** In any reachable state with no failure injected, and for any
    openings and endings of guards in any order: once every guard was ended, the runtimes that
    are live are those that were before and those of the guards that were stranded when they were
    ended; and each of the latter is one that an opening created. -/
theorem live_after_guards {h : Host} (hreach : h.engine.Reachable)
    (hfree : ∀ op, h.engine.injected op = none) (acts : List GuardAct)
    (hended : (Guarded.afterAll ⟨h, []⟩ acts).held = []) :
    (∀ r, r ∈ (Guarded.afterAll ⟨h, []⟩ acts).host.engine.runtimes.keys ↔
      r ∈ h.engine.runtimes.keys ∨ r ∈ leftAll ⟨h, []⟩ acts) ∧
    ∀ r ∈ leftAll ⟨h, []⟩ acts, r ∉ h.engine.runtimes.keys := by
  have hbegin : Guarded.Tracks h.engine.runtimes.keys [] ⟨h, []⟩ := {
    wellFormed := Engine.wellFormed_of_reachable hreach
    free := hfree
    live := by
      rw [Guarded.runtimes, List.map_nil, List.append_nil, List.append_nil]
    context := fun _ hg => by cases hg
    previous := fun _ hg => by cases hg }
  have hafter := hbegin.afterAll acts
  have hlive : (Guarded.afterAll ⟨h, []⟩ acts).host.engine.runtimes.keys.Perm
      (h.engine.runtimes.keys ++ leftAll ⟨h, []⟩ acts) := by
    have hperm := hafter.live
    rwa [Guarded.runtimes, hended, List.map_nil, List.append_nil, List.nil_append] at hperm
  have hnodup := hlive.nodup_iff.1 hafter.wellFormed.nodup_runtimes
  constructor
  · intro r
    rw [hlive.mem_iff, List.mem_append]
  · intro r hr hbefore
    exact (List.nodup_append.1 hnodup).2.2 r hbefore r hr rfl

def idle : Host where
  files := { workingDirectory := [] }

/-- Three guards, of which the first is ended first and the second last: when the third goes, the
    context of the second is made current again, and the one that the second remembers is gone. -/
def outOfOrder : List GuardAct :=
  [.opening .none, .opening .none, .opening .none,
    .ending 0 .asked, .ending 1 .asked, .ending 0 .asked]

theorem live_after_guards_out_of_order :
    (Guarded.afterAll ⟨idle, []⟩ outOfOrder).held = [] ∧
      ∀ r, r ∈ (Guarded.afterAll ⟨idle, []⟩ outOfOrder).host.engine.runtimes.keys ↔ r = ⟨3⟩ := by
  have hended : (Guarded.afterAll ⟨idle, []⟩ outOfOrder).held = [] := by decide +kernel
  have hleft : leftAll ⟨idle, []⟩ outOfOrder = [⟨3⟩] := by decide +kernel
  refine ⟨hended, fun r => ?_⟩
  rw [(live_after_guards .initial (fun _ => rfl) outOfOrder hended).1 r, hleft, List.mem_singleton]
  exact or_iff_right List.not_mem_nil

/-- So guards that are all ended can leave a runtime that was not there before them. -/
theorem guards_out_of_order :
    ¬∀ (h : Host) (acts : List GuardAct), h.engine.Reachable →
      (∀ op, h.engine.injected op = none) → (Guarded.afterAll ⟨h, []⟩ acts).held = [] →
      ∀ r ∈ (Guarded.afterAll ⟨h, []⟩ acts).host.engine.runtimes.keys,
        r ∈ h.engine.runtimes.keys := by
  intro hnone
  have hended : (Guarded.afterAll ⟨idle, []⟩ outOfOrder).held = [] := by decide +kernel
  have hlive : (⟨3⟩ : RuntimeId) ∈
      (Guarded.afterAll ⟨idle, []⟩ outOfOrder).host.engine.runtimes.keys := by decide +kernel
  exact List.not_mem_nil (hnone idle outOfOrder .initial (fun _ => rfl) hended _ hlive)

end Host
end ScriptHost
