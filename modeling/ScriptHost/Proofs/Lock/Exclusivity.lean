import ScriptHost.Lock
import ScriptHost.Proofs.Table

/- The engine lock over any run. The lock knows the name of its holder and nothing of the
   guards, and a guard that frees it does not look at who holds it. That no guard takes the
   lock from another rests on what the two have in common at every point: at most one guard
   in scope is without its mark, and the name in the lock is the name of that guard.

   A release is two acts, for the guard that was released goes out of scope later: `free`
   is the first of them and `ending` by `dropped` the second, and anything may come between
   them, such as another holder on another thread.

   What is proved:
     1. `Exclusive.turn` — all that an act can do: nothing, take the lock that nobody holds,
        or free it for the guard that holds it.
     2. `Exclusive.afterAll` — what the guards and the lock have in common stays so.
     3. `Holds.afterAll` — a guard keeps the lock until it is ended itself.
     4. `lock_exclusive` — the lock over any acts, from a lock that nobody holds. -/
namespace ScriptHost

/-- The ways in which a guard goes out of scope. -/
inductive LockEnd where
  | released
  | dropped
  | unwound (payload : Payload)
  deriving DecidableEq, Repr

/-- What is done with the lock. Guards are named by their numbers. -/
inductive LockAct where
  | acquire (name : String)
  | free (guard : Nat)
  | ending (guard : Nat) (how : LockEnd)
  | faultWhileHeld (name : String) (code : UInt32)
  deriving DecidableEq, Repr

/-- The acts that can free the lock for a guard. -/
def LockAct.Ends (n : Nat) : LockAct → Prop
  | acquire _ => False
  | free guard => guard = n
  | ending guard _ => guard = n
  | faultWhileHeld _ _ => False

def EngineLock.endBy (l : EngineLock) (g : LockGuard) : LockEnd → EngineLock
  | .released => l.release g
  | .dropped => l.drop g
  | .unwound payload => (l.unwind g payload).2

/-- However a guard goes out of scope, the lock is freed for it unless that was done before. -/
theorem EngineLock.endBy_eq (l : EngineLock) (g : LockGuard) (how : LockEnd) :
    l.endBy g how = l.drop g := by
  cases how with
  | released => exact l.release_eq_drop g
  | dropped => rfl
  | unwound payload => rfl

/-- The lock and the guards in scope, each under its number. They are numbered in the order in
    which they are given out. -/
structure LockUse where
  lock : EngineLock := {}
  guards : Table Nat LockGuard := .empty
  given : Nat := 0

namespace LockUse

/-- The lock and the guards after an act. A number that no guard in scope has stands for none. -/
def after (s : LockUse) : LockAct → LockUse
  | .acquire name =>
    match s.lock.acquire name with
    | (.ok g, l) => ⟨l, s.guards.insert s.given g, s.given + 1⟩
    | (.error _, l) => { s with lock := l }
  | .free guard =>
    match s.guards.get? guard with
    | some g =>
      { s with lock := (s.lock.free g).2, guards := s.guards.insert guard (s.lock.free g).1 }
    | none => s
  | .ending guard how =>
    match s.guards.get? guard with
    | some g => { s with lock := s.lock.endBy g how, guards := s.guards.erase guard }
    | none => s
  | .faultWhileHeld name code => { s with lock := (s.lock.faultWhileHeld name code).2 }

def afterAll (s : LockUse) (acts : List LockAct) : LockUse :=
  acts.foldl after s

/-- The guard of a number is in scope under a name, and the lock was not freed for it. -/
def Holds (s : LockUse) (n : Nat) (name : String) : Prop :=
  s.guards.get? n = some { name }

/-- No guard in scope holds the lock. -/
def Unheld (s : LockUse) : Prop :=
  ∀ n name, ¬ s.Holds n name

/-- What the lock and the guards have in common. -/
structure Exclusive (s : LockUse) : Prop where
  single : ∀ {n m name name'}, s.Holds n name → s.Holds m name' → n = m
  holder : ∀ name, s.lock.holder = some name ↔ ∃ n, s.Holds n name
  numbered : ∀ n ∈ s.guards.keys, n < s.given

/-- What an act does to the lock and to those who hold it. -/
inductive Turn (s : LockUse) (act : LockAct) (s' : LockUse) : Prop where
  | idle (lock : s'.lock = s.lock) (holds : ∀ n name, s'.Holds n name ↔ s.Holds n name)
  | taken {name : String} (before : s.Unheld) (lock : s'.lock = ⟨some name⟩)
      (holds : ∀ n name', s'.Holds n name' ↔ n = s.given ∧ name = name')
  | freed {n : Nat} {name : String} (ends : act.Ends n) (before : s.Holds n name)
      (lock : s'.lock = ⟨none⟩) (holds : s'.Unheld)

variable {s s' : LockUse} {act : LockAct} {n : Nat} {name : String}

/-! What one act does. -/

/-- A guard in scope holds the lock as long as it does not bear the mark. -/
theorem holds_of_get? {g : LockGuard} (h : s.guards.get? n = some g) (hmark : g.released = false) :
    s.Holds n g.name := by
  obtain ⟨name, released⟩ := g
  cases hmark
  exact h

/-- A guard that bears the mark holds nothing. -/
theorem not_holds_of_get? {g : LockGuard} (h : s.guards.get? n = some g)
    (hmark : g.released = true) : ¬ s.Holds n name := by
  intro hholds
  cases h.symm.trans hholds
  cases hmark

theorem Turn.refl (s : LockUse) (act : LockAct) : Turn s act s :=
  .idle rfl fun _ _ => Iff.rfl

namespace Exclusive

theorem unheld_iff (h : Exclusive s) : s.Unheld ↔ s.lock.holder = none := by
  rw [Option.eq_none_iff_forall_ne_some]
  constructor
  · intro hnone name hname
    obtain ⟨n, hn⟩ := (h.holder name).1 hname
    exact hnone n name hn
  · intro hnone n name hn
    exact hnone name ((h.holder name).2 ⟨n, hn⟩)

theorem turn_acquire (h : Exclusive s) (name : String) :
    Turn s (.acquire name) (s.after (.acquire name)) := by
  cases hholder : s.lock.holder with
  | some held =>
    have hsame : s.after (.acquire name) = s := by
      rw [after, EngineLock.acquire, hholder]
    rw [hsame]
    exact .refl s _
  | none =>
    have hafter : s.after (.acquire name) =
        ⟨⟨some name⟩, s.guards.insert s.given { name }, s.given + 1⟩ := by
      rw [after, (EngineLock.acquire_eq_ok_iff _ _).2 hholder]
    have hbefore := h.unheld_iff.2 hholder
    rw [hafter]
    refine .taken hbefore rfl fun n name' => ?_
    by_cases hn : n = s.given
    · rw [hn, Holds, Table.get?_insert_self]
      simp
    · rw [Holds, Table.get?_insert_of_ne _ _ hn]
      exact iff_of_false (hbefore n name') fun hnew => hn hnew.1

/-- One guard gets its mark or goes out of scope, the lock is freed for it unless it bore the mark
    already, and the others stay as they are. -/
theorem turn_of_get? (h : Exclusive s) {g : LockGuard} (hg : s.guards.get? n = some g)
    (hends : act.Ends n) (hlock : s'.lock = s.lock.drop g) (hgone : ∀ name, ¬ s'.Holds n name)
    (hothers : ∀ m, m ≠ n → s'.guards.get? m = s.guards.get? m) : Turn s act s' := by
  cases hmark : g.released with
  | true =>
    rw [EngineLock.drop_of_released _ hmark] at hlock
    refine .idle hlock fun m name => ?_
    by_cases hm : m = n
    · rw [hm]
      exact iff_of_false (hgone name) (not_holds_of_get? hg hmark)
    · rw [Holds, Holds, hothers m hm]
  | false =>
    rw [EngineLock.drop_of_not_released _ hmark] at hlock
    have hholds := holds_of_get? hg hmark
    refine .freed hends hholds hlock fun m name hm => ?_
    by_cases hsame : m = n
    · rw [hsame] at hm
      exact hgone name hm
    · -- two guards would have held the lock before
      rw [Holds, hothers m hsame] at hm
      exact hsame (h.single hm hholds)

theorem turn_free (h : Exclusive s) (n : Nat) : Turn s (.free n) (s.after (.free n)) := by
  rw [after]
  cases hg : s.guards.get? n with
  | none => exact .refl s _
  | some g =>
    refine h.turn_of_get? hg rfl rfl (fun name => ?_) fun m hm => Table.get?_insert_of_ne _ _ hm
    exact not_holds_of_get? (Table.get?_insert_self _ _ _) (s.lock.released_free g)

theorem turn_ending (h : Exclusive s) (n : Nat) (how : LockEnd) :
    Turn s (.ending n how) (s.after (.ending n how)) := by
  rw [after]
  cases hg : s.guards.get? n with
  | none => exact .refl s _
  | some g =>
    have hlock := s.lock.endBy_eq g how
    refine h.turn_of_get? hg rfl hlock (fun name hholds => ?_) fun m hm =>
      Table.get?_erase_of_ne _ hm
    rw [Holds, Table.get?_erase_self] at hholds
    cases hholds

theorem turn_faultWhileHeld (name : String) (code : UInt32) :
    Turn s (.faultWhileHeld name code) (s.after (.faultWhileHeld name code)) := by
  refine .idle ?_ fun _ _ => Iff.rfl
  obtain ⟨⟨holder⟩, guards, given⟩ := s
  cases holder <;> rfl

theorem turn (h : Exclusive s) (act : LockAct) : Turn s act (s.after act) := by
  cases act with
  | acquire name => exact h.turn_acquire name
  | free n => exact h.turn_free n
  | ending n how => exact h.turn_ending n how
  | faultWhileHeld name code => exact turn_faultWhileHeld name code

end Exclusive

theorem numbered_after (h : ∀ n ∈ s.guards.keys, n < s.given) (act : LockAct) :
    ∀ n ∈ (s.after act).guards.keys, n < (s.after act).given := by
  cases act with
  | acquire name =>
    rw [after]
    rcases s.lock.acquire name with ⟨e | g, l⟩
    · exact h
    · intro n hn
      obtain ⟨g', hg'⟩ := Table.mem_keys_iff.1 hn
      rcases Table.mem_entries_insert hg' with heq | hold
      · cases heq
        exact Nat.lt_succ_self _
      · exact Nat.lt_succ_of_lt (h n (Table.mem_keys_iff.2 ⟨g', hold⟩))
  | free guard =>
    rw [after]
    cases hg : s.guards.get? guard with
    | none => exact h
    | some g =>
      dsimp only
      rw [Table.keys_insert_of_get? _ hg]
      exact h
  | ending guard how =>
    rw [after]
    cases s.guards.get? guard with
    | none => exact h
    | some g => exact fun n hn => h n ((Table.keys_erase_sublist _ _).subset hn)
  | faultWhileHeld name code => exact h

/-! What any acts do. -/

namespace Exclusive

theorem after (h : Exclusive s) (act : LockAct) : Exclusive (s.after act) := by
  have hnumbered := numbered_after h.numbered act
  cases h.turn act with
  | idle hlock hholds =>
    refine ⟨fun hn hm => ?_, fun name => ?_, hnumbered⟩
    · exact h.single ((hholds _ _).1 hn) ((hholds _ _).1 hm)
    · rw [hlock, h.holder]
      exact exists_congr fun n => (hholds n name).symm
  | @taken name hbefore hlock hholds =>
    refine ⟨fun hn hm => ?_, fun name' => ?_, hnumbered⟩
    · exact ((hholds _ _).1 hn).1.trans ((hholds _ _).1 hm).1.symm
    · rw [hlock, Option.some.injEq]
      constructor
      · intro hname
        exact ⟨s.given, (hholds _ _).2 ⟨rfl, hname⟩⟩
      · rintro ⟨n, hn⟩
        exact ((hholds _ _).1 hn).2
  | freed hends hbefore hlock hholds =>
    refine ⟨fun hn _ => absurd hn (hholds _ _), fun name => ?_, hnumbered⟩
    rw [hlock]
    exact iff_of_false nofun fun ⟨n, hn⟩ => hholds n name hn

theorem afterAll (h : Exclusive s) (acts : List LockAct) : Exclusive (s.afterAll acts) := by
  induction acts generalizing s with
  | nil => exact h
  | cons act rest ih => exact ih (h.after act)

theorem initial : Exclusive {} where
  single := fun hn => by cases hn
  holder := fun name => iff_of_false nofun fun ⟨n, hn⟩ => by cases hn
  numbered := fun n hn => by cases hn

theorem holder_of_holds (h : Exclusive s) (hn : s.Holds n name) : s.lock.holder = some name :=
  (h.holder name).2 ⟨n, hn⟩

theorem acquire_of_holds (h : Exclusive s) (hn : s.Holds n name) (other : String) :
    s.lock.acquire other = (.error (.lock name), s.lock) := by
  rw [EngineLock.acquire, h.holder_of_holds hn]

/-- Whoever holds the lock and goes out of scope leaves it free. -/
theorem unheld_ending (h : Exclusive s) (hn : s.Holds n name) (how : LockEnd) :
    (s.after (.ending n how)).Unheld := by
  have hmark : ({ name } : LockGuard).released = false := rfl
  rw [(h.after _).unheld_iff, LockUse.after, show s.guards.get? n = some { name } from hn]
  dsimp only
  rw [EngineLock.endBy_eq, EngineLock.drop_of_not_released _ hmark]

end Exclusive

/-- The holder keeps the lock through an act that is not on its guard. -/
theorem Holds.after (hn : s.Holds n name) (h : Exclusive s) (hact : ¬ act.Ends n) :
    (s.after act).Holds n name := by
  cases h.turn act with
  | idle hlock hholds => exact (hholds n name).2 hn
  | taken hbefore hlock hholds => exact absurd hn (hbefore n name)
  | @freed m name' hends hbefore hlock hholds =>
    -- the guard that was ended held the lock, so it is the one
    rw [h.single hbefore hn] at hends
    exact absurd hends hact

theorem Holds.afterAll (hn : s.Holds n name) (h : Exclusive s) {acts : List LockAct}
    (hacts : ∀ act ∈ acts, ¬ act.Ends n) : (s.afterAll acts).Holds n name := by
  induction acts generalizing s with
  | nil => exact hn
  | cons act rest ih =>
    have hafter := hn.after h (hacts act (List.mem_cons_self ..))
    exact ih hafter (h.after act) fun later hlater => hacts later (List.mem_cons_of_mem _ hlater)

/-- **The lock is exclusive.** After any acts, from a lock that nobody holds: at most one guard in
    scope holds the lock; the lock has a name exactly if one does, and it is the name of that
    guard. It can be taken exactly if none does, and otherwise whoever asks is told the name and
    changes nothing. A guard that holds it does so under its name until it is ended itself,
    whatever becomes of guards with other numbers, and numbers are given once. Once it goes out of
    scope, as it may by a fault, the lock is free; and so it is after a fault that is raised in the
    scope in which it was taken. -/
theorem lock_exclusive (acts : List LockAct) :
    let s := LockUse.afterAll {} acts
    (∀ n m name name', s.Holds n name → s.Holds m name' → n = m) ∧
    (∀ name, s.lock.holder = some name ↔ ∃ n, s.Holds n name) ∧
    (∀ name, s.lock.acquire name = (.ok { name }, ⟨some name⟩) ↔ s.Unheld) ∧
    (∀ n held name, s.Holds n held → s.lock.acquire name = (.error (.lock held), s.lock)) ∧
    (∀ n held later, s.Holds n held → (∀ act ∈ later, ¬ act.Ends n) →
      (s.afterAll later).Holds n held ∧ (s.afterAll later).lock.holder = some held) ∧
    (∀ n ∈ s.guards.keys, n < s.given) ∧
    (∀ n held how, s.Holds n held →
      (s.after (.ending n how)).Unheld ∧ (s.after (.ending n how)).lock.holder = none) ∧
    (∀ name code, s.Unheld →
      s.lock.faultWhileHeld name code = (.fault (.structured code), ⟨none⟩)) ∧
    ∀ n held name code, s.Holds n held →
      s.lock.faultWhileHeld name code = (.error (.lock held), s.lock) := by
  intro s
  -- all of it is read off what every act keeps
  have h : Exclusive s := Exclusive.initial.afterAll acts
  refine ⟨fun _ _ _ _ => h.single, h.holder, fun name => ?_, fun n held name hn => ?_,
    fun n held later hn hlater => ?_, h.numbered, fun n held how hn => ?_,
    fun name code hnone => ?_, fun n held name code hn => ?_⟩
  · rw [EngineLock.acquire_eq_ok_iff, h.unheld_iff]
  · exact h.acquire_of_holds hn name
  · have hkept := hn.afterAll h hlater
    exact ⟨hkept, (h.afterAll later).holder_of_holds hkept⟩
  · have hfree := h.unheld_ending hn how
    exact ⟨hfree, (h.after _).unheld_iff.1 hfree⟩
  · have htaken := (s.lock.acquire_eq_ok_iff name).2 (h.unheld_iff.1 hnone)
    rw [EngineLock.faultWhileHeld, htaken]
    rfl
  · rw [EngineLock.faultWhileHeld, h.acquire_of_holds hn name]

/-- A guard is released, and before it goes out of scope the lock is taken by another. -/
def overtaken : List LockAct :=
  [.acquire "first", .free 0, .acquire "second"]

/-- When the first guard goes out of scope then, the second holder keeps the lock. -/
theorem lock_exclusive_overtaken :
    (LockUse.afterAll {} overtaken).Holds 1 "second" ∧
      ((LockUse.afterAll {} overtaken).afterAll [.ending 0 .dropped]).lock.holder =
        some "second" := by
  have hholds : (LockUse.afterAll {} overtaken).Holds 1 "second" := rfl
  have hother : ∀ act ∈ [LockAct.ending 0 .dropped], ¬ act.Ends 1 := by
    intro act hact
    cases List.mem_singleton.1 hact
    exact Nat.zero_ne_one
  obtain ⟨-, -, -, -, hkept, -⟩ := lock_exclusive overtaken
  exact ⟨hholds, (hkept 1 "second" _ hholds hother).2⟩

end LockUse
end ScriptHost
