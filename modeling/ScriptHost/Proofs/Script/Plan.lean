import ScriptHost.Ending
import ScriptHost.Outcome
import ScriptHost.Proofs.TaskQueue.Schedule
import ScriptHost.Script.Statement

/- What a program comes to, read off its text. An instruction is some `defer`s around a
   leaf, and a leaf prints, throws or faults. The leaves without a `defer` execute in
   program order, up to the first that throws or faults; what was deferred until then
   executes later, the shallower first, up to the first that throws or faults.

   `Program.output` and `Program.ending` say so in closed form, with nothing about
   queues or tasks. That an engine does this is proved where the runs are. -/
namespace ScriptHost

/-- An action, with the position it reports. -/
structure Leaf where
  line : UInt32
  column : UInt32
  action : Action
  deriving DecidableEq, Repr

namespace Leaf

def printed? (l : Leaf) : Option String :=
  match l.action with
  | .print text => some text
  | _ => none

def exception? (l : Leaf) : Option ScriptException :=
  match l.action with
  | .throw message => some (ScriptException.located ⟨message, none, none⟩ l.line l.column)
  | _ => none

def fault? (l : Leaf) : Option UInt32 :=
  match l.action with
  | .fault code => some code
  | _ => none

/-- Whether nothing executes after the leaf. -/
def stops (l : Leaf) : Bool := l.printed?.isNone

end Leaf

/-- The lines printed by leaves in order, up to the first that stops. -/
def printed (ls : List Leaf) : List String :=
  (ls.takeWhile (!·.stops)).filterMap (·.printed?)

/-- The first leaf that stops. -/
def stop? (ls : List Leaf) : Option Leaf :=
  ls.find? (·.stops)

theorem printed_cons (l : Leaf) (ls : List Leaf) :
    printed (l :: ls) = if l.stops then [] else l.printed?.toList ++ printed ls := by
  unfold printed
  by_cases h : l.stops
  · simp [h]
  · rw [List.takeWhile_cons_of_pos (by simpa using h), List.filterMap_cons, if_neg h]
    cases l.printed? <;> rfl

theorem stop?_cons (l : Leaf) (ls : List Leaf) :
    stop? (l :: ls) = if l.stops then some l else stop? ls := by
  unfold stop?
  by_cases h : l.stops
  · rw [List.find?_cons_of_pos h, if_pos h]
  · rw [List.find?_cons_of_neg h, if_neg h]

/-- The leaf behind a statement's `defer`s. -/
def Statement.leaf (line : UInt32) (s : Statement) : Leaf :=
  ⟨line, s.actionColumn, s.action⟩

namespace Instruction

def depth (i : Instruction) : Nat := i.statement.depth

def leaf (i : Instruction) : Leaf := i.statement.leaf i.line

/-- Whether the main program ends at the instruction. -/
def stops (i : Instruction) : Bool := i.depth = 0 && i.leaf.stops

end Instruction

namespace Program

/-- The instructions in front of the one the main program ends at. -/
def reached (p : Program) : List Instruction :=
  p.takeWhile (!·.stops)

/-- The leaf the main program ends at, short of its end. -/
def main? (p : Program) : Option Leaf :=
  (p.find? (·.stops)).map (·.leaf)

/-- The leaves the main program executes in front of the one it ends at: they all print. -/
def immediate (p : Program) : List Leaf :=
  (p.reached.filter (·.depth = 0)).map (·.leaf)

/-- The leaves the main program defers, by depth and then in program order. -/
def deferred (p : Program) : List Leaf :=
  ((p.reached.filter (0 < ·.depth)).mergeSort fun i j => i.depth ≤ j.depth).map (·.leaf)

/-- The lines a run prints. After a fault of the main program nothing more executes. -/
def output (p : Program) : List String :=
  let first := p.immediate.filterMap (·.printed?)
  if (p.main?.bind (·.fault?)).isSome then first else first ++ printed p.deferred

/-- How a run ends that makes its main program's failures failures of an operation. -/
def ending (op : Operation) (p : Program) : Ending Empty Outcome :=
  match p.main?.bind (·.fault?), (stop? p.deferred).bind (·.fault?) with
  | some code, _ => .fault (.structured code)
  | none, some code => .fault (.structured code)
  | none, none =>
    match p.main?.bind (·.exception?), (stop? p.deferred).bind (·.exception?) with
    | some x, _ => .ok (.scriptError op .scriptException (some x))
    | none, some x => .ok (.scriptError .callTask .scriptException (some x))
    | none, none => .ok .success

/-! One instruction at a time. -/

theorem reached_of_stops {i : Instruction} {rest : Program} (h : i.stops) :
    reached (i :: rest) = [] := by
  simp [reached, h]

theorem main?_of_stops {i : Instruction} {rest : Program} (h : i.stops) :
    main? (i :: rest) = some i.leaf := by
  simp [main?, h]

theorem reached_of_not_stops {i : Instruction} {rest : Program} (h : i.stops = false) :
    reached (i :: rest) = i :: reached rest := by
  simp [reached, h]

theorem main?_of_not_stops {i : Instruction} {rest : Program} (h : i.stops = false) :
    main? (i :: rest) = main? rest := by
  simp [main?, h]

/-- The deferred leaves as the main program leaves them: one `defer` each is already gone. -/
def work (p : Program) : List (Nat × Leaf) :=
  (p.reached.filter (0 < ·.depth)).map fun i => (i.depth - 1, i.leaf)

theorem deferred_eq_schedule (p : Program) : p.deferred = schedule p.work := by
  rw [deferred, schedule, work, ← List.map_mergeSort (r := fun i j => i.depth ≤ j.depth),
    List.map_map]
  · rfl
  · intro i hi j hj
    have hi := (List.mem_filter.1 hi).2
    have hj := (List.mem_filter.1 hj).2
    simp only [decide_eq_true_eq] at hi hj
    simp only [noDeeper, decide_eq_decide]
    omega

end Program
end ScriptHost
