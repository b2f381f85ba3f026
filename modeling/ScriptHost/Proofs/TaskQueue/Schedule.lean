import Mathlib.Data.List.Basic

/- The order in which a queue runs work that puts itself back. Work of depth `n` goes
   `n` times from the front of the queue to its end before it runs, and everything
   else in the queue does the same. What comes out is a stable sort by depth: the
   shallower work first, and work of one depth in the order it came in.

   What is proved: `schedule`, the stable sort, takes the two steps a queue takes:
   work of depth zero in front comes out first (`schedule_ready`), and deeper work in
   front comes out as if it stood at the end one less deep (`schedule_put_back`). -/
namespace ScriptHost

variable {α : Type}

/-- Whether the first of two pieces of work is no deeper than the second. -/
def noDeeper (a b : Nat × α) : Bool := a.1 ≤ b.1

/-- Work in the order of its depth, the order it came in kept within a depth. -/
def schedule (work : List (Nat × α)) : List α :=
  (work.mergeSort noDeeper).map Prod.snd

theorem noDeeper_trans (a b c : Nat × α) (hab : noDeeper a b) (hbc : noDeeper b c) :
    noDeeper a c := by
  simp only [noDeeper, decide_eq_true_eq] at hab hbc ⊢
  exact Nat.le_trans hab hbc

theorem noDeeper_total (a b : Nat × α) : noDeeper a b || noDeeper b a := by
  simp only [noDeeper, Bool.or_eq_true, decide_eq_true_eq]
  exact Nat.le_total a.1 b.1

theorem pairwise_sorted (work : List (Nat × α)) :
    (work.mergeSort noDeeper).Pairwise (noDeeper · ·) :=
  List.pairwise_mergeSort noDeeper_trans noDeeper_total work

/-! Lists sorted by depth. -/

/-- Work of one depth keeps its order. -/
theorem filter_sorted (k : Nat) (work : List (Nat × α)) :
    (work.mergeSort noDeeper).filter (·.1 = k) = work.filter (·.1 = k) := by
  have hsame : (work.filter (·.1 = k)).Pairwise (noDeeper · ·) := by
    refine List.pairwise_of_forall_mem_list fun a ha b hb => ?_
    have hak := (List.mem_filter.1 ha).2
    have hbk := (List.mem_filter.1 hb).2
    simp only [decide_eq_true_eq] at hak hbk
    simp [noDeeper, hak, hbk]
  have hsub := (List.sublist_mergeSort noDeeper_trans noDeeper_total hsame
    List.filter_sublist).filter (·.1 = k)
  rw [List.filter_filter] at hsub
  simp only [Bool.and_self] at hsub
  refine (hsub.eq_of_length ?_).symm
  exact ((List.mergeSort_perm work noDeeper).filter _).length_eq.symm

theorem mem_iff_of_filter_eq {xs ys : List (Nat × α)}
    (h : ∀ k, xs.filter (·.1 = k) = ys.filter (·.1 = k)) (e : Nat × α) : e ∈ xs ↔ e ∈ ys := by
  have hk : e ∈ xs.filter (·.1 = e.1) ↔ e ∈ ys.filter (·.1 = e.1) := by rw [h e.1]
  simpa using hk

theorem head_le {a b : Nat × α} {l : List (Nat × α)} (hl : (a :: l).Pairwise (noDeeper · ·))
    (hb : b ∈ a :: l) : a.1 ≤ b.1 := by
  rcases List.mem_cons.1 hb with rfl | hb
  · exact Nat.le_refl _
  · simpa [noDeeper] using List.rel_of_pairwise_cons hl hb

/-- A list sorted by depth is known by its parts of one depth. -/
theorem eq_of_filter_eq {xs ys : List (Nat × α)} (hxs : xs.Pairwise (noDeeper · ·))
    (hys : ys.Pairwise (noDeeper · ·))
    (h : ∀ k, xs.filter (·.1 = k) = ys.filter (·.1 = k)) : xs = ys := by
  have hmem := mem_iff_of_filter_eq h
  induction xs generalizing ys with
  | nil =>
    cases ys with
    | nil => rfl
    | cons y ys => exact absurd ((hmem y).2 List.mem_cons_self) List.not_mem_nil
  | cons x xs ih =>
    cases ys with
    | nil => exact absurd ((hmem x).1 List.mem_cons_self) List.not_mem_nil
    | cons y ys =>
      -- each head is in the other list, so neither is the deeper one
      have hkey : x.1 = y.1 :=
        Nat.le_antisymm (head_le hxs ((hmem y).2 List.mem_cons_self))
          (head_le hys ((hmem x).1 List.mem_cons_self))
      have hhead := h y.1
      rw [List.filter_cons_of_pos (by simpa using hkey), List.filter_cons_of_pos (by simp)] at hhead
      obtain ⟨rfl, -⟩ := List.cons.inj hhead
      have htail : ∀ k, xs.filter (·.1 = k) = ys.filter (·.1 = k) := fun k => by
        have hk := h k
        by_cases hx : x.1 = k
        · rw [List.filter_cons_of_pos (by simpa using hx),
            List.filter_cons_of_pos (by simpa using hx)] at hk
          exact (List.cons.inj hk).2
        · rwa [List.filter_cons_of_neg (by simpa using hx),
            List.filter_cons_of_neg (by simpa using hx)] at hk
      rw [ih hxs.of_cons hys.of_cons htail (mem_iff_of_filter_eq htail)]

/-! What a queue does with its front. -/

@[simp] theorem schedule_nil : schedule ([] : List (Nat × α)) = [] := by
  rw [schedule, List.mergeSort_nil, List.map_nil]

theorem schedule_ready (a : α) (rest : List (Nat × α)) :
    schedule ((0, a) :: rest) = a :: schedule rest := by
  obtain ⟨before, after, hcons, hrest, hbefore⟩ :=
    List.mergeSort_cons noDeeper_trans noDeeper_total (0, a) rest
  have hnil : before = [] := by
    cases before with
    | nil => rfl
    | cons b before =>
      have hb := hbefore b List.mem_cons_self
      simp [noDeeper] at hb
  rw [schedule, hcons, schedule, hrest, hnil]
  rfl

theorem pairwise_between {before after : List (Nat × α)} {n : Nat} {a : α}
    (hbefore : before.Pairwise (noDeeper · ·)) (hafter : after.Pairwise (noDeeper · ·))
    (hle : ∀ b ∈ before, b.1 ≤ n) (hlt : ∀ c ∈ after, n < c.1) :
    (before ++ (n, a) :: after).Pairwise (noDeeper · ·) := by
  have hcons : ((n, a) :: after).Pairwise (noDeeper · ·) := by
    refine List.pairwise_cons.2 ⟨?_, hafter⟩
    intro c hc
    simpa [noDeeper] using Nat.le_of_lt (hlt c hc)
  refine List.pairwise_append.2 ⟨hbefore, hcons, ?_⟩
  intro b hb c hc
  have hbn := hle b hb
  rcases List.mem_cons.1 hc with rfl | hc
  · simpa [noDeeper] using hbn
  · have hnc := hlt c hc
    simp only [noDeeper, decide_eq_true_eq]
    omega

theorem filter_between {before after : List (Nat × α)} {n : Nat} (a : α)
    (hlt : ∀ c ∈ after, n < c.1) (k : Nat) :
    (before ++ (n, a) :: after).filter (·.1 = k) =
      (before ++ after ++ [(n, a)]).filter (·.1 = k) := by
  rw [List.append_assoc, List.filter_append, List.filter_append, List.filter_append]
  by_cases hk : n = k
  · have hnone : after.filter (·.1 = k) = [] := by
      refine List.filter_eq_nil_iff.2 ?_
      intro c hc
      have hnc := hlt c hc
      simp only [decide_eq_true_eq]
      omega
    rw [hnone, List.nil_append, List.filter_cons_of_pos (by simpa using hk),
      List.filter_cons_of_pos (by simpa using hk), hnone, List.filter_nil]
  · rw [List.filter_cons_of_neg (by simpa using hk), List.filter_cons_of_neg (by simpa using hk),
      List.filter_nil, List.append_nil]

/-- Deeper work comes out as if it had gone to the end, one less deep. -/
theorem schedule_put_back (n : Nat) (a : α) (rest : List (Nat × α)) :
    schedule ((n + 1, a) :: rest) = schedule (rest ++ [(n, a)]) := by
  obtain ⟨before, after, hcons, hrest, hbefore⟩ :=
    List.mergeSort_cons noDeeper_trans noDeeper_total (n + 1, a) rest
  have hsorted := pairwise_sorted ((n + 1, a) :: rest)
  rw [hcons, List.pairwise_append, List.pairwise_cons] at hsorted
  obtain ⟨hsbefore, ⟨hdeeper, hsafter⟩, -⟩ := hsorted
  -- in front of it is what is at most `n` deep, behind it what is deeper
  have hle : ∀ b ∈ before, b.1 ≤ n := by
    intro b hb
    have hnot := hbefore b hb
    simp only [noDeeper, Bool.not_eq_true', decide_eq_false_iff_not] at hnot
    omega
  have hlt : ∀ c ∈ after, n < c.1 := by
    intro c hc
    have hnc := hdeeper c hc
    simp only [noDeeper, decide_eq_true_eq] at hnc
    omega
  -- so one less deep it keeps its place, and among equals it is the last either way
  have hplace : (rest ++ [(n, a)]).mergeSort noDeeper = before ++ (n, a) :: after := by
    refine eq_of_filter_eq (pairwise_sorted _) (pairwise_between hsbefore hsafter hle hlt) ?_
    intro k
    rw [filter_sorted, List.filter_append, ← filter_sorted k rest, hrest, ← List.filter_append]
    exact (filter_between a hlt k).symm
  rw [schedule, hcons, schedule, hplace, List.map_append, List.map_append, List.map_cons,
    List.map_cons]

end ScriptHost
