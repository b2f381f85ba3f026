/- Tables that remember insertion order. An entry keeps its place when its value
   changes; a new key goes to the end. `sum` adds up a weight over the values. -/
namespace ScriptHost

/-- Keys with a value each, in the order in which the keys were first inserted. -/
structure Table (κ ν : Type) where
  entries : List (κ × ν) := []
  deriving Repr

namespace Table

variable {κ ν : Type}

/-- The sum of a weight over the values of entries. -/
def total (weight : ν → Nat) : List (κ × ν) → Nat
  | [] => 0
  | e :: rest => weight e.2 + total weight rest

theorem total_filter_le (weight : ν → Nat) (p : κ × ν → Bool) (es : List (κ × ν)) :
    total weight (es.filter p) ≤ total weight es := by
  induction es with
  | nil => simp
  | cons e rest ih =>
    by_cases h : p e
    · simp only [List.filter_cons, h, if_true, total]; omega
    · simp only [List.filter_cons, h, total]
      simp only [Bool.false_eq_true, if_false]; omega

variable [DecidableEq κ]

def empty : Table κ ν := ⟨[]⟩

def size (t : Table κ ν) : Nat := t.entries.length

def keys (t : Table κ ν) : List κ := t.entries.map Prod.fst

def get? (t : Table κ ν) (k : κ) : Option ν :=
  (t.entries.find? (·.1 = k)).map Prod.snd

def has (t : Table κ ν) (k : κ) : Bool :=
  (t.get? k).isSome

/-- Entries with the value of the first `k` changed, or with `k` added at the end. -/
def insertInto (k : κ) (v : ν) : List (κ × ν) → List (κ × ν)
  | [] => [(k, v)]
  | e :: rest => if e.1 = k then (k, v) :: rest else e :: insertInto k v rest

def insert (t : Table κ ν) (k : κ) (v : ν) : Table κ ν :=
  ⟨insertInto k v t.entries⟩

def erase (t : Table κ ν) (k : κ) : Table κ ν :=
  ⟨t.entries.filter (·.1 ≠ k)⟩

/-- The table with the entries that satisfy a test. -/
def filter (t : Table κ ν) (keep : κ → ν → Bool) : Table κ ν :=
  ⟨t.entries.filter fun e => keep e.1 e.2⟩

def sum (t : Table κ ν) (weight : ν → Nat) : Nat :=
  total weight t.entries

theorem get?_insert_self (t : Table κ ν) (k : κ) (v : ν) : (t.insert k v).get? k = some v := by
  obtain ⟨es⟩ := t
  simp only [get?, insert]
  induction es with
  | nil => simp [insertInto]
  | cons e rest ih =>
    by_cases h : e.1 = k
    · simp [insertInto, h]
    · simpa [insertInto, h] using ih

theorem get?_insert_of_ne (t : Table κ ν) {k l : κ} (v : ν) (h : l ≠ k) :
    (t.insert k v).get? l = t.get? l := by
  obtain ⟨es⟩ := t
  simp only [get?, insert]
  induction es with
  | nil => simp [insertInto, Ne.symm h]
  | cons e rest ih =>
    by_cases he : e.1 = k
    · simp [insertInto, he, Ne.symm h]
    · by_cases hl : e.1 = l
      · subst hl; simp [insertInto, he]
      · simpa [insertInto, he, hl] using ih

theorem get?_erase_self (t : Table κ ν) (k : κ) : (t.erase k).get? k = none := by
  simp [get?, erase]

/-- A new value adds at most its own weight. -/
theorem sum_insert_le (t : Table κ ν) (weight : ν → Nat) (k : κ) (v : ν) :
    (t.insert k v).sum weight ≤ t.sum weight + weight v := by
  obtain ⟨es⟩ := t
  simp only [sum, insert]
  induction es with
  | nil => simp [insertInto, total]
  | cons e rest ih =>
    by_cases h : e.1 = k
    · simp only [insertInto, h, if_true, total]; omega
    · simp only [insertInto, h, if_false, total]; omega

theorem sum_insert_of_get? (t : Table κ ν) (weight : ν → Nat) {k : κ} {old : ν} (v : ν)
    (h : t.get? k = some old) :
    (t.insert k v).sum weight + weight old = t.sum weight + weight v := by
  obtain ⟨es⟩ := t
  simp only [sum, insert, get?] at h ⊢
  induction es with
  | nil => simp at h
  | cons e rest ih =>
    by_cases he : e.1 = k
    · simp [he] at h
      subst h
      simp only [insertInto, he, if_true, total]; omega
    · simp [he] at h
      have := ih (by simpa using h)
      simp only [insertInto, he, if_false, total]; omega

/-- A key that goes takes at least its own weight with it. -/
theorem sum_erase_of_get? (t : Table κ ν) (weight : ν → Nat) {k : κ} {old : ν}
    (h : t.get? k = some old) : (t.erase k).sum weight + weight old ≤ t.sum weight := by
  obtain ⟨es⟩ := t
  simp only [sum, erase, get?] at h ⊢
  induction es with
  | nil => simp at h
  | cons e rest ih =>
    by_cases he : e.1 = k
    · simp [he] at h
      subst h
      have := total_filter_le weight (fun e : κ × ν => decide (e.1 ≠ k)) rest
      simp only [List.filter_cons, he, total, ne_eq, not_true_eq_false,
        decide_false, Bool.false_eq_true, if_false] at this ⊢
      omega
    · simp [he] at h
      have := ih (by simpa using h)
      simp only [List.filter_cons, he, total, ne_eq, not_false_eq_true,
        decide_true, if_true] at this ⊢
      omega

end Table
end ScriptHost
