import Mathlib.Data.Nat.Digits.Defs
import ScriptHost.Proofs.Text.WhiteSpace
import ScriptHost.Text.Numeral

/- Numerals as lists of digits. What is read is the value of the digits in their base, the
   first digit the most significant, and a plus sign in front changes nothing.

   What is proved:
     1. `numeral_iff` — digits are read as the numeral they are.
     2. `unsigned?_eq_some_iff` — with the sign and the bound.
     3. `digits?_toDigits` — the digits of a number are read back. -/
namespace ScriptHost.Text

/-- Digits in a base and their value. -/
def Numeral (base : Nat) (digits : List Char) (value : Nat) : Prop :=
  ∃ ds : List Nat, ds ≠ [] ∧ digits.map (digit? base) = ds.map some ∧
    value = Nat.ofDigits base ds.reverse

/-- A numeral, with a plus sign or without. -/
inductive UnsignedNumeral (base : Nat) : List Char → Nat → Prop where
  | plus {digits : List Char} {value : Nat} (h : Numeral base digits value) :
      UnsignedNumeral base ('+' :: digits) value
  | plain {digits : List Char} {value : Nat} (h : Numeral base digits value) :
      UnsignedNumeral base digits value

theorem isWhiteSpace_of_digit? {base d : Nat} {c : Char} (h : digit? base c = some d) :
    isWhiteSpace c = false := by
  have hrange : '0'.toNat ≤ c.toNat ∧ c.toNat ≤ 'z'.toNat := by
    simp only [digit?, Option.filter_eq_some_iff] at h
    have hle : ∀ a b : Char, a ≤ b → a.toNat ≤ b.toNat := fun a b hab => hab
    obtain ⟨hvalue, -⟩ := h
    split at hvalue
    · rename_i hdigit
      exact ⟨hle _ _ hdigit.1, Nat.le_trans (hle _ _ hdigit.2) (by decide)⟩
    split at hvalue
    · rename_i hlower
      exact ⟨Nat.le_trans (by decide) (hle _ _ hlower.1), hle _ _ hlower.2⟩
    split at hvalue
    · rename_i hupper
      exact ⟨Nat.le_trans (by decide) (hle _ _ hupper.1),
        Nat.le_trans (hle _ _ hupper.2) (by decide)⟩
    · cases hvalue
  have hzero : '0'.toNat = 48 := rfl
  have hz : 'z'.toNat = 122 := rfl
  exact isWhiteSpace_of_graphic (by omega) (by omega)

theorem digits?_eq_some_iff {base value n : Nat} {cs : List Char} :
    digits? base value cs = some n ↔
      ∃ ds : List Nat, cs.map (digit? base) = ds.map some ∧
        n = ds.foldl (fun v d => v * base + d) value := by
  induction cs generalizing value with
  | nil =>
    constructor
    · intro h
      cases h
      exact ⟨[], rfl, rfl⟩
    · rintro ⟨ds, hds, rfl⟩
      cases ds with
      | nil => rfl
      | cons d rest => cases hds
  | cons c rest ih =>
    rw [digits?]
    cases hc : digit? base c with
    | none =>
      constructor
      · nofun
      · rintro ⟨ds, hds, -⟩
        rw [List.map_cons, hc] at hds
        cases ds <;> cases hds
    | some d =>
      dsimp only
      rw [ih]
      constructor
      · rintro ⟨ds, hds, hn⟩
        exact ⟨d :: ds, by rw [List.map_cons, List.map_cons, hc, hds], hn⟩
      · rintro ⟨ds, hds, hn⟩
        rw [List.map_cons, hc] at hds
        cases ds with
        | nil => cases hds
        | cons d' ds =>
          obtain ⟨hd, hrest⟩ := List.cons.inj hds
          cases hd
          exact ⟨ds, hrest, hn⟩

theorem foldl_eq_ofDigits (base : Nat) (ds : List Nat) :
    ds.foldl (fun v d => v * base + d) 0 = Nat.ofDigits base ds.reverse := by
  rw [Nat.ofDigits_eq_foldr, List.foldr_reverse]
  congr 1
  funext v d
  rw [Nat.cast_id, Nat.mul_comm, Nat.add_comm]

theorem numeral_iff {base n : Nat} {digits : List Char} :
    Numeral base digits n ↔ digits ≠ [] ∧ digits? base 0 digits = some n := by
  rw [digits?_eq_some_iff]
  constructor
  · rintro ⟨ds, hds, hdigits, rfl⟩
    refine ⟨?_, ds, hdigits, (foldl_eq_ofDigits base ds).symm⟩
    rintro rfl
    cases ds with
    | nil => exact hds rfl
    | cons d rest => cases hdigits
  · rintro ⟨hne, ds, hdigits, rfl⟩
    refine ⟨ds, ?_, hdigits, foldl_eq_ofDigits base ds⟩
    rintro rfl
    exact hne (List.map_eq_nil_iff.1 hdigits)

theorem Numeral.exists_digit? {base n : Nat} {digits : List Char} (h : Numeral base digits n)
    {c : Char} (hc : c ∈ digits) : ∃ d, digit? base c = some d := by
  obtain ⟨ds, -, hdigits, -⟩ := h
  have hmem := List.mem_map_of_mem (f := digit? base) hc
  rw [hdigits] at hmem
  obtain ⟨d, -, hd⟩ := List.mem_map.1 hmem
  exact ⟨d, hd.symm⟩

theorem not_numeral_plus {base n : Nat} {digits : List Char} :
    ¬ Numeral base ('+' :: digits) n := by
  have hplus : digit? base '+' = none := rfl
  intro h
  obtain ⟨d, hd⟩ := h.exists_digit? (List.mem_cons_self ..)
  cases hplus.symm.trans hd

theorem unsignedNumeral_iff {base n : Nat} {cs : List Char} :
    UnsignedNumeral base cs n ↔ Numeral base (afterPlus cs) n := by
  constructor
  · intro h
    cases h with
    | plus h => exact h
    | plain h =>
      unfold afterPlus
      split
      · exact absurd h not_numeral_plus
      · exact h
  · intro h
    unfold afterPlus at h
    split at h
    · exact .plus h
    · exact .plain h

theorem unsigned?_eq_some_iff {base bound n : Nat} {cs : List Char} :
    unsigned? base bound cs = some n ↔ UnsignedNumeral base cs n ∧ n < bound := by
  rw [unsigned?, unsignedNumeral_iff, numeral_iff]
  cases hcs : afterPlus cs with
  | nil => simp
  | cons c rest => simp [Option.filter_eq_some_iff]

/-! The digits of a number. -/

theorem digits?_append (base value : Nat) (as bs : List Char) :
    digits? base value (as ++ bs) = (digits? base value as).bind (digits? base · bs) := by
  induction as generalizing value with
  | nil => rfl
  | cons c rest ih =>
    rw [List.cons_append, digits?, digits?]
    cases digit? base c with
    | none => rfl
    | some d => exact ih _

theorem digit?_digitChar : ∀ d < 10, digit? 10 (Nat.digitChar d) = some d := by
  decide

theorem digits?_toDigits (n : Nat) : digits? 10 0 (Nat.toDigits 10 n) = some n := by
  induction n using Nat.strongRecOn with
  | ind n ih =>
    by_cases hn : n < 10
    · rw [Nat.toDigits_of_lt_base hn, digits?, digit?_digitChar n hn]
      exact congrArg some (by omega)
    · -- the last digit stands apart; the others are those of `n / 10`
      rw [Nat.toDigits_of_base_le (by omega) (by omega), digits?_append, ih (n / 10) (by omega),
        Option.bind_some, digits?, digit?_digitChar _ (Nat.mod_lt _ (by omega))]
      exact congrArg some (by omega)

theorem numeral_toDigits (n : Nat) : Numeral 10 (Nat.toDigits 10 n) n :=
  numeral_iff.2 ⟨List.ne_nil_of_length_pos Nat.length_toDigits_pos, digits?_toDigits n⟩

theorem encloses_toString (n : Nat) : Encloses (toString n) (Nat.toDigits 10 n) := by
  have hlist : (toString n).toList = Nat.toDigits 10 n := Nat.toList_repr
  have hdigits : ∀ c ∈ Nat.toDigits 10 n, isWhiteSpace c = false := by
    intro c hc
    obtain ⟨d, hd⟩ := (numeral_toDigits n).exists_digit? hc
    exact isWhiteSpace_of_digit? hd
  rw [← hlist] at hdigits ⊢
  exact encloses_toList hdigits

end ScriptHost.Text
