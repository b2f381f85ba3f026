import Mathlib.Data.List.TakeWhile
import ScriptHost.Json.Field
import ScriptHost.Json.Token
import ScriptHost.Proofs.Text.Numerals

/- Numerals in JSON. The characters of a literal are those that can go on a number, so a
   lexer inside one stays there to its end. The decimal digits of a number make a literal,
   as only zero begins with a zero, and reading them gives the number back.

   What is proved:
     1. `of_isLiteral` — what a literal begins with and what it is made of.
     2. `isLiteral_toDigits` — digits are a literal.
     3. `nat?_toDigits` — digits are read back. -/
namespace ScriptHost

namespace JsonNumber

theorem digitChar_ne_zero : ∀ d < 10, d ≠ 0 → Nat.digitChar d ≠ '0' := by
  decide

theorem isDigit_toDigits (n : Nat) : ∀ c ∈ Nat.toDigits 10 n, isDigit c = true :=
  fun _ hc => Nat.isDigit_of_mem_toDigits (by decide) (by decide) hc

theorem toDigits_ne_nil (n : Nat) : Nat.toDigits 10 n ≠ [] :=
  List.ne_nil_of_length_pos Nat.length_toDigits_pos

theorem head?_toDigits {n : Nat} (hn : n ≠ 0) : (Nat.toDigits 10 n).head? ≠ some '0' := by
  induction n using Nat.strongRecOn with
  | ind n ih =>
    by_cases hlt : n < 10
    · rw [Nat.toDigits_of_lt_base hlt]
      exact fun h => digitChar_ne_zero n hlt hn (Option.some.inj h)
    · have hfront := ih (n / 10) (by omega) (by omega)
      obtain ⟨c, rest, hcons⟩ := List.exists_cons_of_ne_nil (toDigits_ne_nil (n / 10))
      rw [Nat.toDigits_of_base_le (by omega) (by omega), hcons]
      rwa [hcons] at hfront

theorem isLiteral_toDigits (n : Nat) : isLiteral (Nat.toDigits 10 n) = true := by
  have hdigits := isDigit_toDigits n
  have hwhole : spanDigits (Nat.toDigits 10 n) = (Nat.toDigits 10 n, []) := by
    rw [spanDigits, List.takeWhile_eq_self_iff.2 hdigits, List.dropWhile_eq_nil_iff.2 hdigits]
  have hzero : (Nat.toDigits 10 n).head? = some '0' → (Nat.toDigits 10 n).length = 1 := by
    intro hhead
    by_cases hn : n = 0
    · rw [hn]
      rfl
    · exact absurd hhead (head?_toDigits hn)
  have hunsigned : unsignedParts? (Nat.toDigits 10 n) = some { whole := Nat.toDigits 10 n } := by
    rw [unsignedParts?, hwhole]
    dsimp only
    rw [if_neg]
    · rfl
    · simpa [toDigits_ne_nil n] using hzero
  have hsign : parts? (Nat.toDigits 10 n) = unsignedParts? (Nat.toDigits 10 n) := by
    unfold parts?
    split
    · rename_i heq
      have hminus := hdigits '-' (heq ▸ List.mem_cons_self)
      cases hminus
    · rfl
  rw [isLiteral, hsign, hunsigned]
  rfl

theorem nat?_toDigits {bound n : Nat} (h : n < bound) :
    nat? bound (Nat.toDigits 10 n) = some n := by
  have hplus : Text.afterPlus (Nat.toDigits 10 n) = Nat.toDigits 10 n := by
    unfold Text.afterPlus
    split
    · rename_i heq
      have hplus := isDigit_toDigits n '+' (heq ▸ List.mem_cons_self)
      cases hplus
    · rfl
  have hcond : (isLiteral (Nat.toDigits 10 n) && (Nat.toDigits 10 n).all isDigit) = true := by
    rw [isLiteral_toDigits, List.all_eq_true.2 (isDigit_toDigits n)]
    rfl
  rw [nat?, if_pos hcond, Text.unsigned?, hplus, if_neg (by simp [toDigits_ne_nil n]),
    Text.digits?_toDigits]
  exact if_pos (decide_eq_true h)

/-! Literals. -/

theorem continuesNumber_of_isDigit {c : Char} (h : isDigit c = true) :
    JsonToken.continuesNumber c = true := by
  simp [JsonToken.continuesNumber, h]

theorem mem_of_spanDigits {cs digits rest : List Char} (h : spanDigits cs = (digits, rest)) :
    cs = digits ++ rest ∧ ∀ c ∈ digits, isDigit c = true := by
  obtain ⟨rfl, rfl⟩ := Prod.mk.inj h
  exact ⟨List.takeWhile_append_dropWhile.symm, List.all_eq_true.1 List.all_takeWhile⟩

theorem continuesNumber_of_exponentParts? {p q : Parts} {cs : List Char}
    (h : exponentParts? p cs = some q) : ∀ c ∈ cs, JsonToken.continuesNumber c = true := by
  unfold exponentParts? at h
  split at h
  rename_i negative digits hsign
  split at h
  · cases h
  rename_i hnot
  have hdigits : ∀ c ∈ digits, JsonToken.continuesNumber c = true := by
    have hall : digits.all isDigit = true := by simp_all
    exact fun c hc => continuesNumber_of_isDigit (List.all_eq_true.1 hall c hc)
  split at hsign <;> cases hsign
  · exact List.forall_mem_cons.2 ⟨rfl, hdigits⟩
  · exact List.forall_mem_cons.2 ⟨rfl, hdigits⟩
  · exact hdigits

theorem continuesNumber_of_tailParts? {p q : Parts} {cs : List Char}
    (h : tailParts? p cs = some q) : ∀ c ∈ cs, JsonToken.continuesNumber c = true := by
  unfold tailParts? at h
  split at h
  · exact List.forall_mem_nil _
  · exact List.forall_mem_cons.2 ⟨rfl, continuesNumber_of_exponentParts? h⟩
  · exact List.forall_mem_cons.2 ⟨rfl, continuesNumber_of_exponentParts? h⟩
  · cases h

/-- A literal without its sign begins with a digit, and all of it can go on a number. -/
theorem of_unsignedParts? {cs : List Char} {q : Parts} (h : unsignedParts? cs = some q) :
    (∃ c rest, cs = c :: rest ∧ isDigit c = true) ∧
      ∀ c ∈ cs, JsonToken.continuesNumber c = true := by
  unfold unsignedParts? at h
  rcases hspan : spanDigits cs with ⟨whole, rest⟩
  rw [hspan] at h
  obtain ⟨rfl, hwhole⟩ := mem_of_spanDigits hspan
  dsimp only at h
  split at h
  · cases h
  rename_i hnot
  constructor
  · cases whole with
    | nil => exact absurd rfl hnot
    | cons c digits => exact ⟨c, digits ++ rest, rfl, hwhole c List.mem_cons_self⟩
  · refine List.forall_mem_append.2 ⟨fun c hc => continuesNumber_of_isDigit (hwhole c hc), ?_⟩
    split at h
    · rename_i rest
      rcases hspan' : spanDigits rest with ⟨fraction, rest'⟩
      rw [hspan'] at h
      obtain ⟨rfl, hfraction⟩ := mem_of_spanDigits hspan'
      dsimp only at h
      split at h
      · cases h
      · exact List.forall_mem_cons.2 ⟨rfl, List.forall_mem_append.2
          ⟨fun c hc => continuesNumber_of_isDigit (hfraction c hc),
            continuesNumber_of_tailParts? h⟩⟩
    · exact continuesNumber_of_tailParts? h

theorem of_isLiteral {cs : List Char} (h : isLiteral cs = true) :
    (∃ c rest, cs = c :: rest ∧ (c = '-' ∨ isDigit c = true)) ∧
      ∀ c ∈ cs, JsonToken.continuesNumber c = true := by
  obtain ⟨q, hq⟩ := Option.isSome_iff_exists.1 h
  unfold parts? at hq
  split at hq
  · obtain ⟨-, hall⟩ := of_unsignedParts? hq
    exact ⟨⟨_, _, rfl, .inl rfl⟩, List.forall_mem_cons.2 ⟨rfl, hall⟩⟩
  · obtain ⟨⟨c, rest, hcs, hdigit⟩, hall⟩ := of_unsignedParts? hq
    exact ⟨⟨c, rest, hcs, .inr hdigit⟩, hall⟩

end JsonNumber
end ScriptHost
