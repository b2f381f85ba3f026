import ScriptHost.Files.Path
import ScriptHost.Proofs.Source.Encoding
import ScriptHost.Text.Lowercase
import ScriptHost.Text.Numeral

/- Texts of one line. A text goes into a message as it is, as digits, as bytes shown to
   people, or in lower case. None of these ways makes a line feed: digits are none, bytes
   are shown as a line feed only where there is one, and no character has a line feed for
   its lower case.

   What is proved: `oneLine_display` for bytes without a line feed, and
   `oneLine_lowercase` for texts without one. -/
namespace ScriptHost

namespace Text

def lineFeed : UInt8 := 0x0A

def OneLine (s : String) : Prop := '\n' ∉ s.toList

instance (s : String) : Decidable (OneLine s) := inferInstanceAs (Decidable (¬ _))

theorem oneLine_ofList {cs : List Char} : OneLine (String.ofList cs) ↔ '\n' ∉ cs := by
  rw [OneLine, String.toList_ofList]

theorem OneLine.append {s t : String} (hs : OneLine s) (ht : OneLine t) : OneLine (s ++ t) := by
  rw [OneLine, String.toList_append, List.mem_append, not_or]
  exact ⟨hs, ht⟩

/-! Numbers. -/

theorem digitChar_ne_lineFeed : ∀ d < 16, Nat.digitChar d ≠ '\n' := by
  decide

theorem not_mem_toDigits {base : Nat} (hbase : 1 < base) (hle : base ≤ 16) (n : Nat) :
    '\n' ∉ Nat.toDigits base n := by
  induction n using Nat.strongRecOn with
  | ind n ih =>
    intro h
    by_cases hn : n < base
    · rw [Nat.toDigits_of_lt_base hn] at h
      exact digitChar_ne_lineFeed n (by omega) (List.mem_singleton.1 h).symm
    · rw [Nat.toDigits_of_base_le hbase (by omega)] at h
      rcases List.mem_append.1 h with h | h
      · exact ih (n / base) (Nat.div_lt_self (by omega) hbase) h
      · have hdigit := Nat.mod_lt n (show 0 < base by omega)
        exact digitChar_ne_lineFeed _ (by omega) (List.mem_singleton.1 h).symm

theorem oneLine_nat (n : Nat) : OneLine (toString n) :=
  oneLine_ofList.2 (not_mem_toDigits (by decide) (by decide) n)

theorem oneLine_word (w : UInt32) : OneLine (toString w) := oneLine_nat w.toNat

theorem oneLine_hex (n : Nat) : OneLine (hex n) :=
  oneLine_ofList.2 (not_mem_toDigits (by decide) (by decide) n)

/-! Bytes shown to people. -/

theorem not_mem_of_utf8 {cs : List Char} (h : lineFeed ∉ utf8 (String.ofList cs)) : '\n' ∉ cs := by
  induction cs with
  | nil => exact List.not_mem_nil
  | cons c rest ih =>
    rw [utf8_ofList_cons, List.mem_append, not_or] at h
    refine mt List.mem_cons.1 (not_or.2 ⟨?_, ih h.2⟩)
    rintro rfl
    exact h.1 (by decide)

theorem oneLine_of_utf8 {s : String} (h : lineFeed ∉ utf8 s) : OneLine s := by
  rw [← String.ofList_toList (s := s)] at h
  exact not_mem_of_utf8 h

theorem follow_suffix (n : Nat) (least greatest : UInt8) (value : Nat) (bytes : List UInt8) :
    (follow n least greatest value bytes).2 <:+ bytes := by
  fun_induction follow n least greatest value bytes with
  | case1 => exact List.suffix_refl _
  | case2 => exact List.suffix_refl _
  | case3 n least greatest value b rest _ ih => exact ih.trans (List.suffix_cons b rest)
  | case4 => exact List.suffix_refl _

/-- Each byte that is read multiplies the value. -/
theorem le_of_follow {n : Nat} {least greatest : UInt8} {value v : Nat} {bytes rest : List UInt8}
    (h : follow n least greatest value bytes = (some v, rest)) : value ≤ v := by
  fun_induction follow n least greatest value bytes with
  | case1 => exact Nat.le_of_eq (Option.some.inj (congrArg Prod.fst h))
  | case2 => cases h
  | case3 n least greatest value b bytes _ ih =>
    have hv := ih h
    omega
  | case4 => cases h

theorem le_of_follow_succ {n : Nat} {least greatest : UInt8} {value v : Nat}
    {bytes rest : List UInt8} (h : follow (n + 1) least greatest value bytes = (some v, rest)) :
    value * 64 + (least.toNat - 0x80) ≤ v := by
  cases bytes with
  | nil => cases h
  | cons b bytes =>
    rw [follow] at h
    split at h
    · rename_i hrange
      have hfirst := UInt8.le_iff_toNat_le.1 hrange.1
      have hv := le_of_follow h
      omega
    · cases h

/-- A leading byte is a character by itself, or announces one that is no control character. -/
theorem lead?_cases {b : UInt8} {l : Lead} (h : lead? b = some l) :
    l.following = 0 ∧ l.payload = b.toNat ∨
      0 < l.following ∧ 0x0A < l.payload * 64 + (l.least.toNat - 0x80) := by
  have table : ∀ n < 0x100, ∀ l ∈ lead? (UInt8.ofNat n), l.following = 0 ∧ l.payload = n ∨
      0 < l.following ∧ 0x0A < l.payload * 64 + (l.least.toNat - 0x80) := by
    decide +kernel
  refine table b.toNat b.toNat_lt l ?_
  rw [UInt8.ofNat_toNat]
  exact h

theorem char_ofNat_eq_lineFeed {n : Nat} (h : Char.ofNat n = '\n') : n = 0x0A := by
  by_cases hvalid : n.isValidChar
  · rw [Char.ofNat, dif_pos hvalid] at h
    exact congrArg Char.toNat h
  · rw [Char.ofNat, dif_neg hvalid] at h
    cases h

theorem eq_lineFeed_of_showFirst {b : UInt8} {rest : List UInt8} (h : (showFirst b rest).1 = '\n') :
    b = lineFeed := by
  have hreplacement : '\uFFFD' ≠ '\n' := by decide
  unfold showFirst at h
  split at h
  · exact absurd h hreplacement
  rename_i l hlead
  split at h
  · rename_i value left hfollow
    have hvalue := char_ofNat_eq_lineFeed h
    rcases lead?_cases hlead with ⟨hfollowing, hpayload⟩ | ⟨hfollowing, hbound⟩
    · rw [hfollowing, follow] at hfollow
      cases hfollow
      exact UInt8.toNat_inj.1 (hpayload.symm.trans hvalue)
    · obtain ⟨n, hn⟩ := Nat.exists_eq_succ_of_ne_zero (Nat.ne_of_gt hfollowing)
      rw [hn] at hfollow
      have hle := le_of_follow_succ hfollow
      omega
  · exact absurd h hreplacement

theorem showFirst_suffix (b : UInt8) (rest : List UInt8) : (showFirst b rest).2 <:+ rest := by
  unfold showFirst
  split
  · exact List.suffix_refl _
  · rename_i l _
    have h := follow_suffix l.following l.least l.greatest l.payload rest
    split <;> simp_all

theorem not_mem_showBytes {bytes : List UInt8} (h : lineFeed ∉ bytes) : '\n' ∉ showBytes bytes := by
  fun_induction showBytes bytes with
  | case1 => exact List.not_mem_nil
  | case2 b rest ih =>
    obtain ⟨hb, hrest⟩ := not_or.1 (mt List.mem_cons.2 h)
    refine mt List.mem_cons.1 (not_or.2 ⟨fun hfirst => ?_, ih ?_⟩)
    · exact hb (eq_lineFeed_of_showFirst hfirst.symm).symm
    · exact fun hleft => hrest ((showFirst_suffix b rest).subset hleft)

theorem oneLine_display {bytes : List UInt8} (h : lineFeed ∉ bytes) : OneLine (display bytes) := by
  unfold display
  split
  · rename_i s hs
    refine oneLine_of_utf8 ?_
    rwa [utf8_of_ofUtf8? hs]
  · exact oneLine_ofList.2 (not_mem_showBytes h)

/-! Lower case. -/

theorem target_of_mem_lowerRuns : ∀ r ∈ lowerRuns, 0x0A < r.target := by
  decide +kernel

theorem eq_lineFeed_of_lowerChar {c : Char} (h : '\n' ∈ lowerChar c) : c = '\n' := by
  have ascii : ∀ n < 0x80, (Char.ofNat n).toLower = '\n' → Char.ofNat n = '\n' := by
    decide +kernel
  unfold lowerChar at h
  split at h
  · rename_i hascii
    have hvalue := ascii c.toNat hascii
    rw [Char.ofNat_toNat] at hvalue
    exact hvalue (List.mem_singleton.1 h).symm
  split at h
  · exact absurd h (by decide)
  split at h
  · rename_i n hn
    obtain ⟨r, hr, himage⟩ := List.exists_of_findSome?_eq_some hn
    have htarget := target_of_mem_lowerRuns r hr
    have hvalue := char_ofNat_eq_lineFeed (List.mem_singleton.1 h).symm
    unfold CaseRun.image? at himage
    split at himage
    · have := Option.some.inj himage
      omega
    · cases himage
  · exact (List.mem_singleton.1 h).symm

theorem not_mem_lowerAfter {before cs : List Char} (h : '\n' ∉ cs) :
    '\n' ∉ lowerAfter before cs := by
  induction cs generalizing before with
  | nil => exact List.not_mem_nil
  | cons c rest ih =>
    obtain ⟨hc, hrest⟩ := not_or.1 (mt List.mem_cons.2 h)
    rw [lowerAfter]
    refine mt List.mem_append.1 (not_or.2 ⟨fun hlower => ?_, ih hrest⟩)
    split at hlower
    · split at hlower <;> revert hlower <;> decide
    · exact hc (eq_lineFeed_of_lowerChar hlower).symm

theorem oneLine_lowercase {s : String} (h : OneLine s) : OneLine (lowercase s) :=
  oneLine_ofList.2 (not_mem_lowerAfter h)

end Text

/-! Names in paths. -/

namespace Path

theorem subset_of_mem_splitSlash {bytes : List UInt8} {piece : Name}
    (h : piece ∈ splitSlash bytes) : piece ⊆ bytes := by
  fun_induction splitSlash bytes generalizing piece with
  | case1 =>
    rw [List.mem_singleton.1 h]
    exact List.nil_subset _
  | case2 rest ih =>
    rcases List.mem_cons.1 h with rfl | h
    · exact List.nil_subset _
    · exact List.Subset.trans (ih h) (List.subset_cons_self _ _)
  | case3 b rest _ hnone ih =>
    rw [List.mem_singleton.1 h]
    exact List.cons_subset_cons b (List.nil_subset rest)
  | case4 b rest _ name names hsplit ih =>
    rw [hsplit] at ih
    rcases List.mem_cons.1 h with rfl | h
    · exact List.cons_subset_cons b (ih List.mem_cons_self)
    · exact List.Subset.trans (ih (List.mem_cons_of_mem _ h)) (List.subset_cons_self _ _)

theorem stem_subset (name : Name) : stem name ⊆ name := by
  unfold stem
  split
  · exact fun _ h => h
  · intro b hb
    have hdropped := List.mem_of_mem_drop (List.mem_reverse.1 hb)
    exact List.mem_reverse.1 ((List.dropWhile_sublist _).subset hdropped)

theorem subset_of_fileStem? {p : Path} {name : Name} (h : p.fileStem? = some name) :
    name ⊆ p.bytes := by
  obtain ⟨full, hfull, rfl⟩ := Option.map_eq_some_iff.1 h
  have hlast : p.components.getLast? = some (.normal full) := by
    unfold fileName? at hfull
    split at hfull
    · rename_i heq
      rw [heq, Option.some.inj hfull]
    · cases hfull
  have hmem : Component.normal full ∈ p.components := List.mem_of_getLast? hlast
  have hname : full ∈ p.names := by
    rcases List.mem_append.1 hmem with hfront | hrest
    · split at hfront
      · cases List.mem_singleton.1 hfront
      split at hfront
      · cases List.mem_singleton.1 hfront
      · cases hfront
    · obtain ⟨other, hother, heq⟩ := List.mem_map.1 hrest
      unfold Component.ofName at heq
      split at heq <;> cases heq
      exact (List.mem_filter.1 hother).1
  exact List.Subset.trans (stem_subset full) (subset_of_mem_splitSlash (List.mem_filter.1 hname).1)

end Path
end ScriptHost
