import ScriptHost.Text.Utf16

/- UTF-16 written and read back. The writer and the reader are inverse to each
   other, for units as for the two bytes of a unit, and the reader refuses what no
   writer gives.

   What is proved:
     1. `ofUtf16?_eq_some_iff` — units read as characters exactly if they are the
        units of those characters.
     2. `ofUtf16?_eq_none_iff` — units are refused exactly if a surrogate among them
        stands alone.
     3. `units?_eq_some_iff`, `units?_eq_none_iff` — the same for bytes, where only an
        odd number of them is refused. -/
namespace ScriptHost.Text

/-- The units of a character: one below 0x10000, and else a pair of surrogates for
    the upper and the lower ten bits of what is left after 0x10000. -/
def utf16 (c : Char) : List UInt16 :=
  if c.toNat < 0x10000 then [UInt16.ofNat c.toNat]
  else [UInt16.ofNat (0xD800 + (c.toNat - 0x10000) / 0x400),
    UInt16.ofNat (0xDC00 + (c.toNat - 0x10000) % 0x400)]

/-! Characters and surrogates as numbers. -/

theorem isHighSurrogate_iff {u : UInt16} :
    isHighSurrogate u = true ↔ 0xD800 ≤ u.toNat ∧ u.toNat < 0xDC00 := by
  simp [isHighSurrogate, UInt16.le_iff_toNat_le, UInt16.lt_iff_toNat_lt]

theorem isLowSurrogate_iff {u : UInt16} :
    isLowSurrogate u = true ↔ 0xDC00 ≤ u.toNat ∧ u.toNat < 0xE000 := by
  simp [isLowSurrogate, UInt16.le_iff_toNat_le, UInt16.lt_iff_toNat_lt]

theorem charRange (c : Char) : c.toNat < 0xD800 ∨ 0xDFFF < c.toNat ∧ c.toNat < 0x110000 :=
  c.valid

theorem toNat_ofNat_of_charRange {n : Nat} (h : n < 0xD800 ∨ 0xDFFF < n ∧ n < 0x110000) :
    (Char.ofNat n).toNat = n := by
  have hvalid : n.isValidChar := h
  rw [Char.ofNat, dif_pos hvalid]
  rfl

theorem uint16_toNat_ofNat {n : Nat} (h : n < 0x10000) : (UInt16.ofNat n).toNat = n := by
  rw [UInt16.toNat_ofNat']
  exact Nat.mod_eq_of_lt h

theorem uint8_toNat_ofNat {n : Nat} (h : n < 256) : (UInt8.ofNat n).toNat = n := by
  rw [UInt8.toNat_ofNat']
  exact Nat.mod_eq_of_lt h

theorem utf16_ofNat {u : UInt16} (hhigh : ¬isHighSurrogate u = true)
    (hlow : ¬isLowSurrogate u = true) : utf16 (Char.ofNat u.toNat) = [u] := by
  rw [isHighSurrogate_iff] at hhigh
  rw [isLowSurrogate_iff] at hlow
  have hu : u.toNat < 0x10000 := u.toNat_lt
  have hc : (Char.ofNat u.toNat).toNat = u.toNat := toNat_ofNat_of_charRange (by omega)
  rw [utf16, hc, if_pos hu, UInt16.ofNat_toNat]

theorem utf16_ofSurrogates {high low : UInt16} (hhigh : isHighSurrogate high = true)
    (hlow : isLowSurrogate low = true) : utf16 (ofSurrogates high low) = [high, low] := by
  rw [isHighSurrogate_iff] at hhigh
  rw [isLowSurrogate_iff] at hlow
  have hc : (ofSurrogates high low).toNat =
      0x10000 + (high.toNat - 0xD800) * 0x400 + (low.toNat - 0xDC00) :=
    toNat_ofNat_of_charRange (by omega)
  have hupper : 0xD800 + ((ofSurrogates high low).toNat - 0x10000) / 0x400 = high.toNat := by omega
  have hlower : 0xDC00 + ((ofSurrogates high low).toNat - 0x10000) % 0x400 = low.toNat := by omega
  rw [utf16, if_neg (by omega), hupper, hlower, UInt16.ofNat_toNat, UInt16.ofNat_toNat]

/-! Units. -/

theorem ofUtf16?_utf16_append (c : Char) (rest : List UInt16) :
    ofUtf16? (utf16 c ++ rest) = (ofUtf16? rest).map (c :: ·) := by
  have hrange := charRange c
  by_cases hc : c.toNat < 0x10000
  · have hu : (UInt16.ofNat c.toNat).toNat = c.toNat := uint16_toNat_ofNat hc
    have hhigh : ¬isHighSurrogate (UInt16.ofNat c.toNat) = true := by
      rw [isHighSurrogate_iff]
      omega
    have hlow : ¬isLowSurrogate (UInt16.ofNat c.toNat) = true := by
      rw [isLowSurrogate_iff]
      omega
    rw [utf16, if_pos hc, List.singleton_append, ofUtf16?.eq_def]
    dsimp only
    rw [if_neg hhigh, if_neg hlow, hu, Char.ofNat_toNat]
  · -- the two halves carry ten bits each of what is above 0x10000
    have hu := uint16_toNat_ofNat
      (show 0xD800 + (c.toNat - 0x10000) / 0x400 < 0x10000 by omega)
    have hl := uint16_toNat_ofNat
      (show 0xDC00 + (c.toNat - 0x10000) % 0x400 < 0x10000 by omega)
    rw [utf16, if_neg hc]
    generalize UInt16.ofNat (0xD800 + (c.toNat - 0x10000) / 0x400) = high at hu
    generalize UInt16.ofNat (0xDC00 + (c.toNat - 0x10000) % 0x400) = low at hl
    have hhigh : isHighSurrogate high = true := isHighSurrogate_iff.2 (by omega)
    have hlow : isLowSurrogate low = true := isLowSurrogate_iff.2 (by omega)
    have hvalue : 0x10000 + (high.toNat - 0xD800) * 0x400 + (low.toNat - 0xDC00) = c.toNat := by
      omega
    have hpair : ofSurrogates high low = c := by
      rw [ofSurrogates, hvalue, Char.ofNat_toNat]
    rw [List.cons_append, List.singleton_append, ofUtf16?, if_pos hhigh, if_pos hlow, hpair]

theorem ofUtf16?_flatMap_utf16 (cs : List Char) : ofUtf16? (cs.flatMap utf16) = some cs := by
  induction cs with
  | nil => rfl
  | cons c cs ih => rw [List.flatMap_cons, ofUtf16?_utf16_append, ih, Option.map_some]

theorem flatMap_utf16_of_ofUtf16? {units : List UInt16} {cs : List Char}
    (h : ofUtf16? units = some cs) : cs.flatMap utf16 = units := by
  fun_induction ofUtf16? units generalizing cs with
  | case1 => cases h; rfl
  | case2 u hhigh low rest hlow ih =>
    obtain ⟨later, hlater, rfl⟩ := Option.map_eq_some_iff.1 h
    rw [List.flatMap_cons, utf16_ofSurrogates hhigh hlow, ih hlater]
    rfl
  | case3 => cases h
  | case4 => cases h
  | case5 => cases h
  | case6 u rest hhigh hlow ih =>
    obtain ⟨later, hlater, rfl⟩ := Option.map_eq_some_iff.1 h
    rw [List.flatMap_cons, utf16_ofNat hhigh hlow, ih hlater]
    rfl

/-- Units read as characters exactly if they are the units of those characters. -/
theorem ofUtf16?_eq_some_iff {units : List UInt16} {cs : List Char} :
    ofUtf16? units = some cs ↔ cs.flatMap utf16 = units := by
  constructor
  · exact flatMap_utf16_of_ofUtf16?
  · rintro rfl
    exact ofUtf16?_flatMap_utf16 cs

/-- Units that begin with the second half of a pair. -/
def LowFirst (units : List UInt16) : Prop :=
  ∃ low ∈ units.head?, isLowSurrogate low = true

/-- Units that end with the first half of a pair. -/
def HighLast (units : List UInt16) : Prop :=
  ∃ high ∈ units.getLast?, isHighSurrogate high = true

/-- A unit between others is half of a pair whose other half is not beside it. -/
def Alone (before : List UInt16) (u : UInt16) (after : List UInt16) : Prop :=
  isHighSurrogate u = true ∧ ¬LowFirst after ∨ isLowSurrogate u = true ∧ ¬HighLast before

/-- Some surrogate among the units stands alone. -/
def LoneSurrogate (units : List UInt16) : Prop :=
  ∃ before u after, units = before ++ u :: after ∧ Alone before u after

theorem not_high_and_low {u : UInt16} (hhigh : isHighSurrogate u = true) :
    ¬isLowSurrogate u = true := by
  rw [isHighSurrogate_iff] at hhigh
  rw [isLowSurrogate_iff]
  omega

theorem highLast_cons {u : UInt16} (before : List UInt16) (hu : ¬isHighSurrogate u = true) :
    HighLast (u :: before) ↔ HighLast before := by
  cases before with
  | nil => simp [HighLast, hu]
  | cons w before => rw [HighLast, HighLast, List.getLast?_cons_cons]

/-- Whether a unit stands alone does not depend on what stands before, if that ends alike. -/
theorem alone_congr {before before' after : List UInt16} {u : UInt16}
    (h : HighLast before ↔ HighLast before') : Alone before u after ↔ Alone before' u after := by
  rw [Alone, Alone, h]

theorem not_loneSurrogate_nil : ¬LoneSurrogate [] := by
  rintro ⟨before, u, after, h, -⟩
  cases before <;> cases h

theorem loneSurrogate_cons {u : UInt16} (rest : List UInt16) (hhigh : ¬isHighSurrogate u = true)
    (hlow : ¬isLowSurrogate u = true) : LoneSurrogate (u :: rest) ↔ LoneSurrogate rest := by
  constructor
  · rintro ⟨before, v, after, h, halone⟩
    cases before with
    | nil =>
      obtain ⟨rfl, rfl⟩ := List.cons.inj h
      exact (halone.elim (fun h => hhigh h.1) (fun h => hlow h.1)).elim
    | cons w before =>
      obtain ⟨rfl, rfl⟩ := List.cons.inj h
      exact ⟨before, v, after, rfl, (alone_congr (highLast_cons before hhigh)).1 halone⟩
  · rintro ⟨before, v, after, rfl, halone⟩
    exact ⟨u :: before, v, after, rfl, (alone_congr (highLast_cons before hhigh)).2 halone⟩

theorem loneSurrogate_pair {high low : UInt16} (rest : List UInt16)
    (hhigh : isHighSurrogate high = true) (hlow : isLowSurrogate low = true) :
    LoneSurrogate (high :: low :: rest) ↔ LoneSurrogate rest := by
  have hlow' : ¬isHighSurrogate low = true := fun h => not_high_and_low h hlow
  have hlast : ∀ before, HighLast (high :: low :: before) ↔ HighLast before := by
    intro before
    rw [← highLast_cons before hlow', HighLast, HighLast, List.getLast?_cons_cons]
  constructor
  · rintro ⟨before, v, after, h, halone⟩
    match before with
    | [] =>
      -- the first half has the second one after it
      obtain ⟨rfl, rfl⟩ := List.cons.inj h
      rcases halone with ⟨-, hnext⟩ | ⟨hv, -⟩
      · exact (hnext ⟨low, rfl, hlow⟩).elim
      · exact (not_high_and_low hhigh hv).elim
    | [w] =>
      -- and the second half has the first one before it
      obtain ⟨rfl, htail⟩ := List.cons.inj h
      obtain ⟨rfl, rfl⟩ := List.cons.inj htail
      rcases halone with ⟨hv, -⟩ | ⟨-, hbefore⟩
      · exact (hlow' hv).elim
      · exact (hbefore ⟨_, rfl, hhigh⟩).elim
    | w :: w' :: before =>
      obtain ⟨rfl, htail⟩ := List.cons.inj h
      obtain ⟨rfl, rfl⟩ := List.cons.inj htail
      exact ⟨before, v, after, rfl, (alone_congr (hlast before)).1 halone⟩
  · rintro ⟨before, v, after, rfl, halone⟩
    exact ⟨high :: low :: before, v, after, rfl, (alone_congr (hlast before)).2 halone⟩

/-- Units are refused exactly if a surrogate among them stands alone. -/
theorem ofUtf16?_eq_none_iff {units : List UInt16} :
    ofUtf16? units = none ↔ LoneSurrogate units := by
  fun_induction ofUtf16? units with
  | case1 => simp [not_loneSurrogate_nil]
  | case2 u hhigh low rest hlow ih =>
    rw [Option.map_eq_none_iff, ih, loneSurrogate_pair rest hhigh hlow]
  | case3 u hhigh low rest hlow =>
    refine iff_of_true rfl ⟨[], u, low :: rest, rfl, .inl ⟨hhigh, ?_⟩⟩
    rintro ⟨v, hv, hvlow⟩
    cases hv
    exact hlow hvlow
  | case4 u hhigh =>
    refine iff_of_true rfl ⟨[], u, [], rfl, .inl ⟨hhigh, ?_⟩⟩
    rintro ⟨v, hv, -⟩
    cases hv
  | case5 u rest hhigh hlow =>
    refine iff_of_true rfl ⟨[], u, rest, rfl, .inr ⟨hlow, ?_⟩⟩
    rintro ⟨v, hv, -⟩
    cases hv
  | case6 u rest hhigh hlow ih =>
    rw [Option.map_eq_none_iff, ih, loneSurrogate_cons rest hhigh hlow]

/-! Bytes. -/

namespace ByteOrder

def bytes (order : ByteOrder) (u : UInt16) : List UInt8 :=
  match order with
  | .little => [UInt8.ofNat (u.toNat % 256), UInt8.ofNat (u.toNat / 256)]
  | .big => [UInt8.ofNat (u.toNat / 256), UInt8.ofNat (u.toNat % 256)]

theorem bytes_unit (order : ByteOrder) (first second : UInt8) :
    order.bytes (order.unit first second) = [first, second] := by
  have hfirst : first.toNat < 256 := first.toNat_lt
  have hsecond : second.toNat < 256 := second.toNat_lt
  cases order with
  | little =>
    have hu := uint16_toNat_ofNat (show first.toNat + 256 * second.toNat < 0x10000 by omega)
    have hmod : (first.toNat + 256 * second.toNat) % 256 = first.toNat := by omega
    have hdiv : (first.toNat + 256 * second.toNat) / 256 = second.toNat := by omega
    rw [unit, bytes, hu, hmod, hdiv, UInt8.ofNat_toNat, UInt8.ofNat_toNat]
  | big =>
    have hu := uint16_toNat_ofNat (show 256 * first.toNat + second.toNat < 0x10000 by omega)
    have hmod : (256 * first.toNat + second.toNat) % 256 = second.toNat := by omega
    have hdiv : (256 * first.toNat + second.toNat) / 256 = first.toNat := by omega
    rw [unit, bytes, hu, hmod, hdiv, UInt8.ofNat_toNat, UInt8.ofNat_toNat]

theorem units?_bytes_append (order : ByteOrder) (u : UInt16) (rest : List UInt8) :
    order.units? (order.bytes u ++ rest) = (order.units? rest).map (u :: ·) := by
  have hu : u.toNat < 0x10000 := u.toNat_lt
  have hmod := uint8_toNat_ofNat (show u.toNat % 256 < 256 by omega)
  have hdiv := uint8_toNat_ofNat (show u.toNat / 256 < 256 by omega)
  have hunit : ∀ n, n = u.toNat → UInt16.ofNat n = u := by
    rintro n rfl
    exact UInt16.ofNat_toNat
  cases order with
  | little =>
    rw [bytes, List.cons_append, List.singleton_append, units?, unit, hmod, hdiv,
      hunit _ (by omega)]
  | big =>
    rw [bytes, List.cons_append, List.singleton_append, units?, unit, hmod, hdiv,
      hunit _ (by omega)]

theorem units?_eq_some_iff {order : ByteOrder} {raw : List UInt8} {units : List UInt16} :
    order.units? raw = some units ↔ units.flatMap order.bytes = raw := by
  constructor
  · intro h
    fun_induction order.units? raw generalizing units with
    | case1 => cases h; rfl
    | case2 => cases h
    | case3 first second rest ih =>
      obtain ⟨later, hlater, rfl⟩ := Option.map_eq_some_iff.1 h
      rw [List.flatMap_cons, bytes_unit, ih hlater]
      rfl
  · rintro rfl
    induction units with
    | nil => rfl
    | cons u units ih => rw [List.flatMap_cons, units?_bytes_append, ih, Option.map_some]

theorem units?_eq_none_iff {order : ByteOrder} {raw : List UInt8} :
    order.units? raw = none ↔ raw.length % 2 = 1 := by
  fun_induction order.units? raw with
  | case1 => simp
  | case2 => simp
  | case3 first second rest ih =>
    rw [Option.map_eq_none_iff, ih, List.length_cons, List.length_cons]
    omega

end ByteOrder
end ScriptHost.Text
