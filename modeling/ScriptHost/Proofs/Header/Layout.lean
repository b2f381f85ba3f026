import Mathlib.Data.Nat.Digits.Lemmas
import ScriptHost.Header
import ScriptHost.Proofs.Source.Encoding

/- The array of a header, line by line. The renderer writes it in one pass and decides at
   each byte what follows; here the byte code is cut into rows of sixteen bytes first, and
   each row is written as a line of its own.

   What is proved:
     1. `offset_append_cells` — the pass writes the lines, from any line on.
     2. `render_layout` — the whole array after the last brace that opens, at every
        length, and the byte code read back from it.
   Both the lines and the reader are stated over bytes and digits, without the numerals
   of `Text`. -/
namespace ScriptHost

namespace Text

theorem utf8_append (s t : String) : utf8 (s ++ t) = utf8 s ++ utf8 t := by
  simp [utf8]

end Text

namespace Header

/-! The layout. -/

def hexDigit (d : Nat) : UInt8 :=
  UInt8.ofNat (if d < 10 then 0x30 + d else 0x41 + (d - 10))

/-- A number in hexadecimal, with zeros in front up to a width. -/
def numeral (width n : Nat) : List UInt8 :=
  ((Nat.digits 16 n).reverse.leftpad width 0).map hexDigit

/-- A byte as a literal, with the blank before it. -/
def literal (b : UInt8) : List UInt8 :=
  [0x20, 0x30, 0x78, hexDigit (b.toNat / 16), hexDigit (b.toNat % 16)]

/-- A byte code cut into rows of sixteen bytes; one empty row if it is empty. -/
def rows (b : List UInt8) : List (List UInt8) :=
  if b.length ≤ bytesPerLine then [b]
  else b.take bytesPerLine :: rows (b.drop bytesPerLine)
termination_by b.length
decreasing_by simp only [List.length_drop, bytesPerLine] at *; omega

/-- The line of a row: where the row begins, then its bytes between commas. -/
def line (k : Nat) (row : List UInt8) : List UInt8 :=
  bytes "/* " ++ numeral 8 (bytesPerLine * k) ++ bytes " */" ++
    (bytes ",").intercalate (row.map literal)

/-- The lines of a byte code, the first of which has number `k`. -/
def linesFrom (k : Nat) (b : List UInt8) : List UInt8 :=
  (bytes "," ++ lineEnd).intercalate ((rows b).mapIdx fun i => line (k + i))

def table (b : List UInt8) : List UInt8 :=
  linesFrom 0 b

def closing : List UInt8 :=
  bytes "\x7d;" ++ lineEnd ++ lineEnd ++ bytes "\x7d" ++ lineEnd

/-- What stands after the brace that opens the array. -/
def body (b : List UInt8) : List UInt8 :=
  lineEnd ++ table b ++ closing

/-- `rest` is what a text has after the last `x` in it. -/
def AfterLast (x : UInt8) (text rest : List UInt8) : Prop :=
  ∃ front, text = front ++ x :: rest ∧ x ∉ rest

/-! The reader. -/

def hexValue? (c : UInt8) : Option Nat :=
  if 0x30 ≤ c ∧ c ≤ 0x39 then some (c.toNat - 0x30)
  else if 0x41 ≤ c ∧ c ≤ 0x46 then some (c.toNat - 0x41 + 10)
  else none

/-- The byte of the literal a text begins with. -/
def literal? : List UInt8 → Option UInt8
  | 0x30 :: 0x78 :: high :: low :: _ =>
    (hexValue? high).bind fun h => (hexValue? low).map fun l => UInt8.ofNat (16 * h + l)
  | _ => none

/-- The bytes of all the literals in a text, wherever they stand. -/
def literals (text : List UInt8) : List UInt8 :=
  text.tails.filterMap literal?

/-! Digits. -/

@[simp]
theorem hexValue?_hexDigit {d : Nat} (hd : d < 16) : hexValue? (hexDigit d) = some d := by
  have hall : ∀ d < 16, hexValue? (hexDigit d) = some d := by decide
  exact hall d hd

theorem hexDigit_ne {d : Nat} (hd : d < 16) {x : UInt8} (hx : hexValue? x = none) :
    hexDigit d ≠ x := by
  rintro rfl
  simp [hexValue?_hexDigit hd] at hx

theorem digit_lt {width n d : Nat} (hd : d ∈ (Nat.digits 16 n).reverse.leftpad width 0) :
    d < 16 := by
  simp only [List.leftpad, List.mem_append, List.mem_replicate, List.mem_reverse] at hd
  obtain ⟨-, rfl⟩ | hd := hd
  · omega
  · exact Nat.digits_lt_base (by omega) hd

theorem not_mem_numeral {width n : Nat} {x : UInt8} (hx : hexValue? x = none) :
    x ∉ numeral width n := by
  rw [numeral, List.mem_map]
  rintro ⟨d, hd, hdx⟩
  exact hexDigit_ne (digit_lt hd) hx hdx

/-! The renderer's pieces as bytes. -/

@[simp]
theorem bytes_append (s t : String) : bytes (s ++ t) = bytes s ++ bytes t :=
  Text.utf8_append s t

theorem toDigits_eq (n : Nat) :
    Nat.toDigits 16 n = ((Nat.digits 16 n).reverse.leftpad 1 0).map Nat.digitChar := by
  induction n using Nat.strongRecOn with
  | ind n ih =>
    by_cases hn : n < 16
    · rw [Nat.toDigits_of_lt_base hn]
      obtain rfl | hpos := Nat.eq_zero_or_pos n
      · decide
      · rw [Nat.digits_of_lt 16 n (by omega) hn]
        simp [List.leftpad]
    · -- The last digit stands apart; the others are those of `n / 16`, which is not zero.
      rw [Nat.toDigits_of_base_le (by omega) (by omega), ih (n / 16) (by omega),
        Nat.digits_def' (show 1 < 16 by omega) (show 0 < n by omega)]
      have hnext : 0 < (Nat.digits 16 (n / 16)).length := by
        rw [List.length_pos_iff, ne_eq, Nat.digits_eq_nil_iff_eq_zero]
        omega
      simp only [List.leftpad, List.length_reverse, List.length_cons]
      rw [Nat.sub_eq_zero_of_le (by omega), Nat.sub_eq_zero_of_le (by omega)]
      simp

/-- Padding to a digit first makes no difference to padding to a width. -/
theorem hexUpper_eq {width : Nat} (hwidth : 0 < width) (n : Nat) :
    Text.hexUpper width n =
      ((Nat.digits 16 n).reverse.leftpad width 0).map fun d => (Nat.digitChar d).toUpper := by
  have hzero : (Nat.digitChar 0).toUpper = '0' := by decide
  rw [Text.hexUpper, toDigits_eq]
  cases (Nat.digits 16 n).reverse with
  | nil =>
    obtain ⟨width, rfl⟩ := Nat.exists_eq_succ_of_ne_zero (Nat.ne_of_gt hwidth)
    simp [List.leftpad, List.replicate_succ', hzero]
  | cons d ds => simp [List.leftpad, hzero, Function.comp_def]

theorem bytes_digits {ds : List Nat} (hds : ∀ d ∈ ds, d < 16) :
    bytes (String.ofList (ds.map fun d => (Nat.digitChar d).toUpper)) = ds.map hexDigit := by
  have hdigit : ∀ d < 16,
      String.utf8EncodeChar (Nat.digitChar d).toUpper = [hexDigit d] := by
    decide
  induction ds with
  | nil => rfl
  | cons d ds ih =>
    rw [List.map_cons, bytes, Text.utf8_ofList_cons, hdigit d (hds d (by simp)), ← bytes,
      ih fun e he => hds e (by simp [he])]
    rfl

theorem bytes_hexUpper {width : Nat} (hwidth : 0 < width) (n : Nat) :
    bytes (String.ofList (Text.hexUpper width n)) = numeral width n := by
  rw [hexUpper_eq hwidth, bytes_digits fun d hd => digit_lt hd, numeral]

theorem numeral_two (b : UInt8) :
    numeral 2 b.toNat = [hexDigit (b.toNat / 16), hexDigit (b.toNat % 16)] := by
  have hall : ∀ n < 256, numeral 2 n = [hexDigit (n / 16), hexDigit (n % 16)] := by
    decide +kernel
  exact hall b.toNat b.toNat_lt

theorem cell_eq (b : UInt8) : cell b = literal b := by
  rw [cell, bytes_append, bytes_hexUpper (by omega), numeral_two]
  rfl

theorem offset_eq (n : Nat) : offset n = bytes "/* " ++ numeral 8 n ++ bytes " */" := by
  rw [offset, bytes_append, bytes_append, bytes_hexUpper (by omega)]

/-! The pass over the byte code, a row at a time. -/

/-- What the pass writes between the byte with an index and the next. -/
def gap (index : Nat) : List UInt8 :=
  bytes "," ++
    (if index % bytesPerLine = bytesPerLine - 1 then lineEnd ++ offset (index + 1) else [])

theorem cells_singleton (index : Nat) (b : UInt8) : cells index [b] = literal b :=
  cell_eq b

theorem cells_cons (index : Nat) (b : UInt8) {rest : List UInt8} (hrest : rest ≠ []) :
    cells index (b :: rest) = literal b ++ gap index ++ cells (index + 1) rest := by
  rw [cells, cell_eq, gap, ← List.append_assoc (literal b)]
  exact hrest

theorem cells_last {index : Nat} {row : List UInt8}
    (hfits : index % bytesPerLine + row.length ≤ bytesPerLine) :
    cells index row = (bytes ",").intercalate (row.map literal) := by
  induction row generalizing index with
  | nil => rfl
  | cons b row ih =>
    cases row with
    | nil => rw [cells_singleton, List.map_singleton, List.intercalate_singleton]
    | cons c row =>
      simp only [bytesPerLine, List.length_cons] at hfits ih
      rw [cells_cons _ _ (by simp), gap, if_neg (by simp only [bytesPerLine]; omega),
        ih (by omega)]
      simp [List.intercalate_cons_cons]

theorem cells_row {index : Nat} {row rest : List UInt8} (hrest : rest ≠ [])
    (hfull : index % bytesPerLine + row.length = bytesPerLine) :
    cells index (row ++ rest) =
      (bytes ",").intercalate (row.map literal) ++ (bytes "," ++ lineEnd) ++
        offset (index + row.length) ++ cells (index + row.length) rest := by
  induction row generalizing index with
  | nil =>
    simp only [bytesPerLine, List.length_nil] at hfull
    omega
  | cons b row ih =>
    rw [List.cons_append, cells_cons _ _ (by simp [hrest])]
    cases row with
    | nil =>
      simp only [bytesPerLine, List.length_singleton] at hfull
      rw [gap, if_pos (by simp only [bytesPerLine]; omega)]
      simp
    | cons c row =>
      simp only [bytesPerLine, List.length_cons] at hfull ih
      rw [gap, if_neg (by simp only [bytesPerLine]; omega), ih (by omega)]
      simp [List.intercalate_cons_cons, Nat.add_assoc, Nat.add_comm 1]

theorem rows_ne_nil (b : List UInt8) : rows b ≠ [] := by
  unfold rows
  split <;> simp

theorem first_row {b : List UInt8} (hmore : ¬b.length ≤ bytesPerLine) :
    (b.take bytesPerLine).length = bytesPerLine ∧ b.drop bytesPerLine ≠ [] := by
  rw [← List.length_pos_iff, List.length_take, List.length_drop]
  omega

theorem rows_flatten (b : List UInt8) : (rows b).flatten = b := by
  fun_induction rows b with
  | case1 b hfits => simp
  | case2 b hmore ih => rw [List.flatten_cons, ih, List.take_append_drop]

theorem nil_mem_rows {b : List UInt8} : [] ∈ rows b ↔ b = [] := by
  fun_induction rows b with
  | case1 b hfits => simp [eq_comm]
  | case2 b hmore ih =>
    obtain ⟨hfull, hrest⟩ := first_row hmore
    have hb : b ≠ [] := by
      rintro rfl
      exact hrest rfl
    have htake : [] ≠ b.take bytesPerLine := by
      intro h
      rw [← h] at hfull
      exact absurd hfull (by decide)
    rw [List.mem_cons, ih]
    simp [htake, hrest, hb]

theorem linesFrom_last {k : Nat} {b : List UInt8} (hfits : b.length ≤ bytesPerLine) :
    linesFrom k b = line k b := by
  rw [linesFrom, rows, if_pos hfits]
  simp

theorem linesFrom_more {k : Nat} {b : List UInt8} (hmore : ¬b.length ≤ bytesPerLine) :
    linesFrom k b =
      line k (b.take bytesPerLine) ++ (bytes "," ++ lineEnd) ++
        linesFrom (k + 1) (b.drop bytesPerLine) := by
  have hrest : ((rows (b.drop bytesPerLine)).mapIdx fun i => line (k + (i + 1))) ≠ [] := by
    simp [rows_ne_nil]
  rw [linesFrom, rows, if_neg hmore, List.mapIdx_cons, List.intercalate_cons_of_ne_nil hrest,
    linesFrom]
  simp [Nat.add_assoc, Nat.add_comm 1]

/-- From a line on, the pass writes the lines. -/
theorem offset_append_cells (k : Nat) (b : List UInt8) :
    offset (bytesPerLine * k) ++ cells (bytesPerLine * k) b = linesFrom k b := by
  have hmod (j : Nat) : bytesPerLine * j % bytesPerLine = 0 := Nat.mul_mod_right _ j
  fun_induction rows b generalizing k with
  | case1 b hfits =>
    rw [linesFrom_last hfits, line, offset_eq, cells_last (by rw [hmod]; omega)]
  | case2 b hmore ih =>
    -- Bytes are left at the end of the row: the pass goes on as from the next line.
    obtain ⟨hfull, hrest⟩ := first_row hmore
    have hcells : cells (bytesPerLine * k) b =
        (bytes ",").intercalate ((b.take bytesPerLine).map literal) ++ (bytes "," ++ lineEnd) ++
          (offset (bytesPerLine * (k + 1)) ++
            cells (bytesPerLine * (k + 1)) (b.drop bytesPerLine)) := by
      have h := cells_row hrest (show bytesPerLine * k % bytesPerLine + _ = _ by
        rw [hmod, hfull]; omega)
      rw [List.take_append_drop, hfull, ← Nat.mul_succ] at h
      rw [h, List.append_assoc]
    rw [hcells, ih, linesFrom_more hmore, line, offset_eq]
    simp

/-! What is read back. -/

theorem literals_cons (x : UInt8) (rest : List UInt8) :
    literals (x :: rest) = (literal? (x :: rest)).toList ++ literals rest := by
  rw [literals, List.tails_cons, List.filterMap_cons, ← literals]
  cases literal? (x :: rest) <;> simp

theorem literal?_cons {x : UInt8} {rest : List UInt8} (hrest : rest.head? ≠ some 0x78) :
    literal? (x :: rest) = none := by
  unfold literal?
  split
  · rename_i heq
    simp [(List.cons.inj heq).2] at hrest
  · rfl

theorem literals_append {text rest : List UInt8} (htext : 0x78 ∉ text)
    (hrest : rest.head? ≠ some 0x78) : literals (text ++ rest) = literals rest := by
  induction text with
  | nil => rfl
  | cons x text ih =>
    have hnext : (text ++ rest).head? ≠ some 0x78 := by
      cases text with
      | nil => exact hrest
      | cons y text =>
        intro h
        cases h
        simp at htext
    have htail : 0x78 ∉ text := fun h => htext (List.mem_cons_of_mem x h)
    rw [List.cons_append, literals_cons, literal?_cons hnext, ih htail, Option.toList_none,
      List.nil_append]

theorem literals_literal (b : UInt8) {rest : List UInt8} (hrest : rest.head? ≠ some 0x78) :
    literals (literal b ++ rest) = b :: literals rest := by
  have hb : b.toNat < 256 := b.toNat_lt
  have hhigh : b.toNat / 16 < 16 := by omega
  have hlow : b.toNat % 16 < 16 := by omega
  have hno {d : Nat} (hd : d < 16) : hexDigit d ≠ 0x78 := hexDigit_ne hd (by decide)
  have hread : literal? (0x30 :: 0x78 :: hexDigit (b.toNat / 16) ::
      hexDigit (b.toNat % 16) :: rest) = some b := by
    simp only [literal?, hexValue?_hexDigit hhigh, hexValue?_hexDigit hlow, Option.bind_some,
      Option.map_some, Nat.div_add_mod, UInt8.ofNat_toNat]
  have hdigits : literals ([hexDigit (b.toNat / 16), hexDigit (b.toNat % 16)] ++ rest) =
      literals rest :=
    literals_append (by simp [(hno hhigh).symm, (hno hlow).symm]) hrest
  -- Of the five bytes only the zero has an `x` after it.
  simp only [literal, List.cons_append, List.nil_append] at hdigits ⊢
  rw [literals_cons, literal?_cons (by simp), literals_cons, hread, literals_cons,
    literal?_cons (by simpa using hno hhigh), hdigits]
  simp

/-- The bytes of offsets and of what stands between two literals. -/
def Separates (x : UInt8) : Prop :=
  x ∈ bytes ",\r\n/* " ∨ hexValue? x ≠ none

instance (x : UInt8) : Decidable (Separates x) :=
  inferInstanceAs (Decidable (_ ∨ _))

theorem separates_of_mem_offset {n : Nat} {x : UInt8} (hx : x ∈ offset n) : Separates x := by
  have hmarks : bytes "/* " ++ bytes " */" ⊆ bytes ",\r\n/* " := by decide
  rw [offset_eq] at hx
  by_cases hdigit : hexValue? x = none
  · left
    apply hmarks
    simpa [not_mem_numeral hdigit] using hx
  · right
    exact hdigit

theorem separates_of_mem_gap {index : Nat} {x : UInt8} (hx : x ∈ gap index) :
    Separates x := by
  have hmarks : bytes "," ++ lineEnd ⊆ bytes ",\r\n/* " := by decide
  rw [gap] at hx
  split at hx
  · rw [← List.append_assoc, List.mem_append] at hx
    cases hx with
    | inl hx => exact .inl (hmarks hx)
    | inr hx => exact separates_of_mem_offset hx
  · rw [List.append_nil] at hx
    exact .inl (hmarks (List.mem_append_left _ hx))

theorem head?_cells_append (index : Nat) {b : List UInt8} (hb : b ≠ []) (rest : List UInt8) :
    (cells index b ++ rest).head? = some 0x20 := by
  obtain ⟨b, bs, rfl⟩ := List.exists_cons_of_ne_nil hb
  cases bs with
  | nil => rw [cells_singleton]; rfl
  | cons c bs => rw [cells_cons _ _ (by simp)]; rfl

/-- The pass writes every byte as a literal, and no others. -/
theorem literals_cells (index : Nat) (b : List UInt8) {rest : List UInt8}
    (hrest : rest.head? ≠ some 0x78) :
    literals (cells index b ++ rest) = b ++ literals rest := by
  induction b generalizing index with
  | nil => rfl
  | cons b bs ih =>
    by_cases hbs : bs = []
    · rw [hbs, cells_singleton, literals_literal b hrest, List.singleton_append]
    · -- The next literal begins with a blank, so nothing is read across the gap.
      have hnext : (cells (index + 1) bs ++ rest).head? ≠ some 0x78 := by
        simp [head?_cells_append (index + 1) hbs rest]
      have hgap : 0x78 ∉ gap index := fun h => absurd (separates_of_mem_gap h) (by decide)
      have hcomma : (gap index ++ (cells (index + 1) bs ++ rest)).head? ≠ some 0x78 := by
        rw [gap]
        exact fun h => absurd (Option.some.inj h) (by decide)
      rw [cells_cons index b hbs, List.append_assoc, List.append_assoc,
        literals_literal b hcomma, literals_append hgap hnext, ih (index + 1),
        List.cons_append]

theorem brace_not_mem_cells (index : Nat) (b : List UInt8) : 0x7B ∉ cells index b := by
  have hliteral (c : UInt8) : 0x7B ∉ literal c := by
    have hno {d : Nat} (hd : d < 16) : hexDigit d ≠ 0x7B := hexDigit_ne hd (by decide)
    have hc : c.toNat < 256 := c.toNat_lt
    simp [literal, (hno (show c.toNat / 16 < 16 by omega)).symm,
      (hno (show c.toNat % 16 < 16 by omega)).symm]
  induction b generalizing index with
  | nil => simp [cells]
  | cons b bs ih =>
    by_cases hbs : bs = []
    · rw [hbs, cells_singleton]
      exact hliteral b
    · have hgap : 0x7B ∉ gap index := fun h => absurd (separates_of_mem_gap h) (by decide)
      rw [cells_cons index b hbs]
      simp [hliteral b, hgap, ih (index + 1)]

theorem getLast?_cells (index : Nat) {b : List UInt8} (hb : b ≠ []) :
    ∃ d < 16, (cells index b).getLast? = some (hexDigit d) := by
  induction b generalizing index with
  | nil => exact absurd rfl hb
  | cons b bs ih =>
    by_cases hbs : bs = []
    · refine ⟨b.toNat % 16, by omega, ?_⟩
      rw [hbs, cells_singleton]
      rfl
    · obtain ⟨d, hd, hlast⟩ := ih (index + 1) hbs
      refine ⟨d, hd, ?_⟩
      rw [cells_cons index b hbs, List.getLast?_append, hlast]
      rfl

theorem table_eq (b : List UInt8) : table b = offset 0 ++ cells 0 b :=
  (offset_append_cells 0 b).symm

theorem getLast?_table (b : List UInt8) : (table b).getLast? ≠ some 0x2C := by
  rw [table_eq]
  by_cases hb : b = []
  · subst hb
    decide +kernel
  · obtain ⟨d, hd, hlast⟩ := getLast?_cells 0 hb
    rw [List.getLast?_append, hlast]
    simpa using hexDigit_ne hd (by decide)

theorem brace_not_mem_body (b : List UInt8) : 0x7B ∉ body b := by
  have hoffset : 0x7B ∉ offset 0 := fun h => absurd (separates_of_mem_offset h) (by decide)
  have hend : 0x7B ∉ lineEnd := by decide
  have hclosing : 0x7B ∉ closing := by decide
  simp [body, table_eq, hend, hoffset, brace_not_mem_cells, hclosing]

theorem literals_body (b : List UInt8) : literals (body b) = b := by
  have hoffset : 0x78 ∉ lineEnd ++ offset 0 := by
    rw [List.mem_append, not_or]
    exact ⟨by decide, fun h => absurd (separates_of_mem_offset h) (by decide)⟩
  have hclosing : literals closing = [] := by decide
  have hcells := @literals_cells 0 b closing (by decide)
  have hnext : (cells 0 b ++ closing).head? ≠ some 0x78 := by
    by_cases hb : b = []
    · subst hb
      decide
    · simp [head?_cells_append 0 hb closing]
  have hbody : body b = (lineEnd ++ offset 0) ++ (cells 0 b ++ closing) := by
    simp [body, table_eq]
  rw [hbody, literals_append hoffset hnext, hcells, hclosing, List.append_nil]

/-- The rendering of a byte code, whatever the script and the name: after the last brace
    that opens come the lines of its rows and the two braces that close, and the byte
    code is read back from there. No comma stands before the braces, and no line has an
    offset only, but for the line of an empty byte code. -/
theorem render_layout (b raw : List UInt8) (symbol : String) :
    AfterLast 0x7B (render b raw symbol) (body b) ∧
      (rows b).flatten = b ∧ ([] ∈ rows b ↔ b = []) ∧
      (table b).getLast? ≠ some 0x2C ∧ literals (body b) = b := by
  refine ⟨⟨banner ++ disabledSource raw ++ bytes "namespace Js" ++ lineEnd ++ bytes "\x7b" ++
    lineEnd ++ bytes "    const char Library_Bytecode_" ++ bytes symbol ++ bytes "[] = ",
    ?_, brace_not_mem_body b⟩, rows_flatten b, nil_mem_rows, getLast?_table b, literals_body b⟩
  have hopening : bytes "[] = \x7b" = bytes "[] = " ++ [0x7B] := by decide
  rw [render, body, closing, table_eq, hopening]
  simp

example : table (List.replicate 17 0xC8) =
    bytes ("/* 00000000 */ 0xC8, 0xC8, 0xC8, 0xC8, 0xC8, 0xC8, 0xC8, 0xC8, 0xC8, 0xC8, 0xC8," ++
      " 0xC8, 0xC8, 0xC8, 0xC8, 0xC8,\r\n/* 00000010 */ 0xC8") := by
  decide +kernel

end Header

end ScriptHost
