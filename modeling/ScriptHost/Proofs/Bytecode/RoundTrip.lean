import Mathlib.Data.List.Basic
import ScriptHost.Bytecode.Codec
import ScriptHost.Proofs.Script.Extent

/- Byte code read back. A reader given the bytes of a field and any bytes after them
   returns the field and leaves those bytes alone; each such fact is stated for all
   that may follow, so that the readers compose as the encoders do.

   What is proved:
     1. `decode_encode_iff` — for a program whose counts fit their 32-bit words, the
        byte code decodes to it if no statement nests more `defer`s than allowed,
        and is refused otherwise. A program that was parsed always decodes.
   The parser counts the `defer`s still allowed down to zero and so does the decoder:
   a chain at the limit passes both, one longer passes neither. -/
namespace ScriptHost

/-- The texts of an action are short enough for their length to be a word. -/
def Action.Fits (a : Action) : Prop :=
  ∀ text, a.text? = some text → (Text.utf8 text).length < UInt32.size

/-- The instructions of a program can be counted by a word, and so can the bytes of each text. -/
def Program.Fits (p : Program) : Prop :=
  p.length < UInt32.size ∧ ∀ i ∈ p, i.statement.action.Fits

/-- No statement nests more `defer`s than the language allows. -/
def Program.Shallow (p : Program) : Prop :=
  ∀ i ∈ p, i.statement.depth ≤ maxDeferDepth

theorem Program.fits_of_parse {source : String} {p : Program}
    (hsize : (Text.utf8 source).length < UInt32.size - 1) (h : Program.parse source = .ok p) :
    p.Fits := by
  refine ⟨?_, fun i hi text ht => ?_⟩
  · have hlength := Program.length_parse_le h
    omega
  · have hlength := Program.length_parse_text_le h hi ht
    omega

namespace Bytecode

/-! Words and texts. -/

theorem toNat_ofNat_of_lt {n : Nat} (h : n < UInt32.size) : (UInt32.ofNat n).toNat = n := by
  rw [UInt32.toNat_ofNat']
  exact Nat.mod_eq_of_lt h

theorem readText_textBytes {text : String} (h : (Text.utf8 text).length < UInt32.size)
    (rest : List UInt8) : readText (textBytes text ++ rest) = some (text, rest) := by
  rw [textBytes, List.append_assoc, readText, readWord_wordBytes]
  dsimp only
  rw [toNat_ofNat_of_lt h, take?_append rfl]
  dsimp only
  rw [Text.ofUtf8?_utf8]
  rfl

/-! Statements. -/

theorem readStatement_act {action : Action} (h : action.Fits) (allowance : Nat)
    (column : UInt32) (rest : List UInt8) :
    readStatement allowance (encodeStatement (.act column action) ++ rest) =
      some (.act column action, rest) := by
  rw [encodeStatement, List.append_assoc]
  unfold readStatement
  rw [readWord_wordBytes]
  cases action with
  | print text =>
    show (readText (textBytes text ++ rest)).map _ = _
    rw [readText_textBytes (h text rfl)]
    rfl
  | throw message =>
    show (readText (textBytes message ++ rest)).map _ = _
    rw [readText_textBytes (h message rfl)]
    rfl
  | fault code =>
    dsimp only [encodeAction, List.cons_append]
    rw [if_neg (by decide), if_neg (by decide), if_neg (by decide), if_pos rfl, readWord_wordBytes]
    rfl

/-- A `defer` is read by reading what it defers with an allowance of one less. -/
theorem readStatement_defer (allowance : Nat) (column : UInt32) (inner : Statement)
    (rest : List UInt8) :
    readStatement allowance (encodeStatement (.defer column inner) ++ rest) =
      match allowance with
      | 0 => none
      | n + 1 => (readStatement n (encodeStatement inner ++ rest)).map
          fun (s, rest') => (.defer column s, rest') := by
  rw [encodeStatement, List.append_assoc]
  conv => lhs; unfold readStatement
  rw [readWord_wordBytes]
  rfl

theorem readStatement_encodeStatement {s : Statement} (h : s.action.Fits) {allowance : Nat}
    (hdepth : s.depth ≤ allowance) (rest : List UInt8) :
    readStatement allowance (encodeStatement s ++ rest) = some (s, rest) := by
  induction s generalizing allowance with
  | act column action => exact readStatement_act h allowance column rest
  | defer column inner ih =>
    rw [readStatement_defer]
    cases allowance with
    | zero => cases hdepth
    | succ n =>
      dsimp only
      rw [ih h (Nat.le_of_succ_le_succ hdepth)]
      rfl

/-- A written statement that is deeper than allowed is refused, whatever follows it. -/
theorem readStatement_eq_none_of_lt_depth {s : Statement} {allowance : Nat}
    (hdepth : allowance < s.depth) (rest : List UInt8) :
    readStatement allowance (encodeStatement s ++ rest) = none := by
  induction s generalizing allowance with
  | act column action => cases hdepth
  | defer column inner ih =>
    rw [readStatement_defer]
    cases allowance with
    | zero => rfl
    | succ n =>
      dsimp only
      rw [ih (Nat.lt_of_succ_lt_succ hdepth)]
      rfl

/-! Instructions and programs. -/

theorem readInstruction_encodeInstruction {i : Instruction} (h : i.statement.action.Fits)
    (hdepth : i.statement.depth ≤ maxDeferDepth) (rest : List UInt8) :
    readInstruction (encodeInstruction i ++ rest) = some (i, rest) := by
  rw [encodeInstruction, List.append_assoc, readInstruction, readWord_wordBytes]
  dsimp only
  rw [readStatement_encodeStatement h hdepth]
  rfl

theorem readInstruction_eq_none_of_lt_depth {i : Instruction}
    (hdepth : maxDeferDepth < i.statement.depth) (rest : List UInt8) :
    readInstruction (encodeInstruction i ++ rest) = none := by
  rw [encodeInstruction, List.append_assoc, readInstruction, readWord_wordBytes]
  dsimp only
  rw [readStatement_eq_none_of_lt_depth hdepth]
  rfl

theorem readInstructions_append {p : Program} (h : ∀ i ∈ p, i.statement.action.Fits)
    (hdepth : p.Shallow) (n : Nat) (rest : List UInt8) :
    readInstructions (p.length + n) (p.flatMap encodeInstruction ++ rest) =
      (readInstructions n rest).map (p ++ ·) := by
  induction p with
  | nil => simp
  | cons i later ih =>
    rw [List.length_cons, Nat.add_right_comm, List.flatMap_cons, List.append_assoc,
      readInstructions,
      readInstruction_encodeInstruction (h i List.mem_cons_self) (hdepth i List.mem_cons_self)]
    dsimp only
    rw [ih (fun j hj => h j (List.mem_cons_of_mem _ hj))
      (fun j hj => hdepth j (List.mem_cons_of_mem _ hj)), Option.map_map]
    rfl

theorem readInstructions_flatMap {p : Program} (h : ∀ i ∈ p, i.statement.action.Fits)
    (hdepth : p.Shallow) : readInstructions p.length (p.flatMap encodeInstruction) = some p := by
  simpa [readInstructions] using readInstructions_append h hdepth 0 []

/-- One statement that is too deep is enough to refuse the whole, also behind ones that are read. -/
theorem readInstructions_eq_none_of_lt_depth {p : Program}
    (h : ∀ i ∈ p, i.statement.action.Fits) {i : Instruction} (hi : i ∈ p)
    (hdepth : maxDeferDepth < i.statement.depth) :
    readInstructions p.length (p.flatMap encodeInstruction) = none := by
  induction p with
  | nil => cases hi
  | cons j rest ih =>
    rw [List.length_cons, List.flatMap_cons, readInstructions]
    -- what stands in front of the first deep statement is read
    by_cases hj : j.statement.depth ≤ maxDeferDepth
    · rw [readInstruction_encodeInstruction (h j List.mem_cons_self) hj]
      have hrest : i ∈ rest := by
        rcases List.mem_cons.1 hi with rfl | hrest
        · exact absurd hj (Nat.not_le.2 hdepth)
        · exact hrest
      dsimp only
      rw [ih (fun k hk => h k (List.mem_cons_of_mem _ hk)) hrest]
      rfl
    · rw [readInstruction_eq_none_of_lt_depth (Nat.not_le.1 hj)]

theorem decode_encode_append_eq {p : Program} (h : p.length < UInt32.size) (rest : List UInt8) :
    decode (encode p ++ rest) =
      readInstructions p.length (p.flatMap encodeInstruction ++ rest) := by
  have htake : take? 4 (encode p ++ rest) = some (magic, version ::
      (wordBytes (UInt32.ofNat p.length) ++ (p.flatMap encodeInstruction ++ rest))) := by
    rw [encode, List.append_assoc, List.append_assoc]
    exact take?_append rfl
  rw [decode, htake]
  dsimp only
  rw [if_pos ⟨rfl, rfl⟩, readWord_wordBytes]
  dsimp only
  rw [toNat_ofNat_of_lt h]

theorem decode_encode_eq {p : Program} (h : p.length < UInt32.size) :
    decode (encode p) = readInstructions p.length (p.flatMap encodeInstruction) := by
  simpa using decode_encode_append_eq h []

theorem decode_encode_of_shallow {p : Program} (h : p.Fits) (hdepth : p.Shallow) :
    decode (encode p) = some p := by
  rw [decode_encode_eq h.1]
  exact readInstructions_flatMap h.2 hdepth

theorem decode_encode_of_deep {p : Program} (h : p.Fits) {i : Instruction} (hi : i ∈ p)
    (hdepth : maxDeferDepth < i.statement.depth) : decode (encode p) = none := by
  rw [decode_encode_eq h.1]
  exact readInstructions_eq_none_of_lt_depth h.2 hi hdepth

/-- The byte code of a parsed source decodes to its program. -/
theorem decode_encode_of_parse {source : String} {p : Program}
    (hsize : (Text.utf8 source).length < UInt32.size - 1) (h : Program.parse source = .ok p) :
    decode (encode p) = some p :=
  decode_encode_of_shallow (Program.fits_of_parse hsize h) (Program.depth_parse_le h)

theorem decode_encode_iff :
    (∀ p : Program, p.Fits →
      (decode (encode p) = some p ↔ ∀ i ∈ p, i.statement.depth ≤ maxDeferDepth) ∧
      (¬ (∀ i ∈ p, i.statement.depth ≤ maxDeferDepth) → decode (encode p) = none)) ∧
    ∀ (source : String) (p : Program), (Text.utf8 source).length < UInt32.size - 1 →
      Program.parse source = .ok p → decode (encode p) = some p := by
  have refused : ∀ p : Program, p.Fits →
      ¬ (∀ i ∈ p, i.statement.depth ≤ maxDeferDepth) → decode (encode p) = none := by
    intro p hp hdeep
    obtain ⟨i, hi, hdepth⟩ : ∃ i ∈ p, maxDeferDepth < i.statement.depth := by
      simpa using hdeep
    exact decode_encode_of_deep hp hi hdepth
  refine ⟨fun p hp => ⟨⟨fun h => ?_, decode_encode_of_shallow hp⟩, refused p hp⟩,
    fun source p hsize h => decode_encode_of_parse hsize h⟩
  by_cases hdepth : ∀ i ∈ p, i.statement.depth ≤ maxDeferDepth
  · exact hdepth
  · rw [refused p hp hdepth] at h
    cases h

/-- A print behind `n` `defer`s. -/
def deferChain : Nat → Statement
  | 0 => .act 1 (.print "x")
  | n + 1 => .defer 1 (deferChain n)

theorem depth_deferChain (n : Nat) : (deferChain n).depth = n := by
  induction n with
  | zero => rfl
  | succ n ih => rw [deferChain, Statement.depth_defer, ih]

theorem fits_deferChain (n : Nat) : Program.Fits [⟨1, deferChain n⟩] := by
  have haction : (deferChain n).action.Fits := by
    induction n with
    | zero =>
      intro text ht
      cases ht
      decide +kernel
    | succ n ih => exact ih
  have hcount : 1 < UInt32.size := by decide
  refine ⟨hcount, ?_⟩
  intro i hi
  rw [List.mem_singleton.1 hi]
  exact haction

/-- A chain at the limit survives, one longer does not, and a parsed source survives. -/
theorem decode_encode_deferChain_limit :
    (Program.Fits [⟨1, deferChain 64⟩] ∧
      decode (encode [⟨1, deferChain 64⟩]) = some [⟨1, deferChain 64⟩]) ∧
    (Program.Fits [⟨1, deferChain 65⟩] ∧ decode (encode [⟨1, deferChain 65⟩]) = none) ∧
    ((Text.utf8 "defer print x").length < UInt32.size - 1 ∧
      Program.parse "defer print x" = .ok [⟨1, .defer 1 (.act 7 (.print "x"))⟩] ∧
      decode (encode [⟨1, .defer 1 (.act 7 (.print "x"))⟩]) =
        some [⟨1, .defer 1 (.act 7 (.print "x"))⟩]) := by
  have hsize : (Text.utf8 "defer print x").length < UInt32.size - 1 := by decide +kernel
  have hparse : Program.parse "defer print x" = .ok [⟨1, .defer 1 (.act 7 (.print "x"))⟩] := by
    decide +kernel
  refine ⟨⟨fits_deferChain 64, ?_⟩, ⟨fits_deferChain 65, ?_⟩, hsize, hparse,
    decode_encode_iff.2 _ _ hsize hparse⟩
  · refine (decode_encode_iff.1 _ (fits_deferChain 64)).1.2 fun i hi => ?_
    rw [List.mem_singleton.1 hi]
    exact Nat.le_of_eq (depth_deferChain 64)
  · refine (decode_encode_iff.1 _ (fits_deferChain 65)).2 fun h => ?_
    have hdepth := h _ List.mem_cons_self
    rw [depth_deferChain] at hdepth
    exact absurd hdepth (by decide)

end Bytecode
end ScriptHost
