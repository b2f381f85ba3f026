import ScriptHost.Proofs.Bytecode.RoundTrip

/- Byte code has one form. Whatever a reader takes off the front of any bytes is what
   the encoder writes for the value it returns; and the bounds that make a value
   readable again hold of every value that was read. A count stands in front of the
   instructions and nothing may follow them, so no byte of an accepted byte code is
   left open.

   What is proved:
     1. `eq_of_readText`, `eq_of_readStatement`, `eq_of_readInstruction` and
        `eq_of_readInstructions` — for each reader, the bytes it took and the bounds of
        what it returned.
     2. `decode_canonical` — byte code is accepted exactly if it is the encoding of a
        program that fits and is not too deep, and it decodes to that program alone.
   The first direction is about bytes from anywhere; the second is the round trip. -/
namespace ScriptHost

theorem Action.fits_fault (code : UInt32) : (Action.fault code).Fits := by
  intro text ht
  cases ht

namespace Bytecode

/-! Texts and statements. -/

theorem eq_of_readText {bytes rest : List UInt8} {text : String}
    (h : readText bytes = some (text, rest)) :
    bytes = textBytes text ++ rest ∧ (Text.utf8 text).length < UInt32.size := by
  unfold readText at h
  split at h
  · cases h
  · rename_i length after hword
    split at h
    · cases h
    · rename_i front rest' htake
      obtain ⟨text', htext, heq⟩ := Option.map_eq_some_iff.1 h
      cases heq
      obtain ⟨hafter, hlength⟩ := eq_of_take? htake
      have hutf8 : Text.utf8 text = front := Text.utf8_of_ofUtf8? htext
      -- the length in front is that of the text, so writing it gives the same word
      have hcount : UInt32.ofNat (Text.utf8 text).length = length := by
        rw [hutf8, hlength]
        exact UInt32.ofNat_toNat
      constructor
      · rw [eq_of_readWord hword, hafter, textBytes, hcount, hutf8, List.append_assoc]
      · rw [hutf8, hlength]
        exact length.toNat_lt

/-- An action that is a text is read with that text, whichever of the two kinds it is. -/
theorem eq_of_readText_action {column : UInt32} {make : String → Action} {bytes rest : List UInt8}
    {s : Statement} (hmake : ∀ text, (make text).text? = some text)
    (h : (readText bytes).map (fun (text, rest') => (.act column (make text), rest')) =
      some (s, rest)) :
    ∃ text, s = .act column (make text) ∧ bytes = textBytes text ++ rest ∧ (make text).Fits := by
  obtain ⟨⟨text, rest'⟩, htext, heq⟩ := Option.map_eq_some_iff.1 h
  cases heq
  obtain ⟨hbytes, hlength⟩ := eq_of_readText htext
  refine ⟨text, rfl, hbytes, ?_⟩
  intro text' ht
  cases (hmake text).symm.trans ht
  exact hlength

theorem eq_of_readStatement {allowance : Nat} {bytes rest : List UInt8} {s : Statement}
    (h : readStatement allowance bytes = some (s, rest)) :
    bytes = encodeStatement s ++ rest ∧ s.action.Fits ∧ s.depth ≤ allowance := by
  -- along the reader: one case for each tag, and the refused ones give nothing
  fun_induction readStatement allowance bytes generalizing s rest with
  | case1 => cases h
  | case2 => cases h
  | case3 allowance bytes column after hword =>
    obtain ⟨text, rfl, hbytes, hfits⟩ := eq_of_readText_action (fun _ => rfl) h
    refine ⟨?_, hfits, Nat.zero_le _⟩
    rw [eq_of_readWord hword, hbytes, encodeStatement, encodeAction, List.append_assoc]
    rfl
  | case4 => cases h
  | case5 bytes column after n hword _ ih =>
    obtain ⟨⟨inner, rest'⟩, hinner, heq⟩ := Option.map_eq_some_iff.1 h
    cases heq
    obtain ⟨hbytes, hfits, hdepth⟩ := ih hinner
    refine ⟨?_, hfits, Nat.succ_le_succ hdepth⟩
    rw [eq_of_readWord hword, hbytes, encodeStatement, List.append_assoc]
    rfl
  | case6 allowance bytes column after hword =>
    obtain ⟨message, rfl, hbytes, hfits⟩ := eq_of_readText_action (fun _ => rfl) h
    refine ⟨?_, hfits, Nat.zero_le _⟩
    rw [eq_of_readWord hword, hbytes, encodeStatement, encodeAction, List.append_assoc]
    rfl
  | case7 allowance bytes column after hword =>
    obtain ⟨⟨code, rest'⟩, hcode, heq⟩ := Option.map_eq_some_iff.1 h
    cases heq
    refine ⟨?_, Action.fits_fault code, Nat.zero_le _⟩
    rw [eq_of_readWord hword, eq_of_readWord hcode, encodeStatement, encodeAction,
      List.append_assoc]
    rfl
  | case8 => cases h

/-! Instructions and programs. -/

theorem eq_of_readInstruction {bytes rest : List UInt8} {i : Instruction}
    (h : readInstruction bytes = some (i, rest)) :
    bytes = encodeInstruction i ++ rest ∧ i.statement.action.Fits ∧
      i.statement.depth ≤ maxDeferDepth := by
  unfold readInstruction at h
  split at h
  · cases h
  · rename_i line after hword
    obtain ⟨⟨s, rest'⟩, hs, heq⟩ := Option.map_eq_some_iff.1 h
    cases heq
    obtain ⟨hbytes, hbounds⟩ := eq_of_readStatement hs
    refine ⟨?_, hbounds⟩
    rw [eq_of_readWord hword, hbytes, encodeInstruction, List.append_assoc]

theorem eq_of_readInstructions {n : Nat} {bytes : List UInt8} {p : Program}
    (h : readInstructions n bytes = some p) :
    bytes = p.flatMap encodeInstruction ∧ p.length = n ∧
      (∀ i ∈ p, i.statement.action.Fits) ∧ p.Shallow := by
  -- by the recursion of the reader; nothing may be left when the count has run out
  fun_induction readInstructions n bytes generalizing p with
  | case1 =>
    cases h
    refine ⟨rfl, rfl, ?_, ?_⟩
    · intro i hi
      cases hi
    · intro i hi
      cases hi
  | case2 => cases h
  | case3 => cases h
  | case4 n bytes i rest hfirst ih =>
    obtain ⟨later, hlater, rfl⟩ := Option.map_eq_some_iff.1 h
    obtain ⟨hbytes, hfits, hdepth⟩ := eq_of_readInstruction hfirst
    obtain ⟨hrest, hlength, hfitsLater, hshallow⟩ := ih hlater
    refine ⟨?_, ?_, ?_, ?_⟩
    · rw [hbytes, hrest, List.flatMap_cons]
    · rw [List.length_cons, hlength]
    · intro j hj
      rcases List.mem_cons.1 hj with rfl | hj
      · exact hfits
      · exact hfitsLater j hj
    · intro j hj
      rcases List.mem_cons.1 hj with rfl | hj
      · exact hdepth
      · exact hshallow j hj

/-- Byte code that decodes is the byte code of the program it decodes to. -/
theorem encode_of_decode {bytes : List UInt8} {p : Program} (h : decode bytes = some p) :
    encode p = bytes ∧ p.Fits ∧ p.Shallow := by
  unfold decode at h
  split at h
  · rename_i front v rest htake
    split at h
    · rename_i hheader
      obtain ⟨rfl, rfl⟩ := hheader
      split at h
      · rename_i count after hword
        obtain ⟨hafter, hlength, hfits, hshallow⟩ := eq_of_readInstructions h
        have hcount : UInt32.ofNat p.length = count := by
          rw [hlength]
          exact UInt32.ofNat_toNat
        have hsize : p.length < UInt32.size := by
          rw [hlength]
          exact count.toNat_lt
        refine ⟨?_, ⟨hsize, hfits⟩, hshallow⟩
        rw [(eq_of_take? htake).1, eq_of_readWord hword, hafter, encode, hcount, List.append_assoc]
        rfl
      · cases h
    · cases h
  · cases h

/-- **Byte code is canonical.** What decodes is exactly what the encoder writes for a program
    whose counts fit their words and whose statements are not too deep, and it decodes to
    that program; so no two byte codes decode to the same program. -/
theorem decode_canonical :
    (∀ (bytes : List UInt8) (p : Program),
      decode bytes = some p ↔ encode p = bytes ∧ p.Fits ∧ p.Shallow) ∧
    ∀ (bytes bytes' : List UInt8) (p : Program),
      decode bytes = some p → decode bytes' = some p → bytes = bytes' := by
  constructor
  · intro bytes p
    constructor
    · exact encode_of_decode
    · rintro ⟨rfl, hfits, hshallow⟩
      exact decode_encode_of_shallow hfits hshallow
  · intro bytes bytes' p h h'
    calc bytes = encode p := (encode_of_decode h).1.symm
      _ = bytes' := (encode_of_decode h').1

def throwBytes : List UInt8 :=
  [0x52, 0x46, 0x42, 0x43, 1, 1, 0, 0, 0, 1, 0, 0, 0, 1, 0, 0, 0, 1, 7, 0, 0, 0, 2,
    2, 0, 0, 0, 0xC3, 0xA9]

/-- The bytes decode, so they are the encoding of their program, and another byte code of
    that program would be the same bytes. -/
theorem decode_canonical_throw :
    decode throwBytes = some [⟨1, .defer 1 (.act 7 (.throw "é"))⟩] ∧
    encode [⟨1, .defer 1 (.act 7 (.throw "é"))⟩] = throwBytes ∧
    ∀ bytes, decode bytes = some [⟨1, .defer 1 (.act 7 (.throw "é"))⟩] → bytes = throwBytes := by
  have hdecode : decode throwBytes = some [⟨1, .defer 1 (.act 7 (.throw "é"))⟩] := by
    decide +kernel
  refine ⟨hdecode, ((decode_canonical.1 _ _).1 hdecode).1, ?_⟩
  intro bytes h
  exact decode_canonical.2 bytes throwBytes _ h hdecode

end Bytecode
end ScriptHost
