import ScriptHost.Proofs.Bytecode.Canonical
import ScriptHost.Proofs.Engine.Opened
import ScriptHost.Proofs.Engine.Serializing
import ScriptHost.Proofs.Script.Positions

/- Sizes as words. Byte code has four bytes for every number: for lines and columns, for
   the count of the instructions and for the length of each text. What is stored is the
   number modulo 2^32, and nothing looks whether that is the number itself, so no source
   is refused for its size. Below 2^32 - 1 bytes nothing is lost; of a larger source the
   count and the texts decide whether its byte code is read back.

   What is proved: `sizes_modulo_word`, what is stored of every number and when the byte
   code holds its program, and `long_text_is_lost`, a source whose byte code does not. -/
namespace ScriptHost

open Text

/-! Positions. -/

/-- An instruction that was read from a line, with its number and the columns of its statements
    kept in some way. -/
def Instruction.Located (kept : Nat → Nat) (source : String) (i : Instruction) : Prop :=
  ∃ n text, (sourceLines source.toList)[n]? = some text ∧ i.line.toNat = kept (n + 1) ∧
    ∀ t ∈ i.statement.nested, ∃ front rest, text = front ++ (t.keyword.chars ++ rest) ∧
      t.column.toNat = kept (utf8Length front + 1)

theorem toNat_columnAfter_eq_mod (n : Nat) : (columnAfter n).toNat = (n + 1) % UInt32.size :=
  UInt32.toNat_ofNat'

/-- The statements of a line stand behind as many bytes as their columns say, modulo 2^32. -/
theorem Holds.columns_eq_mod {text : List Char} {s : Statement} (h : Holds text (some s)) :
    ∀ t ∈ s.nested, ∃ front rest, text = front ++ (t.keyword.chars ++ rest) ∧
      t.column.toNat = (utf8Length front + 1) % UInt32.size := by
  intro t ht
  cases h with
  | @statement blank body trail s hblank hbody hend htrail hdepth =>
    obtain ⟨front, rest, rfl, hspelt⟩ := hbody.nested t ht
    obtain ⟨hcolumn, word, rfl⟩ := hspelt.keyword
    refine ⟨blank ++ front, word ++ trail, by simp only [List.append_assoc], ?_⟩
    rw [hcolumn, utf8Length_append]
    exact toNat_columnAfter_eq_mod _

/-- Every position of a program is that of its source, modulo 2^32. -/
theorem Program.located_of_parse {source : String} {p : Program}
    (hparse : Program.parse source = .ok p) {i : Instruction} (hi : i ∈ p) :
    i.Located (· % UInt32.size) source := by
  obtain ⟨n, text, htext, hnumber, hholds⟩ := (parseLines_eq_ok_iff.1 hparse).exists_line hi
  refine ⟨n, text, htext, ?_, hholds.columns_eq_mod⟩
  rw [hnumber, Nat.zero_add]
  exact toNat_columnAfter_eq_mod n

theorem Instruction.Located.exact {source : String} {i : Instruction}
    (h : i.Located (· % UInt32.size) source) (hsize : (utf8 source).length < UInt32.size - 1) :
    i.Located id source := by
  obtain ⟨n, text, htext, hnumber, hcolumns⟩ := h
  have hlines := length_sourceLines_le_utf8 source
  have hn : n < (sourceLines source.toList).length := (List.getElem?_eq_some_iff.1 htext).1
  have hlength := utf8Length_of_mem_sourceLines (List.mem_of_getElem? htext)
  refine ⟨n, text, htext, hnumber.trans (Nat.mod_eq_of_lt (by omega)), fun t ht => ?_⟩
  obtain ⟨front, rest, rfl, hcolumn⟩ := hcolumns t ht
  rw [utf8Length_append] at hlength
  exact ⟨front, rest, rfl, hcolumn.trans (Nat.mod_eq_of_lt (by omega))⟩

theorem Engine.Serves.serializedSize_exact {e : Engine} {source : String} {p : Program}
    (h : e.Serves) (hsizes : e.sizes = .exact) (hparse : Program.parse source = .ok p) :
    e.serializedSize source = (.ok (Bytecode.encode p).length, e) := by
  rw [h.serializedSize hparse, hsizes, if_neg (by decide)]

namespace Bytecode

/-! Counts and lengths. -/

theorem exists_encodeStatement_eq {s : Statement} {text : String}
    (htext : s.action.text? = some text) :
    ∃ before, encodeStatement s = before ++ textBytes text := by
  induction s with
  | act column action =>
    cases action with
    | print printed =>
      cases htext
      exact ⟨wordBytes column ++ [printTag], by simp [encodeStatement, encodeAction]⟩
    | throw message =>
      cases htext
      exact ⟨wordBytes column ++ [throwTag], by simp [encodeStatement, encodeAction]⟩
    | fault code => cases htext
  | defer column inner ih =>
    obtain ⟨before, hbefore⟩ := ih htext
    exact ⟨wordBytes column ++ deferTag :: before, by simp [encodeStatement, hbefore]⟩

/-- Every text of a program stands in its byte code, behind its length modulo 2^32. -/
theorem exists_encode_eq {p : Program} {i : Instruction} (hi : i ∈ p) {text : String}
    (htext : i.statement.action.text? = some text) :
    ∃ before length after, encode p = before ++ wordBytes length ++ utf8 text ++ after ∧
      length.toNat = (utf8 text).length % UInt32.size := by
  obtain ⟨front, back, rfl⟩ := List.append_of_mem hi
  obtain ⟨before, hbefore⟩ := exists_encodeStatement_eq htext
  refine ⟨magic ++ version :: wordBytes (UInt32.ofNat (front ++ i :: back).length) ++
    front.flatMap encodeInstruction ++ wordBytes i.line ++ before, _,
    back.flatMap encodeInstruction, ?_, UInt32.toNat_ofNat'⟩
  rw [encode, List.flatMap_append, List.flatMap_cons, encodeInstruction, hbefore, textBytes]
  simp only [← List.append_assoc]

theorem readWord_encode (p : Program) :
    ∃ count, readWord ((encode p).drop 5) = some (count, p.flatMap encodeInstruction) ∧
      count.toNat = p.length % UInt32.size :=
  ⟨_, readWord_wordBytes _ _, UInt32.toNat_ofNat'⟩

/-- **Sizes are stored modulo 2^32.** A source that compiles is serialized, however large it is.
    Every line, every column, the count of the instructions and the length of every text are
    stored modulo 2^32, and the byte code decodes to the program that is run from source exactly
    if the count and the lengths are below 2^32. For sources below 2^32 - 1 bytes they are, and
    lines and columns are stored as they are. -/
theorem sizes_modulo_word {source : String} {p : Program} (hparse : Program.parse source = .ok p) :
    (∀ e : Engine, e.Serves → e.sizes = .exact →
      e.serializedSize source = (.ok (encode p).length, e)) ∧
    (∀ i ∈ p, i.Located (· % UInt32.size) source) ∧
    (∃ count, readWord ((encode p).drop 5) = some (count, p.flatMap encodeInstruction) ∧
      count.toNat = p.length % UInt32.size) ∧
    (∀ i ∈ p, ∀ text, i.statement.action.text? = some text →
      ∃ before length after, encode p = before ++ wordBytes length ++ utf8 text ++ after ∧
        length.toNat = (utf8 text).length % UInt32.size) ∧
    (decode (encode p) = some p ↔ p.Fits) ∧
    ((utf8 source).length < UInt32.size - 1 → p.Fits ∧ ∀ i ∈ p, i.Located id source) := by
  refine ⟨fun e hserves hsizes => hserves.serializedSize_exact hsizes hparse,
    fun i hi => Program.located_of_parse hparse hi, readWord_encode p,
    fun i hi text htext => exists_encode_eq hi htext, ⟨fun hdecode => ?_, fun hfits => ?_⟩,
    fun hsize => ⟨Program.fits_of_parse hsize hparse, fun i hi => ?_⟩⟩
  · exact (encode_of_decode hdecode).2.1
  · exact decode_encode_of_shallow hfits (Program.depth_parse_le hparse)
  · exact (Program.located_of_parse hparse hi).exact hsize

/-- The sizes of a source in two lines, which is serialized in an engine with a context entered. -/
theorem sizes_modulo_word_spaced :
    let e := Engine.initial.opened .none
    let p : Program := [⟨1, .defer 3 (.act 9 (.print "hi"))⟩, ⟨2, .act 1 (.throw "é")⟩]
    e.serializedSize "  defer print hi\nthrow é" = (.ok (encode p).length, e) ∧
    p.Fits ∧ decode (encode p) = some p ∧
    ∀ i ∈ p, i.Located id "  defer print hi\nthrow é" := by
  intro e p
  have hparse : Program.parse "  defer print hi\nthrow é" = .ok p := by decide +kernel
  have hserves : e.Serves := ⟨by rw [Engine.currentContext?_opened]; rfl, rfl⟩
  obtain ⟨hserialized, -, -, -, hdecode, hsmall⟩ := sizes_modulo_word hparse
  obtain ⟨hfits, hlocated⟩ := hsmall (by decide +kernel)
  exact ⟨hserialized e hserves rfl, hfits, hdecode.2 hfits, hlocated⟩

/-! A text of 2^32 bytes. -/

def longText (n : Nat) : String := String.ofList (List.replicate n 'a')

def longPrint (n : Nat) : String :=
  String.ofList (Keyword.print.chars ++ [' '] ++ List.replicate n 'a')

theorem length_utf8_longText (n : Nat) : (utf8 (longText n)).length = n := by
  rw [longText, length_utf8_ofList]
  induction n with
  | zero => rfl
  | succ n ih =>
    rw [List.replicate_succ, utf8Length, ih]
    exact Nat.add_comm 1 n

theorem sourceLines_of_not_mem {cs : List Char} (hne : cs ≠ []) (hfeed : '\n' ∉ cs) :
    sourceLines cs = [cs] := by
  fun_induction sourceLines cs with
  | case1 => exact absurd rfl hne
  | case2 rest ih => exact absurd List.mem_cons_self hfeed
  | case3 rest ih => exact absurd (List.mem_cons_of_mem _ List.mem_cons_self) hfeed
  | case4 c rest _ _ hlines ih =>
    cases rest with
    | nil => rfl
    | cons d rest =>
      rw [ih (List.cons_ne_nil _ _) fun hmem => hfeed (List.mem_cons_of_mem _ hmem)] at hlines
      cases hlines
  | case5 c rest _ _ line lines hlines ih =>
    cases rest with
    | nil => cases hlines
    | cons d rest =>
      rw [ih (List.cons_ne_nil _ _) fun hmem => hfeed (List.mem_cons_of_mem _ hmem)] at hlines
      cases hlines
      rfl

theorem parse_longPrint {n : Nat} (hn : 0 < n) :
    Program.parse (longPrint n) = .ok [⟨1, .act 1 (.print (longText n))⟩] := by
  have hletters : ∀ c ∈ List.replicate n 'a', c = 'a' := fun c hc => List.eq_of_mem_replicate hc
  have hgap : Gap [' '] (List.replicate n 'a') := by
    refine ⟨List.forall_mem_singleton.2 (by decide), fun c hc => ?_, nofun⟩
    rw [hletters c (List.mem_of_mem_head? hc)]
    decide
  have hend : BackTrimmed (Keyword.print.chars ++ [' '] ++ List.replicate n 'a') := by
    intro c hc
    obtain ⟨m, rfl⟩ := Nat.exists_eq_succ_of_ne_zero (Nat.ne_of_gt hn)
    rw [List.replicate_succ', ← List.append_assoc, List.getLast?_concat] at hc
    cases hc
    decide
  have hline : Holds (Keyword.print.chars ++ [' '] ++ List.replicate n 'a')
      (some (.act 1 (.print (longText n)))) := by
    have hspelt := Holds.statement (List.forall_mem_nil _) (.print hgap) hend
      (List.forall_mem_nil _) (Nat.zero_le _)
    rwa [List.append_nil] at hspelt
  have hfeed : '\n' ∉ Keyword.print.chars ++ [' '] ++ List.replicate n 'a' := by
    intro hmem
    rcases List.mem_append.1 hmem with hmem | hmem
    · revert hmem
      decide
    · cases hletters _ hmem
  rw [Program.parse, longPrint, String.toList_ofList, sourceLines_of_not_mem (by simp) hfeed]
  exact parseLines_eq_ok_iff.2 (.cons hline .nil)

/-- A length of 2^32 is stored as none, and what is read is the empty text. -/
theorem readText_of_length_eq {text : String} (h : (utf8 text).length = UInt32.size)
    (rest : List UInt8) : readText (textBytes text ++ rest) = some ("", utf8 text ++ rest) := by
  have hword : (UInt32.ofNat (utf8 text).length).toNat = 0 := by
    rw [h, UInt32.toNat_ofNat', Nat.mod_self]
  rw [textBytes, List.append_assoc, readText, readWord_wordBytes]
  dsimp only
  rw [hword]
  rfl

theorem decode_of_length_eq {text : String} (h : (utf8 text).length = UInt32.size)
    (line column : UInt32) : decode (encode [⟨line, .act column (.print text)⟩]) = none := by
  have hcount : List.length ([⟨line, .act column (.print text)⟩] : Program) < UInt32.size :=
    show 1 < UInt32.size by decide
  have hread : readInstruction (encodeInstruction ⟨line, .act column (.print text)⟩ ++ []) =
      some (⟨line, .act column (.print "")⟩, utf8 text) := by
    rw [encodeInstruction, List.append_assoc, readInstruction, readWord_wordBytes]
    dsimp only
    rw [encodeStatement, List.append_assoc]
    unfold readStatement
    rw [readWord_wordBytes]
    show Option.map _ ((readText (textBytes text ++ [])).map _) = _
    rw [readText_of_length_eq h, List.append_nil]
    rfl
  rw [decode_encode_eq hcount]
  show readInstructions 1 (encodeInstruction ⟨line, .act column (.print text)⟩ ++ []) = none
  rw [readInstructions, hread]
  dsimp only
  cases hleft : utf8 text with
  | nil =>
    rw [hleft] at h
    exact absurd h (by decide)
  | cons b bytes => rfl

theorem run_of_length_eq {source text : String} {line column : UInt32}
    (hparse : Program.parse source = .ok [⟨line, .act column (.print text)⟩])
    (h : (utf8 text).length = UInt32.size) :
    let e := Engine.initial.opened .none
    (e.runScript source ⟨0⟩).ending = .ok () ∧ (e.runScript source ⟨0⟩).engine.output = [text] ∧
      (e.runSerialized (encode [⟨line, .act column (.print text)⟩]) ⟨1⟩).ending =
        .error .badSerializedScript := by
  intro e
  have hcurrent : e.currentContext?.isNone = false := by
    rw [Engine.currentContext?_opened]
    rfl
  have hrun : e.runScript source ⟨0⟩ =
      (e.record (.runScript ⟨0⟩)).executeProgram [⟨line, .act column (.print text)⟩] := by
    rw [Engine.runScript, Engine.whenCurrent, hcurrent, Engine.compile, hparse]
    rfl
  have hserialized : e.runSerialized (encode [⟨line, .act column (.print text)⟩]) ⟨1⟩ =
      ⟨.error .badSerializedScript, e.record (.runSerializedScript ⟨1⟩), []⟩ := by
    rw [Engine.runSerialized, Engine.whenCurrent, hcurrent, decode_of_length_eq h]
    rfl
  rw [hrun, hserialized]
  exact ⟨rfl, rfl, rfl⟩

/-- A source of more than 4 GiB is serialized, but its byte code has lost the length of the text:
    where the source prints it, the byte code is refused. -/
theorem long_text_is_lost :
    let e := Engine.initial.opened .none
    ∃ p, Program.parse (longPrint UInt32.size) = .ok p ∧
      e.serializedSize (longPrint UInt32.size) = (.ok (encode p).length, e) ∧
      decode (encode p) = none ∧ (e.runScript (longPrint UInt32.size) ⟨0⟩).ending = .ok () ∧
      (e.runSerialized (encode p) ⟨1⟩).ending = .error .badSerializedScript := by
  intro e
  have hparse := @parse_longPrint UInt32.size (by decide)
  have hlength := length_utf8_longText UInt32.size
  have hserves : e.Serves := ⟨by rw [Engine.currentContext?_opened]; rfl, rfl⟩
  obtain ⟨hran, -, hrefused⟩ := run_of_length_eq hparse hlength
  exact ⟨_, hparse, hserves.serializedSize_exact rfl hparse, decode_of_length_eq hlength 1 1, hran,
    hrefused⟩

end Bytecode
end ScriptHost
