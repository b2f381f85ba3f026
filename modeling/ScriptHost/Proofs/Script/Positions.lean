import ScriptHost.Proofs.Script.Sentences

/- Positions. Lines and columns are 32-bit words, and columns come from differences of the
   lengths of trimmed texts. `Checked` is the parser once more with arithmetic that gives
   nothing where a length would be negative or a word would not hold the result; below
   2^32 - 1 bytes it always gives what the parser gives. What carries it through the recursion
   is that a column and the length of the text from it on have the same sum as the column and
   the length of the text they were taken from.

   What is proved:
     1. `Checked.parse?_eq` — no step of a parse overflows.
     2. `Spells.nested` and `Spells.columns` — every keyword stands at its column, each further
        to the right than the one around it.
     3. `Statement.amiss_of_parse_error` — what is wrong with a text, and where it stands.
     4. `Program.positions_exact` — the three together, for sources. -/
namespace ScriptHost

open Text

/-! Checked arithmetic. -/

namespace Checked

/-- A number as a word, if it is one. -/
def word? (n : Nat) : Option UInt32 :=
  if n < UInt32.size then some (UInt32.ofNat n) else none

/-- The difference of two lengths, if it is not negative. -/
def minus? (m n : Nat) : Option Nat :=
  if n ≤ m then some (m - n) else none

/-- The sum of two words, if it is one. -/
def plus? (a b : UInt32) : Option UInt32 :=
  if a.toNat + b.toNat < UInt32.size then some (a + b) else none

/-- The column of the tail `rest` of a text that begins at `column`. -/
def columnOf? (column : UInt32) (text rest : List Char) : Option UInt32 := do
  let before ← minus? (utf8Length text) (utf8Length rest)
  plus? column (← word? before)

/-- One statement, as `Statement.parse` reads it. -/
def parseStatement? (line : UInt32) (allowance : Nat) (column : UInt32) (text : List Char) :
    Option (Except CompileError Statement) := do
  let argument := afterWord text
  let argumentColumn ← columnOf? column text argument
  match Keyword.ofChars? (firstWord text) with
  | some .print => some (.ok (.act column (.print (String.ofList argument))))
  | some .throw => some (.ok (.act column (.throw (String.ofList argument))))
  | some .defer =>
    if argument.isEmpty then some (.error ⟨line, column, .emptyDefer⟩)
    else
      match allowance with
      | 0 => some (.error ⟨line, column, .tooDeep maxDeferDepth⟩)
      | n + 1 => (parseStatement? line n argumentColumn argument).map (·.map (.defer column))
  | some .fault =>
    match faultCode? argument with
    | some code => some (.ok (.act column (.fault code)))
    | none => some (.error ⟨line, argumentColumn, .badFaultCode (String.ofList argument)⟩)
  | none => some (.error ⟨line, column, .unknownStatement (String.ofList (firstWord text))⟩)

def parseLine? (number : UInt32) (text : List Char) :
    Option (Except CompileError (Option Instruction)) :=
  let body := trimStart text
  if body.isEmpty ∨ body.head? = some '#' then some (.ok none)
  else do
    let column ← columnOf? 1 text body
    let read ← parseStatement? number maxDeferDepth column (trimEnd body)
    some (read.map fun statement => some ⟨number, statement⟩)

def parseLines? (index : Nat) : List (List Char) → Option (Except CompileError Program)
  | [] => some (.ok [])
  | text :: rest => do
    let number ← plus? (← word? index) 1
    match ← parseLine? number text with
    | .error e => some (.error e)
    | .ok found =>
      match ← parseLines? (index + 1) rest with
      | .error e => some (.error e)
      | .ok program => some (.ok (found.toList ++ program))

def parse? (source : String) : Option (Except CompileError Program) :=
  parseLines? 0 (sourceLines source.toList)

theorem word?_eq {n : Nat} (h : n < UInt32.size) : word? n = some (UInt32.ofNat n) := if_pos h

theorem plus?_eq {a b : UInt32} (h : a.toNat + b.toNat < UInt32.size) :
    plus? a b = some (a + b) ∧ (a + b).toNat = a.toNat + b.toNat :=
  ⟨if_pos h, by rw [UInt32.toNat_add, Nat.mod_eq_of_lt h]⟩

/-- A column moves to the right by as much as the text from it on gets shorter. -/
theorem columnOf?_eq {column : UInt32} {text rest : List Char} (hrest : rest.Sublist text)
    (hfits : column.toNat + utf8Length text < UInt32.size) :
    columnOf? column text rest = some (columnOf column text rest) ∧
      (columnOf column text rest).toNat + utf8Length rest = column.toNat + utf8Length text := by
  have hle := utf8Length_le_of_sublist hrest
  have hword : utf8Length text - utf8Length rest < UInt32.size := by omega
  have hnat := UInt32.toNat_ofNat_of_lt' hword
  obtain ⟨hplus, hsum⟩ := @plus?_eq column (UInt32.ofNat (utf8Length text - utf8Length rest))
    (by omega)
  constructor
  · rw [columnOf?, minus?, if_pos hle, Option.bind_eq_bind, Option.bind_some, word?_eq hword,
      Option.bind_eq_bind, Option.bind_some, hplus, columnOf]
  · rw [columnOf, hsum, hnat]
    omega

theorem parseStatement?_eq {line : UInt32} {allowance : Nat} {column : UInt32} {text : List Char}
    (hfits : column.toNat + utf8Length text < UInt32.size) :
    parseStatement? line allowance column text =
      some (Statement.parse line allowance column text) := by
  obtain ⟨hcolumn, hsum⟩ := columnOf?_eq (afterWord_sublist text) hfits
  have hunfold := parseStatement?.eq_def line allowance column text
  dsimp only [Option.bind_eq_bind] at hunfold
  rw [hcolumn, Option.bind_some] at hunfold
  fun_induction Statement.parse line allowance column text with
  | case1 => rename_i hk; rw [hunfold, hk]
  | case2 => rename_i hk; rw [hunfold, hk]
  | case3 =>
    rename_i hk hempty
    rw [hunfold, hk]
    exact if_pos hempty
  | case4 =>
    rename_i hk hargument
    rw [hunfold, hk]
    exact if_neg hargument
  | case5 column text argument argumentColumn hk hargument n ih =>
    -- the column grows by as much as the text gets shorter, so the sum fits as before
    obtain ⟨hnext, hnextSum⟩ := columnOf?_eq (afterWord_sublist argument) (hsum ▸ hfits)
    have hinner := ih (hsum ▸ hfits) hnext hnextSum (by
      rw [parseStatement?.eq_def]
      dsimp only [Option.bind_eq_bind]
      rw [hnext, Option.bind_some])
    rw [hunfold, hk]
    refine (if_neg hargument).trans ?_
    exact congrArg (Option.map _) hinner
  | case6 => rename_i hk code hcode; rw [hunfold, hk, hcode]
  | case7 => rename_i hk hcode; rw [hunfold, hk, hcode]
  | case8 => rename_i hk; rw [hunfold, hk]

theorem parseLine?_eq {number : UInt32} {text : List Char}
    (hfits : utf8Length text < UInt32.size - 1) :
    parseLine? number text = some (parseLine number text) := by
  obtain ⟨hcolumn, hsum⟩ := @columnOf?_eq 1 text (trimStart text) (trimStart_sublist text)
    (by rw [UInt32.toNat_one]; omega)
  have hbody := utf8Length_le_of_sublist (trimEnd_sublist (trimStart text))
  have hstatement := @parseStatement?_eq number maxDeferDepth
    (columnOf 1 text (trimStart text)) (trimEnd (trimStart text))
    (by rw [UInt32.toNat_one] at hsum; omega)
  rw [parseLine?, parseLine]
  split
  · rfl
  · rw [hcolumn, Option.bind_eq_bind, Option.bind_some, hstatement]
    rfl

theorem parseLines?_eq {index : Nat} {lines : List (List Char)}
    (hcount : index + lines.length < UInt32.size)
    (hfits : ∀ text ∈ lines, utf8Length text < UInt32.size - 1) :
    parseLines? index lines = some (parseLines index lines) := by
  induction lines generalizing index with
  | nil => rfl
  | cons text rest ih =>
    obtain ⟨htext, hrest⟩ := List.forall_mem_cons.1 hfits
    rw [List.length_cons] at hcount
    have hword : index < UInt32.size := by omega
    obtain ⟨hnumber, -⟩ := @plus?_eq (UInt32.ofNat index) 1
      (by rw [UInt32.toNat_ofNat_of_lt' hword, UInt32.toNat_one]; omega)
    have hlater := @ih (index + 1) (by omega) hrest
    have hline := @parseLine?_eq (UInt32.ofNat index + 1) text htext
    simp only [parseLines?, parseLines, word?_eq hword, hnumber, hline, hlater,
      Option.bind_eq_bind, Option.bind_some]
    rcases parseLine (UInt32.ofNat index + 1) text with e | found
    · rfl
    · rcases parseLines (index + 1) rest with e | program <;> rfl

/-- **No step of a parse overflows**, and no difference of lengths is negative. -/
theorem parse?_eq {source : String} (hsize : (utf8 source).length < UInt32.size - 1) :
    parse? source = some (Program.parse source) := by
  have hlines := length_sourceLines_le_utf8 source
  refine parseLines?_eq (by omega) fun text htext => ?_
  exact Nat.lt_of_le_of_lt (utf8Length_of_mem_sourceLines htext) hsize

end Checked

/-! Keywords. -/

/-- The keyword a statement begins with. -/
def Statement.keyword : Statement → Keyword
  | act _ (.print _) => .print
  | act _ (.throw _) => .throw
  | act _ (.fault _) => .fault
  | defer _ _ => .defer

/-- A statement and all those inside of it, from the outside in. -/
def Statement.nested : Statement → List Statement
  | act column action => [act column action]
  | defer column inner => defer column inner :: inner.nested

/-- The bytes of a line begin with a keyword from a column on. -/
def KeywordAt (text : List Char) (column : UInt32) (k : Keyword) : Prop :=
  1 ≤ column.toNat ∧
    utf8 (String.ofList k.chars) <+: (utf8 (String.ofList text)).drop (column.toNat - 1)

theorem keywordAt_of_front {front rest : List Char} {column : UInt32} {k : Keyword}
    (hcolumn : column.toNat = utf8Length front + 1) :
    KeywordAt (front ++ (k.chars ++ rest)) column k := by
  have happend : ∀ as bs : List Char, utf8 (String.ofList (as ++ bs)) =
      utf8 (String.ofList as) ++ utf8 (String.ofList bs) := by
    intro as bs
    simp [utf8, ByteArray.data_append]
  constructor
  · omega
  · rw [hcolumn, Nat.add_sub_cancel, happend, ← length_utf8_ofList, List.drop_left, happend]
    exact List.prefix_append _ _

/-- A statement begins with its keyword, at the column it remembers. -/
theorem Spells.keyword {offset : Nat} {text : List Char} {s : Statement}
    (h : Spells offset text s) :
    s.column = columnAfter offset ∧ ∃ rest, text = s.keyword.chars ++ rest := by
  cases h <;> exact ⟨rfl, _, List.append_assoc ..⟩

theorem Spells.nested {offset : Nat} {text : List Char} {s : Statement} (h : Spells offset text s) :
    ∀ t ∈ s.nested, ∃ front rest, text = front ++ rest ∧
      Spells (offset + utf8Length front) rest t := by
  have hself : ∀ {offset : Nat} {text : List Char} {s : Statement}, Spells offset text s →
      ∃ front rest, text = front ++ rest ∧ Spells (offset + utf8Length front) rest s :=
    fun h => ⟨[], _, rfl, h⟩
  induction h with
  | print hgap => exact List.forall_mem_singleton.2 (hself (.print hgap))
  | throw hgap => exact List.forall_mem_singleton.2 (hself (.throw hgap))
  | fault hgap hcode => exact List.forall_mem_singleton.2 (hself (.fault hgap hcode))
  | @defer offset gap argument inner hgap hinner ih =>
    refine List.forall_mem_cons.2 ⟨hself (.defer hgap hinner), fun t ht => ?_⟩
    obtain ⟨front, rest, rfl, hspelt⟩ := ih t ht
    refine ⟨Keyword.defer.chars ++ gap ++ front, rest, List.append_assoc .. |>.symm, ?_⟩
    rw [utf8Length_append, ← Nat.add_assoc]
    exact hspelt

/-- Each statement begins further to the right than the one around it. -/
theorem Spells.columns {offset : Nat} {text : List Char} {s : Statement} (h : Spells offset text s)
    (hfits : offset + utf8Length text < UInt32.size - 1) :
    (s.nested.map (·.column.toNat)).Pairwise (· < ·) := by
  induction h with
  | print hgap => exact List.pairwise_singleton _ _
  | throw hgap => exact List.pairwise_singleton _ _
  | fault hgap hcode => exact List.pairwise_singleton _ _
  | @defer offset gap argument inner hgap hinner ih =>
    rw [utf8Length_append, ← Nat.add_assoc] at hfits
    refine List.pairwise_cons.2 ⟨?_, ih hfits⟩
    intro n hn
    obtain ⟨t, ht, rfl⟩ := List.mem_map.1 hn
    obtain ⟨front, rest, rfl, hspelt⟩ := hinner.nested t ht
    -- between two keywords stands at least the first of them
    have hword : 0 < utf8Length Keyword.defer.chars := by decide
    rw [utf8Length_append] at hfits hspelt
    rw [utf8Length_append] at hfits
    rw [hspelt.keyword.1]
    calc (Statement.defer (columnAfter offset) inner).column.toNat
        = offset + 1 := toNat_columnAfter (by omega)
      _ < _ := by
        rw [toNat_columnAfter (by omega)]
        omega

/-- The statements of a line stand where their columns say, from the left to the right. -/
theorem Holds.keywords {text : List Char} {s : Statement} (h : Holds text (some s))
    (hfits : utf8Length text < UInt32.size - 1) :
    (∀ t ∈ s.nested, KeywordAt text t.column t.keyword) ∧
      (s.nested.map (·.column.toNat)).Pairwise (· < ·) := by
  cases h with
  | @statement blank body trail s hblank hbody hend htrail hdepth =>
    rw [utf8Length_append, utf8Length_append] at hfits
    refine ⟨fun t ht => ?_, hbody.columns (by omega)⟩
    obtain ⟨front, rest, rfl, hspelt⟩ := hbody.nested t ht
    obtain ⟨hcolumn, word, rfl⟩ := hspelt.keyword
    have hsplit : blank ++ (front ++ (t.keyword.chars ++ word)) ++ trail =
        (blank ++ front) ++ (t.keyword.chars ++ (word ++ trail)) := by
      simp only [List.append_assoc]
    rw [hsplit]
    refine keywordAt_of_front ?_
    rw [hcolumn, utf8Length_append]
    rw [utf8Length_append] at hfits
    exact toNat_columnAfter (by omega)

theorem Lists.pairwise_line {index : Nat} {lines : List (List Char)} {p : Program}
    (h : Lists index lines p) (hfits : index + lines.length < UInt32.size) :
    (p.map (·.line.toNat)).Pairwise (· < ·) := by
  induction h with
  | nil => exact .nil
  | @cons index text rest held p hline hrest ih =>
    rw [List.length_cons] at hfits
    have hlater := ih (by omega)
    cases held with
    | none => exact hlater
    | some s =>
      refine List.pairwise_cons.2 ⟨?_, hlater⟩
      intro n hn
      obtain ⟨i, hi, rfl⟩ := List.mem_map.1 hn
      obtain ⟨m, text', htext, hnumber, -⟩ := hrest.exists_line hi
      have hm : m < rest.length := (List.getElem?_eq_some_iff.1 htext).1
      rw [hnumber]
      calc (columnAfter index).toNat = index + 1 := toNat_columnAfter (by omega)
        _ < _ := by
          rw [toNat_columnAfter (by omega)]
          omega

/-! What is wrong with a text. -/

theorem map_eq_error_iff {ε α β : Type} {f : α → β} {r : Except ε α} {e : ε} :
    r.map f = .error e ↔ r = .error e := by
  cases r <;> simp [Except.map]

/-- A text that cannot be a statement if only so many more `defer`s may come, the number of bytes
    in front of what is wrong with it, and the complaint. -/
inductive Amiss : Nat → List Char → Nat → CompileCause → Prop where
  | unknown {left : Nat} {word gap argument : List Char} (hne : word ≠ [])
      (hword : ∀ c ∈ word, (!isWhiteSpace c) = true) (hgap : Gap gap argument)
      (hunknown : ∀ k : Keyword, word ≠ k.chars) :
      Amiss left (word ++ gap ++ argument) 0 (.unknownStatement (String.ofList word))
  | emptyDefer {left : Nat} : Amiss left Keyword.defer.chars 0 .emptyDefer
  | tooDeep {space argument : List Char} (hspace : Space space) (hargument : argument ≠ []) :
      Amiss 0 (Keyword.defer.chars ++ space ++ argument) 0 (.tooDeep 64)
  | missingCode {left : Nat} :
      Amiss left Keyword.fault.chars (utf8Length Keyword.fault.chars) (.badFaultCode "")
  | badCode {left : Nat} {space argument : List Char} (hspace : Space space)
      (hfront : FrontTrimmed argument) (hcode : ∀ code, ¬ FaultCode argument code) :
      Amiss left (Keyword.fault.chars ++ space ++ argument)
        (utf8Length (Keyword.fault.chars ++ space)) (.badFaultCode (String.ofList argument))

/-- A line that goes wrong behind so many bytes of it: behind white space and no more than 64
    `defer`s stands a text that can be no statement. -/
inductive Offends : List Char → Nat → CompileCause → Prop where
  | line {blank rest trail : List Char} {spaces : List (List Char)} {left before : Nat}
      {cause : CompileCause} (hblank : Blank blank) (hspaces : ∀ space ∈ spaces, Space space)
      (hcount : spaces.length + left = 64) (hamiss : Amiss left rest before cause)
      (hend : BackTrimmed rest) (htrail : Blank trail) :
      Offends (blank ++ (defers spaces ++ rest) ++ trail)
        (utf8Length (blank ++ defers spaces) + before) cause

theorem firstWord_ne_nil {text : List Char} (hne : text ≠ []) (hfront : FrontTrimmed text) :
    firstWord text ≠ [] := by
  cases text with
  | nil => exact absurd rfl hne
  | cons c rest => simp [firstWord, frontTrimmed_cons.1 hfront]

theorem firstWord_isWord (text : List Char) : ∀ c ∈ firstWord text, (!isWhiteSpace c) = true :=
  List.all_eq_true.1 List.all_takeWhile

theorem Amiss.of_faultCode {left : Nat} {text gap : List Char}
    (heq : text = Keyword.fault.chars ++ gap ++ afterWord text) (hgap : Gap gap (afterWord text))
    (hcode : faultCode? (afterWord text) = none) (hend : BackTrimmed text) :
    Amiss left text (utf8Length (Keyword.fault.chars ++ gap))
      (.badFaultCode (String.ofList (afterWord text))) := by
  have hnone : ∀ code, ¬ FaultCode (afterWord text) code := by
    intro code h
    cases hcode.symm.trans (faultCode?_eq_some_iff.2 h)
  generalize afterWord text = argument at heq hgap hnone
  subst heq
  rw [List.append_assoc] at hend
  rcases hgap.alone_or_space hend.of_append with ⟨rfl, rfl⟩ | ⟨hspace, -⟩
  · exact .missingCode
  · exact .badCode hspace hgap.trimmed hnone

/-- **An error stands where the text goes wrong.** -/
theorem Statement.amiss_of_parse_error {line : UInt32} {allowance offset : Nat} {text : List Char}
    {column : UInt32} {e : CompileError} (hcolumn : column = columnAfter offset)
    (h : parse line allowance column text = .error e) (hne : text ≠ [])
    (hfront : FrontTrimmed text) (hend : BackTrimmed text) :
    ∃ spaces rest left before, text = defers spaces ++ rest ∧
      (∀ space ∈ spaces, Space space) ∧ spaces.length + left = allowance ∧
      Amiss left rest before e.cause ∧
      e.column = columnAfter (offset + (utf8Length (defers spaces) + before)) := by
  fun_induction parse line allowance column text generalizing offset with
  | case1 => cases h
  | case2 => cases h
  | case3 allowance column text =>
    -- a `defer` with nothing behind it
    rename_i hk hempty
    obtain ⟨gap, heq, hgap⟩ := Keyword.exists_gap hk
    have hargument : afterWord text = [] := List.isEmpty_iff.1 hempty
    rw [hargument] at heq hgap
    rw [heq, List.append_assoc] at hend
    rcases hgap.alone_or_space hend.of_append with ⟨rfl, -⟩ | ⟨-, hnil⟩
    · cases h
      rw [heq, hcolumn]
      exact ⟨[], _, allowance, 0, by rfl, List.forall_mem_nil _, Nat.zero_add _, .emptyDefer, rfl⟩
    · exact absurd rfl hnil
  | case4 column text =>
    -- one `defer` more than is allowed
    rename_i hk hempty
    obtain ⟨gap, heq, hgap⟩ := Keyword.exists_gap hk
    have hargument : afterWord text ≠ [] := fun hnil => hempty (List.isEmpty_iff.2 hnil)
    cases h
    rw [hcolumn]
    refine ⟨[], text, 0, 0, rfl, List.forall_mem_nil _, rfl, ?_, rfl⟩
    rw [heq]
    exact .tooDeep (hgap.space hargument) hargument
  | case5 column text =>
    -- behind the `defer` something is amiss, and that much further on
    rename_i hk hempty n ih
    obtain ⟨gap, heq, hgap⟩ := Keyword.exists_gap hk
    have hargument : afterWord text ≠ [] := fun hnil => hempty (List.isEmpty_iff.2 hnil)
    have hinnerColumn : columnOf column text (afterWord text) =
        columnAfter (offset + utf8Length (Keyword.defer.chars ++ gap)) := by
      rw [← columnOf_columnAfter offset _ (afterWord text), ← heq, hcolumn]
    have hinnerEnd : BackTrimmed (afterWord text) := by
      rw [heq] at hend
      exact hend.of_append
    obtain ⟨spaces, rest, left, before, hrest, hspaces, hcount, hamiss, hat⟩ :=
      ih hinnerColumn (map_eq_error_iff.1 h) hargument hgap.trimmed hinnerEnd
    refine ⟨gap :: spaces, rest, left, before, ?_, ?_, ?_, hamiss, ?_⟩
    · conv_lhs => rw [heq]
      rw [show afterWord text = _ from hrest, defers_cons, List.append_assoc _ (defers spaces)]
    · exact List.forall_mem_cons.2 ⟨hgap.space hargument, hspaces⟩
    · rw [List.length_cons]
      omega
    · rw [hat, defers_cons, utf8Length_append _ (defers spaces)]
      congr 1
      omega
  | case6 => cases h
  | case7 allowance column text =>
    rename_i hk hcode
    -- a fault code that is none
    obtain ⟨gap, heq, hgap⟩ := Keyword.exists_gap hk
    have hat : columnOf column text (afterWord text) =
        columnAfter (offset + utf8Length (Keyword.fault.chars ++ gap)) := by
      rw [← columnOf_columnAfter offset _ (afterWord text), ← heq, hcolumn]
    cases h
    refine ⟨[], text, allowance, utf8Length (Keyword.fault.chars ++ gap), rfl,
      List.forall_mem_nil _, Nat.zero_add _, .of_faultCode heq hgap hcode hend, ?_⟩
    rw [defers_nil, utf8Length, Nat.zero_add]
    exact hat
  | case8 allowance column text =>
    -- a first word that is no keyword
    rename_i hk
    obtain ⟨gap, heq, hgap⟩ := exists_gap text
    cases h
    rw [hcolumn]
    refine ⟨[], text, allowance, 0, rfl, List.forall_mem_nil _, Nat.zero_add _, ?_, rfl⟩
    dsimp only
    conv => arg 2; rw [heq]
    refine .unknown (firstWord_ne_nil hne hfront) (firstWord_isWord text) hgap fun k hword => ?_
    cases hk.symm.trans ((Keyword.ofChars?_eq_some_iff _ k).2 hword)

theorem Amiss.le {left before : Nat} {text : List Char} {cause : CompileCause}
    (h : Amiss left text before cause) : before ≤ utf8Length text := by
  cases h with
  | unknown => exact Nat.zero_le _
  | emptyDefer => exact Nat.zero_le _
  | tooDeep => exact Nat.zero_le _
  | missingCode => exact Nat.le_refl _
  | @badCode left space argument =>
    rw [utf8Length_append (Keyword.fault.chars ++ space)]
    exact Nat.le_add_right _ _

theorem Offends.le {text : List Char} {n : Nat} {cause : CompileCause} (h : Offends text n cause) :
    n ≤ utf8Length text := by
  cases h with
  | line hblank hspaces hcount hamiss hend htrail =>
    have hle := hamiss.le
    simp only [utf8Length_append]
    omega

/-- An error of a line stands at the column at which the line goes wrong. -/
theorem offends_of_parseLine_error {number : UInt32} {text : List Char} {e : CompileError}
    (h : parseLine number text = .error e) :
    ∃ n, Offends text n e.cause ∧ e.column = columnAfter n := by
  obtain ⟨blank, heq, hblank⟩ := trimStart_split text
  obtain ⟨trail, hcut, htrail⟩ := trimEnd_split (trimStart text)
  have hfront := frontTrimmed_trimStart text
  simp only [parseLine] at h
  split at h
  · cases h
  rename_i hstatement
  have hne : trimStart text ≠ [] := fun hnil => hstatement (.inl (List.isEmpty_iff.2 hnil))
  have hcolumn : columnOf 1 text (trimStart text) = columnAfter (utf8Length blank) := by
    conv_lhs => rw [heq]
    rw [trimStart_append hblank, trimStart_trimStart, columnOf_one]
  -- cutting off the end leaves the first character where it was
  have hbody : trimEnd (trimStart text) ≠ [] ∧ FrontTrimmed (trimEnd (trimStart text)) := by
    generalize trimEnd (trimStart text) = body at hcut
    rw [hcut] at hfront hne
    cases body with
    | nil =>
      cases trail with
      | nil => exact absurd rfl hne
      | cons c rest =>
        have hc := htrail c (List.mem_cons_self ..)
        rw [frontTrimmed_cons.1 hfront] at hc
        cases hc
    | cons c rest => exact ⟨List.cons_ne_nil _ _, hfront⟩
  obtain ⟨spaces, rest, left, before, hrest, hspaces, hcount, hamiss, hat⟩ :=
    Statement.amiss_of_parse_error hcolumn (map_eq_error_iff.1 h) hbody.1 hbody.2
      (backTrimmed_trimEnd _)
  have hend : BackTrimmed rest := by
    have hend := backTrimmed_trimEnd (trimStart text)
    rw [hrest] at hend
    exact hend.of_append
  refine ⟨utf8Length (blank ++ defers spaces) + before, ?_, ?_⟩
  · rw [heq, hcut, hrest, ← List.append_assoc]
    exact .line hblank hspaces hcount hamiss hend htrail
  · rw [hat, utf8Length_append, Nat.add_assoc]

namespace Program

/-- **Positions are exact.** No step of a parse overflows. Where a source parses, the instructions
    have the numbers of the lines that hold them, and each statement inside of one stands at its
    column, further to the right than the one around it. Where it does not, the error has the
    number of the first line that is not well-formed, and the column at which it goes wrong. -/
theorem positions_exact {source : String} (hsize : (utf8 source).length < UInt32.size - 1) :
    Checked.parse? source = some (parse source) ∧
    (∀ p, parse source = .ok p →
      (p.map (·.line.toNat)).Pairwise (· < ·) ∧
      ∀ i ∈ p, ∃ text, 1 ≤ i.line.toNat ∧
        (sourceLines source.toList)[i.line.toNat - 1]? = some text ∧
        Holds text (some i.statement) ∧
        (∀ t ∈ i.statement.nested, KeywordAt text t.column t.keyword) ∧
        (i.statement.nested.map (·.column.toNat)).Pairwise (· < ·)) ∧
    (∀ err, parse source = .error err →
      ∃ before text after n, sourceLines source.toList = before ++ text :: after ∧
        (∀ t ∈ before, ∃ held, Holds t held) ∧ (∀ held, ¬ Holds text held) ∧
        err.line.toNat = before.length + 1 ∧
        Offends text n err.cause ∧ err.column.toNat = n + 1) := by
  have hcount := length_sourceLines_le_utf8 source
  refine ⟨Checked.parse?_eq hsize, ?_, ?_⟩
  · intro p hp
    have hlists := parseLines_eq_ok_iff.1 hp
    refine ⟨hlists.pairwise_line (by omega), fun i hi => ?_⟩
    obtain ⟨n, text, htext, hnumber, hholds⟩ := hlists.exists_line hi
    have hn : n < (sourceLines source.toList).length := (List.getElem?_eq_some_iff.1 htext).1
    have hline : i.line.toNat = n + 1 := by
      rw [hnumber, Nat.zero_add]
      exact toNat_columnAfter (by omega)
    have hlength := utf8Length_of_mem_sourceLines (List.mem_of_getElem? htext)
    -- the columns of a line fit a word because its source does
    have hkeywords := hholds.keywords (Nat.lt_of_le_of_lt hlength hsize)
    refine ⟨text, by omega, ?_, hholds, hkeywords⟩
    rw [hline]
    exact htext
  · intro err herr
    obtain ⟨before, text, after, hlines, hbefore, htext⟩ := exists_line_of_parseLines_error herr
    obtain ⟨hline, hnone⟩ := parseLine_eq_error htext
    obtain ⟨n, hoffends, hcolumn⟩ := offends_of_parseLine_error htext
    have hmem : text ∈ sourceLines source.toList := by simp [hlines]
    have hlength := utf8Length_of_mem_sourceLines hmem
    have hn := hoffends.le
    rw [hlines, List.length_append, List.length_cons] at hcount
    refine ⟨before, text, after, n, hlines, hbefore, hnone, ?_, hoffends, ?_⟩
    · rw [hline, Nat.zero_add]
      exact toNat_columnAfter (by omega)
    · rw [hcolumn]
      exact toNat_columnAfter (by omega)

/-- A `fault` without a code behind wide white space and two `defer`s. -/
def codelessSource : String := "print a\n \u3000defer\tdefer fault \nthrow"

/-- Its error points one past the trimmed end of the second line. -/
theorem positions_exact_codeless :
    parse codelessSource = .error ⟨2, 22, .badFaultCode ""⟩ ∧
    ∃ before text after, sourceLines codelessSource.toList = before ++ text :: after ∧
      before.length = 1 ∧ Offends text 21 (.badFaultCode "") := by
  have hsize : (utf8 codelessSource).length < UInt32.size - 1 := by decide +kernel
  have herr : parse codelessSource = .error ⟨2, 22, .badFaultCode ""⟩ := by decide +kernel
  obtain ⟨before, text, after, n, hlines, -, -, hline, hoffends, hcolumn⟩ :=
    (positions_exact hsize).2.2 _ herr
  cases Nat.succ.inj hcolumn
  exact ⟨herr, before, text, after, hlines, (Nat.succ.inj hline).symm, hoffends⟩

end Program
end ScriptHost
