import ScriptHost.Proofs.Script.Locations

/- The ends of lines. What a line holds does not depend on the white space at its end, and a
   carriage return is white space; so a source may be cut at its line feeds and nowhere else,
   which, unlike `sourceLines`, knows no exceptions: cutting a source joined from two cuts each
   of them. The number of a line is nothing to what the line holds either, so the lines of
   the second part count from where the first left off.

   What is proved:
     1. `Program.parse_eq_parseLines` — a source parses as its trimmed lines.
     2. `parseLines_append`, `parseLines_down` — lines behind others, and further down.
     3. `parse_joined` — two sources, the one below the other. -/
namespace ScriptHost

open Text

/-! White space at the end of a line. -/

theorem columnOf_append (column : UInt32) (text rest trail : List Char) :
    columnOf column (text ++ trail) (rest ++ trail) = columnOf column text rest := by
  rw [columnOf, utf8Length_append, utf8Length_append, Nat.add_sub_add_right, ← columnOf]

theorem parseLine_append_blank (number : UInt32) (text : List Char) {trail : List Char}
    (htrail : Blank trail) : parseLine number (text ++ trail) = parseLine number text := by
  cases hbody : trimStart text with
  | nil =>
    have hblank : trimStart (text ++ trail) = [] := by
      rw [trimStart_append (trimStart_eq_nil_iff.1 hbody), trimStart_eq_nil_iff.2 htrail]
    rw [parseLine, parseLine, hblank, hbody]
    rfl
  | cons c rest =>
    have hstart : trimStart (text ++ trail) = c :: rest ++ trail := by
      rw [trimStart, List.dropWhile_append, ← trimStart, hbody]
      rfl
    rw [parseLine, parseLine, hstart, hbody, columnOf_append, trimEnd_append _ htrail]
    rfl

theorem parseLine_trimEnd (number : UInt32) (text : List Char) :
    parseLine number (trimEnd text) = parseLine number text := by
  obtain ⟨trail, heq, htrail⟩ := trimEnd_split text
  conv_rhs => rw [heq]
  exact (parseLine_append_blank number _ htrail).symm

theorem parseLines_trimEnd (index : Nat) (lines : List (List Char)) :
    parseLines index (lines.map trimEnd) = parseLines index lines := by
  induction lines generalizing index with
  | nil => rfl
  | cons text rest ih => rw [List.map_cons, parseLines, parseLines, parseLine_trimEnd, ih]

/-! Lines cut at line feeds. -/

/-- What is between the line feeds of a source, without the white space at its end. -/
def trimmedLines (cs : List Char) : List (List Char) :=
  (cs.splitOn '\n').map trimEnd

theorem exists_trimmedLines (cs : List Char) :
    ∃ first rest, trimmedLines cs = first :: rest :=
  List.exists_cons_of_ne_nil (by simp [trimmedLines])

theorem trimmedLines_append_feed (cs cs' : List Char) :
    trimmedLines (cs ++ '\n' :: cs') = trimmedLines cs ++ trimmedLines cs' := by
  rw [trimmedLines, List.splitOn_append_cons_self, List.map_append]
  rfl

theorem trimmedLines_feed (cs : List Char) : trimmedLines ('\n' :: cs) = [] :: trimmedLines cs :=
  trimmedLines_append_feed [] cs

theorem trimmedLines_returnFeed (cs : List Char) :
    trimmedLines ('\r' :: '\n' :: cs) = [] :: trimmedLines cs := by
  have hreturn : trimmedLines ['\r'] = [[]] := by decide
  rw [← List.singleton_append, trimmedLines_append_feed, hreturn]
  rfl

theorem trimEnd_cons_trimEnd (c : Char) (cs : List Char) :
    trimEnd (c :: trimEnd cs) = trimEnd (c :: cs) := by
  obtain ⟨trail, heq, htrail⟩ := trimEnd_split cs
  conv_rhs => rw [heq]
  exact (trimEnd_append (c :: trimEnd cs) htrail).symm

theorem trimmedLines_cons {c : Char} {cs first : List Char} {rest : List (List Char)}
    (hc : c ≠ '\n') (h : trimmedLines cs = first :: rest) :
    trimmedLines (c :: cs) = trimEnd (c :: first) :: rest := by
  have hcut : (c :: cs).splitOn '\n' = (cs.splitOn '\n').modifyHead (c :: ·) := by
    rw [List.splitOn_cons_eq_if_modifyHead, if_neg (by simpa using hc)]
  obtain ⟨line, lines, hlines, rfl, rfl⟩ := List.map_eq_cons_iff.1 h
  rw [trimmedLines, hcut, hlines, trimEnd_cons_trimEnd]
  rfl

theorem trimmedLines_cons_congr {c : Char} {cs cs' : List Char} (hc : c ≠ '\n')
    (h : trimmedLines cs = trimmedLines cs') :
    trimmedLines (c :: cs) = trimmedLines (c :: cs') := by
  obtain ⟨first, rest, hlines⟩ := exists_trimmedLines cs
  rw [trimmedLines_cons hc hlines, trimmedLines_cons hc (h.symm.trans hlines)]

theorem length_trimmedLines (cs : List Char) :
    (trimmedLines cs).length = cs.count '\n' + 1 := by
  induction cs with
  | nil => rfl
  | cons c rest ih =>
    by_cases hc : c = '\n'
    · rw [hc, trimmedLines_feed, List.length_cons, ih, List.count_cons_self]
    · obtain ⟨first, later, hlines⟩ := exists_trimmedLines rest
      rw [hlines] at ih
      rw [trimmedLines_cons hc hlines, List.count_cons_of_ne hc]
      exact ih

/-- The lines of a source are those between its line feeds, but for the white space at their ends
    and a last one that is empty. -/
theorem exists_trimmedLines_eq (cs : List Char) :
    ∃ last, trimmedLines cs = (sourceLines cs).map trimEnd ++ last ∧ (last = [] ∨ last = [[]]) := by
  fun_induction sourceLines cs with
  | case1 => exact ⟨[[]], rfl, .inr rfl⟩
  | case2 rest ih =>
    obtain ⟨last, hlines, hlast⟩ := ih
    exact ⟨last, by rw [trimmedLines_feed, hlines]; rfl, hlast⟩
  | case3 rest ih =>
    obtain ⟨last, hlines, hlast⟩ := ih
    exact ⟨last, by rw [trimmedLines_returnFeed, hlines]; rfl, hlast⟩
  | case4 c rest hfeed _ hnone ih =>
    -- no line behind `c`: the empty one that the cut leaves there goes into its line
    obtain ⟨last, hlines, hlast⟩ := ih
    rw [hnone, List.map_nil, List.nil_append] at hlines
    rcases hlast with rfl | rfl
    · obtain ⟨first, later, hne⟩ := exists_trimmedLines rest
      cases hne.symm.trans hlines
    · exact ⟨[], trimmedLines_cons hfeed hlines, .inl rfl⟩
  | case5 c rest hfeed _ line lines hsome ih =>
    obtain ⟨last, hlines, hlast⟩ := ih
    rw [hsome, List.map_cons, List.cons_append] at hlines
    refine ⟨last, ?_, hlast⟩
    rw [trimmedLines_cons hfeed hlines, trimEnd_cons_trimEnd]
    rfl

/-! Lines behind others. -/

/-- Lines behind others count on from them, and are not looked at if one of those is ill-formed. -/
theorem parseLines_append (index : Nat) (lines lines' : List (List Char)) :
    parseLines index (lines ++ lines') =
      match parseLines index lines with
      | .error e => .error e
      | .ok p => (parseLines (index + lines.length) lines').map (p ++ ·) := by
  induction lines generalizing index with
  | nil =>
    rw [List.nil_append, parseLines]
    cases parseLines (index + 0) lines' <;> rfl
  | cons text rest ih =>
    rw [List.cons_append, parseLines, parseLines, ih (index + 1), List.length_cons,
      Nat.add_assoc index 1, Nat.add_comm 1]
    cases parseLine (UInt32.ofNat index + 1) text with
    | error e => rfl
    | ok found =>
      cases parseLines (index + 1) rest with
      | error e => rfl
      | ok p =>
        cases parseLines (index + (rest.length + 1)) lines' with
        | error e => rfl
        | ok q => exact congrArg Except.ok (List.append_assoc _ _ _).symm

/-- **A source parses as the lines between its line feeds**, without the white space at their
    ends. -/
theorem Program.parse_eq_parseLines (source : String) :
    Program.parse source = parseLines 0 (trimmedLines source.toList) := by
  obtain ⟨last, hlines, hlast⟩ := exists_trimmedLines_eq source.toList
  rw [hlines, parseLines_append, parseLines_trimEnd, ← Program.parse]
  cases Program.parse source with
  | error e => rfl
  | ok p =>
    rcases hlast with rfl | rfl
    · exact congrArg Except.ok (List.append_nil p).symm
    · exact congrArg Except.ok (List.append_nil p).symm

/-! Lines further down. -/

/-- The error at the same place of a line so many lines further down. -/
def CompileError.down (n : Nat) (e : CompileError) : CompileError :=
  { e with line := e.line + UInt32.ofNat n }

def Instruction.down (n : Nat) (i : Instruction) : Instruction :=
  { i with line := i.line + UInt32.ofNat n }

theorem Statement.parse_down (line : UInt32) (allowance : Nat) (column : UInt32) (text : List Char)
    (n : Nat) :
    Statement.parse (line + UInt32.ofNat n) allowance column text =
      (Statement.parse line allowance column text).mapError (·.down n) := by
  fun_induction Statement.parse line allowance column text with
  | case1 _ _ _ _ hk => rw [parse.eq_def, hk]; rfl
  | case2 _ _ _ _ hk => rw [parse.eq_def, hk]; rfl
  | case3 _ _ _ argument hk hempty => rw [parse.eq_def, hk]; exact if_pos hempty
  | case4 _ _ argument hk hempty => rw [parse.eq_def, hk]; exact if_neg hempty
  | case5 column text argument argumentColumn hk hempty m ih =>
    rw [parse.eq_def, hk]
    refine (if_neg hempty).trans ?_
    dsimp only
    rw [ih]
    cases parse line m argumentColumn argument <;> rfl
  | case6 _ _ _ argument hk code hcode => rw [parse.eq_def, hk]; dsimp only; rw [hcode]; rfl
  | case7 _ _ _ argument _ hk hcode => rw [parse.eq_def, hk]; dsimp only; rw [hcode]; rfl
  | case8 _ _ _ hk => rw [parse.eq_def, hk]; rfl

theorem parseLine_down (number : UInt32) (text : List Char) (n : Nat) :
    parseLine (number + UInt32.ofNat n) text =
      match parseLine number text with
      | .error e => .error (e.down n)
      | .ok found => .ok (found.map (·.down n)) := by
  simp only [parseLine]
  split
  · rfl
  · rw [Statement.parse_down]
    cases Statement.parse number maxDeferDepth _ _ <;> rfl

/-- Lines further down parse to the same instructions and errors further down. -/
theorem parseLines_down (index : Nat) (lines : List (List Char)) (n : Nat) :
    parseLines (index + n) lines =
      match parseLines index lines with
      | .error e => .error (e.down n)
      | .ok p => .ok (p.map (·.down n)) := by
  induction lines generalizing index with
  | nil => rfl
  | cons text rest ih =>
    have hnumber : UInt32.ofNat (index + n) + 1 = UInt32.ofNat index + 1 + UInt32.ofNat n := by
      rw [UInt32.ofNat_add, UInt32.add_assoc, UInt32.add_comm (UInt32.ofNat n), UInt32.add_assoc]
    rw [parseLines, parseLines, hnumber, parseLine_down, Nat.add_right_comm, ih]
    cases parseLine (UInt32.ofNat index + 1) text with
    | error e => rfl
    | ok found =>
      cases parseLines (index + 1) rest with
      | error e => rfl
      | ok p =>
        cases found <;> rfl

/-! One source below another. -/

theorem Program.parse_below (a b : String) :
    Program.parse (a ++ "\n" ++ b) =
      match Program.parse a with
      | .error e => .error e
      | .ok p =>
        match Program.parse b with
        | .error e => .error (e.down (a.toList.count '\n' + 1))
        | .ok q => .ok (p ++ q.map (·.down (a.toList.count '\n' + 1))) := by
  have hjoined : (a ++ "\n" ++ b).toList = a.toList ++ '\n' :: b.toList := by
    simp
  rw [parse_eq_parseLines, hjoined, trimmedLines_append_feed, parseLines_append,
    length_trimmedLines, parseLines_down, ← parse_eq_parseLines, ← parse_eq_parseLines]
  cases Program.parse a with
  | error e => rfl
  | ok p => cases Program.parse b <;> rfl

theorem toNat_columnAfter_le {source : String} (hsize : (utf8 source).length < UInt32.size - 1)
    {n : Nat} (hn : n < (sourceLines source.toList).length) :
    (columnAfter n).toNat ≤ (utf8 source).length := by
  have hle := length_sourceLines_le_utf8 source
  rw [toNat_columnAfter (by omega)]
  omega

theorem toNat_line_le_of_parse {source : String} (hsize : (utf8 source).length < UInt32.size - 1)
    {p : Program} (h : Program.parse source = .ok p) {i : Instruction} (hi : i ∈ p) :
    i.line.toNat ≤ (utf8 source).length := by
  obtain ⟨n, text, htext, hline, -⟩ := (parseLines_eq_ok_iff.1 h).exists_line hi
  obtain ⟨hn, -⟩ := List.getElem?_eq_some_iff.1 htext
  rw [hline, Nat.zero_add]
  exact toNat_columnAfter_le hsize hn

theorem toNat_line_le_of_parse_error {source : String}
    (hsize : (utf8 source).length < UInt32.size - 1) {err : CompileError}
    (h : Program.parse source = .error err) : err.line.toNat ≤ (utf8 source).length := by
  obtain ⟨before, text, after, hlines, -, -, hline⟩ := parseLines_eq_error h
  rw [hline, Nat.zero_add]
  refine toNat_columnAfter_le hsize ?_
  rw [hlines, List.length_append, List.length_cons]
  omega

theorem toNat_add_ofNat {word : UInt32} {n : Nat} (h : word.toNat + n < UInt32.size) :
    (word + UInt32.ofNat n).toNat = word.toNat + n := by
  have hn : (UInt32.ofNat n).toNat = n := UInt32.toNat_ofNat_of_lt' (by omega)
  rw [UInt32.toNat_add, hn]
  exact Nat.mod_eq_of_lt h

/-- Two sources, the second below the first, fail as the first does; or else as the second does,
    so many lines further down as the first has; or they are the instructions of both, those
    of the second further down. No column changes, and no number of a line overflows. -/
theorem parse_joined {a b : String}
    (hsize : (utf8 a).length + (utf8 b).length < UInt32.size - 2) :
    (∀ err, Program.parse a = .error err → Program.parse (a ++ "\n" ++ b) = .error err) ∧
    (∀ p err, Program.parse a = .ok p → Program.parse b = .error err →
      Program.parse (a ++ "\n" ++ b) = .error (err.down (a.toList.count '\n' + 1)) ∧
        (err.down (a.toList.count '\n' + 1)).line.toNat =
          err.line.toNat + (a.toList.count '\n' + 1)) ∧
    ∀ p q, Program.parse a = .ok p → Program.parse b = .ok q →
      Program.parse (a ++ "\n" ++ b) = .ok (p ++ q.map (·.down (a.toList.count '\n' + 1))) ∧
        ∀ i ∈ q, (i.down (a.toList.count '\n' + 1)).line.toNat =
          i.line.toNat + (a.toList.count '\n' + 1) := by
  -- so many lines down is still a line number that a word can hold
  have hfeeds : a.toList.count '\n' ≤ (utf8 a).length := by
    rw [length_utf8_eq]
    exact List.count_le_length.trans (length_le_utf8Length _)
  have hjoined := Program.parse_below a b
  refine ⟨?_, ?_, ?_⟩
  · intro err ha
    rw [hjoined, ha]
  · intro p err ha hb
    refine ⟨by rw [hjoined, ha, hb], toNat_add_ofNat ?_⟩
    have hle := toNat_line_le_of_parse_error (by omega) hb
    omega
  · intro p q ha hb
    refine ⟨by rw [hjoined, ha, hb], fun i hi => toNat_add_ofNat ?_⟩
    have hle := toNat_line_le_of_parse (by omega) hb hi
    omega

/-- Below a source that ends in a carriage return and a line feed, an error is two lines down. -/
theorem parse_joined_returns :
    (utf8 "print a\r\n").length + (utf8 " shout").length < UInt32.size - 2 ∧
    Program.parse "print a\r\n" = .ok [⟨1, .act 1 (.print "a")⟩] ∧
    Program.parse " shout" = .error ⟨1, 2, .unknownStatement "shout"⟩ ∧
    Program.parse ("print a\r\n" ++ "\n" ++ " shout") =
      .error ⟨3, 2, .unknownStatement "shout"⟩ := by
  have hsize : (utf8 "print a\r\n").length + (utf8 " shout").length < UInt32.size - 2 := by
    decide +kernel
  have ha : Program.parse "print a\r\n" = .ok [⟨1, .act 1 (.print "a")⟩] := by decide +kernel
  have hb : Program.parse " shout" = .error ⟨1, 2, .unknownStatement "shout"⟩ := by
    decide +kernel
  obtain ⟨-, hsecond, -⟩ := parse_joined hsize
  obtain ⟨hjoined, -⟩ := hsecond _ _ ha hb
  exact ⟨hsize, ha, hb, hjoined.trans (by decide +kernel)⟩

end ScriptHost
