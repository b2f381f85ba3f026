import Mathlib.Data.List.Find
import ScriptHost.Bytecode.Codec
import ScriptHost.Header
import ScriptHost.Script.Parser

/- The disabled block of a header, as the language that reads the header sees it. There
   the group that `#if` begins goes on to the next `#endif`, `#else` or `#elif`, those of
   groups inside it not counted. The script stands in the block as it is; a line of it
   that begins with `#` is a comment to the script, and may be a directive to the reader
   of the header.

   What is proved:
     1. `groupEnd?_eq_some_iff` — a scan that counts depth finds the line that the
        grammar of groups says.
     2. `belowMarker_render` — the lines of the block, however the script ends.
     3. `excluded_iff` — the block ends where the renderer ends it exactly if the
        groups that the script begins are complete. They need not be:
        `endif_leaves_block`. -/
namespace ScriptHost.Header

/-- The lines of a text. A line feed ends one; what is after the last is a line too. -/
def lines (text : List UInt8) : List (List UInt8) :=
  text.splitOn 0x0A

/-- What a directive does to a conditional group. -/
inductive Directive where
  | opens
  | switches
  | ends
  deriving DecidableEq, Repr

def isBlank (c : UInt8) : Bool :=
  c == 0x20 || c == 0x09

/-- What a line with a directive begins with. -/
def keywords : List (List UInt8 × Directive) :=
  [(bytes "#if", .opens), (bytes "#else", .switches), (bytes "#elif", .switches),
    (bytes "#endif", .ends)]

/-- The directive that is first on a line, but for blanks. -/
def directive? (line : List UInt8) : Option Directive :=
  (keywords.find? fun k => k.1.isPrefixOf (line.dropWhile isBlank)).map (·.2)

def directives (text : List (List UInt8)) : List Directive :=
  text.filterMap directive?

/-- The index of the first line that ends or switches a group. Of the groups inside it,
    `depth` are open. -/
def groupEnd? (depth : Nat) : List (List UInt8) → Option Nat
  | [] => none
  | line :: rest =>
    match directive? line, depth with
    | some .opens, depth => (groupEnd? (depth + 1) rest).map (· + 1)
    | some .switches, 0 => some 0
    | some .ends, 0 => some 0
    | some .ends, depth + 1 => (groupEnd? depth rest).map (· + 1)
    | _, depth => (groupEnd? depth rest).map (· + 1)

/-- Directives of complete groups, one after the other. Within a group, those that switch
    it may stand among them. -/
inductive Balanced : Bool → List Directive → Prop
  | nil {within : Bool} : Balanced within []
  | switch {ds : List Directive} : Balanced true ds → Balanced true (.switches :: ds)
  | group {within : Bool} {inner ds : List Directive} :
      Balanced true inner → Balanced within ds →
        Balanced within (.opens :: (inner ++ .ends :: ds))

/-! The scan, a line at a time. -/

/-- Whether a group inside the outer one is open. -/
def isInside : Nat → Bool
  | 0 => false
  | _ + 1 => true

/-- The scan goes on past some lines, and comes from one depth to another. -/
def Passes (depth depth' : Nat) (body : List (List UInt8)) : Prop :=
  ∀ rest, groupEnd? depth (body ++ rest) = (groupEnd? depth' rest).map (· + body.length)

/-- A line at which the scan ends. -/
def Stops (line : List UInt8) : Prop :=
  directive? line = some .ends ∨ directive? line = some .switches

namespace Passes

variable {depth depth' depth'' : Nat} {line : List UInt8} {xs ys : List (List UInt8)}

theorem append (hxs : Passes depth depth' xs) (hys : Passes depth' depth'' ys) :
    Passes depth depth'' (xs ++ ys) := by
  intro rest
  rw [List.append_assoc, hxs, hys, Option.map_map, List.length_append]
  congr 1
  funext i
  simp only [Function.comp_apply]
  omega

theorem plain (h : ∀ line ∈ xs, directive? line = none) : Passes depth depth xs := by
  induction xs with
  | nil =>
    intro rest
    simp
  | cons line xs ih =>
    have hline : Passes depth depth [line] := by
      intro rest
      simp only [List.singleton_append, groupEnd?, h line (by simp), List.length_singleton]
    exact hline.append (ih fun l hl => h l (by simp [hl]))

theorem opens (h : directive? line = some .opens) : Passes depth (depth + 1) [line] := by
  intro rest
  simp only [List.singleton_append, groupEnd?, h, List.length_singleton]

theorem switches (h : directive? line = some .switches) :
    Passes (depth + 1) (depth + 1) [line] := by
  intro rest
  simp only [List.singleton_append, groupEnd?, h, List.length_singleton]

theorem ends (h : directive? line = some .ends) : Passes (depth + 1) depth [line] := by
  intro rest
  simp only [List.singleton_append, groupEnd?, h, List.length_singleton]

theorem of_directive {ds : List Directive} {d : Directive} (hxs : directives xs = d :: ds)
    (hline : ∀ line, directive? line = some d → Passes depth depth' [line])
    (hrest : ∀ ys, directives ys = ds → Passes depth' depth'' ys) :
    Passes depth depth'' xs := by
  obtain ⟨before, line, after, rfl, hbefore, hd, hafter⟩ := List.filterMap_eq_cons_iff.1 hxs
  exact (plain hbefore).append ((hline line hd).append (hrest after hafter))

theorem of_balanced {within : Bool} {ds : List Directive} (hds : Balanced within ds)
    (hdepth : isInside depth = within) (hxs : directives xs = ds) : Passes depth depth xs := by
  induction hds generalizing depth xs with
  | nil => exact plain (List.filterMap_eq_nil_iff.1 hxs)
  | switch _ ih =>
    cases depth with
    | zero => cases hdepth
    | succ depth => exact of_directive hxs (fun _ => switches) fun _ => ih hdepth
  | group _ _ ihinner ih =>
    apply of_directive hxs (fun _ => opens)
    intro ys hys
    obtain ⟨inner, after, rfl, hinner, hafter⟩ := List.filterMap_eq_append_iff.1 hys
    exact (ihinner rfl hinner).append
      (of_directive hafter (fun _ => ends) fun _ => ih hdepth)

end Passes

/-! What the scan finds. -/

theorem groupEnd?_stops {line : List UInt8} (h : Stops line) (rest : List (List UInt8)) :
    groupEnd? 0 (line :: rest) = some 0 := by
  cases h with
  | inl h => simp only [groupEnd?, h]
  | inr h => simp only [groupEnd?, h]

/-- The line that ends a group at a depth. A group inside the outer one does not end the
    scan, which goes on in what follows. -/
def EndsAt (line : List UInt8) (rest : List (List UInt8)) : Nat → Prop
  | 0 => Stops line
  | depth + 1 => directive? line = some .ends ∧ groupEnd? depth rest ≠ none

theorem exists_body_of_groupEnd? {text : List (List UInt8)} {depth : Nat}
    (h : groupEnd? depth text ≠ none) :
    ∃ body line rest, text = body ++ line :: rest ∧
      Balanced (isInside depth) (directives body) ∧ EndsAt line rest depth := by
  -- By length, at all depths: behind a group that is complete, the scan is as deep as before.
  induction hn : text.length using Nat.strongRecOn generalizing text depth with
  | ind n ih =>
    cases text with
    | nil => simp [groupEnd?] at h
    | cons first text =>
      rw [List.length_cons] at hn
      cases hfirst : directive? first with
      | none =>
        simp only [groupEnd?, hfirst, ne_eq, Option.map_eq_none_iff] at h
        obtain ⟨body, line, rest, rfl, hbody, hline⟩ := ih _ (by omega) h rfl
        refine ⟨first :: body, line, rest, rfl, ?_, hline⟩
        simpa [directives, hfirst] using hbody
      | some d =>
        cases d with
        | opens =>
          -- The group that begins here has an end, and the scan goes on behind it.
          simp only [groupEnd?, hfirst, ne_eq, Option.map_eq_none_iff] at h
          obtain ⟨inner, last, rest, rfl, hinner, hlast, hrest⟩ := ih _ (by omega) h rfl
          rw [List.length_append, List.length_cons] at hn
          obtain ⟨body, line, rest, rfl, hbody, hline⟩ := ih _ (by omega) hrest rfl
          refine ⟨first :: (inner ++ last :: body), line, rest, by simp, ?_, hline⟩
          simpa [directives, hfirst, hlast] using hinner.group hbody
        | switches =>
          cases depth with
          | zero => exact ⟨[], first, text, rfl, .nil, .inr hfirst⟩
          | succ depth =>
            simp only [groupEnd?, hfirst, ne_eq, Option.map_eq_none_iff] at h
            obtain ⟨body, line, rest, rfl, hbody, hline⟩ := ih _ (by omega) h rfl
            refine ⟨first :: body, line, rest, rfl, ?_, hline⟩
            simpa [directives, hfirst, isInside] using hbody.switch
        | ends =>
          cases depth with
          | zero => exact ⟨[], first, text, rfl, .nil, .inl hfirst⟩
          | succ depth =>
            simp only [groupEnd?, hfirst, ne_eq, Option.map_eq_none_iff] at h
            exact ⟨[], first, text, rfl, .nil, hfirst, h⟩

/-- The scan finds the first line that ends or switches the group: before it there are
    complete groups only. -/
theorem groupEnd?_eq_some_iff {text : List (List UInt8)} {i : Nat} :
    groupEnd? 0 text = some i ↔
      ∃ body line rest, text = body ++ line :: rest ∧ body.length = i ∧
        Balanced false (directives body) ∧ Stops line := by
  have hfound {body line rest} (hbody : Balanced false (directives body)) (hline : Stops line) :
      groupEnd? 0 (body ++ line :: rest) = some body.length := by
    rw [Passes.of_balanced hbody rfl rfl, groupEnd?_stops hline]
    simp
  constructor
  · intro h
    have hends : groupEnd? 0 text ≠ none := by simp [h]
    obtain ⟨body, line, rest, rfl, hbody, hline⟩ := exists_body_of_groupEnd? hends
    rw [hfound hbody hline] at h
    exact ⟨body, line, rest, rfl, Option.some.inj h, hbody, hline⟩
  · rintro ⟨body, line, rest, rfl, rfl, hbody, hline⟩
    exact hfound hbody hline

/-! The lines of a header. -/

/-- The line that begins the block. -/
def marker : List UInt8 := bytes "#if 0\r"

/-- The lines after the one that begins the block. -/
def belowMarker (text : List UInt8) : List (List UInt8) :=
  ((lines text).dropWhile (· != marker)).tail

/-- The bytes of a script with the line break that the renderer puts after them. -/
def block (raw : List UInt8) : List UInt8 :=
  raw ++ (if lineEnd.isSuffixOf raw then [] else lineEnd)

/-- The lines of a script in the block. Nothing is after its last line feed. -/
def scriptLines (raw : List UInt8) : List (List UInt8) :=
  (lines (block raw)).dropLast

theorem lines_append_lineEnd (text rest : List UInt8) :
    lines (text ++ lineEnd ++ rest) = lines (text ++ [0x0D]) ++ lines rest := by
  have h : text ++ lineEnd ++ rest = (text ++ [0x0D]) ++ 0x0A :: rest := by
    simp [lineEnd]
  rw [h, lines, List.splitOn_append_cons_self, ← lines, ← lines]

theorem lines_lineEnd (text : List UInt8) :
    lines (text ++ lineEnd) = lines (text ++ [0x0D]) ++ [[]] := by
  simpa [lines] using lines_append_lineEnd text []

theorem exists_block_eq (raw : List UInt8) : ∃ text, block raw = text ++ lineEnd := by
  rw [block]
  split
  · rename_i h
    obtain ⟨text, rfl⟩ := List.isSuffixOf_iff_suffix.1 h
    exact ⟨text, by simp⟩
  · exact ⟨raw, rfl⟩

theorem scriptLines_eq {raw text : List UInt8} (htext : block raw = text ++ lineEnd) :
    scriptLines raw = lines (text ++ [0x0D]) := by
  rw [scriptLines, htext, lines_lineEnd, List.dropLast_concat]

theorem lines_block_append (raw rest : List UInt8) :
    lines (block raw ++ rest) = scriptLines raw ++ lines rest := by
  obtain ⟨text, htext⟩ := exists_block_eq raw
  rw [htext, lines_append_lineEnd, scriptLines_eq htext]

/-- A carriage return at the end of a line makes no directive and hides none. -/
theorem directive?_append_return (line : List UInt8) :
    directive? (line ++ [0x0D]) = directive? line := by
  -- Not a blank, so it stays; and no keyword has one, so none ends in it.
  have hdrop : (line ++ [0x0D]).dropWhile isBlank = line.dropWhile isBlank ++ [0x0D] := by
    rw [List.dropWhile_append]
    split
    · rename_i h
      rw [List.isEmpty_iff.1 h]
      decide
    · rfl
  have hreturn : ∀ k ∈ keywords, (0x0D : UInt8) ∉ k.1 := by decide
  rw [directive?, directive?, hdrop]
  congr 1
  apply List.find?_congr
  intro k hk
  rw [Bool.eq_iff_iff, List.isPrefixOf_iff_prefix, List.isPrefixOf_iff_prefix,
    List.prefix_concat_iff]
  apply or_iff_right
  intro h
  apply hreturn k hk
  rw [h]
  simp

theorem directives_lines_append_return (raw : List UInt8) :
    directives (lines (raw ++ [0x0D])) = directives (lines raw) := by
  induction hn : raw.length using Nat.strongRecOn generalizing raw with
  | ind n ih =>
    by_cases hfeed : 0x0A ∈ raw
    · obtain ⟨line, later, rfl, hline⟩ := List.eq_append_cons_of_mem hfeed
      rw [List.length_append, List.length_cons] at hn
      have hlater := ih _ (by omega) later rfl
      rw [List.append_assoc, List.cons_append, lines, lines,
        List.splitOn_append_cons_self_of_not_mem hline,
        List.splitOn_append_cons_self_of_not_mem hline, ← lines, ← lines, directives,
        directives, List.filterMap_cons, List.filterMap_cons, ← directives, ← directives,
        hlater]
    · rw [lines, lines, List.splitOn_eq_singleton hfeed,
        List.splitOn_eq_singleton (by simpa using hfeed), directives, directives,
        List.filterMap_cons, List.filterMap_cons, directive?_append_return]

theorem directives_scriptLines (raw : List UInt8) :
    directives (scriptLines raw) = directives (lines raw) := by
  by_cases h : lineEnd.isSuffixOf raw
  · obtain ⟨text, rfl⟩ := List.isSuffixOf_iff_suffix.1 h
    have hblock : block (text ++ lineEnd) = text ++ lineEnd := by rw [block, if_pos h]; simp
    have hnone : directives [[]] = [] := by decide
    rw [scriptLines_eq hblock, lines_lineEnd, directives, directives, List.filterMap_append,
      ← directives, ← directives, hnone, List.append_nil]
  · have hblock : block raw = raw ++ lineEnd := by rw [block, if_neg h]
    rw [scriptLines_eq hblock, directives_lines_append_return]

/-- After the line of the marker come the script's lines, then the renderer's own. -/
theorem belowMarker_render (bytecode raw : List UInt8) (symbol : String) :
    ∃ after, belowMarker (render bytecode raw symbol) =
      scriptLines raw ++ bytes "#endif\r" :: bytes "namespace Js\r" :: after := by
  have hone {text line : List UInt8} (h : lines (text ++ [0x0D]) = [line])
      (rest : List UInt8) : lines (text ++ lineEnd ++ rest) = line :: lines rest := by
    rw [lines_append_lineEnd, h, List.singleton_append]
  obtain ⟨above, habove, hmarker⟩ :
      ∃ above, banner = above ++ lineEnd ∧ marker ∉ lines (above ++ [0x0D]) :=
    ⟨banner.dropLast.dropLast, by decide +kernel, by decide +kernel⟩
  obtain ⟨rest, hrest⟩ : ∃ rest, render bytecode raw symbol =
      above ++ lineEnd ++ (bytes "#if 0" ++ lineEnd ++ (block raw ++
        (bytes "#endif" ++ lineEnd ++ (bytes "namespace Js" ++ lineEnd ++ rest)))) := by
    simp only [render, disabledSource, habove, block, List.append_assoc]
    exact ⟨_, rfl⟩
  refine ⟨lines rest, ?_⟩
  have hskip : ∀ line ∈ lines (above ++ [0x0D]), (line != marker) = true := by
    intro line hline
    rw [bne_iff_ne]
    rintro rfl
    exact hmarker hline
  rw [hrest, belowMarker, lines_append_lineEnd,
    hone (show lines (bytes "#if 0" ++ [0x0D]) = [marker] by decide), lines_block_append,
    hone (show lines (bytes "#endif" ++ [0x0D]) = [bytes "#endif\r"] by decide),
    hone (show lines (bytes "namespace Js" ++ [0x0D]) = [bytes "namespace Js\r"] by decide),
    List.dropWhile_append_of_pos hskip, List.dropWhile_cons_of_neg (by simp), List.tail_cons]

/-- The line that ends the block, or switches it, is the one behind the script's lines. -/
def Excluded (bytecode raw : List UInt8) (symbol : String) : Prop :=
  groupEnd? 0 (belowMarker (render bytecode raw symbol)) = some (scriptLines raw).length

/-- What is disabled, for every script. Its lines stand between the marker and the `#endif`
    of the renderer, which is a line of its own. That line ends the block exactly if the
    script ends every group it begins, and no other. -/
theorem excluded_iff (bytecode raw : List UInt8) (symbol : String) :
    (∃ after, belowMarker (render bytecode raw symbol) =
        scriptLines raw ++ bytes "#endif\r" :: bytes "namespace Js\r" :: after) ∧
      (Excluded bytecode raw symbol ↔ Balanced false (directives (lines raw))) := by
  obtain ⟨after, hbelow⟩ := belowMarker_render bytecode raw symbol
  refine ⟨⟨after, hbelow⟩, ?_⟩
  rw [Excluded, hbelow, groupEnd?_eq_some_iff, ← directives_scriptLines]
  constructor
  · rintro ⟨body, line, rest, hsame, hlength, hbody, -⟩
    rw [(List.append_inj hsame hlength.symm).1]
    exact hbody
  · intro hraw
    exact ⟨_, _, _, rfl, rfl, hraw, .inl (by decide)⟩

/-- A comment of a script that is a directive all the same: this script compiles, and its
    first line ends the block, so that its second is not in it. -/
theorem endif_leaves_block :
    ∃ p, Program.parse "#endif\nprint hi" = .ok p ∧
      ¬Excluded (Bytecode.encode p) (bytes "#endif\nprint hi") "demo" := by
  have hparse : Program.parse "#endif\nprint hi" = .ok [⟨2, .act 1 (.print "hi")⟩] := by
    decide +kernel
  refine ⟨_, hparse, ?_⟩
  obtain ⟨after, hbelow⟩ := belowMarker_render
    (Bytecode.encode [⟨2, .act 1 (.print "hi")⟩]) (bytes "#endif\nprint hi") "demo"
  have hlines : scriptLines (bytes "#endif\nprint hi") = [bytes "#endif", bytes "print hi\r"] := by
    decide
  have hstops : Stops (bytes "#endif") := .inl (by decide)
  rw [Excluded, hbelow, hlines, List.cons_append, groupEnd?_stops hstops]
  simp

end ScriptHost.Header
