import ScriptHost.Json.Parser
import ScriptHost.Json.Printer
import ScriptHost.Proofs.Json.Numerals

/- Printed values read back. Between the printer and the parser stand the tokens of a value.
   The lexer finds them in the pretty form, whatever follows that cannot go on a number or a
   word; and the parser, wherever it expects a value, makes the value of them and puts it
   where it belongs.

   What is proved:
     1. `lexFrom_prettyAt` — the tokens of a value are those of its pretty form.
     2. `foldlM_tokens` — the value of the tokens of a value is that value.
     3. `parse?_pretty` — a value whose strings have texts and whose numbers are literals is
        read back from its pretty form. -/
namespace ScriptHost

namespace JsonValue

def scalarToken : JsonValue → JsonToken
  | bool value => .bool value
  | number literal => .number literal
  | string text => .string text
  | _ => .null

mutual

def tokens : JsonValue → List JsonToken
  | array items => .openArray :: tokensOfItems items ++ [.closeArray]
  | object fields => .openObject :: tokensOfFields fields ++ [.closeObject]
  | v => [v.scalarToken]

def tokensOfItems : List JsonValue → List JsonToken
  | [] => []
  | [v] => v.tokens
  | v :: rest => v.tokens ++ .comma :: tokensOfItems rest

def tokensOfFields : List (Option String × JsonValue) → List JsonToken
  | [] => []
  | [(name, v)] => .string name :: .colon :: v.tokens
  | (name, v) :: rest => .string name :: .colon :: v.tokens ++ .comma :: tokensOfFields rest

end

end JsonValue

/-! The lexer. -/

namespace JsonToken

/-- A text that begins with nothing that could belong to a number or a word in front of it. -/
def Apart (rest : List Char) : Prop :=
  ∀ c ∈ rest.head?, continuesNumber c = false ∧ ¬ ('a' ≤ c ∧ c ≤ 'z')

theorem apart_cons {c : Char} (h : continuesNumber c = false ∧ ¬ ('a' ≤ c ∧ c ≤ 'z'))
    (rest : List Char) : Apart (c :: rest) := by
  intro d hd
  cases hd
  exact h

theorem lexFrom_between_cons {c : Char} {tokens : List JsonToken}
    (h : feedBetween c = some (tokens, .between)) (rest : List Char) :
    lexFrom .between (c :: rest) = (lexFrom .between rest).map (tokens ++ ·) := by
  rw [lexFrom, feed, h]

theorem lexFrom_cons_of_silent {lexer lexer' : Lexer} {c : Char}
    (h : feed lexer c = some ([], lexer')) (rest : List Char) :
    lexFrom lexer (c :: rest) = lexFrom lexer' rest := by
  rw [lexFrom, h]
  exact Option.map_id'

theorem lexFrom_newLine (depth : Nat) (rest : List Char) :
    lexFrom .between (JsonValue.newLine depth ++ rest) = lexFrom .between rest := by
  have blanks : ∀ n, lexFrom .between (List.replicate n ' ' ++ rest) = lexFrom .between rest := by
    intro n
    induction n with
    | zero => rfl
    | succ n ih =>
      rw [List.replicate_succ, List.cons_append, lexFrom_cons_of_silent rfl, ih]
  rw [JsonValue.newLine, List.cons_append, lexFrom_cons_of_silent rfl, blanks]

/-! Strings. -/

theorem joinPieces_map_char (cs : List Char) : joinPieces (cs.map .char) = some cs := by
  induction cs with
  | nil => rfl
  | cons c rest ih => rw [List.map_cons, joinPieces, ih, Option.map_some]

theorem digit?_hexUpper : ∀ n < 0x20,
    ((Text.hexUpper 2 n).map Char.toLower).map (Text.digit? 16) =
      [some (n / 16), some (n % 16)] := by
  decide

theorem lexFrom_numbered {c : Char} (hc : c.toNat < 0x20) (pieces : List Piece)
    (rest : List Char) :
    lexFrom (.numbered pieces 4 0)
        (['0', '0'] ++ (Text.hexUpper 2 c.toNat).map Char.toLower ++ rest) =
      lexFrom (.string (.char c :: pieces)) rest := by
  have hdigits := digit?_hexUpper c.toNat hc
  obtain ⟨a, tail, hcons, ha, htail⟩ := List.map_eq_cons_iff.1 hdigits
  obtain ⟨b, none, rfl, hb, hnil⟩ := List.map_eq_cons_iff.1 htail
  have hzero : Text.digit? 16 '0' = some 0 := by decide
  -- four digits are read, of which the first two are zero
  have hvalue : 16 * (16 * (16 * (16 * 0 + 0) + 0) + c.toNat / 16) + c.toNat % 16 = c.toNat := by
    omega
  have hpiece : Piece.ofUnit c.toNat = .char c := by
    rw [Piece.ofUnit, if_neg (by omega), Char.ofNat_toNat]
  rw [hcons, List.map_eq_nil_iff.1 hnil]
  show lexFrom (.numbered pieces 4 0) ('0' :: '0' :: a :: b :: rest) = _
  have hfirst : feed (.numbered pieces 4 0) '0' = some ([], .numbered pieces 3 (16 * 0 + 0)) := by
    rw [feed, hzero]
    rfl
  have hsecond : feed (.numbered pieces 3 (16 * 0 + 0)) '0' =
      some ([], .numbered pieces 2 (16 * (16 * 0 + 0) + 0)) := by
    rw [feed, hzero]
    rfl
  have hthird : feed (.numbered pieces 2 (16 * (16 * 0 + 0) + 0)) a =
      some ([], .numbered pieces 1 (16 * (16 * (16 * 0 + 0) + 0) + c.toNat / 16)) := by
    rw [feed, ha]
    rfl
  have hfourth : feed (.numbered pieces 1 (16 * (16 * (16 * 0 + 0) + 0) + c.toNat / 16)) b =
      some ([], .string (.char c :: pieces)) := by
    rw [feed, hb]
    dsimp only
    rw [if_pos rfl, hvalue, hpiece]
  rw [lexFrom_cons_of_silent hfirst, lexFrom_cons_of_silent hsecond, lexFrom_cons_of_silent hthird,
    lexFrom_cons_of_silent hfourth]

/-- A character inside a string is read as itself. -/
theorem lexFrom_escape (c : Char) (pieces : List Piece) (rest : List Char) :
    lexFrom (.string pieces) (JsonValue.escape c ++ rest) =
      lexFrom (.string (.char c :: pieces)) rest := by
  -- seven characters have an escape of one letter
  have short : ∀ {letter e : Char}, letter ≠ 'u' → escaped? letter = some e →
      lexFrom (.string pieces) (['\\', letter] ++ rest) =
        lexFrom (.string (.char e :: pieces)) rest := by
    intro letter e hletter he
    show lexFrom (.string pieces) ('\\' :: letter :: rest) = _
    rw [lexFrom_cons_of_silent rfl, lexFrom_cons_of_silent]
    rw [feed, if_neg hletter, he]
    rfl
  unfold JsonValue.escape
  split
  · exact short (by decide) rfl
  · exact short (by decide) rfl
  · exact short (by decide) rfl
  · exact short (by decide) rfl
  · exact short (by decide) rfl
  · exact short (by decide) rfl
  · exact short (by decide) rfl
  rename_i hquote hbackslash _ _ _ _ _
  split
  · rename_i hcontrol
    show lexFrom (.string pieces) ('\\' :: 'u' ::
      (['0', '0'] ++ (Text.hexUpper 2 c.toNat).map Char.toLower ++ rest)) = _
    rw [lexFrom_cons_of_silent rfl, lexFrom_cons_of_silent rfl, lexFrom_numbered hcontrol]
  · rename_i hcontrol
    refine lexFrom_cons_of_silent ?_ rest
    rw [feed, if_neg hquote, if_neg hbackslash, if_neg hcontrol]

theorem lexFrom_printString (s : String) (rest : List Char) :
    lexFrom .between (JsonValue.printString s ++ rest) =
      (lexFrom .between rest).map (.string (some s) :: ·) := by
  have inside : ∀ (cs : List Char) (pieces : List Piece),
      lexFrom (.string pieces) (cs.flatMap JsonValue.escape ++ '"' :: rest) =
        (lexFrom .between rest).map
          (.string ((joinPieces (pieces.reverse ++ cs.map .char)).map String.ofList) :: ·) := by
    intro cs
    -- every escape adds one piece, and the quote puts the pieces together
    induction cs with
    | nil =>
      intro pieces
      rw [List.map_nil, List.append_nil]
      rfl
    | cons c cs ih =>
      intro pieces
      rw [List.flatMap_cons, List.append_assoc, lexFrom_escape, ih, List.reverse_cons,
        List.append_assoc]
      rfl
  have hprint : JsonValue.printString s ++ rest =
      '"' :: (s.toList.flatMap JsonValue.escape ++ '"' :: rest) := by
    rw [JsonValue.printString, List.append_assoc]
    rfl
  rw [hprint, lexFrom_cons_of_silent rfl, inside, List.reverse_nil, List.nil_append,
    joinPieces_map_char, Option.map_some, String.ofList_toList]

/-! Numbers and words. -/

/-- What ends a number or a word is the beginning of what comes after its token. -/
theorem lexFrom_ended {lexer : Lexer} {token : JsonToken} {rest : List Char}
    (hfinish : finish? lexer = some [token])
    (hfeed : ∀ c ∈ rest.head?, feed lexer c = feedAfter (some token) c) :
    lexFrom lexer rest = (lexFrom .between rest).map (token :: ·) := by
  cases rest with
  | nil => exact hfinish
  | cons c rest =>
    rw [lexFrom, lexFrom, hfeed c rfl, feed]
    unfold feedAfter
    rcases feedBetween c with _ | ⟨tokens, lexer'⟩
    · rfl
    · dsimp only
      rw [Option.map_map]
      rfl

/-- A lexer that only collects characters until something else comes. -/
theorem lexFrom_collected (collecting : List Char → Lexer) {token : JsonToken} {c : Char}
    {cs rest : List Char} (hfirst : feedBetween c = some ([], collecting [c]))
    (hnext : ∀ d ∈ cs, ∀ read, feed (collecting read) d = some ([], collecting (d :: read)))
    (hfinish : finish? (collecting (c :: cs).reverse) = some [token])
    (hend : ∀ d ∈ rest.head?, feed (collecting (c :: cs).reverse) d = feedAfter (some token) d) :
    lexFrom .between (c :: cs ++ rest) = (lexFrom .between rest).map (token :: ·) := by
  have inside : ∀ read,
      lexFrom (collecting read) (cs ++ rest) = lexFrom (collecting (cs.reverse ++ read)) rest := by
    clear hfinish hend
    induction cs with
    | nil => exact fun _ => rfl
    | cons d cs ih =>
      intro read
      obtain ⟨hd, hlater⟩ := List.forall_mem_cons.1 hnext
      rw [List.cons_append, lexFrom_cons_of_silent (hd read), ih hlater, List.reverse_cons,
        List.append_assoc]
      rfl
  have hstart : feed .between c = some ([], collecting [c]) := hfirst
  rw [List.cons_append, lexFrom_cons_of_silent hstart, inside, ← List.reverse_cons]
  exact lexFrom_ended hfinish hend

theorem feedBetween_of_isDigit {c : Char} (h : JsonNumber.isDigit c = true) :
    feedBetween c = some ([], .number [c]) := by
  have hne : ∀ d, JsonNumber.isDigit d = false → c ≠ d := by
    rintro d hd rfl
    rw [hd] at h
    cases h
  have hblank : ¬ (c = ' ' ∨ c = '\n' ∨ c = '\t' ∨ c = '\r') := by
    rintro (rfl | rfl | rfl | rfl) <;> cases h
  rw [feedBetween, if_neg hblank, if_neg (hne _ rfl), if_neg (hne _ rfl),
    if_neg (hne _ rfl), if_neg (hne _ rfl), if_neg (hne _ rfl), if_neg (hne _ rfl),
    if_neg (hne _ rfl), if_pos (.inr h)]

theorem lexFrom_literal {literal : List Char} (h : JsonNumber.isLiteral literal = true)
    {rest : List Char} (hrest : Apart rest) :
    lexFrom .between (literal ++ rest) = (lexFrom .between rest).map (.number literal :: ·) := by
  have htoken : ofNumber? literal = some (.number literal) := if_pos h
  obtain ⟨⟨c, digits, rfl, hc⟩, hall⟩ := JsonNumber.of_isLiteral h
  refine lexFrom_collected .number ?_ (fun d hd read => ?_) ?_ fun d hd => ?_
  · rcases hc with rfl | hdigit
    · rfl
    · exact feedBetween_of_isDigit hdigit
  · rw [feed, if_pos (hall d (List.mem_cons_of_mem _ hd))]
  · rw [finish?, List.reverse_reverse, htoken]
    rfl
  · rw [feed, if_neg (by simp [(hrest d hd).1]), List.reverse_reverse, htoken]

theorem lexFrom_word {c : Char} {letters : List Char} {token : JsonToken}
    (h : ofWord? (c :: letters) = some token) (hfirst : feedBetween c = some ([], .word [c]))
    (hall : ∀ d ∈ letters, 'a' ≤ d ∧ d ≤ 'z') {rest : List Char} (hrest : Apart rest) :
    lexFrom .between (c :: letters ++ rest) = (lexFrom .between rest).map (token :: ·) := by
  refine lexFrom_collected .word hfirst (fun d hd read => ?_) ?_ fun d hd => ?_
  · rw [feed, if_pos (hall d hd)]
  · rw [finish?, List.reverse_reverse, h]
    rfl
  · rw [feed, if_neg (hrest d hd).2, List.reverse_reverse, h]

/-! Values. -/

/-- What follows a value in the pretty form does not go on with it. -/
theorem apart_newLine (depth : Nat) (rest : List Char) :
    Apart (JsonValue.newLine depth ++ rest) :=
  apart_cons (by decide) _

theorem apart_comma (rest : List Char) : Apart (',' :: rest) := apart_cons (by decide) _

theorem lexFrom_printScalar {v : JsonValue} (h : v.isUsable JsonNumber.isLiteral = true)
    {rest : List Char} (hrest : Apart rest) :
    lexFrom .between (v.printScalar ++ rest) =
      (lexFrom .between rest).map (v.scalarToken :: ·) := by
  cases v with
  | null => exact lexFrom_word rfl rfl (by simp) hrest
  | bool b => cases b <;> exact lexFrom_word rfl rfl (by simp) hrest
  | number literal => exact lexFrom_literal h hrest
  | string text =>
    obtain ⟨s, rfl⟩ := Option.isSome_iff_exists.1 h
    exact lexFrom_printString s rest
  | array items => exact lexFrom_word rfl rfl (by simp) hrest
  | object fields => exact lexFrom_word rfl rfl (by simp) hrest

open JsonValue

mutual

/-- **The tokens of a value are those of its pretty form**, whatever comes apart behind it. -/
theorem lexFrom_prettyAt (v : JsonValue) (h : v.isUsable JsonNumber.isLiteral = true)
    (depth : Nat) {rest : List Char} (hrest : Apart rest) :
    lexFrom .between (v.prettyAt depth ++ rest) =
      (lexFrom .between rest).map (v.tokens ++ ·) := by
  -- by recursion on the value, together with its items and fields; a new line stands apart
  -- from what is in front of it
  match v with
  | .null => exact lexFrom_printScalar h hrest
  | .bool _ => exact lexFrom_printScalar h hrest
  | .number _ => exact lexFrom_printScalar h hrest
  | .string _ => exact lexFrom_printScalar h hrest
  | .array [] =>
    show lexFrom .between ('[' :: ']' :: rest) = _
    rw [lexFrom_between_cons rfl, lexFrom_between_cons rfl, Option.map_map]
    rfl
  | .object [] =>
    show lexFrom .between ('\x7b' :: '\x7d' :: rest) = _
    rw [lexFrom_between_cons rfl, lexFrom_between_cons rfl, Option.map_map]
    rfl
  | .array (v :: items) =>
    show lexFrom .between ('[' :: (prettyItems (depth + 1) (v :: items) ++ newLine depth ++ [']'])
      ++ rest) = _
    rw [List.cons_append, List.append_assoc, List.append_assoc, lexFrom_between_cons rfl,
      lexFrom_prettyItems (v :: items) h (depth + 1) (apart_newLine depth _), lexFrom_newLine,
      List.singleton_append, lexFrom_between_cons rfl, Option.map_map, Option.map_map, tokens]
    congr 1
    funext later
    simp
  | .object (field :: fields) =>
    show lexFrom .between ('\x7b' :: (prettyFields (depth + 1) (field :: fields) ++ newLine depth
      ++ ['\x7d']) ++ rest) = _
    rw [List.cons_append, List.append_assoc, List.append_assoc, lexFrom_between_cons rfl,
      lexFrom_prettyFields (field :: fields) h (depth + 1) (apart_newLine depth _),
      lexFrom_newLine, List.singleton_append, lexFrom_between_cons rfl, Option.map_map,
      Option.map_map, tokens]
    congr 1
    funext later
    simp

theorem lexFrom_prettyItems (items : List JsonValue)
    (h : areUsable JsonNumber.isLiteral items = true) (depth : Nat) {rest : List Char}
    (hrest : Apart rest) :
    lexFrom .between (prettyItems depth items ++ rest) =
      (lexFrom .between rest).map (tokensOfItems items ++ ·) := by
  match items with
  | [] => exact Option.map_id'.symm
  | [v] =>
    obtain ⟨hv, -⟩ := Bool.and_eq_true_iff.1 h
    rw [prettyItems, List.append_assoc, lexFrom_newLine, lexFrom_prettyAt v hv depth hrest,
      tokensOfItems]
  | v :: w :: items =>
    obtain ⟨hv, hlater⟩ := Bool.and_eq_true_iff.1 h
    show lexFrom .between (newLine depth ++ v.prettyAt depth ++
      ',' :: prettyItems depth (w :: items) ++ rest) = _
    rw [List.append_assoc, List.append_assoc, lexFrom_newLine, List.cons_append,
      lexFrom_prettyAt v hv depth (apart_comma _), lexFrom_between_cons rfl,
      lexFrom_prettyItems (w :: items) hlater depth hrest, Option.map_map, Option.map_map]
    congr 1
    funext later
    simp [tokensOfItems]

theorem lexFrom_prettyFields (fields : List (Option String × JsonValue))
    (h : fieldsAreUsable JsonNumber.isLiteral fields = true) (depth : Nat) {rest : List Char}
    (hrest : Apart rest) :
    lexFrom .between (prettyFields depth fields ++ rest) =
      (lexFrom .between rest).map (tokensOfFields fields ++ ·) := by
  match fields with
  | [] => exact Option.map_id'.symm
  | [(name, v)] =>
    obtain ⟨hboth, -⟩ := Bool.and_eq_true_iff.1 h
    obtain ⟨hname, hv⟩ := Bool.and_eq_true_iff.1 hboth
    obtain ⟨s, rfl⟩ := Option.isSome_iff_exists.1 hname
    rw [prettyFields, List.append_assoc, List.append_assoc, List.append_assoc, lexFrom_newLine,
      Option.getD_some, lexFrom_printString, List.cons_append, lexFrom_between_cons rfl,
      List.cons_append, lexFrom_cons_of_silent rfl, List.nil_append,
      lexFrom_prettyAt v hv depth hrest, Option.map_map, Option.map_map]
    rfl
  | (name, v) :: other :: fields =>
    obtain ⟨hboth, hlater⟩ := Bool.and_eq_true_iff.1 h
    obtain ⟨hname, hv⟩ := Bool.and_eq_true_iff.1 hboth
    obtain ⟨s, rfl⟩ := Option.isSome_iff_exists.1 hname
    show lexFrom .between (newLine depth ++ printString s ++ [':', ' '] ++ v.prettyAt depth ++
      ',' :: prettyFields depth (other :: fields) ++ rest) = _
    rw [List.append_assoc, List.append_assoc, List.append_assoc, List.append_assoc,
      lexFrom_newLine, lexFrom_printString, List.cons_append, lexFrom_between_cons rfl,
      List.cons_append, lexFrom_cons_of_silent rfl, List.nil_append, List.cons_append,
      lexFrom_prettyAt v hv depth (apart_comma _), lexFrom_between_cons rfl,
      lexFrom_prettyFields (other :: fields) hlater depth hrest, Option.map_map, Option.map_map,
      Option.map_map, Option.map_map]
    congr 1
    funext later
    simp [tokensOfFields]

end

theorem lex_pretty {v : JsonValue} (h : v.isUsable JsonNumber.isLiteral = true) :
    lex v.pretty.toList = some v.tokens := by
  have hend : Apart [] := nofun
  rw [lex, pretty, String.toList_ofList, ← List.append_nil (v.prettyAt 0),
    lexFrom_prettyAt v h 0 hend]
  exact congrArg some (List.append_nil _)

end JsonToken

/-! The parser. -/

namespace JsonParser

open JsonValue

def Expected.IsValue (e : Expected) : Prop := e = .value ∨ e = .itemOrEnd

def Expected.IsName (e : Expected) : Prop := e = .name ∨ e = .nameOrEnd

theorem step?_of_isValue {s : State} (hs : s.expected.IsValue) {token : JsonToken}
    (htoken : token ≠ .closeArray) : s.step? token = s.begin? token := by
  unfold State.step?
  rcases hs with hs | hs <;> rw [hs]
  exact if_neg htoken

theorem step?_of_isName {s : State} (hs : s.expected.IsName) {token : JsonToken}
    (htoken : token ≠ .closeObject) : s.step? token = s.name? token := by
  unfold State.step?
  rcases hs with hs | hs <;> rw [hs]
  exact if_neg htoken

/-- What completing a value does depends on the frames and not on what was expected. -/
theorem complete_expected (frames : List Frame) (e e' : Expected) (result : Option JsonValue)
    (v : JsonValue) :
    State.complete ⟨frames, e, result⟩ v = State.complete ⟨frames, e', result⟩ v := by
  match frames with
  | [] => rfl
  | .array _ :: _ => rfl
  | .object _ _ :: _ => rfl

theorem foldlM_cons_of_step? {s s' : State} {token : JsonToken} (h : s.step? token = some s')
    (tokens : List JsonToken) :
    (token :: tokens).foldlM State.step? s = tokens.foldlM State.step? s' := by
  rw [List.foldlM_cons, h]
  rfl

theorem foldlM_append_of_eq_some {s s' : State} {before : List JsonToken}
    (h : before.foldlM State.step? s = some s') (tokens : List JsonToken) :
    (before ++ tokens).foldlM State.step? s = tokens.foldlM State.step? s' := by
  rw [List.foldlM_append, h]
  rfl

theorem foldlM_token {s : State} (hs : s.expected.IsValue) {token : JsonToken} {v : JsonValue}
    (htoken : token ≠ .closeArray) (hbegin : s.begin? token = some (s.complete v)) :
    [token].foldlM State.step? s = some (s.complete v) := by
  rw [foldlM_cons_of_step? ((step?_of_isValue hs htoken).trans hbegin)]
  rfl

mutual

/-- **The tokens of a value make that value**, wherever one may begin. -/
theorem foldlM_tokens (v : JsonValue) {s : State} (hs : s.expected.IsValue) :
    v.tokens.foldlM State.step? s = some (s.complete v) := by
  -- by recursion on the value, together with its items and fields
  match v with
  | .null => exact foldlM_token hs nofun rfl
  | .bool _ => exact foldlM_token hs nofun rfl
  | .number _ => exact foldlM_token hs nofun rfl
  | .string _ => exact foldlM_token hs nofun rfl
  | .array items =>
    have hopen : s.step? .openArray = some ⟨.array [] :: s.frames, .itemOrEnd, s.result⟩ :=
      step?_of_isValue hs nofun
    rw [tokens, List.cons_append, foldlM_cons_of_step? hopen]
    match items with
    | [] =>
      show [JsonToken.closeArray].foldlM State.step? ⟨.array [] :: s.frames, _, _⟩ = _
      rw [foldlM_cons_of_step? rfl]
      exact congrArg some (complete_expected s.frames _ _ _ _)
    | w :: items =>
      rw [foldlM_append_of_eq_some
          (foldlM_tokensOfItems (w :: items) nofun [] s.frames (.inr rfl) s.result),
        List.append_nil, foldlM_cons_of_step? rfl, List.reverse_reverse]
      exact congrArg some (complete_expected s.frames _ _ _ _)
  | .object fields =>
    have hopen : s.step? .openObject = some ⟨.object [] none :: s.frames, .nameOrEnd, s.result⟩ :=
      step?_of_isValue hs nofun
    rw [tokens, List.cons_append, foldlM_cons_of_step? hopen]
    match fields with
    | [] =>
      show [JsonToken.closeObject].foldlM State.step? ⟨.object [] none :: s.frames, _, _⟩ = _
      rw [foldlM_cons_of_step? rfl]
      exact congrArg some (complete_expected s.frames _ _ _ _)
    | field :: fields =>
      rw [foldlM_append_of_eq_some
          (foldlM_tokensOfFields (field :: fields) nofun [] none s.frames (.inr rfl) s.result),
        List.append_nil, foldlM_cons_of_step? rfl, List.reverse_reverse]
      exact congrArg some (complete_expected s.frames _ _ _ _)

theorem foldlM_tokensOfItems (items : List JsonValue) (hitems : items ≠ [])
    (before : List JsonValue) (frames : List Frame) {e : Expected} (he : e.IsValue)
    (result : Option JsonValue) :
    (tokensOfItems items).foldlM State.step? ⟨.array before :: frames, e, result⟩ =
      some ⟨.array (items.reverse ++ before) :: frames, .commaOrEnd, result⟩ := by
  match items with
  | [] => exact absurd rfl hitems
  | [v] =>
    rw [tokensOfItems, foldlM_tokens v he]
    rfl
  | v :: w :: items =>
    have hvalue : v.tokens.foldlM State.step? ⟨.array before :: frames, e, result⟩ =
        some ⟨.array (v :: before) :: frames, .commaOrEnd, result⟩ :=
      foldlM_tokens v he
    show (v.tokens ++ .comma :: tokensOfItems (w :: items)).foldlM State.step? _ = _
    rw [foldlM_append_of_eq_some hvalue, foldlM_cons_of_step? rfl,
      foldlM_tokensOfItems (w :: items) nofun (v :: before) frames (.inl rfl) result]
    simp only [List.reverse_cons, List.append_assoc, List.cons_append, List.nil_append]

theorem foldlM_tokensOfField (name : Option String) (v : JsonValue)
    (before : List (Option String × JsonValue)) (last : Option String) (frames : List Frame)
    {e : Expected} (he : e.IsName) (result : Option JsonValue) :
    (.string name :: .colon :: v.tokens).foldlM State.step?
        ⟨.object before last :: frames, e, result⟩ =
      some ⟨.object ((name, v) :: before) none :: frames, .commaOrEnd, result⟩ := by
  have hname : State.step? ⟨.object before last :: frames, e, result⟩ (.string name) =
      some ⟨.object before name :: frames, .colon, result⟩ :=
    step?_of_isName he nofun
  rw [foldlM_cons_of_step? hname, foldlM_cons_of_step? rfl, foldlM_tokens v (.inl rfl)]
  rfl

theorem foldlM_tokensOfFields (fields : List (Option String × JsonValue)) (hfields : fields ≠ [])
    (before : List (Option String × JsonValue)) (last : Option String) (frames : List Frame)
    {e : Expected} (he : e.IsName) (result : Option JsonValue) :
    (tokensOfFields fields).foldlM State.step? ⟨.object before last :: frames, e, result⟩ =
      some ⟨.object (fields.reverse ++ before) none :: frames, .commaOrEnd, result⟩ := by
  match fields with
  | [] => exact absurd rfl hfields
  | [(name, v)] =>
    rw [tokensOfFields, foldlM_tokensOfField name v before last frames he result]
    rfl
  | (name, v) :: other :: fields =>
    show ((.string name :: .colon :: v.tokens) ++ .comma :: tokensOfFields (other :: fields)
      ).foldlM State.step? _ = _
    rw [foldlM_append_of_eq_some (foldlM_tokensOfField name v before last frames he result),
      foldlM_cons_of_step? rfl,
      foldlM_tokensOfFields (other :: fields) nofun ((name, v) :: before) none frames (.inl rfl)
        result]
    simp only [List.reverse_cons, List.append_assoc, List.cons_append, List.nil_append]

end

theorem ofTokens?_tokens (v : JsonValue) : ofTokens? v.tokens = some v := by
  rw [ofTokens?, foldlM_tokens v (.inl rfl)]
  rfl

end JsonParser

/-- **A value is read back from its pretty form.** -/
theorem JsonValue.parse?_pretty {v : JsonValue} (h : v.isUsable JsonNumber.isLiteral = true) :
    parse? v.pretty = some v := by
  rw [parse?, JsonToken.lex_pretty h]
  exact JsonParser.ofTokens?_tokens v

end ScriptHost
