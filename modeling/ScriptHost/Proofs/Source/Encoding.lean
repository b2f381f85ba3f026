import ScriptHost.Proofs.Text.Utf16
import ScriptHost.Source.Encoding

/- Source files written and read back. Each encoding has a writer, and decoding is
   the inverse of writing: a file gives a text in an encoding exactly if that
   encoding is the one its bytes announce and the text written in it is the file.

   What is proved:
     1. `decode_eq_some_iff` — the inverse, for every file, text and encoding.
     2. `decode_lossless` — what it says of files, of texts and of refusals.
   A text that begins with U+FEFF is the one that plain UTF-8 cannot carry: its
   first bytes are the byte order mark, and are taken as such. -/
namespace ScriptHost

namespace Text

/-! The first byte of a text, and texts that begin with a given character. -/

theorem ofUtf8?_eq_some_iff {bytes : List UInt8} {s : String} :
    ofUtf8? bytes = some s ↔ utf8 s = bytes := by
  constructor
  · exact utf8_of_ofUtf8?
  · rintro rfl
    exact ofUtf8?_utf8 s

theorem utf8_ofList_cons (c : Char) (cs : List Char) :
    utf8 (String.ofList (c :: cs)) = String.utf8EncodeChar c ++ utf8 (String.ofList cs) := by
  simp [utf8, List.utf8Encode]

/-- The first byte of a character is below those of the 16-bit marks. -/
theorem utf8EncodeChar_eq_cons (c : Char) :
    ∃ b rest, String.utf8EncodeChar c = b :: rest ∧ b.toNat < 0xFE := by
  have hbyte : ∀ n, n < 0xFE → (UInt8.ofNat n).toNat < 0xFE := by
    intro n hn
    rw [uint8_toNat_ofNat (by omega)]
    exact hn
  unfold String.utf8EncodeChar
  dsimp only
  split
  · exact ⟨_, _, rfl, hbyte _ (by omega)⟩
  split
  · exact ⟨_, _, rfl, hbyte _ (by omega)⟩
  split
  · exact ⟨_, _, rfl, hbyte _ (by omega)⟩
  · exact ⟨_, _, rfl, hbyte _ (by omega)⟩

theorem utf8_ne_cons {b : UInt8} (hb : 0xFE ≤ b.toNat) (s : String) (rest : List UInt8) :
    utf8 s ≠ b :: rest := by
  rw [← String.ofList_toList (s := s)]
  intro h
  cases hcs : s.toList with
  | nil => simp [utf8, hcs] at h
  | cons c cs =>
    obtain ⟨first, others, hc, hfirst⟩ := utf8EncodeChar_eq_cons c
    rw [hcs, utf8_ofList_cons, hc] at h
    obtain ⟨rfl, -⟩ := List.cons.inj h
    omega

theorem exists_utf8_of_append {s : String} {c : Char} {body : List UInt8}
    (h : utf8 s = String.utf8EncodeChar c ++ body) :
    ∃ later, utf8 later = body := by
  have hbytes : s.toByteArray = [c].utf8Encode ++ body.toByteArray := by
    apply ByteArray.ext
    apply Array.toList_inj.1
    simpa [utf8, List.utf8Encode_singleton] using h
  have hvalid : ByteArray.IsValidUTF8 body.toByteArray := by
    rw [← ByteArray.isValidUTF8_utf8Encode_singleton_append_iff (c := c), ← hbytes]
    exact s.isValidUTF8
  exact ⟨⟨body.toByteArray, hvalid⟩, by simp [utf8]⟩

theorem utf8_eq_encodeChar_append_iff {s : String} {c : Char} {body : List UInt8} :
    utf8 s = String.utf8EncodeChar c ++ body ↔
      ∃ cs, s = String.ofList (c :: cs) ∧ utf8 (String.ofList cs) = body := by
  constructor
  · intro h
    obtain ⟨later, rfl⟩ := exists_utf8_of_append h
    refine ⟨later.toList, ?_, by rw [String.ofList_toList]⟩
    apply Option.some.inj
    rw [← ofUtf8?_utf8 s, h, ← ofUtf8?_utf8 (String.ofList (c :: later.toList)),
      utf8_ofList_cons, String.ofList_toList]
  · rintro ⟨cs, rfl, rfl⟩
    exact utf8_ofList_cons c cs

end Text

namespace Encoding

/-- The encodings that a mark announces. -/
def marked : List Encoding := [utf8Bom, utf16Le, utf16Be]

/-- The byte of a character of Latin-1. -/
def latin1Byte? (c : Char) : Option UInt8 :=
  if c.toNat < 256 then some (UInt8.ofNat c.toNat) else none

/-- The UTF-16 bytes of a text. -/
def utf16Bytes (order : Text.ByteOrder) (text : String) : List UInt8 :=
  (text.toList.flatMap Text.utf16).flatMap order.bytes

/-- The bytes of a text after the mark, if the encoding has all its characters. -/
def encodeBody? (e : Encoding) (text : String) : Option (List UInt8) :=
  match e with
  | utf8 => some (Text.utf8 text)
  | utf8Bom => some (Text.utf8 text)
  | utf16Le => some (utf16Bytes .little text)
  | utf16Be => some (utf16Bytes .big text)
  | latin1 => text.toList.mapM latin1Byte?

/-- The file of a text in an encoding, if the encoding has all its characters. -/
def encode? (e : Encoding) (text : String) : Option (List UInt8) :=
  (e.encodeBody? text).map (e.mark ++ ·)

/-- Bytes with one left over, or with a lone surrogate among their units. -/
def IllFormedUtf16 (order : Text.ByteOrder) (body : List UInt8) : Prop :=
  body.length % 2 = 1 ∨ ∃ units, units.flatMap order.bytes = body ∧ Text.LoneSurrogate units

/-- Bytes that are no text in an encoding. -/
def IllFormed (e : Encoding) (body : List UInt8) : Prop :=
  match e with
  | utf8 => ¬∃ text, Text.utf8 text = body
  | utf8Bom => ¬∃ text, Text.utf8 text = body
  | utf16Le => IllFormedUtf16 .little body
  | utf16Be => IllFormedUtf16 .big body
  | latin1 => False

/-! Latin-1. -/

theorem latin1Byte?_eq_some_iff {c : Char} {b : UInt8} :
    latin1Byte? c = some b ↔ Char.ofNat b.toNat = c := by
  rw [latin1Byte?]
  constructor
  · intro h
    split at h
    · rename_i hc
      cases h
      rw [Text.uint8_toNat_ofNat hc, Char.ofNat_toNat]
    · cases h
  · rintro rfl
    have hb : b.toNat < 256 := b.toNat_lt
    have hc := Text.toNat_ofNat_of_charRange (show b.toNat < 0xD800 ∨ _ by omega)
    rw [hc, if_pos hb, UInt8.ofNat_toNat]

theorem mapM_latin1Byte?_eq_some_iff {cs : List Char} {body : List UInt8} :
    cs.mapM latin1Byte? = some body ↔ (body.map fun b => Char.ofNat b.toNat) = cs := by
  induction cs generalizing body with
  | nil =>
    cases body with
    | nil => exact iff_of_true rfl rfl
    | cons b body => simp
  | cons c cs ih =>
    cases body with
    | nil => simp [Option.bind_eq_some_iff]
    | cons b body =>
      rw [List.map_cons, List.cons.injEq, ← ih, ← latin1Byte?_eq_some_iff]
      simp [Option.bind_eq_some_iff]

/-! Bodies. -/

theorem decodeUtf16_eq_some_iff {order : Text.ByteOrder} {body : List UInt8} {text : String} :
    ((order.units? body).bind (Text.ofUtf16? ·)).map String.ofList = some text ↔
      utf16Bytes order text = body := by
  constructor
  · intro h
    obtain ⟨cs, hcs, rfl⟩ := Option.map_eq_some_iff.1 h
    obtain ⟨units, hunits, hcs⟩ := Option.bind_eq_some_iff.1 hcs
    rw [utf16Bytes, String.toList_ofList, Text.ofUtf16?_eq_some_iff.1 hcs,
      Text.ByteOrder.units?_eq_some_iff.1 hunits]
  · intro h
    rw [Text.ByteOrder.units?_eq_some_iff.2 h, Option.bind_some, Text.ofUtf16?_flatMap_utf16,
      Option.map_some, String.ofList_toList]

theorem decodeUtf16_eq_none_iff {order : Text.ByteOrder} {body : List UInt8} :
    ((order.units? body).bind (Text.ofUtf16? ·)).map String.ofList = none ↔
      IllFormedUtf16 order body := by
  rw [Option.map_eq_none_iff, IllFormedUtf16, ← Text.ByteOrder.units?_eq_none_iff]
  constructor
  · intro h
    cases hunits : order.units? body with
    | none => exact .inl rfl
    | some units =>
      rw [hunits, Option.bind_some, Text.ofUtf16?_eq_none_iff] at h
      exact .inr ⟨units, Text.ByteOrder.units?_eq_some_iff.1 hunits, h⟩
  · rintro (h | ⟨units, hunits, hlone⟩)
    · rw [h, Option.bind_none]
    · rw [Text.ByteOrder.units?_eq_some_iff.2 hunits, Option.bind_some,
        Text.ofUtf16?_eq_none_iff]
      exact hlone

theorem decodeBody_eq_some_iff {e : Encoding} {body : List UInt8} {text : String} :
    e.decodeBody body = some text ↔ e.encodeBody? text = some body := by
  cases e with
  | utf8 => exact Text.ofUtf8?_eq_some_iff.trans Option.some_inj.symm
  | utf8Bom => exact Text.ofUtf8?_eq_some_iff.trans Option.some_inj.symm
  | utf16Le => exact decodeUtf16_eq_some_iff.trans Option.some_inj.symm
  | utf16Be => exact decodeUtf16_eq_some_iff.trans Option.some_inj.symm
  | latin1 =>
    rw [decodeBody, encodeBody?, mapM_latin1Byte?_eq_some_iff, Option.some_inj]
    constructor
    · rintro rfl
      rw [String.toList_ofList]
    · intro h
      rw [h, String.ofList_toList]

theorem ofUtf8?_eq_none_iff {body : List UInt8} :
    Text.ofUtf8? body = none ↔ ¬∃ text, Text.utf8 text = body := by
  rw [Option.eq_none_iff_forall_ne_some, not_exists]
  exact forall_congr' fun text => not_congr Text.ofUtf8?_eq_some_iff

theorem decodeBody_eq_none_iff {e : Encoding} {body : List UInt8} :
    e.decodeBody body = none ↔ e.IllFormed body := by
  cases e with
  | utf8 => exact ofUtf8?_eq_none_iff
  | utf8Bom => exact ofUtf8?_eq_none_iff
  | utf16Le => exact decodeUtf16_eq_none_iff
  | utf16Be => exact decodeUtf16_eq_none_iff
  | latin1 => simp [decodeBody, IllFormed]

/-! Marks. -/

theorem begins_with_mark (raw : List UInt8) : (detect raw).mark <+: raw := by
  unfold detect
  split
  · exact List.isPrefixOf_iff_prefix.1 ‹_›
  split
  · exact List.isPrefixOf_iff_prefix.1 ‹_›
  split
  · exact List.isPrefixOf_iff_prefix.1 ‹_›
  split
  · exact List.nil_prefix
  · exact List.nil_prefix

theorem mark_append_drop (raw : List UInt8) :
    (detect raw).mark ++ raw.drop (detect raw).mark.length = raw :=
  List.prefix_iff_eq_append.1 (begins_with_mark raw)

theorem detect_mark_append {e : Encoding} (he : e ∈ marked) (body : List UInt8) :
    detect (e.mark ++ body) = e := by
  simp only [marked, List.mem_cons, List.not_mem_nil, or_false] at he
  rcases he with rfl | rfl | rfl
  · simp [detect, mark]
  · simp [detect, mark]
  · simp [detect, mark]

theorem exists_utf8_of_detect {raw : List UInt8} (h : detect raw = utf8) :
    ∃ text, Text.utf8 text = raw := by
  unfold detect at h
  split at h
  · cases h
  split at h
  · cases h
  split at h
  · cases h
  split at h
  · rename_i hsome
    obtain ⟨text, htext⟩ := Option.isSome_iff_exists.1 hsome
    exact ⟨text, Text.utf8_of_ofUtf8? htext⟩
  · cases h

theorem mark_utf8Bom : utf8Bom.mark = String.utf8EncodeChar '\uFEFF' := by decide

/-- The bytes of a text are taken as plain UTF-8 unless its first character is the mark. -/
theorem detect_utf8_eq_utf8_iff (text : String) :
    detect (Text.utf8 text) = utf8 ↔ text.toList.head? ≠ some '\uFEFF' := by
  constructor
  · intro h hfirst
    obtain ⟨cs, hcs⟩ := List.head?_eq_some_iff.1 hfirst
    rw [← String.ofList_toList (s := text), hcs, Text.utf8_ofList_cons, ← mark_utf8Bom,
      detect_mark_append (by decide)] at h
    cases h
  · -- the mark of UTF-8 is a character, and those of UTF-16 begin with no first byte of one
    intro hfirst
    have hbom : ¬utf8Bom.mark.isPrefixOf (Text.utf8 text) = true := by
      rw [List.isPrefixOf_iff_prefix, mark_utf8Bom]
      rintro ⟨body, hbody⟩
      obtain ⟨cs, rfl, -⟩ := Text.utf8_eq_encodeChar_append_iff.1 hbody.symm
      exact hfirst (by rw [String.toList_ofList]; rfl)
    have hle : ¬utf16Le.mark.isPrefixOf (Text.utf8 text) = true := by
      rw [List.isPrefixOf_iff_prefix]
      rintro ⟨body, hbody⟩
      exact Text.utf8_ne_cons (by decide) text _ hbody.symm
    have hbe : ¬utf16Be.mark.isPrefixOf (Text.utf8 text) = true := by
      rw [List.isPrefixOf_iff_prefix]
      rintro ⟨body, hbody⟩
      exact Text.utf8_ne_cons (by decide) text _ hbody.symm
    rw [detect, if_neg hbom, if_neg hle, if_neg hbe, Text.ofUtf8?_utf8]
    rfl

/-! Files. -/

/-- A file gives a text in an encoding exactly if its bytes announce the encoding and
    are the text written in it. -/
theorem decode_eq_some_iff {raw : List UInt8} {text : String} {e : Encoding} :
    decode raw = some (text, e) ↔ detect raw = e ∧ e.encode? text = some raw := by
  constructor
  · intro h
    obtain ⟨text', hbody, heq⟩ := Option.map_eq_some_iff.1 h
    obtain ⟨rfl, rfl⟩ := Prod.mk.inj heq
    refine ⟨rfl, ?_⟩
    rw [encode?, decodeBody_eq_some_iff.1 hbody, Option.map_some, mark_append_drop]
  · rintro ⟨rfl, h⟩
    obtain ⟨body, hbody, hraw⟩ := Option.map_eq_some_iff.1 h
    have hdrop : raw.drop (detect raw).mark.length = body :=
      List.append_cancel_left ((mark_append_drop raw).trans hraw.symm)
    rw [decode, hdrop, decodeBody_eq_some_iff.2 hbody]
    rfl

/-- A file is refused exactly if a mark announces an encoding that the rest does not keep to. -/
theorem decode_eq_none_iff {raw : List UInt8} :
    decode raw = none ↔ ∃ e ∈ marked, ∃ body, raw = e.mark ++ body ∧ e.IllFormed body := by
  constructor
  · intro h
    have hbody := decodeBody_eq_none_iff.1 (Option.map_eq_none_iff.1 h)
    refine ⟨detect raw, ?_, _, (mark_append_drop raw).symm, hbody⟩
    cases he : detect raw with
    | utf8 =>
      rw [he] at hbody
      exact (hbody (exists_utf8_of_detect he)).elim
    | utf8Bom => decide
    | utf16Le => decide
    | utf16Be => decide
    | latin1 =>
      rw [he] at hbody
      exact hbody.elim
  · rintro ⟨e, he, body, rfl, hbody⟩
    rw [decode, detect_mark_append he, List.drop_left, decodeBody_eq_none_iff.2 hbody]
    rfl

/-- Decoding loses nothing. A file that gives a text is that text written in the encoding
    found. A text written in an encoding with a mark is found again, and so is one written
    in plain UTF-8 unless it begins with the mark. Only a file whose mark announces an
    encoding that the rest does not keep to gives no text. -/
theorem decode_lossless (raw : List UInt8) (text : String) :
    (∀ e, decode raw = some (text, e) → e.encode? text = some raw) ∧
      (∀ e ∈ marked, ∃ file, e.encode? text = some file ∧ decode file = some (text, e)) ∧
      (decode (Text.utf8 text) = some (text, utf8) ↔ text.toList.head? ≠ some '\uFEFF') ∧
      (decode raw = none ↔ ∃ e ∈ marked, ∃ body, raw = e.mark ++ body ∧ e.IllFormed body) := by
  refine ⟨fun e h => (decode_eq_some_iff.1 h).2, fun e he => ?_, ?_, decode_eq_none_iff⟩
  · have hbody : ∃ body, e.encodeBody? text = some body := by
      simp only [marked, List.mem_cons, List.not_mem_nil, or_false] at he
      rcases he with rfl | rfl | rfl
      · exact ⟨_, rfl⟩
      · exact ⟨_, rfl⟩
      · exact ⟨_, rfl⟩
    obtain ⟨body, hbody⟩ := hbody
    have hfile : e.encode? text = some (e.mark ++ body) := by
      rw [encode?, hbody, Option.map_some]
    exact ⟨_, hfile, decode_eq_some_iff.2 ⟨detect_mark_append he body, hfile⟩⟩
  · rw [decode_eq_some_iff, detect_utf8_eq_utf8_iff]
    exact and_iff_left rfl

/-- A first half of a pair with nothing after it. -/
example : decode (utf16Le.mark ++ [0x3D, 0xD8]) = none := by decide

/-- The mark in front of a text in plain UTF-8 is taken as a mark. -/
example : decode (Text.utf8 "\uFEFFa") = some ("a", utf8Bom) := by decide +kernel

end Encoding
end ScriptHost
