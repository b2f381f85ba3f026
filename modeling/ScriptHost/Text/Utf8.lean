/- UTF-8: the bytes of a text, the text of well-formed bytes, and the display of
   bytes that may be ill-formed. For display, every longest run of bytes that
   begins some well-formed sequence without finishing it, and every byte that
   begins none, is shown as one replacement character (U+FFFD). -/
namespace ScriptHost.Text

def utf8 (s : String) : List UInt8 :=
  s.toByteArray.data.toList

/-- The text whose UTF-8 bytes these are, if they are well-formed. -/
def ofUtf8? (bytes : List UInt8) : Option String :=
  String.fromUTF8? ⟨bytes.toArray⟩

/-- The number of UTF-8 bytes of a list of characters. -/
def utf8Length : List Char → Nat
  | [] => 0
  | c :: rest => c.utf8Size + utf8Length rest

theorem utf8Length_append (as bs : List Char) :
    utf8Length (as ++ bs) = utf8Length as + utf8Length bs := by
  induction as with
  | nil => simp [utf8Length]
  | cons c rest ih =>
    simp only [List.cons_append, utf8Length, ih]
    omega

theorem ofUtf8?_utf8 (s : String) : ofUtf8? (utf8 s) = some s := by
  have h : (⟨(utf8 s).toArray⟩ : ByteArray) = s.toByteArray := by simp [utf8]
  rw [ofUtf8?, h, String.fromUTF8?, dif_pos s.isValidUTF8]
  rfl

theorem utf8_of_ofUtf8? {bytes : List UInt8} {s : String} (h : ofUtf8? bytes = some s) :
    utf8 s = bytes := by
  unfold ofUtf8? String.fromUTF8? at h
  split at h
  · cases h; rfl
  · cases h

/-- What a leading byte announces: how many bytes follow it, the range of the
    first of them, and the payload of the leading byte itself. -/
structure Lead where
  following : Nat
  least : UInt8
  greatest : UInt8
  payload : Nat

/-- The announcement of a leading byte; a byte that begins no character announces nothing. -/
def lead? (b : UInt8) : Option Lead :=
  if b < 0x80 then some ⟨0, 0x80, 0xBF, b.toNat⟩
  else if b < 0xC2 then none
  else if b < 0xE0 then some ⟨1, 0x80, 0xBF, b.toNat - 0xC0⟩
  else if b = 0xE0 then some ⟨2, 0xA0, 0xBF, 0⟩
  else if b = 0xED then some ⟨2, 0x80, 0x9F, 0xD⟩
  else if b < 0xF0 then some ⟨2, 0x80, 0xBF, b.toNat - 0xE0⟩
  else if b = 0xF0 then some ⟨3, 0x90, 0xBF, 0⟩
  else if b < 0xF4 then some ⟨3, 0x80, 0xBF, b.toNat - 0xF0⟩
  else if b = 0xF4 then some ⟨3, 0x80, 0x8F, 4⟩
  else none

/-- Reads the bytes after a leading byte while they fit, adding their payloads to
    `value`: the code point if the sequence is complete, and the bytes not read. -/
def follow : Nat → UInt8 → UInt8 → Nat → List UInt8 → Option Nat × List UInt8
  | 0, _, _, value, rest => (some value, rest)
  | _ + 1, _, _, _, [] => (none, [])
  | n + 1, least, greatest, value, b :: rest =>
    if least ≤ b ∧ b ≤ greatest then follow n 0x80 0xBF (value * 64 + (b.toNat - 0x80)) rest
    else (none, b :: rest)

theorem follow_length_le (n : Nat) (least greatest : UInt8) (value : Nat) (bytes : List UInt8) :
    (follow n least greatest value bytes).2.length ≤ bytes.length := by
  fun_induction follow n least greatest value bytes with
  | case1 => exact Nat.le_refl _
  | case2 => exact Nat.le_refl _
  | case3 n least greatest value b rest _ ih =>
    simp only [List.length_cons]
    omega
  | case4 => exact Nat.le_refl _

/-- The first character shown for bytes that begin with `b`, and the bytes it leaves. -/
def showFirst (b : UInt8) (rest : List UInt8) : Char × List UInt8 :=
  match lead? b with
  | none => ('\uFFFD', rest)
  | some l =>
    match follow l.following l.least l.greatest l.payload rest with
    | (some value, left) => (Char.ofNat value, left)
    | (none, left) => ('\uFFFD', left)

theorem showFirst_length_le (b : UInt8) (rest : List UInt8) :
    (showFirst b rest).2.length ≤ rest.length := by
  unfold showFirst
  split
  · exact Nat.le_refl _
  · rename_i l _
    have h := follow_length_le l.following l.least l.greatest l.payload rest
    split <;> simp_all

/-- The characters shown for bytes taken as UTF-8. -/
def showBytes : List UInt8 → List Char
  | [] => []
  | b :: rest => (showFirst b rest).1 :: showBytes (showFirst b rest).2
termination_by bytes => bytes.length
decreasing_by
  have h := showFirst_length_le b rest
  simp only [List.length_cons]
  omega

def display (bytes : List UInt8) : String :=
  match ofUtf8? bytes with
  | some s => s
  | none => String.ofList (showBytes bytes)

end ScriptHost.Text
