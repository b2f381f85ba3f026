import ScriptHost.Text.Utf8

/- Fields of the byte code: 32-bit words, least significant byte first, and
   texts as a word that counts their UTF-8 bytes followed by those bytes. A
   reader takes its field off the front and returns the bytes after it. -/
namespace ScriptHost.Bytecode

def wordBytes (w : UInt32) : List UInt8 :=
  [UInt8.ofNat w.toNat, UInt8.ofNat (w.toNat / 0x100), UInt8.ofNat (w.toNat / 0x10000),
    UInt8.ofNat (w.toNat / 0x1000000)]

def wordOf (a b c d : UInt8) : UInt32 :=
  UInt32.ofNat (a.toNat + 0x100 * b.toNat + 0x10000 * c.toNat + 0x1000000 * d.toNat)

def readWord : List UInt8 → Option (UInt32 × List UInt8)
  | a :: b :: c :: d :: rest => some (wordOf a b c d, rest)
  | _ => none

/-- The first `n` bytes and the rest, when there are that many. -/
def take? (n : Nat) (bytes : List UInt8) : Option (List UInt8 × List UInt8) :=
  if n ≤ bytes.length then some (bytes.take n, bytes.drop n) else none

/-- A text off the front: its length, then that many bytes, which must be UTF-8. -/
def readText (bytes : List UInt8) : Option (String × List UInt8) :=
  match readWord bytes with
  | none => none
  | some (length, rest) =>
    match take? length.toNat rest with
    | none => none
    | some (front, rest') => (Text.ofUtf8? front).map (·, rest')

/-- A text with its length in front. The length is stored modulo 2^32. -/
def textBytes (s : String) : List UInt8 :=
  wordBytes (UInt32.ofNat (Text.utf8 s).length) ++ Text.utf8 s

@[simp] theorem readWord_wordBytes (w : UInt32) (rest : List UInt8) :
    readWord (wordBytes w ++ rest) = some (w, rest) := by
  simp only [wordBytes, List.cons_append, List.nil_append, readWord, Option.some.injEq,
    Prod.mk.injEq, and_true]
  apply UInt32.toNat.inj
  have h := w.toNat_lt
  simp only [wordOf, UInt32.toNat_ofNat', UInt8.toNat_ofNat']
  omega

theorem eq_of_readWord {bytes rest : List UInt8} {w : UInt32}
    (h : readWord bytes = some (w, rest)) : bytes = wordBytes w ++ rest := by
  unfold readWord at h
  split at h
  · rename_i a b c d rest'
    obtain ⟨rfl, rfl⟩ := Prod.mk.inj (Option.some.inj h)
    have ha := a.toNat_lt
    have hb := b.toNat_lt
    have hc := c.toNat_lt
    have hd := d.toNat_lt
    simp only [wordBytes, wordOf, List.cons_append, List.nil_append, List.cons.injEq, and_true]
    refine ⟨?_, ?_, ?_, ?_⟩ <;> apply UInt8.toNat.inj <;>
      simp only [UInt32.toNat_ofNat', UInt8.toNat_ofNat'] <;> omega
  · cases h

theorem take?_append {front rest : List UInt8} {n : Nat} (h : front.length = n) :
    take? n (front ++ rest) = some (front, rest) := by
  subst h
  simp [take?]

theorem eq_of_take? {n : Nat} {bytes front rest : List UInt8}
    (h : take? n bytes = some (front, rest)) : bytes = front ++ rest ∧ front.length = n := by
  unfold take? at h
  split at h
  · cases h; simp_all
  · cases h

end ScriptHost.Bytecode
