namespace BearerTrust

-- A power of natural numbers is the built-in one, whatever else a module imports.
attribute [default_instance 20000, instance (high)] instPowNat

/-- Octets in the order in which they are sent. -/
abbrev Bytes := List UInt8

namespace Text

def utf8 (s : String) : Bytes := s.toByteArray.data.toList

def ofUtf8? (bs : Bytes) : Option String := String.fromUTF8? ⟨bs.toArray⟩

theorem ofUtf8?_utf8 (s : String) : ofUtf8? (utf8 s) = some s := by
  have h : (⟨(utf8 s).toArray⟩ : ByteArray) = s.toByteArray := by simp [utf8]
  unfold ofUtf8?
  rw [h]
  simp [String.fromUTF8?, s.isValidUTF8, String.fromUTF8]

theorem utf8_injective {s t : String} (h : utf8 s = utf8 t) : s = t := by
  have := congrArg ofUtf8? h
  simpa [ofUtf8?_utf8] using this

def charOffsets (before : Nat) : List Char → List (Nat × Char)
  | [] => []
  | c :: cs => (before, c) :: charOffsets (before + c.utf8Size) cs

/-- The text in the first octets of a text, unless there are fewer or they end within a character. -/
def firstOctets? (count : Nat) (s : String) : Option String :=
  if count ≤ (utf8 s).length then ofUtf8? ((utf8 s).take count) else none

/-- What is still expected of a sequence of several octets: how many, the range of the next one,
and the bits read so far. -/
structure Pending where
  missing : Nat
  least : UInt8
  most : UInt8
  bits : Nat

/-- The expectation after the first octet of a longer sequence. The second octet's range is narrower
where the full one would admit overlong forms, surrogates or values past the last code point. -/
def Pending.ofLead? (b : UInt8) : Option Pending :=
  if b < 0xc2 then none
  else if b < 0xe0 then some ⟨0, 0x80, 0xbf, b.toNat - 0xc0⟩
  else if b = 0xe0 then some ⟨1, 0xa0, 0xbf, 0⟩
  else if b = 0xed then some ⟨1, 0x80, 0x9f, 13⟩
  else if b < 0xf0 then some ⟨1, 0x80, 0xbf, b.toNat - 0xe0⟩
  else if b = 0xf0 then some ⟨2, 0x90, 0xbf, 0⟩
  else if b < 0xf4 then some ⟨2, 0x80, 0xbf, b.toNat - 0xf0⟩
  else if b = 0xf4 then some ⟨2, 0x80, 0x8f, 4⟩
  else none

def replacement : Char := '\uFFFD'

def lossyChars (acc : List Char) : Option Pending → Bytes → List Char
  | none, [] => acc.reverse
  | some _, [] => (replacement :: acc).reverse
  | pending, b :: r =>
    let fresh (acc : List Char) :=
      if b < 0x80 then lossyChars (Char.ofNat b.toNat :: acc) none r
      else match Pending.ofLead? b with
        | none => lossyChars (replacement :: acc) none r
        | some p => lossyChars acc (some p) r
    match pending with
    | none => fresh acc
    | some p =>
      if p.least ≤ b ∧ b ≤ p.most then
        let bits := p.bits * 64 + (b.toNat - 0x80)
        match p.missing with
        | 0 => lossyChars (Char.ofNat bits :: acc) none r
        | n + 1 => lossyChars acc (some ⟨n, 0x80, 0xbf, bits⟩) r
      else fresh (replacement :: acc)

def ofUtf8Lossy (bs : Bytes) : String := String.ofList (lossyChars [] none bs)

end Text
end BearerTrust
