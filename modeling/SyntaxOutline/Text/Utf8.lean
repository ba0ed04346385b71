/-!
# Reading bytes as text

Bytes are read as UTF-8 or not at all. Where they are not UTF-8, the **flaw** says where the part
that can be read ends and what comes after it: bytes that begin no character, or the beginning of a
character that the end of the bytes cuts short.

A character that is not ASCII opens with a lead byte, which fixes how many tail bytes follow and, by
leaving out the overlong forms, the surrogates and what lies beyond the last code point, the range
of the first of them. All later tail bytes are of one range. The faulty part of an ill-formed
sequence is as long as it could still have become a character, so it has one to three bytes.
-/

namespace SyntaxOutline.Utf8

/-- **Why bytes are not UTF-8.** The index is the length of the part before the flaw. -/
inductive Flaw where
  /-- The bytes end within a character. -/
  | incomplete (index : Nat)
  /-- So many bytes begin no character. -/
  | invalid (length index : Nat)
  deriving DecidableEq

/-- The message shown for a flaw. -/
def Flaw.message : Flaw → String
  | .incomplete index => "incomplete utf-8 byte sequence from index " ++ index.repr
  | .invalid length index =>
    "invalid utf-8 sequence of " ++ length.repr ++ " bytes from index " ++ index.repr

/-- What a character still owes: tail bytes, the first of them from a range. -/
structure Owed where
  /-- How many tail bytes follow. -/
  tails : Nat
  /-- The least byte that may come next. -/
  least : UInt8
  /-- The greatest byte that may come next. -/
  greatest : UInt8

namespace Owed

/-- The given number of tail bytes, none of them restricted further. -/
def ofTails (tails : Nat) : Owed := ⟨tails, 0x80, 0xBF⟩

/-- What follows a lead byte, nothing if it is a character by itself. Some bytes lead no
character. -/
def ofLead? (lead : UInt8) : Option Owed :=
  if lead < 0x80 then some (ofTails 0)
  else if lead < 0xC2 then none
  else if lead < 0xE0 then some (ofTails 1)
  else if lead = 0xE0 then some ⟨2, 0xA0, 0xBF⟩
  else if lead = 0xED then some ⟨2, 0x80, 0x9F⟩
  else if lead < 0xF0 then some (ofTails 2)
  else if lead = 0xF0 then some ⟨3, 0x90, 0xBF⟩
  else if lead < 0xF4 then some (ofTails 3)
  else if lead = 0xF4 then some ⟨3, 0x80, 0x8F⟩
  else none

end Owed

/-- Looks for the first flaw, given where the character at hand begins, how many of its bytes have
been read, and what it owes. If nothing is wrong, the flaw found is that the end was reached. -/
def flawFrom : (start read : Nat) → Owed → List UInt8 → Flaw
  | start, _, _, [] => .incomplete start
  | start, _, ⟨0, _, _⟩, byte :: rest =>
    match Owed.ofLead? byte with
    | none => .invalid 1 start
    | some ⟨0, _, _⟩ => flawFrom (start + 1) 0 (.ofTails 0) rest
    | some owed => flawFrom start 1 owed rest
  | start, read, ⟨tails + 1, least, greatest⟩, byte :: rest =>
    if least ≤ byte ∧ byte ≤ greatest then
      match tails with
      | 0 => flawFrom (start + read + 1) 0 (.ofTails 0) rest
      | tails + 1 => flawFrom start (read + 1) (.ofTails (tails + 1)) rest
    else
      .invalid read start

/-- The first flaw of bytes that are not UTF-8. -/
def firstFlaw (bytes : ByteArray) : Flaw :=
  flawFrom 0 0 (.ofTails 0) bytes.toList

/-- **Reads bytes as text**, all of them or none. -/
def decode (bytes : ByteArray) : Except Flaw String :=
  match String.fromUTF8? bytes with
  | some text => .ok text
  | none => .error (firstFlaw bytes)

/-- What is read back from the bytes of a text is the text. -/
theorem decode_toUTF8 (text : String) : decode text.toUTF8 = .ok text := by
  simp only [decode, String.fromUTF8?, String.toUTF8_eq_toByteArray, text.isValidUTF8, dite_true]
  rfl

end SyntaxOutline.Utf8
