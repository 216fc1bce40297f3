/-
This file decodes the bytes of an argument. A character opens with a first byte, which fixes how
many more bytes it takes and which of them may come next; each byte within its range carries six
bits of the character. Bytes that open a character and are then broken off form one stray run, and
the byte that broke them off is read afresh. No byte is lost and none is read twice.
-/

import ThriftCommand.Token.Glyph

namespace ThriftCommand.Token

/-- A character of which some bytes have come. -/
structure Opened where
  /-- The bytes so far. -/
  bytes : List UInt8
  /-- The bits that they carry. -/
  value : Nat
  /-- The least byte that may come next. -/
  low : Nat
  /-- The greatest byte that may come next. -/
  high : Nat
  /-- How many bytes come after that one. -/
  owed : Nat

/-- The character that a first byte opens; none for a byte that opens no longer character. -/
def Opened.ofByte? (byte : UInt8) : Option Opened :=
  let code := byte.toNat
  if 0xC2 ≤ code ∧ code ≤ 0xDF then some ⟨[byte], code - 0xC0, 0x80, 0xBF, 0⟩
  else if code = 0xE0 then some ⟨[byte], 0, 0xA0, 0xBF, 1⟩
  else if code = 0xED then some ⟨[byte], 0xD, 0x80, 0x9F, 1⟩
  else if 0xE1 ≤ code ∧ code ≤ 0xEF then some ⟨[byte], code - 0xE0, 0x80, 0xBF, 1⟩
  else if code = 0xF0 then some ⟨[byte], 0, 0x90, 0xBF, 2⟩
  else if 0xF1 ≤ code ∧ code ≤ 0xF3 then some ⟨[byte], code - 0xF0, 0x80, 0xBF, 2⟩
  else if code = 0xF4 then some ⟨[byte], 4, 0x80, 0x8F, 2⟩
  else none

/-- A byte between characters: the glyph that it is by itself, or the character that it opens. -/
def beginAt (byte : UInt8) : Token × Option Opened :=
  if byte.toNat < 0x80 then ([.char (Char.ofNat byte.toNat)], none)
  else
    match Opened.ofByte? byte with
    | some opened => ([], some opened)
    | none => ([.stray [byte]], none)

/-- A byte wherever it stands: the glyphs that it completes, and the character left open. -/
def decodeByte : Option Opened → UInt8 → Token × Option Opened
  | none, byte => beginAt byte
  | some opened, byte =>
    if opened.low ≤ byte.toNat ∧ byte.toNat ≤ opened.high then
      let value := opened.value * 64 + (byte.toNat - 0x80)
      match opened.owed with
      | 0 => ([.char (Char.ofNat value)], none)
      | owed + 1 => ([], some ⟨opened.bytes ++ [byte], value, 0x80, 0xBF, owed⟩)
    else
      let (completed, next) := beginAt byte
      (.stray opened.bytes :: completed, next)

/-- The glyphs of the bytes that follow what is open. -/
def decodeFrom : Option Opened → List UInt8 → Token
  | none, [] => []
  | some opened, [] => [.stray opened.bytes]
  | opened, byte :: rest =>
    let (completed, next) := decodeByte opened byte
    completed ++ decodeFrom next rest

/-- The token that an argument's bytes spell. -/
def ofBytes (bytes : List UInt8) : Token :=
  decodeFrom none bytes

end ThriftCommand.Token
