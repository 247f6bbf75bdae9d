/-! Texts as bytes. Bytes that need not be UTF-8 are read as pieces: characters, and broken starts of
characters, each as long as it could have become one. -/

namespace Gradebook.Text

/-- A piece of some bytes: a character, a broken start of one with its number of bytes, or a start that the
end of the bytes cuts off. -/
inductive Piece where
  | char (c : Char)
  | broken (length : Nat)
  | cut (length : Nat)
  deriving DecidableEq, Repr

/-- The character of a piece, with the replacement character for what is none. -/
def Piece.shown : Piece → Char
  | .char c => c
  | .broken _ => '\uFFFD'
  | .cut _ => '\uFFFD'

/-- The start of a character: how many bytes were read and are missing, the bits read so far, and the range
of the next byte. -/
structure PieceStart where
  read : Nat := 1
  missing : Nat
  bits : Nat
  low : Nat := 0x80
  high : Nat := 0xBF
  deriving DecidableEq, Repr

/-- What a first byte is or begins. Overlong spellings, surrogates and numbers past the last code point are
ruled out by the range of the second byte. -/
def firstByte (b : Nat) : Piece ⊕ PieceStart :=
  if b < 0x80 then .inl (.char (Char.ofNat b))
  else if b < 0xC2 then .inl (.broken 1)
  else if b < 0xE0 then .inr { missing := 1, bits := b - 0xC0 }
  else if b = 0xE0 then .inr { missing := 2, bits := 0, low := 0xA0 }
  else if b = 0xED then .inr { missing := 2, bits := 0xD, high := 0x9F }
  else if b < 0xF0 then .inr { missing := 2, bits := b - 0xE0 }
  else if b = 0xF0 then .inr { missing := 3, bits := 0, low := 0x90 }
  else if b < 0xF4 then .inr { missing := 3, bits := b - 0xF0 }
  else if b = 0xF4 then .inr { missing := 3, bits := 4, high := 0x8F }
  else .inl (.broken 1)

/-- What a start and its next byte are or begin; nothing, if the byte does not go on with the start. -/
def PieceStart.next? (p : PieceStart) (b : Nat) : Option (Piece ⊕ PieceStart) :=
  if b < p.low ∨ p.high < b then none
  else
    let bits := p.bits * 64 + (b - 0x80)
    if p.missing ≤ 1 then some (.inl (.char (Char.ofNat bits)))
    else some (.inr { read := p.read + 1, missing := p.missing - 1, bits })

/-- The pieces of some bytes behind a start. -/
def piecesFrom : Option PieceStart → List UInt8 → List Piece
  | none, [] => []
  | some p, [] => [.cut p.read]
  | none, b :: rest =>
    match firstByte b.toNat with
    | .inl piece => piece :: piecesFrom none rest
    | .inr p => piecesFrom (some p) rest
  | some p, b :: rest =>
    match p.next? b.toNat with
    | some (.inl piece) => piece :: piecesFrom none rest
    | some (.inr p) => piecesFrom (some p) rest
    | none =>
      .broken p.read ::
        match firstByte b.toNat with
        | .inl piece => piece :: piecesFrom none rest
        | .inr p => piecesFrom (some p) rest

def pieces (bytes : List UInt8) : List Piece := piecesFrom none bytes

/-- The text of some bytes, with a replacement character for each broken start. -/
def readLossy (bytes : List UInt8) : String := String.ofList ((pieces bytes).map Piece.shown)

/-- Where bytes are no UTF-8, and the number of broken bytes unless the end cuts them off. -/
structure Utf8Flaw where
  index : Nat
  length : Option Nat
  deriving DecidableEq, Repr

def Utf8Flaw.message (flaw : Utf8Flaw) : String :=
  match flaw.length with
  | some length =>
    "invalid utf-8 sequence of " ++ toString length ++ " bytes from index " ++ toString flaw.index
  | none => "incomplete utf-8 byte sequence from index " ++ toString flaw.index

/-- The characters of pieces that begin at an index, or the first flaw. -/
def readPieces (index : Nat) : List Piece → Except Utf8Flaw (List Char)
  | [] => .ok []
  | .char c :: rest => (readPieces (index + c.utf8Size) rest).map (c :: ·)
  | .broken length :: _ => .error ⟨index, some length⟩
  | .cut _ :: _ => .error ⟨index, none⟩

/-- The text of some bytes, or the first flaw. -/
def readUtf8 (bytes : List UInt8) : Except Utf8Flaw String :=
  (readPieces 0 (pieces bytes)).map String.ofList

end Gradebook.Text
