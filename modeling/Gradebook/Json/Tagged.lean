import Gradebook.Json.Record

/-! Tagged records: one member names the kind of the record, and the others are the members of that kind.
The kind may stand anywhere, so the whole value is taken in before it is understood. That is why
nothing in it may be garbled, out of the range of floating numbers, or nested too deeply, even where
the kind would skip it. -/

namespace Gradebook.Json

def digitCount (n : Nat) : Nat := (Nat.toDigits 10 n).length

/-- The number with 53 binary digits and zeros after them that is nearest to a number, the even one of two. -/
def toPrecision (n : Nat) : Nat :=
  let unit := Nat.pow 2 (n.log2 - 52)
  let lower := n / unit
  let rest := n % unit
  let isUp := decide (unit < 2 * rest) || (decide (unit = 2 * rest) && lower % 2 == 1)
  (if isUp then lower + 1 else lower) * unit

/-- The leading digits of a number that fit 64 bits, and how many digits follow them. -/
def leadingDigits (n : Nat) : Nat × Nat :=
  if n < UInt64.size then (n, 0)
  else
    let dropped := digitCount n - 20
    let leading := n / Nat.pow 10 dropped
    if leading < UInt64.size then (leading, dropped) else (leading / 10, dropped + 1)

/-- Whether a decimal number is read as a finite floating number. Its leading digits and the power of ten
that scales them are rounded each by itself, and so is their product, which must stay below the first
number that rounds to infinity. -/
def isFinite (coefficient exponent : Int) : Bool :=
  let (leading, dropped) := leadingDigits coefficient.natAbs
  let scale := exponent + dropped
  if leading = 0 || decide (scale ≤ 0) then true
  else if 308 < scale then false
  else decide (toPrecision leading * toPrecision (Nat.pow 10 scale.toNat) < Nat.pow 2 1024 - Nat.pow 2 970)

/-- A value whose one member is empty, seen as one whose one member is null. Where a value was taken in, the
two stand for the same word. -/
def ofEmptyMember : Json → Json
  | .obj [(name, .obj [])] => .obj [(name, .null)]
  | value => value

mutual

/-- Takes a value in whole with at most `depth` containers inside one another. -/
def absorb (depth : Nat) : Json → Option Json
  | .garbled => none
  | .int n => if isFinite n 0 then some (.int n) else none
  | .decimal coefficient exponent =>
    if isFinite coefficient exponent then some (.decimal coefficient exponent) else none
  | .arr elements =>
    if 0 < depth then (absorbElements (depth - 1) elements).map .arr else none
  | .obj members =>
    if 0 < depth then
      (absorbMembers (depth - 1) members).map fun members => ofEmptyMember (.obj members)
    else none
  | .null => some .null
  | .bool b => some (.bool b)
  | .str text => some (.str text)

def absorbElements (depth : Nat) : List Json → Option (List Json)
  | [] => some []
  | value :: rest => do
    let value ← absorb depth value
    let rest ← absorbElements depth rest
    pure (value :: rest)

def absorbMembers (depth : Nat) : List (String × Json) → Option (List (String × Json))
  | [] => some []
  | (name, value) :: rest => do
    let value ← absorb depth value
    let rest ← absorbMembers depth rest
    pure ((name, value) :: rest)

end

/-- The deepest nesting that is taken in. -/
def maxDepth : Nat := 127

/-- Splits a tagged record into its tag and the record without the tag. -/
def toTagged (tag : String) (depth : Nat) (value : Json) : Except Flaw (Json × Json) :=
  match absorb depth value with
  | some (.obj members) =>
    match members.filter (·.1 == tag) with
    | [(_, kind)] => .ok (kind, .obj (members.filter (·.1 != tag)))
    | [] => .error (.missing tag)
    | _ => .error (.repeated tag)
  | some (.arr (kind :: elements)) => .ok (kind, .arr elements)
  | some (.arr []) => .error (.missing tag)
  | some _ => .error (.mismatch "a tagged record")
  | none => .error .malformed

/-- A kind without members: an object, whatever it holds, or nothing more by position. -/
def toNoMembers : Json → Except Flaw Unit
  | .arr (_ :: _) => .error .surplus
  | _ => .ok ()

/-- A text with one JSON value, decoded. -/
def decodeText {α : Type} (parse : String → Option Json) (decode : Json → Except Flaw α)
    (text : String) : Except Flaw α :=
  match parse text with
  | some value => decode value
  | none => .error .malformed

end Gradebook.Json
