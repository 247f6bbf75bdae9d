import Gradebook.Text.Pattern.Basic
import Gradebook.Text.Split

/-! Log filters. A filter lists directives between commas, each of which names a target, a span with
a field, or a level, as in `sync=debug` or `[job{id=7}]=info`. The value of a field is a number or a
pattern. The program only asks whether a filter is well-formed. -/

namespace Gradebook.Command.LogFilter

inductive Defect where
  | directive
  | level
  | field (defect : Text.Pattern.Defect)
  deriving DecidableEq, Repr

def Defect.message : Defect → String
  | .directive => "invalid filter directive"
  | .level =>
    "error parsing level filter: expected one of \"off\", \"error\", \"warn\", \"info\", \"debug\", "
      ++ "\"trace\", or a number 0-5"
  | .field defect => "invalid field filter: " ++ defect.message

/-- Whether a text is a level: a word in any ASCII case, a number from 0 to 5, or nothing. -/
def isLevel (s : String) : Bool :=
  ["", "off", "error", "warn", "info", "debug", "trace"].contains
      (String.ofList (s.toList.map Char.toLower))
    || (match Text.readUInt64 s with
      | .ok n => decide (n.toNat ≤ 5)
      | .error _ => false)

/-- The text after a sign at its start. -/
def withoutSign : List Char → List Char
  | '+' :: rest => rest
  | '-' :: rest => rest
  | cs => cs

/-- Whether a text is the exponent of a number, which may be missing. -/
def isExponent : List Char → Bool
  | [] => true
  | c :: rest =>
    let digits := withoutSign rest
    c.toLower = 'e' && !digits.isEmpty && digits.all Char.isDigit

/-- Whether a text is a number: decimal digits with a point among or around them and an exponent behind
them, or one of the names of what is not finite. -/
def isNumber (cs : List Char) : Bool :=
  let cs := withoutSign cs
  let whole := cs.takeWhile Char.isDigit
  let (fraction, rest) :=
    match cs.dropWhile Char.isDigit with
    | '.' :: rest => (rest.takeWhile Char.isDigit, rest.dropWhile Char.isDigit)
    | rest => ([], rest)
  ["inf", "infinity", "nan"].contains (String.ofList (cs.map Char.toLower))
    || ((!whole.isEmpty || !fraction.isEmpty) && isExponent rest)

/-- The first defect of a field: a name, and perhaps a value between the first equals sign and the next. -/
def checkField (field : List Char) : Except Defect Unit :=
  match Text.splitChars '=' field with
  | _ :: value :: _ =>
    if isNumber value then .ok () else (Text.Pattern.check value).mapError Defect.field
  | _ => .ok ()

/-- The part of a directive that is being read. A field is told with the place at which it
began, in bytes. -/
inductive Place where
  | start
  | target
  | span
  | field (beginning : Nat)
  | fields
  | afterSpan
  | level (written : List Char)

def startsTarget (c : Char) : Bool :=
  Text.isAlphanumeric c || ['-', ':', '_'].contains c

def dropBytes : Nat → List Char → List Char
  | _, [] => []
  | 0, cs => cs
  | count, c :: rest => dropBytes (count - c.utf8Size) rest

def takeBytes : Nat → List Char → List Char
  | _, [] => []
  | 0, _ => []
  | count, c :: rest => c :: takeBytes (count - c.utf8Size) rest

/-- Reads one character of a directive, which stands at a place in bytes. A field is cut out of the text as
it was before blanks around it were dropped. -/
def Place.step (text : List Char) (position : Nat) (c : Char) : Place → Except Defect Place
  | .start =>
    if c = '[' then .ok .span else if startsTarget c then .ok .target else .error .directive
  | .target => .ok (if c = '=' then .level [] else if c = '[' then .span else .target)
  | .span =>
    .ok (if c = ']' then .afterSpan else if c = '\x7b' then .field (position + 1) else .span)
  | .field beginning =>
    if c ≠ '\x7d' then .ok (.field beginning)
    else if position = beginning then .error .directive
    else do
      checkField (takeBytes (position - beginning) (dropBytes beginning text))
      pure .fields
  | .fields => if c = ']' then .ok .afterSpan else .error .directive
  | .afterSpan => if c = '=' then .ok (.level []) else .error .directive
  | .level written => .ok (.level (c :: written))

/-- Whether a directive may end here. No level is known in a directive with blanks around it. -/
def Place.finish (padded : Bool) : Place → Except Defect Unit
  | .target => .ok ()
  | .afterSpan => .ok ()
  | .level written =>
    if !padded && isLevel (String.ofList written.reverse) then .ok () else .error .level
  | .start => .error .directive
  | .span => .error .directive
  | .field _ => .error .directive
  | .fields => .error .directive

def readFrom (text : List Char) (padded : Bool) (position : Nat) (place : Place) :
    List Char → Except Defect Unit
  | [] => place.finish padded
  | c :: rest =>
    match place.step text position c with
    | .ok next => readFrom text padded (position + c.utf8Size) next rest
    | .error defect => .error defect

def readDirective (text : List Char) : Except Defect Unit :=
  let directive := Text.trimChars text
  readFrom text (directive != text) 0 .start directive

/-- The first defect of a filter. Empty directives are skipped. -/
def check (filter : String) : Except Defect Unit :=
  ((Text.splitChars ',' filter.toList).filter fun piece => !piece.isEmpty).forM readDirective

end Gradebook.Command.LogFilter
