import Gradebook.Store.Basic
import Gradebook.Text.Numeral
import Gradebook.Text.Quoted
import Gradebook.Text.Split
import Gradebook.Text.Utf8

/-! What a database URL and the file name in it ask for. A URL may carry parameters after a question mark.
Bytes of the name and of the parameters may be written as a percent sign and two hexadecimal digits.
A file name may itself be an address, which starts with `file:` and has a path and options of its own. -/

namespace Gradebook.Command

/-- How a store is opened: in memory, only to be read, as a file that never changes, or in a new file if
there is none. -/
structure Access where
  inMemory : Bool := false
  readOnly : Bool := false
  immutable : Bool := false
  creates : Bool := true
  deriving DecidableEq, Repr

/-- The bytes that a text with percent signs stands for. -/
def decodedBytes : List Char → List UInt8
  | '%' :: a :: b :: rest =>
    match Text.hexValue? a, Text.hexValue? b with
    | some high, some low => UInt8.ofNat (high * 16 + low) :: decodedBytes rest
    | _, _ => '%'.toUInt8 :: decodedBytes (a :: b :: rest)
  | c :: rest => (String.singleton c).toUTF8.toList ++ decodedBytes rest
  | [] => []

/-- The error of a URL that cannot be understood. -/
def misconfigured (reason : String) : Store.Error :=
  .connection ("error with configuration: " ++ reason)

/-- The error of a file name that the engine does not understand. -/
def refused (code : Nat) (text : String) : Store.Error := .connection (Store.Error.refusal code text)

/-- The text without a start that may be repeated. -/
def withoutStart (start : List Char) : Nat → List Char → List Char
  | 0, cs => cs
  | fuel + 1, cs =>
    if start.isPrefixOf cs then withoutStart start fuel (cs.drop start.length) else cs

/-- The names and values between ampersands, as they are written. -/
def assignments (cs : List Char) : List (List Char × List Char) :=
  ((Text.splitChars '&' cs).filter fun piece => !piece.isEmpty).map fun piece =>
    let (name, value) := Text.cutAt '=' piece
    (name, value.getD [])

/-- The text of a parameter or its value, in which a plus sign stands for a space. -/
def readParameter (cs : List Char) : String :=
  Text.readLossy (decodedBytes (cs.map fun c => if c = '+' then ' ' else c))

/-- What a URL asks for: an access, and the file system of the engine through which the file is reached. -/
structure OpenOptions where
  access : Access := {}
  system : Option String := none
  deriving DecidableEq, Repr

def OpenOptions.take (w : OpenOptions) (name value : String) : Except Store.Error OpenOptions :=
  let access := w.access
  match name, value with
  | "mode", "ro" => .ok { w with access := { access with readOnly := true } }
  | "mode", "rw" => .ok w
  | "mode", "rwc" => .ok w
  | "mode", "memory" => .ok { w with access := { access with inMemory := true } }
  | "cache", "private" => .ok w
  | "cache", "shared" => .ok w
  | "immutable", "true" => .ok { w with access := { access with immutable := true } }
  | "immutable", "1" => .ok { w with access := { access with immutable := true } }
  | "immutable", "false" => .ok { w with access := { access with immutable := false } }
  | "immutable", "0" => .ok { w with access := { access with immutable := false } }
  | "vfs", system => .ok { w with system := some system }
  | name, value =>
    if ["mode", "cache", "immutable"].contains name then
      .error (misconfigured ("unknown value " ++ Text.quoted value ++ " for `" ++ name ++ "`"))
    else
      .error (misconfigured
        ("unknown query parameter `" ++ name ++ "` while parsing connection URL"))

def beforeNul (s : String) : String := String.ofList (s.toList.takeWhile (· ≠ '\x00'))

def isOn (value : String) : Bool :=
  match value.toList with
  | c :: rest =>
    if c.isDigit then (c :: rest.takeWhile Char.isDigit).any (· ≠ '0')
    else ["on", "yes", "true"].contains (String.ofList ((c :: rest).map Char.toLower))
  | [] => false

/-- Changes the access to what an address asks for. A file is not opened for more than was allowed. -/
def Access.narrow (a : Access) (mode : String) : Except Store.Error Access :=
  let allows (writes creates : Bool) : Bool :=
    a.inMemory || ((!writes || !a.readOnly) && (!creates || (!a.readOnly && a.creates)))
  let open? (writes creates : Bool) : Except Store.Error Access :=
    if allows writes creates then
      .ok { a with inMemory := false, readOnly := !writes, creates }
    else .error (refused 3 ("access mode not allowed: " ++ mode))
  match mode with
  | "ro" => open? false false
  | "rw" => open? true false
  | "rwc" => open? true true
  | "memory" => .ok { a with inMemory := true, readOnly := false, creates := false }
  | _ => .error (refused 1 ("no such access mode: " ++ mode))

/-- Takes an option of an address into account. Other options change nothing that shows. -/
def OpenOptions.narrow (w : OpenOptions) (name value : String) : Except Store.Error OpenOptions :=
  match name with
  | "mode" => (w.access.narrow value).map fun access => { w with access }
  | "cache" =>
    if ["shared", "private"].contains value then .ok w
    else .error (refused 1 ("no such cache mode: " ++ value))
  | "immutable" => .ok { w with access := { w.access with immutable := isOn value } }
  | "vfs" => .ok { w with system := some value }
  | _ => .ok w

/-- A part of an address, in which NUL ends the text. -/
def readPart (cs : List Char) : String := beforeNul (Text.readLossy (decodedBytes cs))

/-- The path of an address behind a host, which can only be the own one. -/
def withoutHost : List Char → Except Store.Error (List Char)
  | '/' :: '/' :: rest =>
    let host := String.ofList (rest.takeWhile (· ≠ '/'))
    if host = "" ∨ host = "localhost" then .ok (rest.dropWhile (· ≠ '/'))
    else .error (refused 1 ("invalid uri authority: " ++ host))
  | cs => .ok cs

/-- Reads an address from behind its start on: the path, and what the options of the address
ask for, which go up to a number sign. -/
def readAddress (w : OpenOptions) (cs : List Char) : Except Store.Error (String × OpenOptions) := do
  let cs ← withoutHost cs
  let (path, options) := Text.cutAt '?' (cs.takeWhile (· ≠ '#'))
  let options := (assignments (options.getD [])).filter fun (name, _) => !name.isEmpty
  let w ← options.foldlM (fun w (name, value) => w.narrow (readPart name) (readPart value)) w
  pure (readPart path, w)

/-- The file name that the engine is given, and how it is opened. Immutable files and those of a chosen file
system are always given by a plain path, which NUL ends. -/
def readName (w : OpenOptions) (name : String) : Except Store.Error (String × OpenOptions) :=
  if w.access.immutable || w.system.isSome then
    let system := w.system.map fun system => (beforeNul system).replace " " "+"
    .ok (beforeNul name, { w with system })
  else if name.toList.contains '\x00' then
    .error (.connection
      "error communicating with database: filename passed to SQLite must not contain nul bytes")
  else if "file:".toList.isPrefixOf name.toList then readAddress w (name.toList.drop 5)
  else .ok (name, w)

end Gradebook.Command
