/-! Reading the arguments of a command: options with a value, written `--name value` or `--name=value`,
switches, and operands. After `--` everything is an operand. A request for help or for the version
ends the reading, as long as nothing before it was wrong. -/

namespace Gradebook.Command

inductive Misuse where
  | noCommand
  | unknownCommand (name : String)
  | unknownOption (argument : String)
  | repeated (name : String)
  | noValue (name : String)
  | surplusValue (name : String)
  | surplusOperand (argument : String)
  | missing (name : String)
  | unreadable (name value : String)
  deriving DecidableEq, Repr

def Misuse.message : Misuse → String
  | .noCommand => "a command is required"
  | .unknownCommand name => "there is no command " ++ name
  | .unknownOption argument => "there is no option " ++ argument
  | .repeated name => name ++ " is given twice"
  | .noValue name => name ++ " takes a value"
  | .surplusValue name => name ++ " takes no value"
  | .surplusOperand argument => argument ++ " is one argument too many"
  | .missing name => name ++ " is required"
  | .unreadable name value => value ++ " is no value of " ++ name

/-- What the arguments ask for instead of a command. -/
inductive Inquiry where
  | help
  | version
  deriving DecidableEq, Repr

/-- The options with a value, the switches and the number of operands that a command knows. -/
structure Shape where
  options : List String := []
  switches : List String := []
  operands : Nat := 0

structure Given where
  values : List (String × String) := []
  switches : List String := []
  operands : List String := []
  inquiry : Option Inquiry := none

namespace Given

def addValue (g : Given) (name value : String) : Except Misuse Given :=
  if (g.values.lookup name).isSome then .error (.repeated name)
  else .ok { g with values := g.values ++ [(name, value)] }

def addSwitch (g : Given) (name : String) : Except Misuse Given :=
  if g.switches.contains name then .error (.repeated name)
  else .ok { g with switches := g.switches ++ [name] }

def addOperand (g : Given) (shape : Shape) (argument : String) : Except Misuse Given :=
  if g.operands.length < shape.operands then .ok { g with operands := g.operands ++ [argument] }
  else .error (.surplusOperand argument)

/-- Whether an argument looks like an option. A lone minus sign does not. -/
def isOption (argument : String) : Bool :=
  match argument.toList with
  | '-' :: _ :: _ => true
  | _ => false

/-- An option cut at its first equals sign. -/
def cutOption (argument : String) : String × Option String :=
  let cs := argument.toList
  let name := cs.takeWhile (· ≠ '=')
  (String.ofList name,
    if name.length < cs.length then some (String.ofList (cs.drop (name.length + 1))) else none)

def inquiry? (argument : String) : Option Inquiry :=
  if argument = "--help" then some .help
  else if argument = "--version" then some .version
  else
    match argument.toList with
    | '-' :: 'h' :: _ => some .help
    | '-' :: 'V' :: _ => some .version
    | _ => none

/-- Reads an option without the value that may follow it. Gives the option's name if its value is still to
come. -/
def readOption (g : Given) (shape : Shape) (argument : String) :
    Except Misuse (Option String × Given) :=
  let (name, attached) := cutOption argument
  if shape.switches.contains name then
    match attached with
    | some _ => .error (.surplusValue name)
    | none => (g.addSwitch name).map (none, ·)
  else if shape.options.contains name then
    match attached with
    | some value => (g.addValue name value).map (none, ·)
    | none => .ok (some name, g)
  else .error (.unknownOption argument)

/-- Reads arguments on top of those that were read, the last of which may be an option that waits for its
value. -/
def readFrom (shape : Shape) (waiting : Option String) (g : Given) :
    List String → Except Misuse Given
  | [] =>
    match waiting with
    | some name => .error (.noValue name)
    | none => .ok g
  | argument :: rest =>
    match waiting with
    | some name =>
      if isOption argument then .error (.noValue name)
      else (g.addValue name argument).bind fun g => readFrom shape none g rest
    | none =>
      if argument = "--" then rest.foldlM (fun g operand => g.addOperand shape operand) g
      else if !isOption argument then
        (g.addOperand shape argument).bind fun g => readFrom shape none g rest
      else
        match inquiry? argument with
        | some inquiry => .ok { g with inquiry := some inquiry }
        | none =>
          (g.readOption shape argument).bind fun (waiting, g) => readFrom shape waiting g rest

def read (shape : Shape) (arguments : List String) : Except Misuse Given :=
  readFrom shape none {} arguments

def value? {α : Type} (g : Given) (name : String) (read : String → Option α) :
    Except Misuse (Option α) :=
  match g.values.lookup name with
  | none => .ok none
  | some text =>
    match read text with
    | some x => .ok (some x)
    | none => .error (.unreadable name text)

def operand? {α : Type} (g : Given) (place : Nat) (name : String) (read : String → Option α) :
    Except Misuse (Option α) :=
  match g.operands[place]? with
  | none => .ok none
  | some text =>
    match read text with
    | some x => .ok (some x)
    | none => .error (.unreadable name text)

end Given

def require {α : Type} (name : String) : Option α → Except Misuse α
  | some x => .ok x
  | none => .error (.missing name)

end Gradebook.Command
