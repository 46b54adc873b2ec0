import JsonSchema.CommandLine.Command

/-! # The arguments of the program -/

namespace JsonSchema

/-- What the arguments ask for. -/
inductive Request where
  | command (command : Command)
  | help
  | version

namespace Arguments

/-- One argument. -/
inductive Word where
  /-- A long option, with the value after its equals sign. -/
  | option (name : String) (value : Option String)
  | short (letters : String)
  /-- The end of the options. -/
  | endOfOptions
  | plain (text : String)

def Word.ofText (text : String) : Word :=
  match text.toList with
  | ['-', '-'] => .endOfOptions
  | '-' :: '-' :: cs =>
    let name := String.ofList (cs.takeWhile (· ≠ '='))
    match cs.dropWhile (· ≠ '=') with
    | _ :: value => .option name (some (String.ofList value))
    | [] => .option name none
  | ['-'] => .plain "-"
  | '-' :: cs => .short (String.ofList cs)
  | _ => .plain text

/-- The option that is a size. -/
def sizeSetting : String := "max-depth"

/-- What a command takes. -/
structure Shape where
  flags : List String
  /-- Options with a value. -/
  settings : List String
  places : Nat

/-- What a command was given. -/
structure Given where
  flags : List String := []
  settings : List (String × String) := []
  places : List String := []

def shape? : String → Option Shape
  | "validate" => some ⟨["coerce", "short-circuit", "ignore-unsupported"], [], 2⟩
  | "coerce" => some ⟨["drop-unknown"], [], 2⟩
  | "template" => some ⟨["with-optional", "with-extended-optional"], [], 1⟩
  | "walk" => some ⟨[], ["data", sizeSetting], 1⟩
  | "formats" => some ⟨[], [], 0⟩
  | _ => none

/-- Where the reading stands. -/
inductive Outcome where
  | given (given : Given)
  | request (request : Request)

/-- The flag of all commands. -/
def logsFlag : String := "json-logs"

/-- One more place, which must not be empty. -/
def Given.place? (g : Given) (shape : Shape) (text : String) : Option Given :=
  if g.places.length < shape.places && !text.isEmpty then
    some { g with places := g.places ++ [text] }
  else none

/-- A flag of the command or of all commands, given once. -/
def Given.flag? (g : Given) (shape : Shape) (name : String) : Option Given :=
  if (logsFlag :: shape.flags).contains name && !g.flags.contains name then
    some { g with flags := g.flags ++ [name] }
  else none

/-- A size of at most one word; a plus may lead. -/
def size? (text : String) : Option Nat :=
  let digits := match text.toList with
    | '+' :: cs => cs
    | cs => cs
  (Decimal.readNat? digits).filter (· < UInt64.size)

/-- An option with its value, given once. -/
def Given.setting? (g : Given) (name value : String) : Option Given :=
  let fits := !value.isEmpty && (name != sizeSetting || (size? value).isSome)
  if fits && (g.settings.lookup name).isNone then
    some { g with settings := g.settings ++ [(name, value)] }
  else none

def helpRequest? (letters : String) : Option Request :=
  match letters.toList.head? with
  | some 'h' => some .help
  | _ => none

/-- The next argument, or the value that an option waits for. -/
def read? (shape : Shape) (g : Given) (waiting : Option String) : List String → Option Outcome
  | [] => if waiting.isNone then some (.given g) else none
  | text :: texts =>
    match Word.ofText text, waiting with
    | .plain value, some name => do read? shape (← g.setting? name value) none texts
    | _, some _ => none
    | .plain place, none => do read? shape (← g.place? shape place) none texts
    | .endOfOptions, none => (texts.foldlM (fun g place => Given.place? g shape place) g).map .given
    | .short letters, none => (helpRequest? letters).map .request
    | .option "help" none, none => some (.request .help)
    | .option name (some value), none =>
      if shape.settings.contains name then do read? shape (← g.setting? name value) none texts
      else none
    | .option name none, none =>
      if shape.settings.contains name then read? shape g (some name) texts
      else do read? shape (← g.flag? shape name) none texts

/-- The command that was given all that it needs. -/
def command? (name : String) (g : Given) : Option Command :=
  match name, g.places with
  | "validate", [schema, data] =>
    some (.validate schema data (g.flags.contains "coerce") (g.flags.contains "short-circuit")
      (g.flags.contains "ignore-unsupported"))
  | "coerce", [schema, data] => some (.coerce schema data (g.flags.contains "drop-unknown"))
  | "template", [schema] =>
    some (.template schema
      { withOptional := g.flags.contains "with-optional"
        withExtendedOptional := g.flags.contains "with-extended-optional" })
  | "walk", [schema] =>
    some (.walk schema (g.settings.lookup "data") ((g.settings.lookup sizeSetting).bind size?))
  | "formats", [] => some .formats
  | _, _ => none

/-- Help is for the whole program or for one command. -/
def isHelpTopic : List String → Bool
  | [] => true
  | [name] => name == "help" || (shape? name).isSome
  | _ => false

/-- The request of the arguments. The flags of all commands may stand before the command. -/
def request? (logs : Bool) : List String → Option Request
  | [] => none
  | text :: texts =>
    match Word.ofText text with
    | .option "json-logs" none => if logs then none else request? true texts
    | .option "help" none => some .help
    | .option "version" none => some .version
    | .short letters =>
      match letters.toList.head? with
      | some 'h' => some .help
      | some 'V' => some .version
      | _ => none
    | .plain "help" => if isHelpTopic texts then some .help else none
    | .plain name => do
      let shape ← shape? name
      match ← read? shape {} none texts with
      | .request request => return request
      | .given g => return .command (← command? name g)
    | _ => none

end Arguments

/-! ## Running the program -/

/-- What the program leaves behind. -/
structure Result where
  code : UInt8
  output : String
  /-- The line about a problem. -/
  problem : Option String := none

namespace Result

/-- Wrong arguments. -/
def usage : Result := { code := 2, output := "" }

def helpText : String :=
"Usage: jsonv [--json-logs] <COMMAND>

Commands:
  validate <SCHEMA> <DATA> [--coerce] [--short-circuit] [--ignore-unsupported]
  coerce <SCHEMA> <DATA> [--drop-unknown]
  template <SCHEMA> [--with-optional] [--with-extended-optional]
  walk <SCHEMA> [--data <DATA>] [--max-depth <MAX_DEPTH>]
  formats
"

def versionText : String := "jsonv 0.1.0\n"

/-- The first line of a text. -/
def firstLine (text : String) : String := String.ofList (text.toList.takeWhile (· ≠ '\n'))

def ofProblem (p : Problem) : Result :=
  { code := 1, output := "", problem := some (firstLine ("Error: " ++ (p.chain.head?.getD ""))) }

def ofReport (r : Report) : Result :=
  { code := if r.success then 0 else 1, output := r.output.pretty ++ "\n" }

/-- What becomes of the arguments. -/
def ofRequest (files : Files) (shared : FormatRegistry) : Option Request → Result
  | none => usage
  | some .help => { code := 0, output := helpText }
  | some .version => { code := 0, output := versionText }
  | some (.command c) =>
    match c.run files shared with
    | .ok report => ofReport report
    | .error problem => ofProblem problem

end Result

end JsonSchema
