import FlowProbe.Text

set_option autoImplicit false

namespace FlowProbe.CommandLine

inductive Token where
  | help
  | version
  | config (attached : Option String)
  -- What follows is not taken for options.
  | endOfOptions
  | unknown (text : String)
  | excess (option value : String)
  | plain (text : String)

def longOption (text : String) (name : List Char) (value : Option (List Char)) : Token :=
  match String.ofList name, value with
  | "config", value => .config (value.map String.ofList)
  | "help", none => .help
  | "version", none => .version
  | "help", some value => .excess "--help" (String.ofList value)
  | "version", some value => .excess "--version" (String.ofList value)
  | _, _ => .unknown text

def shortOption (text : String) : List Char → Token
  | 'h' :: _ => .help
  | 'V' :: _ => .version
  | ['c'] => .config none
  | 'c' :: '=' :: value => .config (some (String.ofList value))
  | 'c' :: value => .config (some (String.ofList value))
  | _ => .unknown text

def Token.ofText (text : String) : Token :=
  match text.toList with
  | ['-', '-'] => .endOfOptions
  | '-' :: '-' :: long =>
    match long.span (· ≠ '=') with
    | (name, []) => longOption text name none
    | (name, _ :: value) => longOption text name (some value)
  | '-' :: c :: short => shortOption text (c :: short)
  | _ => .plain text

inductive Request where
  | help
  | version
  | probe (config : String)
  deriving DecidableEq, Repr

inductive Refusal where
  | unexpected (text : String)
  | excess (option value : String)
  | noValue
  | repeated
  | noConfig
  deriving DecidableEq, Repr

def give (known : Option String) (path : String) : Except Refusal String :=
  if path.isEmpty then .error .noValue
  else if known.isSome then .error .repeated
  else .ok path

def finish : Option String → Except Refusal Request
  | some path => .ok (.probe path)
  | none => .error .noConfig

def read (known : Option String) : List Token → Except Refusal Request
  | [] => finish known
  | .help :: _ => .ok .help
  | .version :: _ => .ok .version
  | .config (some path) :: rest => do read (some (← give known path)) rest
  | .config none :: .plain path :: rest => do read (some (← give known path)) rest
  | .config none :: _ => .error .noValue
  | [.endOfOptions] => finish known
  | .endOfOptions :: _ => .error (.unexpected "--")
  | .unknown text :: _ => .error (.unexpected text)
  | .excess option value :: _ => .error (.excess option value)
  | .plain text :: _ => .error (.unexpected text)

def parse (arguments : List String) : Except Refusal Request :=
  read none (arguments.map Token.ofText)

-- The last name in a path, unless it leads upwards.
def fileName? (path : String) : Option String :=
  let names := (parts '/' path.toList).filter fun name => name ≠ [] ∧ name ≠ ['.']
  match names.getLast? with
  | none => none
  | some ['.', '.'] => none
  | some name => some (String.ofList name)

def programName : String := "traffic_inspector"

def calledBy (first : Option String) : String :=
  (first.bind fileName?).getD programName

def usage (name : String) : String :=
  "Usage: " ++ Terminal.plain name ++ " --config <CONFIG>"

def helpText (name : String) : String :=
  "Network traffic inspection probe\n\n" ++ usage name ++ "\n\nOptions:\n" ++
    "  -c, --config <CONFIG>  Path to the TOML configuration file\n" ++
    "  -h, --help             Print help\n" ++
    "  -V, --version          Print version\n"

def versionText : String := programName ++ " 0.1.0\n"

def Refusal.message : Refusal → String
  | .unexpected text => "unexpected argument '" ++ Terminal.plain text ++ "' found"
  | .excess option value =>
    "unexpected value '" ++ Terminal.plain value ++ "' for '" ++ option ++
      "' found; no more were expected"
  | .noValue => "a value is required for '--config <CONFIG>' but none was supplied"
  | .repeated => "the argument '--config <CONFIG>' cannot be used multiple times"
  | .noConfig => "the following required arguments were not provided:\n  --config <CONFIG>"

end FlowProbe.CommandLine
