import ChatArchive.Settings
import ChatArchive.Store.Connection
/-!
The command line of the inspector. Options come before the command: `--db PATH`,
`--config PATH`, `--format NAME`, `--hide-deleted` and `-v` (repeatable). The commands are
`chats`, `show [ID]` and `decode FILE`, where `-` as the file names standard input.

An option given on the command line overrides the settings file, which overrides the defaults.
-/
namespace ChatArchive.Command

inductive Task where
  | listChats
  | transcript (chat : Option String)
  | decode (file : String)
  deriving DecidableEq, Repr

structure Request where
  database : Option String := none
  config : Option String := none
  format : Option OutputFormat := none
  hideDeleted : Bool := false
  verbosity : Nat := 0
  task : Task := .listChats
  deriving DecidableEq, Repr

inductive Parsed where
  | run (r : Request)
  | help
  | version
  | usage (message : String)
  deriving DecidableEq, Repr

def helpText : String :=
  "Inspect MessagePack-encoded chat histories\n\n" ++
  "Usage: chatlog [OPTIONS] <COMMAND>\n\n" ++
  "Commands:\n" ++
  "  chats   List chats\n" ++
  "  show    Print the transcript of a chat, prompting for an id when omitted\n" ++
  "  decode  Decode one raw payload file (\"-\" reads stdin)\n\n" ++
  "Options:\n" ++
  "      --db <DB>          Chat database file\n" ++
  "      --config <CONFIG>  JSON configuration file\n" ++
  "      --format <FORMAT>  Output format: text or json\n" ++
  "      --hide-deleted     Leave soft-deleted records out of transcripts\n" ++
  "  -v, --verbose...       Increase log verbosity (-v debug, -vv trace)\n" ++
  "  -h, --help             Print help\n" ++
  "  -V, --version          Print version\n"

def versionText : String := "chatlog 0.1.0\n"

def usageError (what : String) : Parsed :=
  .usage ("error: " ++ what ++ "\n\nFor more information, try '--help'.\n")

def valueOption? : String → Option String
  | "--db" => some "DB"
  | "--config" => some "CONFIG"
  | "--format" => some "FORMAT"
  | _ => none

def Request.withValue (r : Request) (option value : String) : Except String Request :=
  match option with
  | "--db" => .ok { r with database := some value }
  | "--config" => .ok { r with config := some value }
  | _ =>
    match OutputFormat.ofName value with
    | .ok f => .ok { r with format := some f }
    | .error p =>
      let reason := p.message
      .error s!"invalid value '{value}' for '--format <FORMAT>': {reason}"

def isVerbosity (arg : String) : Bool :=
  match arg.toList with
  | '-' :: rest => !rest.isEmpty && rest.all (· == 'v')
  | _ => false

def Request.withTask (r : Request) : String → List String → Parsed
  | "chats", [] => .run { r with task := .listChats }
  | "show", [] => .run { r with task := .transcript none }
  | "show", [id] => .run { r with task := .transcript (some id) }
  | "decode", [file] => .run { r with task := .decode file }
  | "decode", [] => usageError "the following required arguments were not provided:\n  <FILE>"
  | "help", _ => .help
  | "chats", extra :: _ | "show", _ :: extra :: _ | "decode", _ :: extra :: _ =>
    usageError s!"unexpected argument '{extra}' found"
  | other, _ => usageError s!"unrecognized subcommand '{other}'"

def parseFrom (r : Request) : List String → Parsed
  | [] => usageError "'chatlog' requires a subcommand but one was not provided"
  | arg :: rest =>
    if arg = "-h" ∨ arg = "--help" then .help
    else if arg = "-V" ∨ arg = "--version" then .version
    else if arg = "--hide-deleted" then parseFrom { r with hideDeleted := true } rest
    else if arg = "--verbose" then parseFrom { r with verbosity := r.verbosity + 1 } rest
    else if isVerbosity arg then parseFrom { r with verbosity := r.verbosity + (arg.length - 1) } rest
    else
      match (arg.splitOn "=") with
      | option :: value :: more =>
        match valueOption? option with
        | some _ =>
          match r.withValue option (String.intercalate "=" (value :: more)) with
          | .ok r' => parseFrom r' rest
          | .error e => usageError e
        | none => usageError s!"unexpected argument '{option}' found"
      | _ =>
        match valueOption? arg, rest with
        | some _, value :: rest' =>
          match r.withValue arg value with
          | .ok r' => parseFrom r' rest'
          | .error e => usageError e
        | some name, [] =>
          usageError s!"a value is required for '{arg} <{name}>' but none was supplied"
        | none, _ =>
          if arg.startsWith "-" && arg != "-" then usageError s!"unexpected argument '{arg}' found"
          else r.withTask arg rest

/-- The meaning of a command line. -/
def parse (args : List String) : Parsed := parseFrom {} args

/-- The settings of a run: the file's, then the command line's overrides. -/
def Request.settings (r : Request) (base : Settings) : Settings :=
  { database := r.database.getD base.database
    format := r.format.getD base.format
    hideDeletedNodes := r.hideDeleted || base.hideDeletedNodes }

structure Reply where
  out : String := ""
  err : String := ""
  status : UInt32 := 0
  deriving DecidableEq, Repr

/-- A failure written as `Error: ...`, ending the run with status 1. -/
def Reply.failure (message : String) : Reply := { err := "Error: " ++ message ++ "\n", status := 1 }

def jsonLine (d : Json.Doc) : String := d.pretty 0 ++ "\n"

def openStore (s : Settings) (file : Option (List UInt8)) : Except Reply Store.Connection :=
  match Store.Connection.open? s.database file s.hideDeletedNodes with
  | .ok c => .ok c
  | .error e =>
    let reason := e.message
    .error { err := s!"Error connecting to database: {reason}\n", status := 1 }

def chatListing (s : Settings) (c : Store.Connection) : Reply :=
  match Store.Source.listChats c with
  | .error e => Reply.failure e.message
  | .ok chats =>
    match s.format with
    | .text => { out := Inspect.chatListText chats }
    | .json => { out := jsonLine (.arr (chats.map Inspect.chatDoc)) }

def transcriptOf (s : Settings) (c : Store.Connection) (id : String) : Reply :=
  if id.isEmpty then { out := "No ID entered.\n" }
  else
    match Inspect.inspectChat c id with
    | .error (.store (.chatNotFound _)) => { out := "Invalid Chat ID.\n", status := 1 }
    | .error p => Reply.failure p.message
    | .ok t =>
      match s.format with
      | .text => { out := t.text }
      | .json => { out := jsonLine t.toDoc }

def payloadOf (s : Settings) (bytes : List UInt8) : Reply :=
  let o := Payload.decodePayload bytes
  let out := match s.format with
    | .text => o.text
    | .json => jsonLine o.toDoc
  { out := out, status := if o.isComplete then 0 else 1 }

def isBlank (c : Char) : Bool :=
  let n := c.toNat
  (0x09 ≤ n && n ≤ 0x0D) || n = 0x20 || n = 0x85 || n = 0xA0 || n = 0x1680 ||
    (0x2000 ≤ n && n ≤ 0x200A) || n = 0x2028 || n = 0x2029 || n = 0x202F || n = 0x205F ||
    n = 0x3000

def trimmed (s : String) : String :=
  String.ofList (((s.toList.dropWhile isBlank).reverse.dropWhile isBlank).reverse)

def prompt : String := "\nEnter Chat ID to view: "

end ChatArchive.Command
