import ChatArchive.Command

open ChatArchive ChatArchive.Command

def readFileBytes (path : String) : IO (Option (List UInt8)) := do
  try
    let bytes ← IO.FS.readBinFile path
    return some bytes.toList
  catch _ =>
    return none

partial def readAll (stream : IO.FS.Stream) (acc : ByteArray) : IO ByteArray := do
  let chunk ← stream.read 65536
  if chunk.isEmpty then return acc else readAll stream (acc ++ chunk)

def emit (r : Reply) : IO UInt32 := do
  let out ← IO.getStdout
  out.putStr r.out
  out.flush
  let err ← IO.getStderr
  err.putStr r.err
  return r.status

def perform (req : Request) (settings : Settings) : IO UInt32 := do
  match req.task with
  | .decode file =>
    let bytes ← if file = "-" then do
        let stdin ← IO.getStdin
        pure (some (← readAll stdin ByteArray.empty).toList)
      else readFileBytes file
    match bytes with
    | some b => emit (payloadOf settings b)
    | none =>
      let shown := Settings.quoted file
      emit (Reply.failure s!"Failed to read payload file: {shown}")
  | .listChats =>
    match openStore settings (← readFileBytes settings.database) with
    | .error r => emit r
    | .ok store => emit (chatListing settings store)
  | .transcript chat =>
    match openStore settings (← readFileBytes settings.database) with
    | .error r => emit r
    | .ok store =>
      match chat with
      | some id => emit (transcriptOf settings store (trimmed id))
      | none =>
        let listing := chatListing { settings with format := .text } store
        if listing.status != 0 then emit listing
        else
          let out ← IO.getStdout
          out.putStr (listing.out ++ prompt)
          out.flush
          let line ← (← IO.getStdin).getLine
          emit (transcriptOf settings store (trimmed line))

/-- Run the inspector on its command line. -/
def main (args : List String) : IO UInt32 := do
  match parse args with
  | .help => emit { out := helpText }
  | .version => emit { out := versionText }
  | .usage message => emit { err := message, status := 2 }
  | .run req =>
    match req.config with
    | none => perform req (req.settings Settings.default)
    | some path =>
      match Settings.load path (← readFileBytes path) with
      | .error e => emit (Reply.failure e.message)
      | .ok base => perform req (req.settings base)
