import Std.Time.DateTime.Timestamp
import SqlDesk.Config
import SqlDesk.Options
import SqlDesk.Server
import SqlDesk.Sql.Connections

/-! The command line: the service between standard input and standard output. Before a message is
taken, the files and directories on the paths it names are looked up; what the service has written
is put in place before its output is sent. -/

set_option autoImplicit false

namespace SqlDesk.CommandLine

def now : IO Instant := do
  let nanoseconds := (← Std.Time.Timestamp.now).toNanosecondsSinceUnixEpoch.val
  return ⟨nanoseconds / Instant.nanosPerSecond, (nanoseconds % Instant.nanosPerSecond).toNat⟩

def pathOf (location : Location) : String := "/" ++ "/".intercalate location

def lookAt (tree : FileTree) (location : Location) : IO FileTree := do
  let place := (← IO.currentDir) / pathOf location
  if ← place.isDir then return { tree with directories := location :: tree.directories }
  try
    return tree.setFile location (← IO.FS.readBinFile place).data.toList
  catch _ => return tree.removeFile location

def lookAlong (tree : FileTree) (path : String) : IO FileTree := do
  let mut here := if FileTree.isAbsolute path then [] else tree.workingDirectory
  let mut tree ← lookAt tree here
  for name in FileTree.pieces path do
    match tree.step here name with
    | .error _ => return tree
    | .ok next =>
      here := next
      tree ← lookAt tree next
  return tree

def pathIn? : Rpc.Received → Option String
  | .message (.request request) =>
    ((Rpc.ConnectParams.ofJson? request.params).map fun params => params.database)
      <|> (Rpc.SaveParams.ofJson? .csv request.params).map fun params => params.request.path
  | _ => none

def writeFiles (before after : FileTree) : IO Unit := do
  for (location, content) in after.files do
    if before.contentAt? location ≠ some content then
      IO.FS.writeBinFile (pathOf location) ⟨content.toArray⟩

def serverOf (config : Config) (tree : FileTree) : Server Sql.Databases :=
  .start ⟨.none, if config.storage.kind = .file then .file else .memory⟩ tree config.execution

partial def serve (input output : IO.FS.Stream) (server : Server Sql.Databases) :
    IO (Option Server.Ending) := do
  if server.ending.isSome then return server.ending
  let bytes := (← input.read (Rpc.Frame.wanted server.buffer).toUSize).data.toList
  let mut tree := server.state.tree
  for path in (Rpc.drain Rpc.messageLimit (server.buffer ++ bytes)).received.filterMap pathIn? do
    tree ← lookAlong tree path
  let server := { server with state := { server.state with tree } }
  let moment ← now
  let (told, server) :=
    if bytes.isEmpty then server.finish moment else server.receive moment bytes
  writeFiles tree server.state.tree
  for message in told do output.write ⟨message.frame.toArray⟩
  output.flush
  serve input output server

def configOf (options : Options) (tree : FileTree) : IO (Except ConfigError Config) := do
  let read ← match options.config with
    | none => pure (.ok Config.standard)
    | some path => pure (Config.ofFile (← lookAlong tree path) path)
  return do
    let config ← read
    let level := options.logLevel.getD config.logging.level
    let config := { config with logging := { config.logging with level } }
    config.validate tree.isDirectory
    return config

def run (options : Options) : IO UInt32 := do
  let workingDirectory := FileTree.pieces (← IO.currentDir).toString
  let tree ← lookAlong ⟨workingDirectory, [], []⟩ "."
  match ← configOf options tree with
  | .error error =>
    IO.eprintln s!"Error: {error.message}"
    return 1
  | .ok config =>
    let ending ← serve (← IO.getStdin) (← IO.getStdout) (serverOf config tree)
    match ending.bind Server.Ending.error? with
    | some reason =>
      IO.eprintln s!"Error: {reason}"
      return 1
    | none => return 0

end SqlDesk.CommandLine

def main (arguments : List String) : IO UInt32 :=
  match SqlDesk.Options.ofArguments? arguments with
  | some options => SqlDesk.CommandLine.run options
  | none => do
    IO.eprintln SqlDesk.Options.usage
    return 2
