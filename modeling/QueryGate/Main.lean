import QueryGate.CommandLine
import QueryGate.Http.Surface
import QueryGate.Proofs.Sql.Reading.Texts

set_option relaxedAutoImplicit false
set_option autoImplicit false

/-!
# The program

The service over standard input and output, as a dry run. The command line gives the settings and
the manifest. Each line of input is one request, an object with `method`, `path` and perhaps
`content_type` and `body`; each line of output is its response, with the statements that the
request sends to the engine. No engine is attached, so every statement has no rows.

## Main definitions

* `QueryGate.Service.ofSettings` — the service of settings and a catalog.
* `main` — the program.
-/

namespace QueryGate

/-- The service of settings and a catalog. There is a chat gateway where there is a key to it. -/
def Service.ofSettings (s : Settings) (catalog : Catalog) : Service where
  catalog := catalog
  reader := Sql.grammatical
  taken := Sql.takesBuilt_grammatical
  limits := s.limits
  breaker := s.breaker
  cache := s.cache
  chat := s.chat.apiKey.map fun _ => { settings := s.chat }

namespace DryRun

/-- The directory of a file. -/
def directoryOf (path : String) : String :=
  String.ofList ((path.toList.reverse.dropWhile (· != '/')).drop 1).reverse

/-- A request read from a line. A body that is no text stands for its compact text. -/
def requestOf (j : Json) : Http.Request where
  method := (j.get "method").text?.getD "GET"
  target := (j.get "path").text?.getD "/"
  contentType := (j.get "content_type").text?
  body :=
    match j.get "body" with
    | .null => ""
    | .str s => s
    | other => other.render

/-- The text of a literal. -/
def literalJson : Literal → Json
  | .text s => .str s
  | .integer n => .int n
  | .float x => .ofFloat x
  | .bool b => .bool b

/-- A statement as a line shows it. -/
def statementJson (sent : Service.Sent) : Json := .obj [
  ("path", .str sent.storage.path), ("sql", .str sent.statement.text),
  ("params", .arr (sent.statement.params.map literalJson))]

/-- A response as a line shows it, with the statements sent meanwhile. -/
def responseJson (r : Http.Response) (sent : List Service.Sent) : Json := .obj [
  ("status", .ofNat r.status), ("content_type", .ofText? r.contentType),
  ("retry_after", .ofText? r.retryAfter), ("body", .str r.body),
  ("statements", .arr (sent.reverse.map statementJson))]

/-- The line for one request, and the state after it. A request that leaves no answer gets a status
alone. -/
def answerLine (svc : Service) (s : Service.State) (line : String) : String × Service.State :=
  match Json.read? line with
  | none => ((responseJson { status := 400 } []).render, s)
  | some j =>
    match (Http.answer svc (requestOf j)).run.run { s with sent := [] } with
    | (.ok response, s) => ((responseJson response s.sent).render, s)
    | (.error _, s) => ((responseJson { status := 500 } s.sent).render, s)

/-- Answers lines until the input ends. -/
partial def serve (svc : Service) (s : Service.State) (input output : IO.FS.Stream) : IO Unit := do
  let line ← input.getLine
  if line.isEmpty then return
  let (answer, s) := answerLine svc s line
  output.putStrLn answer
  output.flush
  serve svc s input output

/-- What a refused command line is told. -/
def explain : CommandLine.Fault → String
  | .unknownArgument => "There is an argument that is no option."
  | .badValue => "An option does not take the value given."
  | .missingValue => "An option has no value."
  | .needlessValue => "A flag takes no value."
  | .repeated => "An option is given twice."
  | .helpWanted =>
    "Options: " ++ Text.joined ", " (CommandLine.options.map fun o => "--" ++ o.name)

/-- The program with settings. -/
def start (s : Settings) : IO UInt32 := do
  let content ← IO.FS.readFile s.manifest
  match Catalog.ofManifest s.manifest (directoryOf s.manifest) content with
  | .error failure =>
    IO.eprintln failure.display
    return 1
  | .ok catalog =>
    serve (Service.ofSettings s catalog) {} (← IO.getStdin) (← IO.getStdout)
    return 0

end DryRun

end QueryGate

open QueryGate in
/-- The program. -/
def main (words : List String) : IO UInt32 := do
  match (CommandLine.read words).map Arguments.settings? with
  | .ok (some s) => DryRun.start s
  | .ok none =>
    IO.eprintln "A number of seconds is no length of time."
    return 2
  | .error fault =>
    IO.eprintln (DryRun.explain fault)
    return 2
