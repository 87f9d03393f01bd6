/-
  Resource queries — the command line.

  * `Invocation`: what the arguments of the command ask for: a settings file and queries.
  * `Request.ofArguments`: the arguments read as an invocation, as a call for the help or the
    version, or as a mistake.
  * `Invocation.run`: what the command prints and how it exits.  Each query that can be read is
    written in canonical form with an outline of what it says; the others are reported.
-/
import ResourceQuery.Query.Outline
import ResourceQuery.Query.Parser
import ResourceQuery.Query.Printer
import ResourceQuery.Settings.Load

namespace ResourceQuery

/-- A settings file, if one is named, and queries. -/
structure Invocation where
  config : Option Text := none
  queries : List Text := []

/-- What the arguments of the command ask for. -/
inductive Request where
  | run (invocation : Invocation)
  | help
  | version
  | mistake

/-- What the command prints and the code it exits with. -/
structure Outcome where
  exit : Nat
  out : Text
  err : Text

namespace Request

/-- Whether an argument stands for an option: it begins with a hyphen and does not end
    there. -/
def isOption : Text → Bool
  | '-' :: _ :: _ => true
  | _ => false

/-- An option without its two hyphens, and the value after an equals sign. -/
def splitOption (t : Text) : Text × Option Text :=
  match t.dropWhile (· != '=') with
  | [] => (t, none)
  | _ :: value => (t.takeWhile (· != '='), some value)

/-- The request when no further option is expected. -/
def ofQueries (i : Invocation) (queries : List Text) : Request :=
  match i.queries ++ queries with
  | [] => mistake
  | queries => run { i with queries }

/-- Reads arguments on top of what has been read. -/
def read (i : Invocation) : List Text → Request
  | [] => ofQueries i []
  | ['-', '-'] :: rest => ofQueries i rest
  | ('-' :: '-' :: option) :: rest =>
    match splitOption option, rest with
    | (name, some value), rest =>
      if name = "config".toList ∧ i.config = none then read { i with config := some value } rest
      else mistake
    | (name, none), rest =>
      if name = "help".toList then help
      else if name = "version".toList then version
      else if name = "config".toList ∧ i.config = none then
        match rest with
        | [] => mistake
        | value :: rest =>
          if isOption value then mistake else read { i with config := some value } rest
      else mistake
  | ('-' :: c :: _) :: _ => if c = 'h' then help else if c = 'V' then version else mistake
  | query :: rest => read { i with queries := i.queries ++ [query] } rest

/-- What the arguments ask for. -/
def ofArguments (arguments : List Text) : Request := read {} arguments

end Request

namespace Outcome

/-- The outcome of a mistake in the arguments. -/
def usage : Outcome := ⟨2, [], "Usage: rql [OPTIONS] <QUERIES>...\n".toList⟩

/-- The outcome of a call for the version. -/
def version : Outcome := ⟨0, "rql 0.1.0\n".toList, []⟩

/-- The outcome of a call for help. -/
def help : Outcome where
  exit := 0
  out := ("Parses RQL queries and prints their canonical text and criteria tree\n\n" ++
    "Usage: rql [OPTIONS] <QUERIES>...\n\n" ++
    "Arguments:\n  <QUERIES>...  One or more RQL query strings\n\n" ++
    "Options:\n" ++
    "      --config <CONFIG>  Settings file, without extension; defaults to `rql`\n" ++
    "  -h, --help             Print help\n" ++
    "  -V, --version          Print version\n").toList
  err := []

/-- One outcome after another; the command fails when one of them does. -/
def andThen (a b : Outcome) : Outcome := ⟨max a.exit b.exit, a.out ++ b.out, a.err ++ b.err⟩

/-- The outcome of a query. -/
def ofQuery (settings : Settings) (text : Text) : Outcome :=
  match Query.parse settings text with
  | .ok q => ⟨0, q.render ++ '\n' :: q.outline.render ++ ['\n'], []⟩
  | .error e =>
    let error := Error.parse e
    ⟨1, [], text ++ s!": {error.message} (status {error.status})\n".toList⟩

end Outcome

/-- What the command does with the settings that were loaded. -/
def Invocation.run (i : Invocation) : Except Error Settings → Outcome
  | .error _ => ⟨1, [], []⟩
  | .ok settings =>
    i.queries.foldl (fun o text => o.andThen (.ofQuery settings text)) ⟨0, [], []⟩

/-- What the command does, where `read` gives the content of files. -/
def Request.outcome (read : Text → Option Text) (environment : List (Text × Text)) :
    Request → Outcome
  | run i => i.run (Settings.load read environment (i.config.getD Settings.standardName))
  | help => .help
  | version => .version
  | mistake => .usage

end ResourceQuery
