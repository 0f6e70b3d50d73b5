import MarkupAssist.Settings
import MarkupAssist.Text.Split

/-!
# Configuration of the server

What the server is configured by: the options of the server itself and the settings of snippets.
-/

namespace MarkupAssist

/-- The options of the server itself. -/
structure ServerOptions where
  /-- The name that the server introduces itself by. -/
  name : String := "flow-lsp"
  logLevel : String := "info"
  /-- Whether a configuration file is looked for in the workspace. -/
  workspaceDiscovery : Bool := true
  /-- The languages whose documents are validated. -/
  languages : List String := ["vue", "html", "typescript", "mdx"]
  deriving DecidableEq, Repr, Inhabited

/-- A configuration. -/
structure Config where
  server : ServerOptions := {}
  settings : Settings := {}
  deriving DecidableEq, Repr, Inhabited

namespace Config

/-- Whether documents of a language are validated. -/
def validates (config : Config) (language : String) : Bool :=
  config.server.languages.contains language

/-- What is logged: what the environment asks for, unless that is blank, or the configured level. -/
def logDirective (config : Config) (requested : Option String) : String :=
  (requested.filter fun text => !text.toList.all Text.isBlank).getD config.server.logLevel

end Config

end MarkupAssist
