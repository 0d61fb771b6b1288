import Diagnostics.Config.Overlay
import Diagnostics.Failure
import Diagnostics.Toml.Document

/-!
# Configuration files

The settings of a configuration file stand in its table `render`; without that table it has none.
-/

namespace Diagnostics

def configFileName : String := "skein.toml"

inductive ConfigFileError where
  | invalid (path complaint : String)
  | notTable (path : String)
  | settings (cause : ConfigError)
  deriving Repr

def ConfigFileError.message : ConfigFileError → String
  | .invalid path complaint => path ++ ": " ++ complaint
  | .notTable path => path ++ ": [render] must be a table"
  | .settings cause => cause.message

namespace Config

variable [Platform]

def ofEntries (entries : Toml.Table) : Except (Failure ConfigFileError) Config :=
  (ofSettings (Toml.Table.toSettings entries)).mapError fun cause => cause.raised.map .settings

def ofDocument (path : String) (document : Toml.Table) : Except (Failure ConfigFileError) Config :=
  match Keyed.find? document "render" with
  | none => ofEntries []
  | some (.table entries) => ofEntries entries
  | some _ => .error (.reported (.notTable path))

/-- Reads the bytes of a configuration file; `path` only names it. -/
def ofFile (path : String) (bytes : List UInt8) : Except (Failure ConfigFileError) Config :=
  match Toml.read bytes with
  | .ok document => ofDocument path document
  | .error cause => .error (cause.failure (.invalid path (Platform.documentComplaint bytes)))

end Config

end Diagnostics
