set_option autoImplicit false

/-! # Configuration of discovery -/

namespace DocModel

/-- Bases of the namespace of a model, and a limit of nesting. -/
structure Config where
  /-- The name of the source is appended to it. -/
  nsUriBase : String
  /-- The first character of the name of the source is appended to it. -/
  nsPrefixBase : String
  /-- How many objects and arrays may stand inside one another; `none` is no limit. -/
  maxDepth : Option Nat
deriving DecidableEq

namespace Config

def standard : Config := ⟨"http://jsonDiscoverer/discovered/", "disco", none⟩

instance : Inhabited Config := ⟨standard⟩

/-- The namespace URI of a model discovered from this source. -/
def nsUri (config : Config) (source : String) : String := config.nsUriBase ++ source

/-- The namespace prefix of a model discovered from this source. -/
def nsPrefix (config : Config) (source : String) : String :=
  String.ofList (config.nsPrefixBase.toList ++ source.toList.take 1)

end Config

end DocModel
