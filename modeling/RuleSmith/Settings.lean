import RuleSmith.Files.Path

namespace RuleSmith

structure Store where
  directory : String := "rules"
  sourceExtension : String := ".yar"
  compiledExtension : String := ".bin"
deriving DecidableEq, Inhabited

inductive ExternalValue
  | truth (value : Bool)
  | integer (value : Int64)
  | real (bits : UInt64)
  | text (value : String)
deriving DecidableEq, Inhabited

structure CompileOptions where
  errorOnWarning : Bool := true
  relaxedPatterns : Bool := false
  errorOnSlowPattern : Bool := false
  scope : Option String := none
  externals : List (String × ExternalValue) := []
deriving DecidableEq, Inhabited

structure Settings where
  store : Store := {}
  options : CompileOptions := {}
deriving DecidableEq, Inhabited

inductive Setting
  | directory (path : String)
  | sourceExtension (text : String)
  | compiledExtension (text : String)
  | errorOnWarning (enabled : Bool)
  | relaxedPatterns (enabled : Bool)
  | errorOnSlowPattern (enabled : Bool)
  | scope (name : String)
  | external (name : String) (value : ExternalValue)
deriving DecidableEq

/-- The settings after one change. An external variable comes behind the others, also if its name was
given before. -/
def Settings.set (settings : Settings) : Setting → Settings
  | .directory path => { settings with store := { settings.store with directory := path } }
  | .sourceExtension text =>
    { settings with store := { settings.store with sourceExtension := text } }
  | .compiledExtension text =>
    { settings with store := { settings.store with compiledExtension := text } }
  | .errorOnWarning enabled =>
    { settings with options := { settings.options with errorOnWarning := enabled } }
  | .relaxedPatterns enabled =>
    { settings with options := { settings.options with relaxedPatterns := enabled } }
  | .errorOnSlowPattern enabled =>
    { settings with options := { settings.options with errorOnSlowPattern := enabled } }
  | .scope name => { settings with options := { settings.options with scope := some name } }
  | .external name value =>
    let externals := settings.options.externals ++ [(name, value)]
    { settings with options := { settings.options with externals } }

def Settings.ofChanges (changes : List Setting) : Settings := changes.foldl Settings.set {}

def Settings.isDefault (settings : Settings) : Bool :=
  let usual : Settings := {}
  Files.sameSpelling settings.store.directory usual.store.directory
    && { settings with store := { settings.store with directory := usual.store.directory } } = usual

end RuleSmith
