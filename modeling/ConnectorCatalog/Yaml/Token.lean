import ConnectorCatalog.Text.Hex

/-!
# YAML tokens

The marks and texts of which a YAML document is made. Where blocks begin and end by indentation
alone, tokens say so.
-/

namespace ConnectorCatalog.Yaml

/-- A token. -/
inductive Token where
  | versionDirective (major minor : Nat)
  | tagDirective (handle : String) (start : Bytes)
  | documentStart | documentEnd
  | blockSequenceStart | blockMappingStart | blockEnd
  | flowSequenceStart | flowSequenceEnd | flowMappingStart | flowMappingEnd
  | blockEntry | flowEntry
  | key | value
  | reference (name : String)
  | anchor (name : String)
  | tag (handle : String) (suffix : Bytes)
  /-- A text, and whether it is written without quotes and block marks. -/
  | scalar (isPlain : Bool) (text : String)
deriving DecidableEq, Repr, Inhabited

end ConnectorCatalog.Yaml
