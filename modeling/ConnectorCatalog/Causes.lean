import ConnectorCatalog.Text.Segment

/-!
# Failures as chains of messages

What goes wrong outside of the catalogue is known by its messages only: the outermost says what was
tried, each further one why it failed.
-/

namespace ConnectorCatalog

/-- The messages of a failure, outermost first. -/
abbrev Causes := List String

/-- A failure on one line. -/
def Causes.text (causes : Causes) : String := Text.joinTexts ": " causes

end ConnectorCatalog
