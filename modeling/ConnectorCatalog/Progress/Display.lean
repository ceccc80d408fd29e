import ConnectorCatalog.Json.Writer
import ConnectorCatalog.Progress.Event
import ConnectorCatalog.Text.Grouped

/-!
# Displaying progress

Progress is written as sentences for people, as JSON for other programs, or not at all; every event
takes one line.
-/

namespace ConnectorCatalog

/-- How progress is written. -/
inductive ProgressMode where
  | off | human | json
deriving DecidableEq, Repr

namespace ProgressEvent

/-- An event as a sentence. -/
def sentence : ProgressEvent → String
  | classified changes releases =>
    "publish  classified " ++ Text.groupDigits changes ++ " changes (" ++
      Text.groupDigits releases ++ " releases)"
  | building bucket connector (some version) =>
    "publish " ++ (ReleaseId.mk connector version).toText ++ "  building " ++ bucket.label
  | building bucket connector none =>
    "publish " ++ connector.toText ++ "  building " ++ bucket.label
  | releaseSkipped release generation =>
    "publish " ++ release.toText ++ "  skipped (" ++ generation ++ " packaging)"
  | releaseFailed release error => "publish " ++ release.toText ++ "  FAILED: " ++ error
  | submitting rows versions =>
    "publish  submitting " ++ Text.groupDigits rows ++ " rows (" ++ Text.groupDigits versions ++
      " versions)"
  | committed rows => "publish  committed " ++ Text.groupDigits rows ++ " rows"
  | rolledBack attempted deleted failed =>
    "publish  rolled back: deleted " ++ toString deleted ++ " of " ++ toString attempted ++
      " uploaded packages (" ++ toString failed ++ " failed)"

end ProgressEvent

namespace ProgressMode

/-- The mode with a name. -/
def ofLabel? : String → Option ProgressMode
  | "off" => some off
  | "human" => some human
  | "json" => some json
  | _ => none

/-- What is written for an event. -/
def display : ProgressMode → ProgressEvent → String
  | off, _ => ""
  | human, event => event.sentence ++ "\n"
  | json, event => event.toJson.compact ++ "\n"

end ProgressMode

end ConnectorCatalog
