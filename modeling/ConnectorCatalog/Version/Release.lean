import ConnectorCatalog.Version.Order

/-!
# Release identifiers

A release is named by a semantic version behind the letter `v`.

* `ReleaseVersion.parse` reads such a name and says what is wrong with any other.
* `ReleaseVersion.compare` orders all texts: names of releases by version, then every other text
  by character.
* `latestStable?` is the highest release without pre-release of a list.
-/

namespace ConnectorCatalog.ReleaseVersion

/-- Why a text names no release. -/
inductive Fault where
  | notPrefixed (text : String)
  | malformed (text : String) (fault : Version.Fault)
deriving DecidableEq, Repr

/-- The messages of a fault, outermost first. -/
def Fault.causes : Fault → List String
  | notPrefixed text => ["version must start with 'v': but got " ++ text]
  | malformed text fault => ["invalid semantic version: " ++ text, fault.message]

/-- The text of a fault. -/
def Fault.message (fault : Fault) : String := Text.joinTexts ": " fault.causes

/-- The version that the name of a release stands for. -/
def parse (text : String) : Except Fault Version :=
  match text.toList with
  | 'v' :: rest =>
    match Version.parseChars rest with
    | .ok v => .ok v
    | .error fault => .error (.malformed text fault)
  | _ => .error (.notPrefixed text)

/-- The version that the name of a release stands for, if it is one. -/
def parse? (text : String) : Option Version := (parse text).toOption

/-- All texts: names of releases by version, then all others; ties by character. -/
def compare (a b : String) : Ordering :=
  let byVersion := match parse? a, parse? b with
    | some v, some w => Version.compare v w
    | some _, none => .lt
    | none, some _ => .gt
    | none, none => .eq
  byVersion.then (Text.compareTexts a b)

/-- The names of stable releases in a list, with their versions. -/
def stable (texts : List String) : List (String × Version) :=
  texts.filterMap fun text =>
    match parse? text with
    | some v => if v.pre = [] then some (text, v) else none
    | none => none

/-- The later of two candidates for the highest version; of equals the second. -/
def higher (a b : String × Version) : String × Version :=
  if Version.compare a.2 b.2 = .gt then a else b

/-- The highest stable release named in a list, the last of them among equals. -/
def latestStable? (texts : List String) : Option (String × Version) :=
  match stable texts with
  | [] => none
  | first :: rest => some (rest.foldl higher first)

end ConnectorCatalog.ReleaseVersion
