import SyscallCensus.Log.Event
import SyscallCensus.Pattern.Parser
import SyscallCensus.Pattern.Size

/-!
# What is logged

This module formalizes which records are shown, from `SPEC_FULL.md`, Section 10.6 (Logging):
`--verbose`, the variable that overrides it, and silence where a document is asked for.

Every component has a name, and rules tell how much is shown of the components whose names begin in
a certain way; the rule with the longest beginning counts. A specification changes the rules:
`name=level` shows what is no more detailed than the level, `name` alone shows all. A level alone
holds for all components without a rule of their own. Text behind a slash is a pattern that has to
be found in what is shown.
-/

namespace SyscallCensus.Log

/-- The most that is shown: up to a level, or nothing. -/
abbrev Threshold := Option Level

/-- Whether a level is shown. -/
def Level.isShown (level : Level) : Threshold → Bool
  | some highest => level.detail ≤ highest.detail
  | none => false

/-- The name of a component in specifications. -/
def Component.name : Component → String
  | .symbols => "systract_core::analysis::symbols"
  | .reachability => "systract_core::analysis::reachability"
  | .disassembly => "systract_core::services::sources::objdump"
  | .extraction => "systract_core::services::extract"
  | .command => "systract::commands::extract"

/-- The threshold with a name, whatever its case. -/
def Threshold.ofName? (name : String) : Option Threshold :=
  match String.ofList (name.toList.map Char.toLower) with
  | "off" => some none
  | "error" => some (some .error)
  | "warn" => some (some .warn)
  | "info" => some (some .info)
  | "debug" => some (some .debug)
  | "trace" => some (some .trace)
  | _ => none

/-- How much is shown of the components whose names begin in a certain way. -/
structure Rule where
  /-- How the names begin. -/
  start : String
  /-- How much is shown. -/
  threshold : Threshold
  deriving DecidableEq, Repr

/-- What is shown of the log. -/
structure Filter where
  /-- The rules, no two of them with the same beginning. -/
  rules : List Rule
  /-- The pattern that has to be found in what is shown. -/
  pattern : Option Pattern

namespace Filter

/-- Nothing is shown. -/
def silent : Filter := ⟨[], none⟩

/-- Sets the threshold of the components whose names begin in a certain way. -/
def set (filter : Filter) (start : String) (threshold : Threshold) : Filter :=
  { filter with rules := filter.rules.filter (·.start != start) ++ [⟨start, threshold⟩] }

/-- The filter with one threshold for the whole program. -/
def uniform (threshold : Threshold) : Filter :=
  (silent.set "systract_core" threshold).set "systract" threshold

/-- The rule with the longest beginning of a name. -/
def rule? (filter : Filter) (name : String) : Option Rule :=
  (filter.rules.filter fun r => r.start.toList.isPrefixOf name.toList).foldl (fun best r =>
    match best with
    | none => some r
    | some b => if b.start.length ≤ r.start.length then some r else some b) none

/-- The threshold of a component. -/
def threshold (filter : Filter) (component : Component) : Threshold :=
  (filter.rule? component.name).bind (·.threshold)

/-- Whether an event is shown. -/
def shows (filter : Filter) (event : Event) : Bool :=
  event.level.isShown (filter.threshold event.component) &&
    filter.pattern.all fun p => p.isFoundIn event.message.toList

/-! ### Specifications -/

/-- A text without the white space around it. -/
def trimmed (text : String) : String := String.ofList (Text.trim text.toList)

/-- What is said about something that cannot be made use of. -/
def complaint (what : String) : String := "warning: invalid " ++ what ++ ", ignoring it\n"

/-- What is said about a part of a specification that means nothing. -/
def specComplaint (part : String) : String := complaint ("logging spec '" ++ part ++ "'")

/-- Reads one part of a specification: the filter behind it, and what is to be said about it. -/
def readPart (filter : Filter) (part : String) : Filter × String :=
  match part.splitOn "=" with
  | [name] =>
    match Threshold.ofName? name with
    | some threshold => (filter.set "" threshold, "")
    | none => (filter.set name (some .trace), "")
  | [name, level] =>
    let level := trimmed level
    if level == "" then (filter.set name (some .trace), "")
    else
      match Threshold.ofName? level with
      | some threshold => (filter.set name threshold, "")
      | none => (filter, specComplaint level)
  | _ => (filter, specComplaint part)

/-- Reads the parts of a specification, one after the other. -/
def readParts (filter : Filter) (parts : String) : Filter × String :=
  (((parts.splitOn ",").map trimmed).filter (· != "")).foldl (fun (filter, said) part =>
    let (filter, more) := filter.readPart part
    (filter, said ++ more)) (filter, "")

/-- Reads the pattern of a specification. -/
def readPattern (filter : Filter) (text : String) : Filter × String :=
  match Pattern.parse text.toList with
  | .ok pattern =>
    if pattern.isTooLarge then
      (filter, complaint ("regex filter - Compiled regex exceeds size limit of " ++
        toString Pattern.sizeLimit ++ " bytes."))
    else ({ filter with pattern := some pattern }, "")
  | .error e => (filter, complaint ("regex filter - " ++ e.message text.toList))

/-- Reads a specification: the filter behind it, and what is to be said about it. -/
def readSpec (filter : Filter) (spec : String) : Filter × String :=
  match spec.splitOn "/" with
  | [parts] => filter.readParts parts
  | [parts, text] =>
    let (filter, said) := filter.readParts parts
    let (filter, more) := filter.readPattern text
    (filter, said ++ more)
  | _ => (filter, complaint ("logging spec '" ++ spec ++ "' (too many '/'s)"))

end Filter

/-! ### Lines -/

/-- The line of an event. The further lines of a message are indented. -/
def Event.line (event : Event) : String :=
  let level := event.level.name
  "[" ++ level ++ String.ofList (List.replicate (5 - level.length) ' ') ++ "] " ++
    String.intercalate "\n    " (event.message.splitOn "\n") ++ "\n"

/-- The lines of the events that a filter shows. -/
def Filter.lines (filter : Filter) (events : List Event) : String :=
  String.join ((events.filter filter.shows).map Event.line)

end SyscallCensus.Log
