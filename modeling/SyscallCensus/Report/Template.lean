import SyscallCensus.Syscall
import SyscallCensus.Text.Blank

/-!
# Templates

This module formalizes the option `--template` of `SPEC_FULL.md`, Section 10.8 (CLI): "rendered once
per result", and "any other placeholder is an "invalid template" error and nothing is printed".

A template is written once for every system call. `{id}` and `{name}` stand for the number and the
label; white space around the words does not matter. A doubled brace stands for a brace, and a
backslash before `n`, `t` or a backslash for a line feed, a tab or a backslash; before any other
character, and at the end, it stands for itself.
-/

namespace SyscallCensus

/-- A part of a template. -/
inductive Segment where
  /-- Characters that stand for themselves. -/
  | literal (text : List Char)
  /-- The number of the system call. -/
  | id
  /-- The label of the system call. -/
  | name
  deriving DecidableEq, Repr

/-- A template: its parts in order. -/
structure Template where
  /-- The parts. -/
  segments : List Segment
  deriving DecidableEq, Repr

/-- Why a text is no template. -/
inductive TemplateError where
  /-- A placeholder has no closing brace. -/
  | unterminated
  /-- A placeholder is not known. -/
  | unknownPlaceholder (key : List Char)
  /-- A closing brace stands alone. -/
  | unmatched
  deriving DecidableEq, Repr

/-- The wording of a failure. -/
def TemplateError.message : TemplateError → String
  | .unterminated => "invalid template: unterminated '\x7b'"
  | .unknownPlaceholder key =>
    "invalid template: unknown placeholder '\x7b" ++ String.ofList key ++ "\x7d'"
  | .unmatched => "invalid template: unmatched '\x7d'"

namespace Template

/-- What a backslash and the character behind it stand for. -/
def escape : Char → List Char
  | 'n' => ['\n']
  | 't' => ['\t']
  | '\\' => ['\\']
  | c => ['\\', c]

/-- The placeholder with a name. -/
def placeholder? (key : List Char) : Option Segment :=
  if key = ['i', 'd'] then some .id
  else if key = ['n', 'a', 'm', 'e'] then some .name
  else none

/-- Puts characters before parts; no characters make no part. -/
def withLiteral (literal : List Char) (segments : List Segment) : List Segment :=
  if literal.isEmpty then segments else .literal literal :: segments

mutual

/-- The parts of a text, given the characters since the last placeholder. -/
def parseText (literal : List Char) : List Char → Except TemplateError (List Segment)
  | [] => .ok (withLiteral literal [])
  | ['\\'] => .ok (withLiteral (literal ++ ['\\']) [])
  | '\\' :: c :: rest => parseText (literal ++ escape c) rest
  | '{' :: '{' :: rest => parseText (literal ++ ['{']) rest
  | '}' :: '}' :: rest => parseText (literal ++ ['}']) rest
  | '{' :: rest => parseKey literal [] rest
  | '}' :: _ => .error .unmatched
  | c :: rest => parseText (literal ++ [c]) rest

/-- The parts of a text that begins inside of a placeholder, given the characters before the
placeholder and those of the placeholder so far. -/
def parseKey (literal key : List Char) : List Char → Except TemplateError (List Segment)
  | [] => .error .unterminated
  | '}' :: rest =>
    match placeholder? (Text.trim key) with
    | some segment => (parseText [] rest).map fun segments =>
      withLiteral literal (segment :: segments)
    | none => .error (.unknownPlaceholder (Text.trim key))
  | c :: rest => parseKey literal (key ++ [c]) rest

end

/-- The template that a text is. -/
def parse (source : List Char) : Except TemplateError Template :=
  (parseText [] source).map Template.mk

/-- What a part stands for. -/
def renderSegment (call : SystemCall) : Segment → String
  | .literal text => String.ofList text
  | .id => toString call.id.toNat
  | .name => call.name

/-- The template, written for each system call in turn. -/
def render (template : Template) (calls : List SystemCall) : String :=
  String.join (calls.map fun call => String.join (template.segments.map (renderSegment call)))

end Template

end SyscallCensus
