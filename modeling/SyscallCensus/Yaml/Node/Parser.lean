import SyscallCensus.Text.Utf8
import SyscallCensus.Yaml.Node
import SyscallCensus.Yaml.Token.Lexer

/-!
# From tokens to nodes

A part of the YAML that settings are written in (`SPEC_FULL.md`, Section 10.7).

A recursive descent over the tokens. In the block context a node may be a block, in the flow context
only something between brackets or a scalar. Where a node may be missing, an empty plain scalar
stands for it.

A node gets its number when it begins: how many different names were given to nodes before. So a
name that is used again gets a new number, which the next new name may get as well.

The descent takes a bound on its depth and on the number of entries; both are at most the number of
tokens.
-/

namespace SyscallCensus.Yaml

/-- What is known while nodes are read. -/
structure Parsing where
  /-- The tokens that are left. -/
  tokens : List Token
  /-- What the handles of tags stand for. -/
  handles : List (List Char × Tag)
  /-- The number of each name, latest first. -/
  names : List (List Char × Nat)
  /-- How many nodes with numbers have begun. -/
  begun : Nat
  /-- The nodes with numbers that are complete. -/
  anchored : List Anchored

/-- A reader of nodes. -/
abbrev Parser := StateT Parsing Option

namespace Parser

/-- The next token. -/
def peek : Parser Token := do
  match (← get).tokens with
  | t :: _ => return t
  | [] => failure

/-- Moves behind the next token. -/
def skip : Parser Unit := modify fun p => { p with tokens := p.tokens.drop 1 }

/-- Whether the next token is a given one; it is taken if so. -/
def accept (t : Token) : Parser Bool := do
  if (← peek) == t then
    skip
    return true
  else return false

/-- The empty plain scalar. -/
def emptyScalar : Node := .scalar none .plain ""

/-! ### Properties -/

/-- Takes the name of a node, if there is one. -/
def anchor? : Parser (Option (List Char)) := do
  match ← peek with
  | .anchor name => do
    skip
    return some name
  | _ => return none

/-- Takes the tag of a node, if there is one. -/
def tag? : Parser (Option (List Char × Tag)) := do
  match ← peek with
  | .tag handle suffix => do
    skip
    return some (handle, suffix)
  | _ => return none

/-- Takes the name and the tag of a node in either order. -/
def properties : Parser (Option (List Char) × Option (List Char × Tag)) := do
  match ← anchor? with
  | some name => return (some name, ← tag?)
  | none => do
    let tag ← tag?
    return (← anchor?, tag)

/-- What a tag stands for. Its handle has to be known, unless it has none. -/
def expandTag (handle : List Char) (suffix : Tag) : Parser Tag := do
  if handle.isEmpty then return suffix
  else
    match (← get).handles.lookup handle with
    | some expansion => return expansion ++ suffix
    | none => failure

/-- Gives the next number to a node that begins. -/
def beginAnchored (name : List Char) : Parser (Nat × Nat) := do
  let p ← get
  let number := (p.names.map (·.1)).eraseDups.length
  set { p with names := (name, number) :: p.names, begun := p.begun + 1 }
  return (p.begun, number)

/-- Reads a node and keeps it under the number that its name got. -/
def withAnchor (name : Option (List Char)) (read : Parser Node) : Parser Node := do
  match name with
  | none => read
  | some name => do
    let (order, number) ← beginAnchored name
    let node ← read
    modify fun p => { p with anchored := ⟨order, number, node⟩ :: p.anchored }
    return node

/-! ### Nodes -/

/-- Whether a token cannot begin an entry of a block sequence. -/
def endsBlockEntry (t : Token) : Bool := t == .blockEntry || t == .blockEnd

/-- Whether a token cannot begin an entry of a sequence that is not indented. -/
def endsIndentlessEntry (t : Token) : Bool :=
  t == .blockEntry || t == .key || t == .value || t == .blockEnd

/-- Whether a token cannot begin a key or a value of a block mapping. -/
def endsBlockPair (t : Token) : Bool := t == .key || t == .value || t == .blockEnd

/-- Whether a token cannot begin a key between brackets that end in a given way. -/
def endsFlowKey (closing t : Token) : Bool := t == .value || t == .flowEntry || t == closing

/-- Whether a token cannot begin a value between brackets that end in a given way. -/
def endsFlowValue (closing t : Token) : Bool := t == .flowEntry || t == closing

mutual

/-- A node. `block` allows blocks; `indentless` allows a sequence whose dashes are not indented. -/
def node (block indentless : Bool) : (bound : Nat) → Parser Node
  | 0 => failure
  | bound + 1 => do
    match ← peek with
    | .alias name => do
      skip
      match (← get).names.lookup name with
      | some number => return .alias number
      | none => failure
    | _ => do
      let (name, tag) ← properties
      let tag ← tag.mapM fun (handle, suffix) => expandTag handle suffix
      withAnchor name (content block indentless (name.isSome || tag.isSome) tag bound)

/-- A node behind its properties. -/
def content (block indentless hasProperties : Bool) (tag : Option Tag) : (bound : Nat) → Parser Node
  | 0 => failure
  | bound + 1 => do
    match ← peek with
    | .blockEntry => if indentless then .sequence <$> indentlessEntries bound else unlessMissing
    | .scalar style text => do
      skip
      return .scalar tag style (String.ofList text)
    | .flowSequenceStart => do
      skip
      .sequence <$> flowItems true bound
    | .flowMappingStart => do
      skip
      .mapping <$> flowPairs true bound
    | .blockSequenceStart =>
      if block then do
        skip
        .sequence <$> blockEntries bound
      else unlessMissing
    | .blockMappingStart =>
      if block then do
        skip
        .mapping <$> blockPairs bound
      else unlessMissing
    | _ => unlessMissing
where
  /-- A node of which only the properties are written is an empty scalar. -/
  unlessMissing : Parser Node :=
    if hasProperties then return .scalar tag .plain "" else failure

/-- The node that an optional part of a collection holds. -/
def orEmpty (ends : Token → Bool) (block indentless : Bool) : (bound : Nat) → Parser Node
  | 0 => failure
  | bound + 1 => do if ends (← peek) then return emptyScalar else node block indentless bound

/-- The entries of a block sequence up to its end. -/
def blockEntries : (bound : Nat) → Parser (List Node)
  | 0 => failure
  | bound + 1 => do
    if ← accept .blockEntry then
      let item ← orEmpty endsBlockEntry true false bound
      return item :: (← blockEntries bound)
    else if ← accept .blockEnd then return []
    else failure

/-- The entries of a sequence whose dashes are not indented. -/
def indentlessEntries : (bound : Nat) → Parser (List Node)
  | 0 => failure
  | bound + 1 => do
    if ← accept .blockEntry then
      let item ← orEmpty endsIndentlessEntry true false bound
      return item :: (← indentlessEntries bound)
    else return []

/-- The pairs of a block mapping up to its end. A key may lack its value. -/
def blockPairs : (bound : Nat) → Parser (List (Node × Node))
  | 0 => failure
  | bound + 1 => do
    if ← accept .key then
      let k ← orEmpty endsBlockPair true true bound
      let v ← if ← accept .value then orEmpty endsBlockPair true true bound else pure emptyScalar
      return (k, v) :: (← blockPairs bound)
    else if ← accept .blockEnd then return []
    else failure

/-- The entries between square brackets up to the closing one. -/
def flowItems (first : Bool) : (bound : Nat) → Parser (List Node)
  | 0 => failure
  | bound + 1 => do
    if ← accept .flowSequenceEnd then return []
    else if first then flowItemsFrom bound
    else if ← accept .flowEntry then
      if ← accept .flowSequenceEnd then return [] else flowItemsFrom bound
    else failure

/-- An entry between square brackets and those behind it. An entry with a key is a mapping of one
pair. -/
def flowItemsFrom : (bound : Nat) → Parser (List Node)
  | 0 => failure
  | bound + 1 => do
    let item ← if ← accept .key then singlePair bound else node false false bound
    return item :: (← flowItems false bound)

/-- A mapping of one pair between square brackets, behind its key mark. Where the key is missing,
the token in its place is passed over. -/
def singlePair : (bound : Nat) → Parser Node
  | 0 => failure
  | bound + 1 => do
    let k ←
      if endsFlowKey .flowSequenceEnd (← peek) then do
        skip
        pure emptyScalar
      else node false false bound
    let v ← if ← accept .value then orEmpty (endsFlowValue .flowSequenceEnd) false false bound
      else pure emptyScalar
    return .mapping [(k, v)]

/-- The pairs between braces up to the closing one. -/
def flowPairs (first : Bool) : (bound : Nat) → Parser (List (Node × Node))
  | 0 => failure
  | bound + 1 => do
    if ← accept .flowMappingEnd then return []
    else if first then flowPairsFrom bound
    else if ← accept .flowEntry then
      if ← accept .flowMappingEnd then return [] else flowPairsFrom bound
    else failure

/-- A pair between braces and those behind it. -/
def flowPairsFrom : (bound : Nat) → Parser (List (Node × Node))
  | 0 => failure
  | bound + 1 => do
    if ← accept .key then
      let k ← orEmpty (endsFlowKey .flowMappingEnd) false false bound
      let v ← if ← accept .value then orEmpty (endsFlowValue .flowMappingEnd) false false bound
        else pure emptyScalar
      return (k, v) :: (← flowPairs false bound)
    else
      let k ← node false false bound
      return (k, emptyScalar) :: (← flowPairs false bound)

end

/-! ### Documents -/

/-- The handles that need no directive. -/
def defaultHandles : List (List Char × Tag) :=
  [(['!'], Text.Utf8.encode "!"), (['!', '!'], Text.Utf8.encode "tag:yaml.org,2002:")]

/-- Takes the directives before a document: at most one version, which is 1.1 or 1.2, and at most
one expansion of each handle. -/
def directives : (bound : Nat) → (versioned : Bool) → (handles : List (List Char × Tag)) →
    Parser Unit
  | 0, _, _ => failure
  | bound + 1, versioned, handles => do
    match ← peek with
    | .versionDirective major minor =>
      if versioned || major != 1 || !(minor == 1 || minor == 2) then failure
      else do
        skip
        directives bound true handles
    | .tagDirective handle expansion =>
      if (handles.lookup handle).isSome then failure
      else do
        skip
        directives bound versioned ((handle, expansion) :: handles)
    | _ => modify fun p => { p with handles := handles ++ defaultHandles }

/-- Whether a token stands between documents. -/
def isBetweenDocuments : Token → Bool
  | .versionDirective .. | .tagDirective .. | .documentStart | .documentEnd | .streamEnd => true
  | _ => false

/-- Takes the marks behind a document. -/
def skipDocumentEnds : (bound : Nat) → Parser Unit
  | 0 => return
  | bound + 1 => do if ← accept .documentEnd then skipDocumentEnds bound

/-- The only document of a text. -/
def document (bound : Nat) : Parser (Option Node) := do
  match ← peek with
  | .streamEnd => return none
  | .versionDirective .. | .tagDirective .. | .documentStart => do
    directives bound false []
    if ← accept .documentStart then
      let root ← orEmpty isBetweenDocuments true false bound
      return some root
    else failure
  | _ => do
    modify fun p => { p with handles := defaultHandles }
    return some (← node true false bound)

end Parser

/-- The document that a text holds. A text with more than one document has none. -/
def parse? (text : List Char) : Option Document := do
  let tokens ← tokens? text
  let bound := 4 * tokens.length + 4
  let read : Parser (Option Node) := do
    let root ← Parser.document bound
    Parser.skipDocumentEnds bound
    if ← Parser.accept .streamEnd then return root else failure
  let (root, final) ← read.run ⟨tokens, [], [], 0, []⟩
  return ⟨root, final.anchored⟩

end SyscallCensus.Yaml
