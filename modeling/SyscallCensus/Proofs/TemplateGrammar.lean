import SyscallCensus.Proofs.Recognition
import SyscallCensus.Report.Template

/-!
# The grammar of templates

About the option `--template` of `SPEC_FULL.md`, Section 10.8 (CLI).

The parser of templates goes through a text with one character of lookahead and a literal that it
has not finished. Here the same language is given by a grammar: a text is a sequence of tokens, and
a backslash may stand at its end (`Wording`). Every token has a spelling and a meaning.

* `Wording.spelling_injective` — no token is the beginning of another, so that a text has at most
  one wording.
* `Wording.parse_spelling` — the parser takes each wording, and makes of it the parts of its tokens,
  where literals that stand side by side become one (`gather`).
* `exists_wording` — the parser takes nothing else: what it has taken begins with a token, and it
  has taken the rest.
-/

namespace SyscallCensus

/-! ### White space at the ends of a text -/

namespace Text

theorem exists_eq_trim (text : List Char) :
    ∃ before after, text = before ++ (trim text ++ after) ∧ before.all isBlank = true ∧
      after.all isBlank = true := by
  have hreverse :=
    List.takeWhile_append_dropWhile (p := isBlank) (l := (text.dropWhile isBlank).reverse)
  refine ⟨text.takeWhile isBlank, ((text.dropWhile isBlank).reverse.takeWhile isBlank).reverse,
    ?_, ?_, ?_⟩
  · rw [trim, ← List.reverse_append, hreverse, List.reverse_reverse,
      List.takeWhile_append_dropWhile]
  · exact List.all_takeWhile
  · rw [List.all_reverse]
    exact List.all_takeWhile

theorem trim_append {before word after : List Char} (hbefore : before.all isBlank = true)
    (hafter : after.all isBlank = true) (hne : word ≠ []) (hhead : word.head?.any isBlank = false)
    (hlast : word.getLast?.any isBlank = false) : trim (before ++ (word ++ after)) = word := by
  have hfirst : (word ++ after).head?.any isBlank = false := by
    obtain ⟨c, rest, rfl⟩ := List.exists_cons_of_ne_nil hne
    exact hhead
  have hdrop : (before ++ (word ++ after)).dropWhile isBlank = word ++ after :=
    Listing.dropWhile_run (List.all_eq_true.1 hbefore) hfirst
  have hdrop' : (after.reverse ++ word.reverse).dropWhile isBlank = word.reverse := by
    refine Listing.dropWhile_run
      (fun c hc => List.all_eq_true.1 hafter c (List.mem_reverse.1 hc)) ?_
    rw [List.head?_reverse]
    exact hlast
  rw [trim, hdrop, List.reverse_append, hdrop', List.reverse_reverse]

end Text

namespace Template

/-! ### Tokens -/

/-- A placeholder's word. -/
inductive Field where
  /-- The number of the system call. -/
  | id
  /-- The label of the system call. -/
  | name
  deriving DecidableEq, Repr

namespace Field

/-- How a field is written. -/
def word : Field → List Char
  | .id => ['i', 'd']
  | .name => ['n', 'a', 'm', 'e']

/-- The part of a template that a field is. -/
def segment : Field → Segment
  | .id => .id
  | .name => .name

/-- What a field stands for. -/
def meaning (call : SystemCall) : Field → String
  | .id => toString call.id.toNat
  | .name => call.name

theorem word_injective {a b : Field} (h : a.word = b.word) : a = b :=
  match a, b, h with
  | .id, .id, _ => rfl
  | .name, .name, _ => rfl

theorem mem_word (field : Field) {c : Char} (h : c ∈ field.word) : c ≠ '{' ∧ c ≠ '}' := by
  have hword : (field.word.all fun c => c != '{' && c != '}') = true := by cases field <;> rfl
  simpa using List.all_eq_true.1 hword c h

theorem word_bounds (field : Field) :
    field.word ≠ [] ∧ field.word.head?.any Text.isBlank = false ∧
      field.word.getLast?.any Text.isBlank = false := by
  cases field <;> decide

theorem placeholder?_eq_some_iff {key : List Char} {segment : Segment} :
    placeholder? key = some segment ↔
      ∃ field : Field, key = field.word ∧ segment = field.segment := by
  unfold placeholder?
  constructor
  · intro h
    split at h
    · rename_i hkey
      cases h
      exact ⟨.id, hkey, rfl⟩
    · rw [Option.ite_none_right_eq_some, Option.some.injEq] at h
      exact ⟨.name, h.1, h.2.symm⟩
  · rintro ⟨field, rfl, rfl⟩
    cases field <;> rfl

end Field

/-- White space, which may be empty. -/
abbrev Blanks := {text : List Char // text.all Text.isBlank = true}

/-- What stands between the braces of a placeholder. -/
structure Placeholder where
  /-- White space before the word. -/
  before : Blanks
  /-- The word. -/
  field : Field
  /-- White space behind the word. -/
  after : Blanks
  deriving DecidableEq

/-- A character that stands for itself. -/
abbrev PlainChar := {c : Char // c ≠ '\\' ∧ c ≠ '{' ∧ c ≠ '}'}

/-- **The tokens of a template.** -/
inductive Token where
  /-- A backslash and the character behind it. -/
  | escaped (c : Char)
  /-- A doubled opening brace. -/
  | opening
  /-- A doubled closing brace. -/
  | closing
  /-- A word between braces. -/
  | placeholder (p : Placeholder)
  /-- Any other character. -/
  | plain (c : PlainChar)
  deriving DecidableEq

/-- The text between the braces of a placeholder. -/
def Placeholder.interior (p : Placeholder) : List Char := p.before.1 ++ (p.field.word ++ p.after.1)

namespace Token

/-- How a token is written. -/
def spelling : Token → List Char
  | .escaped c => ['\\', c]
  | .opening => ['{', '{']
  | .closing => ['}', '}']
  | .placeholder p => '{' :: (p.interior ++ ['}'])
  | .plain c => [c.1]

/-- What a token stands for. -/
def meaning (call : SystemCall) : Token → String
  | .escaped c =>
    if c = 'n' then "\n" else if c = 't' then "\t" else if c = '\\' then "\\"
    else String.ofList ['\\', c]
  | .opening => "\x7b"
  | .closing => "\x7d"
  | .placeholder p => p.field.meaning call
  | .plain c => String.ofList [c.1]

/-- The part of a template that a token is. -/
def part : Token → Segment
  | .escaped c => .literal (escape c)
  | .opening => .literal ['{']
  | .closing => .literal ['}']
  | .placeholder p => p.field.segment
  | .plain c => .literal [c.1]

theorem renderSegment_part (call : SystemCall) (token : Token) :
    renderSegment call token.part = token.meaning call := by
  cases token with
  | escaped c =>
    simp only [part, renderSegment, meaning]
    unfold escape
    split
    · rfl
    · rfl
    · rfl
    · rename_i hn ht hb
      rw [if_neg hn, if_neg ht, if_neg hb]
  | opening => rfl
  | closing => rfl
  | placeholder p =>
    obtain ⟨before, field, after⟩ := p
    cases field <;> rfl
  | plain c => rfl

end Token

/-- **The wording of a template**: its tokens in order, and whether a backslash stands behind
them. -/
structure Wording where
  /-- The tokens. -/
  tokens : List Token
  /-- Whether a backslash stands at the end. -/
  trailing : Bool

namespace Wording

/-- The backslash at the end, if there is one. -/
def ending (trailing : Bool) : List Char := if trailing then ['\\'] else []

/-- The text of a wording. -/
def spelling (w : Wording) : List Char := w.tokens.flatMap Token.spelling ++ ending w.trailing

/-- What a wording stands for: the backslash at the end stands for itself. -/
def meaning (w : Wording) (call : SystemCall) : String :=
  String.join (w.tokens.map (Token.meaning call)) ++ String.ofList (ending w.trailing)

end Wording

/-! ### A text has one wording -/

namespace Placeholder

variable {p q : Placeholder}

theorem mem_interior {c : Char} (h : c ∈ p.interior) : c ≠ '{' ∧ c ≠ '}' := by
  have hblank {text : Blanks} (hc : c ∈ text.1) : c ≠ '{' ∧ c ≠ '}' := by
    have hisBlank := List.all_eq_true.1 text.2 c hc
    constructor <;> rintro rfl <;> exact absurd hisBlank (by decide)
  rw [interior, List.mem_append, List.mem_append] at h
  rcases h with h | h | h
  · exact hblank h
  · exact p.field.mem_word h
  · exact hblank h

theorem interior_ne_nil : p.interior ≠ [] := by
  simp [interior, p.field.word_bounds.1]

theorem trim_interior : Text.trim p.interior = p.field.word := by
  obtain ⟨hne, hhead, hlast⟩ := p.field.word_bounds
  exact Text.trim_append p.before.2 p.after.2 hne hhead hlast

theorem takeWhile_interior : p.interior.takeWhile Text.isBlank = p.before.1 := by
  obtain ⟨hne, hhead, -⟩ := p.field.word_bounds
  refine Listing.takeWhile_run (List.all_eq_true.1 p.before.2) ?_
  obtain ⟨c, rest, hword⟩ := List.exists_cons_of_ne_nil hne
  rw [hword] at hhead ⊢
  exact hhead

theorem interior_injective (h : p.interior = q.interior) : p = q := by
  have hfield : p.field = q.field :=
    Field.word_injective (by rw [← trim_interior, ← trim_interior, h])
  have hbefore : p.before.1 = q.before.1 := by rw [← takeWhile_interior, ← takeWhile_interior, h]
  have hafter : p.after.1 = q.after.1 := by
    rw [interior, interior, hbefore, hfield, List.append_cancel_left_eq,
      List.append_cancel_left_eq] at h
    exact h
  cases p
  cases q
  rw [mk.injEq]
  exact ⟨Subtype.ext hbefore, hfield, Subtype.ext hafter⟩

/-- The character behind the opening brace of a placeholder is no brace. -/
theorem interior_append_ne (rest more : List Char) : p.interior ++ rest ≠ '{' :: more := by
  intro h
  obtain ⟨c, interior, hinterior⟩ := List.exists_cons_of_ne_nil interior_ne_nil
  rw [hinterior, List.cons_append, List.cons.injEq] at h
  exact (mem_interior (hinterior ▸ List.mem_cons_self)).1 h.1

/-- A placeholder ends at the first closing brace. -/
theorem interior_append_inj {rest rest' : List Char}
    (h : p.interior ++ '}' :: rest = q.interior ++ '}' :: rest') : p = q ∧ rest = rest' := by
  have htake (p : Placeholder) (rest : List Char) :
      (p.interior ++ '}' :: rest).takeWhile (fun c => c != '}') = p.interior :=
    Listing.takeWhile_run (fun c hc => bne_iff_ne.2 (mem_interior hc).2) rfl
  have hinterior : p.interior = q.interior := by rw [← htake p rest, h, htake]
  rw [hinterior, List.append_cancel_left_eq, List.cons.injEq] at h
  exact ⟨interior_injective hinterior, h.2⟩

end Placeholder

namespace Token

theorem placeholder_append (p : Placeholder) (rest : List Char) :
    spelling (.placeholder p) ++ rest = '{' :: (p.interior ++ '}' :: rest) := by
  rw [spelling, List.cons_append, List.append_assoc, List.singleton_append]

/-- **No token is the beginning of another**, so that what stands at the beginning of a text is one
token at most. -/
theorem spelling_append_inj {a b : Token} {rest rest' : List Char}
    (h : a.spelling ++ rest = b.spelling ++ rest') : a = b ∧ rest = rest' := by
  -- The first character tells the tokens apart, except that an opening brace begins two kinds of
  -- them.
  cases a with
  | escaped c => cases b with
    | escaped d => simpa [spelling] using h
    | plain d => exact absurd (List.cons.inj h).1.symm d.2.1
    | _ => simp [spelling] at h
  | opening => cases b with
    | opening => simpa [spelling] using h
    | placeholder q =>
      rw [placeholder_append] at h
      exact absurd (List.cons.inj h).2.symm (Placeholder.interior_append_ne _ _)
    | plain d => exact absurd (List.cons.inj h).1.symm d.2.2.1
    | _ => simp [spelling] at h
  | closing => cases b with
    | closing => simpa [spelling] using h
    | plain d => exact absurd (List.cons.inj h).1.symm d.2.2.2
    | _ => simp [spelling] at h
  | placeholder p => cases b with
    | opening =>
      rw [placeholder_append] at h
      exact absurd (List.cons.inj h).2 (Placeholder.interior_append_ne _ _)
    | placeholder q =>
      rw [placeholder_append, placeholder_append] at h
      obtain ⟨rfl, hrest⟩ := Placeholder.interior_append_inj (List.cons.inj h).2
      exact ⟨rfl, hrest⟩
    | plain d => exact absurd (List.cons.inj h).1.symm d.2.2.1
    | _ => simp [spelling] at h
  | plain c => cases b with
    | escaped d => exact absurd (List.cons.inj h).1 c.2.1
    | opening => exact absurd (List.cons.inj h).1 c.2.2.1
    | closing => exact absurd (List.cons.inj h).1 c.2.2.2
    | placeholder q => exact absurd (List.cons.inj h).1 c.2.2.1
    | plain d =>
      obtain ⟨hc, hrest⟩ := List.cons.inj h
      exact ⟨congrArg plain (Subtype.ext hc), hrest⟩

theorem length_spelling_pos (token : Token) : 0 < token.spelling.length := by
  cases token <;> exact Nat.succ_pos _

/-- A backslash at the end of a text begins no token. -/
theorem spelling_append_ne_ending (token : Token) (rest : List Char) (trailing : Bool) :
    token.spelling ++ rest ≠ Wording.ending trailing := by
  intro h
  cases trailing with
  | false => cases token <;> cases h
  | true => cases token with
    | plain c => exact absurd (List.cons.inj h).1 c.2.1
    | _ => simp [spelling, Wording.ending] at h

end Token

namespace Wording

theorem ending_injective {a b : Bool} (h : ending a = ending b) : a = b :=
  match a, b, h with
  | true, true, _ => rfl
  | false, false, _ => rfl

/-- **A text has one wording** at most. -/
theorem spelling_injective : Function.Injective spelling := by
  rintro ⟨tokens, trailing⟩ ⟨tokens', trailing'⟩ h
  unfold spelling at h
  dsimp only at h
  induction tokens generalizing tokens' with
  | nil =>
    cases tokens' with
    | nil => rw [ending_injective h]
    | cons token tokens' =>
      rw [List.flatMap_cons, List.append_assoc] at h
      exact absurd h.symm (token.spelling_append_ne_ending _ trailing)
  | cons token tokens ih =>
    rw [List.flatMap_cons, List.append_assoc] at h
    cases tokens' with
    | nil => exact absurd h (token.spelling_append_ne_ending _ trailing')
    | cons token' tokens' =>
      rw [List.flatMap_cons, List.append_assoc] at h
      obtain ⟨rfl, hrest⟩ := Token.spelling_append_inj h
      obtain ⟨rfl, rfl⟩ := (mk.injEq ..).mp (ih tokens' hrest)
      rfl

end Wording

/-! ### The parser takes each wording -/

/-- The parts of a template, given the characters since the last placeholder: literals that stand
side by side become one, and those without characters none. -/
def gather (literal : List Char) : List Segment → List Segment
  | [] => withLiteral literal []
  | .literal text :: parts => gather (literal ++ text) parts
  | field :: parts => withLiteral literal (field :: gather [] parts)

theorem literal_or_field (part : Segment) :
    (∃ text, part = .literal text) ∨ ∃ field : Field, part = field.segment := by
  cases part with
  | literal text => exact .inl ⟨text, rfl⟩
  | id => exact .inr ⟨.id, rfl⟩
  | name => exact .inr ⟨.name, rfl⟩

theorem gather_field (literal : List Char) (field : Field) (parts : List Segment) :
    gather literal (field.segment :: parts) =
      withLiteral literal (field.segment :: gather [] parts) := by
  cases field <;> rfl

theorem Token.literal_or_placeholder (token : Token) :
    (∃ text, token.part = .literal text) ∨ ∃ p, token = .placeholder p := by
  cases token with
  | placeholder p => exact .inr ⟨p, rfl⟩
  | _ => exact .inl ⟨_, rfl⟩

theorem parseText_plain {c : Char} (hbackslash : c ≠ '\\') (hopening : c ≠ '{') (hclosing : c ≠ '}')
    (literal rest : List Char) :
    parseText literal (c :: rest) = parseText (literal ++ [c]) rest := by
  simp [parseText, hbackslash, hopening, hclosing]

/-- The characters that a token stands for are added to those that belong to no part yet. -/
theorem parseText_token {token : Token} {text : List Char} (h : token.part = .literal text)
    (literal rest : List Char) :
    parseText literal (token.spelling ++ rest) = parseText (literal ++ text) rest := by
  cases token with
  | escaped c =>
    cases h
    show parseText literal ('\\' :: c :: rest) = _
    rw [parseText]
  | opening =>
    cases h
    show parseText literal ('{' :: '{' :: rest) = _
    rw [parseText]
  | closing =>
    cases h
    show parseText literal ('}' :: '}' :: rest) = _
    rw [parseText]
  | placeholder p =>
    obtain ⟨before, field, after⟩ := p
    cases field <;> cases h
  | plain c =>
    cases h
    exact parseText_plain c.2.1 c.2.2.1 c.2.2.2 literal rest

theorem parseKey_append {more : List Char} (h : ∀ c ∈ more, c ≠ '}')
    (literal key rest : List Char) :
    parseKey literal key (more ++ rest) = parseKey literal (key ++ more) rest := by
  induction more generalizing key with
  | nil => rw [List.append_nil, List.nil_append]
  | cons c more ih =>
    rw [List.forall_mem_cons] at h
    rw [List.cons_append, parseKey, ih h.2, List.append_assoc, List.singleton_append]
    exact h.1

theorem parseKey_closing {key : List Char} {field : Field} (h : Text.trim key = field.word)
    (literal rest : List Char) : parseKey literal key ('}' :: rest) =
      (parseText [] rest).map fun segments => withLiteral literal (field.segment :: segments) := by
  have hfield : placeholder? (Text.trim key) = some field.segment :=
    Field.placeholder?_eq_some_iff.2 ⟨field, h, rfl⟩
  rw [parseKey, hfield]

/-- A placeholder is read up to its closing brace. -/
theorem parseText_placeholder (literal : List Char) (p : Placeholder) (rest : List Char) :
    parseText literal (Token.spelling (.placeholder p) ++ rest) =
      (parseText [] rest).map fun segments =>
        withLiteral literal (p.field.segment :: segments) := by
  rw [Token.placeholder_append, parseText,
    parseKey_append fun c hc => (Placeholder.mem_interior hc).2]
  · exact parseKey_closing Placeholder.trim_interior literal rest
  · exact fun more => Placeholder.interior_append_ne _ more

namespace Wording

/-- The parts that the tokens of a wording are. -/
def parts (w : Wording) : List Segment :=
  w.tokens.map Token.part ++ if w.trailing then [.literal ['\\']] else []

/-- **The parser takes each wording**, also behind characters that belong to no part yet. -/
theorem parseText_spelling (w : Wording) (literal : List Char) :
    parseText literal w.spelling = .ok (gather literal w.parts) := by
  obtain ⟨tokens, trailing⟩ := w
  unfold spelling parts
  dsimp only
  induction tokens generalizing literal with
  | nil => cases trailing <;> simp [ending, parseText, gather]
  | cons token tokens ih =>
    rw [List.flatMap_cons, List.append_assoc, List.map_cons, List.cons_append]
    rcases token.literal_or_placeholder with ⟨text, htext⟩ | ⟨p, rfl⟩
    · rw [parseText_token htext, ih, htext, gather]
    · rw [parseText_placeholder, ih, Token.part, gather_field]
      rfl

theorem parse_spelling (w : Wording) : parse w.spelling = .ok ⟨gather [] w.parts⟩ := by
  rw [parse, parseText_spelling]
  rfl

end Wording

/-! ### The parser takes nothing else -/

theorem exists_of_map_eq_ok {α β : Type} {result : Except TemplateError α} {f : α → β} {b : β}
    (h : result.map f = .ok b) : ∃ a, result = .ok a ∧ f a = b := by
  cases result with
  | error e => cases h
  | ok a => exact ⟨a, rfl, Except.ok.inj h⟩

/-- What is taken within a placeholder goes on to a closing brace, and has one of the two words. -/
theorem exists_of_parseKey {literal key source : List Char} {segments : List Segment}
    (h : parseKey literal key source = .ok segments) :
    ∃ more rest, source = more ++ '}' :: rest ∧
      (∃ field : Field, Text.trim (key ++ more) = field.word) ∧
      ∃ others, parseText [] rest = .ok others := by
  induction source generalizing key with
  | nil => cases h
  | cons c source ih =>
    by_cases hc : c = '}'
    · subst hc
      rw [parseKey] at h
      split at h
      · rename_i segment hsegment
        obtain ⟨field, hfield, -⟩ := Field.placeholder?_eq_some_iff.1 hsegment
        obtain ⟨others, hothers, -⟩ := exists_of_map_eq_ok h
        exact ⟨[], source, rfl, ⟨field, by rw [List.append_nil]; exact hfield⟩, others, hothers⟩
      · cases h
    · rw [parseKey] at h
      · obtain ⟨more, rest, rfl, hword, hrest⟩ := ih h
        rw [List.append_assoc] at hword
        exact ⟨c :: more, rest, rfl, hword, hrest⟩
      · exact hc

/-- The word of a placeholder with the white space around it. -/
theorem exists_placeholder {key : List Char} {field : Field} (h : Text.trim key = field.word) :
    ∃ p : Placeholder, p.interior = key := by
  obtain ⟨before, after, hkey, hbefore, hafter⟩ := Text.exists_eq_trim key
  refine ⟨⟨⟨before, hbefore⟩, field, ⟨after, hafter⟩⟩, ?_⟩
  rw [Placeholder.interior, ← h, ← hkey]

/-- **What is taken begins with a token**, and what follows the token is taken as well. -/
theorem exists_token {literal source : List Char} {segments : List Segment}
    (h : parseText literal source = .ok segments) :
    (∃ trailing, source = Wording.ending trailing) ∨
      ∃ token rest literal' segments',
        source = Token.spelling token ++ rest ∧ parseText literal' rest = .ok segments' := by
  -- The cases of the parser, in its order.
  unfold parseText at h
  split at h
  · exact .inl ⟨false, rfl⟩
  · exact .inl ⟨true, rfl⟩
  · rename_i c rest
    exact .inr ⟨.escaped c, rest, _, _, rfl, h⟩
  · rename_i rest
    exact .inr ⟨.opening, rest, _, _, rfl, h⟩
  · rename_i rest
    exact .inr ⟨.closing, rest, _, _, rfl, h⟩
  · obtain ⟨more, rest, rfl, ⟨field, hfield⟩, others, hothers⟩ := exists_of_parseKey h
    obtain ⟨p, rfl⟩ := exists_placeholder hfield
    exact .inr ⟨.placeholder p, rest, [], others, (Token.placeholder_append p rest).symm, hothers⟩
  · cases h
  · rename_i c rest hlone hescaped _ _ hopening hclosing
    have hbackslash : c ≠ '\\' := fun hc => by
      cases rest with
      | nil => exact hlone hc rfl
      | cons d rest => exact hescaped d rest hc rfl
    exact .inr ⟨.plain ⟨c, hbackslash, hopening, hclosing⟩, rest, _, _, rfl, h⟩

/-- **The parser takes wordings alone.** -/
theorem exists_wording {literal source : List Char} {segments : List Segment}
    (h : parseText literal source = .ok segments) : ∃ w : Wording, w.spelling = source := by
  -- By induction on the length of the text: a first token makes it shorter.
  induction hlength : source.length using Nat.strongRecOn generalizing literal source segments with
  | ind length ih =>
    rcases exists_token h with ⟨trailing, rfl⟩ | ⟨token, rest, literal', segments', rfl, hrest⟩
    · exact ⟨⟨[], trailing⟩, rfl⟩
    · have hshorter : rest.length < length := by
        have hpos := token.length_spelling_pos
        rw [← hlength, List.length_append]
        omega
      obtain ⟨w, rfl⟩ := ih rest.length hshorter hrest rfl
      exact ⟨⟨token :: w.tokens, w.trailing⟩, by simp [Wording.spelling]⟩

/-- A template has the gathered parts of its wording. -/
theorem exists_wording_of_parse {source : List Char} {template : Template}
    (h : parse source = .ok template) :
    ∃ w : Wording, w.spelling = source ∧ template.segments = gather [] w.parts := by
  obtain ⟨segments, hsegments, -⟩ := exists_of_map_eq_ok h
  obtain ⟨w, rfl⟩ := exists_wording hsegments
  rw [w.parse_spelling] at h
  exact ⟨w, rfl, (congrArg Template.segments (Except.ok.inj h)).symm⟩

/-! ### What a template stands for -/

section Rendering

variable (call : SystemCall) (literal : List Char) (segments : List Segment)

theorem join_renderSegment_withLiteral :
    String.join ((withLiteral literal segments).map (renderSegment call)) =
      String.ofList literal ++ String.join (segments.map (renderSegment call)) := by
  cases literal with
  | nil => exact (String.empty_append ..).symm
  | cons c literal => exact String.join_cons

/-- Gathering literals does not change what the parts stand for. -/
theorem join_renderSegment_gather :
    String.join ((gather literal segments).map (renderSegment call)) =
      String.ofList literal ++ String.join (segments.map (renderSegment call)) := by
  induction segments generalizing literal with
  | nil => exact join_renderSegment_withLiteral call literal []
  | cons part parts ih =>
    rcases literal_or_field part with ⟨text, rfl⟩ | ⟨field, rfl⟩
    · rw [gather, ih, List.map_cons, String.join_cons, renderSegment, String.ofList_append,
        String.append_assoc]
    · rw [gather_field, join_renderSegment_withLiteral, List.map_cons, String.join_cons, ih,
        List.map_cons, String.join_cons, String.ofList_nil, String.empty_append]

end Rendering

theorem Wording.join_renderSegment_parts (w : Wording) (call : SystemCall) :
    String.join (w.parts.map (renderSegment call)) = w.meaning call := by
  have htokens : (w.tokens.map Token.part).map (renderSegment call) =
      w.tokens.map (Token.meaning call) := by
    rw [List.map_map]
    exact List.map_congr_left fun token _ => token.renderSegment_part call
  rw [parts, meaning, List.map_append, String.join_append, htokens]
  cases w.trailing <;> rfl

theorem Wording.render_gather (w : Wording) (calls : List SystemCall) :
    render ⟨gather [] w.parts⟩ calls = String.join (calls.map w.meaning) := by
  have hcall (call : SystemCall) :
      String.join ((gather [] w.parts).map (renderSegment call)) = w.meaning call := by
    rw [join_renderSegment_gather, w.join_renderSegment_parts, String.ofList_nil,
      String.empty_append]
  simp only [render, hcall]

/-- A template is written as what the tokens of its wording stand for. -/
theorem exists_wording_render {source : List Char} {template : Template}
    (h : parse source = .ok template) : ∃ w : Wording, w.spelling = source ∧
      ∀ calls, template.render calls = String.join (calls.map w.meaning) := by
  obtain ⟨w, hspelling, hsegments⟩ := exists_wording_of_parse h
  refine ⟨w, hspelling, fun calls => ?_⟩
  rw [← w.render_gather, ← hsegments]

/-- **The grammar of templates.** A text is a template exactly if it is a sequence of tokens, with a
backslash at its end or without, and then it is so in one way. The template is written for each
system call in turn, by what its tokens stand for one after another. -/
theorem parse_iff_wording :
    (∀ source, (∃ template, parse source = .ok template) ↔ ∃ w : Wording, w.spelling = source) ∧
    Function.Injective Wording.spelling ∧
    ∀ w : Wording, ∃ template, parse w.spelling = .ok template ∧
      ∀ calls, template.render calls = String.join (calls.map w.meaning) := by
  refine ⟨fun source => ⟨?_, ?_⟩, Wording.spelling_injective,
    fun w => ⟨_, w.parse_spelling, w.render_gather⟩⟩
  · rintro ⟨template, htemplate⟩
    obtain ⟨w, hw, -⟩ := exists_wording_of_parse htemplate
    exact ⟨w, hw⟩
  · rintro ⟨w, rfl⟩
    exact ⟨_, w.parse_spelling⟩

/-- A placeholder between doubled braces, and a backslash at the end. -/
example :
    Wording.spelling ⟨[.opening, .placeholder ⟨⟨[' '], rfl⟩, .id, ⟨[], rfl⟩⟩, .closing], true⟩ =
      ['{', '{', '{', ' ', 'i', 'd', '}', '}', '}', '\\'] := by decide

end Template

end SyscallCensus
