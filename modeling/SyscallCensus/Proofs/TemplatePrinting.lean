import Mathlib.Data.List.Chain
import SyscallCensus.Proofs.TemplateGrammar

/-!
# Printing templates

About the option `--template` of `SPEC_FULL.md`, Section 10.8 (CLI).

A template can be written down in one standard way: braces and backslashes are doubled, and line
feeds and tabs are written as escapes. Printed parts stand next to each other without anything in
between, so that the parser goes from one into the next with a literal that it has not finished; it
makes of them what `gather` makes of the parts (`parseText_print`).

Parsing undoes printing on the templates that have no empty literal and no two literals side by side
(`IsNormal`). Those are the lists that gathering does not change (`gather_eq`), and every template
that was parsed is one of them (`isNormal_gather`).
-/

namespace SyscallCensus.Template

/-! ### Printing -/

/-- How a character of a literal is printed. -/
def printChar : Char → List Char
  | '\\' => ['\\', '\\']
  | '{' => ['{', '{']
  | '}' => ['}', '}']
  | '\n' => ['\\', 'n']
  | '\t' => ['\\', 't']
  | c => [c]

/-- How a part is printed. -/
def printSegment : Segment → List Char
  | .literal text => text.flatMap printChar
  | .id => ['{', 'i', 'd', '}']
  | .name => ['{', 'n', 'a', 'm', 'e', '}']

/-- How a template is printed. -/
def print (template : Template) : List Char := template.segments.flatMap printSegment

/-! ### Normal templates -/

/-- Whether a part is a literal. -/
def isLiteral : Segment → Bool
  | .literal _ => true
  | .id | .name => false

/-- **Parts in normal form**: no literal is empty, and no two literals stand side by side. -/
structure IsNormal (segments : List Segment) : Prop where
  /-- Every literal has characters. -/
  nonempty : .literal [] ∉ segments
  /-- Behind a literal stands no other. -/
  apart : segments.IsChain fun a b => ¬ (isLiteral a = true ∧ isLiteral b = true)

variable {literal text : List Char} {field : Field} {segments : List Segment}

theorem isNormal_nil : IsNormal [] := ⟨List.not_mem_nil, .nil⟩

theorem isLiteral_field (field : Field) : isLiteral field.segment = false := by
  cases field <;> rfl

theorem isNormal_field_cons : IsNormal (field.segment :: segments) ↔ IsNormal segments := by
  constructor
  · rintro ⟨hnonempty, hapart⟩
    exact ⟨fun h => hnonempty (List.mem_cons_of_mem _ h), (List.isChain_cons.1 hapart).2⟩
  · rintro ⟨hnonempty, hapart⟩
    refine ⟨fun h => ?_, List.isChain_cons.2 ⟨fun next _ hboth => ?_, hapart⟩⟩
    · rcases List.mem_cons.1 h with hfield | h
      · have hliteral := congrArg isLiteral hfield
        rw [isLiteral_field] at hliteral
        cases hliteral
      · exact hnonempty h
    · simp [isLiteral_field] at hboth

theorem isNormal_literal_cons :
    IsNormal (.literal text :: segments) ↔
      text ≠ [] ∧ (∀ next ∈ segments.head?, isLiteral next = false) ∧ IsNormal segments := by
  constructor
  · rintro ⟨hnonempty, hapart⟩
    rw [List.mem_cons, not_or] at hnonempty
    rw [List.isChain_cons] at hapart
    refine ⟨fun h => hnonempty.1 (by rw [h]), fun next hnext => ?_, hnonempty.2, hapart.2⟩
    exact Bool.eq_false_iff.2 fun hliteral => hapart.1 next hnext ⟨rfl, hliteral⟩
  · rintro ⟨htext, hnext, hnonempty, hapart⟩
    refine ⟨fun h => ?_, List.isChain_cons.2 ⟨fun next hmem hboth => ?_, hapart⟩⟩
    · rcases List.mem_cons.1 h with hempty | h
      · exact htext (Segment.literal.inj hempty).symm
      · exact hnonempty h
    · rw [hnext next hmem] at hboth
      cases hboth.2

theorem withLiteral_of_ne_nil (h : literal ≠ []) :
    withLiteral literal segments = .literal literal :: segments := by
  rw [withLiteral, if_neg (by simpa using h)]

theorem isNormal_withLiteral_field :
    IsNormal (withLiteral literal (field.segment :: segments)) ↔ IsNormal segments := by
  by_cases h : literal = []
  · subst h
    exact isNormal_field_cons
  · have hnext : ∀ next ∈ (field.segment :: segments).head?, isLiteral next = false := by
      rintro next hnext
      cases hnext
      exact isLiteral_field field
    rw [withLiteral_of_ne_nil h, isNormal_literal_cons, isNormal_field_cons]
    exact ⟨fun hnormal => hnormal.2.2, fun hnormal => ⟨h, hnext, hnormal⟩⟩

/-- **Gathering gives parts in normal form.** -/
theorem isNormal_gather (literal : List Char) (parts : List Segment) :
    IsNormal (gather literal parts) := by
  induction parts generalizing literal with
  | nil =>
    by_cases h : literal = []
    · subst h
      exact isNormal_nil
    · rw [gather, withLiteral_of_ne_nil h, isNormal_literal_cons]
      exact ⟨h, by simp, isNormal_nil⟩
  | cons part parts ih =>
    rcases literal_or_field part with ⟨text, rfl⟩ | ⟨field, rfl⟩
    · exact ih (literal ++ text)
    · rw [gather_field, isNormal_withLiteral_field]
      exact ih []

/-- **Gathering changes no parts in normal form.** -/
theorem gather_eq (h : IsNormal (withLiteral literal segments)) :
    gather literal segments = withLiteral literal segments := by
  induction segments generalizing literal with
  | nil => rfl
  | cons part parts ih =>
    rcases literal_or_field part with ⟨text, rfl⟩ | ⟨field, rfl⟩
    · -- A literal is next, so that nothing is pending.
      have hliteral : literal = [] := by
        by_contra hne
        rw [withLiteral_of_ne_nil hne, isNormal_literal_cons] at h
        cases h.2.1 _ rfl
      subst hliteral
      obtain ⟨htext, -, -⟩ := isNormal_literal_cons.1 h
      have hnormal : IsNormal (withLiteral text parts) := by
        rw [withLiteral_of_ne_nil htext]
        exact h
      rw [gather, List.nil_append, ih hnormal, withLiteral_of_ne_nil htext]
      rfl
    · rw [gather_field, ih (isNormal_withLiteral_field.1 h)]
      rfl

/-! ### Parsing what was printed -/

theorem exists_token_printChar (c : Char) :
    ∃ token : Token, token.spelling = printChar c ∧ token.part = .literal [c] := by
  unfold printChar
  split
  · exact ⟨.escaped '\\', rfl, rfl⟩
  · exact ⟨.opening, rfl, rfl⟩
  · exact ⟨.closing, rfl, rfl⟩
  · exact ⟨.escaped 'n', rfl, rfl⟩
  · exact ⟨.escaped 't', rfl, rfl⟩
  · rename_i hbackslash hopening hclosing _ _
    exact ⟨.plain ⟨c, hbackslash, hopening, hclosing⟩, rfl, rfl⟩

/-- The characters of a printed literal are added to those that belong to no part yet. -/
theorem parseText_printLiteral (literal text rest : List Char) :
    parseText literal (text.flatMap printChar ++ rest) = parseText (literal ++ text) rest := by
  induction text generalizing literal with
  | nil => rw [List.flatMap_nil, List.nil_append, List.append_nil]
  | cons c text ih =>
    obtain ⟨token, hspelling, hpart⟩ := exists_token_printChar c
    rw [List.flatMap_cons, List.append_assoc, ← hspelling, parseText_token hpart, ih,
      List.append_assoc, List.singleton_append]

theorem printSegment_field (field : Field) :
    printSegment field.segment = Token.spelling (.placeholder ⟨⟨[], rfl⟩, field, ⟨[], rfl⟩⟩) := by
  cases field <;> rfl

/-- **What was printed is parsed** as the gathered parts. -/
theorem parseText_print (literal : List Char) (segments : List Segment) :
    parseText literal (segments.flatMap printSegment) = .ok (gather literal segments) := by
  induction segments generalizing literal with
  | nil => rfl
  | cons part parts ih =>
    rw [List.flatMap_cons]
    rcases literal_or_field part with ⟨text, rfl⟩ | ⟨field, rfl⟩
    · rw [printSegment, parseText_printLiteral, ih, gather]
    · rw [printSegment_field, parseText_placeholder, ih, gather_field]
      rfl

theorem parse_print_of_isNormal {template : Template} (h : IsNormal template.segments) :
    parse template.print = .ok template := by
  have hgather : gather [] template.segments = template.segments := gather_eq h
  rw [parse, print, parseText_print, hgather]
  rfl

/-- **Parsing undoes printing.** A template in normal form is parsed from its printed form. Every
template that was parsed is in normal form, so that printing it and parsing that gives it once
more. -/
theorem parse_undoes_print :
    (∀ segments, IsNormal segments → parse (print ⟨segments⟩) = .ok ⟨segments⟩) ∧
    ∀ source template, parse source = .ok template →
      IsNormal template.segments ∧ parse template.print = .ok template := by
  constructor
  · intro segments hnormal
    exact parse_print_of_isNormal hnormal
  · intro source template htemplate
    obtain ⟨w, -, hsegments⟩ := exists_wording_of_parse htemplate
    have hnormal : IsNormal template.segments := hsegments ▸ isNormal_gather [] w.parts
    exact ⟨hnormal, parse_print_of_isNormal hnormal⟩

/-- A literal of all the characters that are printed otherwise stands before a field, and a
backslash and a brace behind one. The text of the second part has white space, an escape that stands
for itself, and a backslash at its end. -/
theorem parse_undoes_print_of_braces :
    let segments : List Segment :=
      [.literal ['{', '}', '\\', '\n', '\t'], .id, .name, .literal ['\\', '{']]
    let source := ['{', ' ', 'i', 'd', '}', '}', '}', '\\', 'x', '\\']
    let template : Template := ⟨[.id, .literal ['}', '\\', 'x', '\\']]⟩
    (IsNormal segments ∧ parse (print ⟨segments⟩) = .ok ⟨segments⟩) ∧
    parse source = .ok template ∧ IsNormal template.segments ∧
      parse template.print = .ok template := by
  intro segments source template
  have hnormal : IsNormal segments := ⟨by decide, by simp [segments, isLiteral]⟩
  have hsource : parse source = .ok template := by decide +kernel +revert
  obtain ⟨hprinted, hparsed⟩ := parse_undoes_print
  exact ⟨⟨hnormal, hprinted segments hnormal⟩, hsource, hparsed source template hsource⟩

end SyscallCensus.Template
