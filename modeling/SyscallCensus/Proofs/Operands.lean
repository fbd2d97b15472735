import Mathlib.Data.List.Induction
import Mathlib.Data.Nat.Digits.Defs
import SyscallCensus.Proofs.Invocations
import SyscallCensus.Proofs.Symbols

/-!
# Loads and calls

About `LoadCandidate` and `CallTarget` in `SPEC_FULL.md`, Sections 4.1 and 10.2.

What a line says that is no invocation is in the operand of an instruction: the number that a move
loads, or the symbol that a call names. Both are found by a search that passes over the places where
an operand does not have the right form, and stops at the first where it has.

* `loadCandidate_iff_leftmost` — loads. A literal may have any number of digits, and its value is
  the number that they denote (`hexValue_eq_ofDigits`), never what is left of it in 16 bits.
* `callTarget_iff_leftmost` — calls. The name in a call and the name on a `TEXT` line are found by
  two readers, one that searches and one that does not. They take the same names, so that no call
  misses its function.
-/

namespace SyscallCensus.Listing

open Text

variable {text : List Char}

/-! ### Hexadecimal literals -/

/-- Hexadecimal digits belong to words, so that a literal ends where its word ends. -/
theorem isWord_of_isSome_hexDigit? {c : Char} (h : (hexDigit? c).isSome = true) :
    isWord c = true := by
  have hrange : 48 ≤ c.toNat ∧ c.toNat ≤ 57 ∨ 97 ≤ c.toNat ∧ c.toNat ≤ 102 ∨
      65 ≤ c.toNat ∧ c.toNat ≤ 70 := by
    unfold hexDigit? at h
    split_ifs at h with hdecimal hlower hupper
    · exact .inl hdecimal
    · exact .inr (.inl hlower)
    · exact .inr (.inr hupper)
    · cases h
  have hword : ∀ n < 128, 48 ≤ n ∧ n ≤ 57 ∨ 97 ≤ n ∧ n ≤ 102 ∨ 65 ≤ n ∧ n ≤ 70 →
      isWord (Char.ofNat n) = true := by
    decide
  rw [← Char.ofNat_toNat c]
  exact hword c.toNat (by omega) hrange

/-- The value of a literal is that of its digits in base 16; there is no bound, and zeros in front
do not count. -/
theorem hexValue_eq_ofDigits {digits : List Char} (h : ∀ c ∈ digits, (hexDigit? c).isSome = true) :
    hexValue digits = Nat.ofDigits 16 (digits.reverse.filterMap hexDigit?) := by
  induction digits using List.reverseRecOn with
  | nil => rfl
  | append_singleton digits c ih =>
    obtain ⟨value, hvalue⟩ := Option.isSome_iff_exists.1 (h c (by simp))
    have hvalues := ih fun d hd => h d (List.mem_append_left _ hd)
    have hstep : hexValue (digits ++ [c]) = hexValue digits * 16 + value := by
      simp [hexValue, hvalue]
    rw [hstep, hvalues, List.reverse_append, List.reverse_singleton, List.singleton_append,
      List.filterMap_cons_some hvalue, Nat.ofDigits_cons]
    omega

/-! ### Loads -/

theorem afterMove?_eq_some_iff {rest : List Char} :
    afterMove? text = some rest ↔
      ∃ instruction, (instruction = ['M', 'O', 'V', 'L'] ∨ instruction = ['M', 'O', 'V', 'Q']) ∧
        text = instruction ++ rest :=
  strip_or_strip_eq_some_iff fun _ => rfl

/-- A move of a number: white space and a hexadecimal literal follow the instruction. The literal
ends where its word ends, so that no digit is left behind it. -/
def LoadsNumber (text : List Char) (number : Nat) : Prop :=
  ∃ instruction gap digits rest,
    text = instruction ++ (gap ++ (['$', '0', 'x'] ++ (digits ++ rest))) ∧
    (instruction = ['M', 'O', 'V', 'L'] ∨ instruction = ['M', 'O', 'V', 'Q']) ∧ IsGap gap ∧
    digits ≠ [] ∧ (∀ c ∈ digits, (hexDigit? c).isSome = true) ∧ rest.head?.any isWord = false ∧
    number = Nat.ofDigits 16 (digits.reverse.filterMap hexDigit?)

theorem reads_immediateLoad? : Reads immediateLoad? LoadsNumber where
  eq_some_iff := by
    intro text number
    constructor
    · intro h
      obtain ⟨operand, hoperand, htail⟩ := Option.bind_eq_some_iff.1 h
      obtain ⟨target, htarget, htail⟩ := Option.bind_eq_some_iff.1 htail
      obtain ⟨literal, hliteral, hvalue⟩ := Option.bind_eq_some_iff.1 htail
      obtain ⟨instruction, hinstruction, rfl⟩ := afterMove?_eq_some_iff.1 hoperand
      obtain ⟨gap, hgap, rfl, -⟩ := skipBlanks_eq_some_iff.1 htarget
      obtain rfl := strip_eq_some_iff.1 hliteral
      simp only [Option.ite_none_left_eq_some, Bool.or_eq_true, not_or, Bool.not_eq_true,
        List.isEmpty_eq_false_iff, Option.some.injEq] at hvalue
      obtain ⟨⟨hne, hrest⟩, rfl⟩ := hvalue
      have hdigits :=
        List.all_eq_true.1 (List.all_takeWhile (p := fun c => (hexDigit? c).isSome) (l := literal))
      refine ⟨instruction, gap, _, _, ?_, hinstruction, hgap, hne, hdigits, hrest,
        hexValue_eq_ofDigits hdigits⟩
      rw [List.takeWhile_append_dropWhile]
    · rintro ⟨instruction, gap, digits, rest, rfl, hinstruction, hgap, hne, hdigits, hrest, rfl⟩
      have hend : rest.head?.any (fun c => (hexDigit? c).isSome) = false := by
        cases rest with
        | nil => rfl
        | cons c rest =>
          have hword : isWord c = false := hrest
          exact Bool.eq_false_iff.2 fun hdigit =>
            Bool.eq_false_iff.1 hword (isWord_of_isSome_hexDigit? hdigit)
      refine Option.bind_eq_some_iff.2 ⟨_,
        afterMove?_eq_some_iff.2 ⟨instruction, hinstruction, rfl⟩, ?_⟩
      refine Option.bind_eq_some_iff.2 ⟨_, skipBlanks_eq_some_iff.2 ⟨gap, hgap, rfl, rfl⟩, ?_⟩
      refine Option.bind_eq_some_iff.2 ⟨digits ++ rest, strip_eq_some_iff.2 rfl, ?_⟩
      simp [takeWhile_run hdigits hend, dropWhile_run hdigits hend, hne, hrest,
        hexValue_eq_ofDigits hdigits]
  empty := rfl

/-- **Loads are read exactly.** A line is read as the load of a registered number if and only if no
function begins on it, it does not invoke the system, and the leftmost literal that is moved denotes
just this number. Where that literal denotes no registered number, which is so if it exceeds 16
bits, the line is ignored, even if a call follows. -/
theorem loadCandidate_iff_leftmost (registry : Registry) (wrappers : List String)
    (line : List Char) : (∀ id : SyscallId, classify registry wrappers line = .loadCandidate id ↔
      functionStart? line = none ∧ ¬ InvokesSystem wrappers line ∧
        Leftmost LoadsNumber line id.toNat ∧
        registry.contains id = true) ∧
    (∀ number : Nat, functionStart? line = none → ¬ InvokesSystem wrappers line →
      Leftmost LoadsNumber line number →
      (∀ id : SyscallId, id.toNat = number → registry.contains id = false) →
        classify registry wrappers line = .ignored) := by
  constructor
  · intro id
    rw [classify_eq_iff, Decided, isInvocation_eq_false_iff,
      reads_immediateLoad?.search_eq_some_iff]
  · intro number hstart hinvokes hload hunregistered
    have hsearch := reads_immediateLoad?.search_eq_some_iff.2 hload
    exact classify_eq_iff.2
      ⟨hstart, isInvocation_eq_false_iff.2 hinvokes, .inl ⟨number, hsearch, hunregistered⟩⟩

/-- Zeros in front do not count, a literal that is part of a longer word is passed over, and 65596,
which is 60 in 16 bits, is not registered and hides the call behind it. -/
theorem loadCandidate_of_padded_literal :
    let long := "\tMOVL $0x3cg, BX; MOVQ $0x000000000000000000003C, AX".toList
    let wide := "\tMOVL $0x1003c, AX; CALL main.main(SB)".toList
    Leftmost LoadsNumber long 60 ∧ classify .linuxX64 ["syscall.Syscall"] long = .loadCandidate 60 ∧
    Leftmost LoadsNumber wide 65596 ∧ classify .linuxX64 ["syscall.Syscall"] wide = .ignored := by
  intro long wide
  have hlong : Leftmost LoadsNumber long 60 := reads_immediateLoad?.search_eq_some_iff.1 (by decide)
  have hwide : Leftmost LoadsNumber wide 65596 :=
    reads_immediateLoad?.search_eq_some_iff.1 (by decide)
  have hregistered : Registry.linuxX64.contains 60 = true := by decide +kernel
  refine ⟨hlong, ?_, hwide, ?_⟩
  · exact ((loadCandidate_iff_leftmost .linuxX64 _ long).1 60).2
      ⟨by decide, isInvocation_eq_false_iff.1 (by decide), hlong, hregistered⟩
  · refine (loadCandidate_iff_leftmost .linuxX64 _ wide).2 65596 (by decide) ?_ hwide ?_
    · exact isInvocation_eq_false_iff.1 (by decide)
    intro id hid
    have hlt := id.toNat_lt
    omega

/-! ### Calls -/

theorem LoadsNumber.dollar_mem {number : Nat} (h : LoadsNumber text number) : '$' ∈ text := by
  obtain ⟨instruction, gap, digits, rest, rfl, -⟩ := h
  simp

theorem isSymbol_of_functionStart? {line : List Char} {name : String}
    (h : functionStart? line = some name) : IsSymbol name.toList := by
  obtain ⟨directive, -, h⟩ := Option.bind_eq_some_iff.1 h
  obtain ⟨-, -, -, -, hname⟩ := operand_eq_some_iff.1 h
  exact hname

/-- The line that declares a function and holds nothing else. -/
def textLine (name : String) : List Char := ['T', 'E', 'X', 'T', ' '] ++ (name.toList ++ staticBase)

/-- The line that calls a function and holds nothing else. -/
def callLine (name : String) : List Char :=
  ['\t', 'C', 'A', 'L', 'L', ' '] ++ (name.toList ++ staticBase)

theorem isGap_space : IsGap [' '] := ⟨List.cons_ne_nil _ _, List.all_eq_true.1 (by decide)⟩

section Lines

variable {name : String} (h : IsSymbol name.toList)
include h

theorem functionStart?_textLine : functionStart? (textLine name) = some name := by
  have hdirective : strip ['T', 'E', 'X', 'T'] ((textLine name).dropWhile isBlank) =
      some ([' '] ++ (name.toList ++ staticBase)) := rfl
  rw [functionStart?, hdirective, Option.bind_eq_bind, Option.bind_some]
  exact operand_eq_some_iff.2 ⟨[' '], [], by simp, isGap_space, h⟩

theorem not_present_loadsNumber_callLine : ¬ Present LoadsNumber (callLine name) := by
  rintro ⟨before, rest, number, hword, hloads⟩
  have hmem : '$' ∈ callLine name := hword.1 ▸ List.mem_append_right before hloads.dollar_mem
  simp only [callLine, List.mem_append] at hmem
  rcases hmem with hmem | hmem | hmem
  · exact absurd hmem (by decide)
  · exact absurd (h.chars _ hmem) (by decide)
  · exact absurd hmem (by decide)

theorem leftmost_callsSymbol_callLine : Leftmost CallsSymbol (callLine name) name := by
  refine ⟨['\t'], _, ⟨rfl, by decide⟩, ⟨[' '], [], by simp, isGap_space, h⟩, ?_⟩
  intro earlier later other hword hcalls
  cases earlier with
  | nil =>
    -- The line begins with a tabulator.
    obtain ⟨gap, rest, rfl, -⟩ := hcalls
    cases hword.1
  | cons c earlier => exact Nat.succ_le_succ (Nat.zero_le _)

end Lines

/-- **Calls are read exactly, and meet the functions that they name.** A line is read as a call if
and only if no function begins on it, it neither invokes the system nor moves a literal, and the
leftmost call on it that names a function names this one; calls that name none are passed over.
Every name that is called can be declared, and a call of any function that was declared is read as a
call of this function, or as an invocation. -/
theorem callTarget_iff_leftmost (registry : Registry) (wrappers : List String) :
    (∀ line name, classify registry wrappers line = .callTarget name ↔
      functionStart? line = none ∧ ¬ InvokesSystem wrappers line ∧ ¬ Present LoadsNumber line ∧
        Leftmost CallsSymbol line name) ∧
    (∀ text name, CallsSymbol text name → functionStart? (textLine name) = some name) ∧
    (∀ line name, functionStart? line = some name →
      classify registry wrappers (callLine name) = .callTarget name ∨
        classify registry wrappers (callLine name) = .syscallInvocation) := by
  have hexact (line : List Char) (name : String) :
    classify registry wrappers line = .callTarget name ↔
      functionStart? line = none ∧ ¬ InvokesSystem wrappers line ∧ ¬ Present LoadsNumber line ∧
        Leftmost CallsSymbol line name := by
    rw [classify_eq_iff, Decided, isInvocation_eq_false_iff,
      reads_immediateLoad?.search_eq_none_iff, reads_directCall?.search_eq_some_iff]
  refine ⟨hexact, ?_, ?_⟩
  · rintro text name ⟨-, -, -, -, hname⟩
    exact functionStart?_textLine hname
  · intro line name h
    have hname := isSymbol_of_functionStart? h
    have hstart : functionStart? (callLine name) = none := rfl
    by_cases hinvokes : InvokesSystem wrappers (callLine name)
    · exact .inr (classify_eq_iff.2 ⟨hstart, isInvocation_iff.2 hinvokes⟩)
    · exact .inl ((hexact _ _).2
        ⟨hstart, hinvokes, not_present_loadsNumber_callLine hname,
          leftmost_callsSymbol_callLine hname⟩)

/-- A line with an indirect call, a word that only ends like the instruction, a call through memory
and two calls that name a function. The first of these two decides, and the name that it calls
begins with the mark. -/
theorem callTarget_past_indirect_calls :
    let line := "\tCALL AX; XCALL a.b(SB); CALL 0x8(DX); CALL (SB)os.(*File).write(SB); CALL main.main(SB)".toList
    classify .linuxX64 ["syscall.Syscall"] line = .callTarget "(SB)os.(*File).write" ∧
    functionStart? (textLine "(SB)os.(*File).write") = some "(SB)os.(*File).write" ∧
    (classify .linuxX64 ["syscall.Syscall"] (callLine "(SB)os.(*File).write") =
      .callTarget "(SB)os.(*File).write" ∨
      classify .linuxX64 ["syscall.Syscall"] (callLine "(SB)os.(*File).write") =
        .syscallInvocation) := by
  intro line
  obtain ⟨hexact, htext, hcall⟩ := callTarget_iff_leftmost .linuxX64 ["syscall.Syscall"]
  have hleftmost : Leftmost CallsSymbol line "(SB)os.(*File).write" :=
    reads_directCall?.search_eq_some_iff.1 (by decide)
  have hload : ¬ Present LoadsNumber line := reads_immediateLoad?.search_eq_none_iff.1 (by decide)
  have hstart : functionStart? (textLine "(SB)os.(*File).write") = some "(SB)os.(*File).write" := by
    obtain ⟨before, rest, -, hcalls, -⟩ := hleftmost
    exact htext rest _ hcalls
  refine ⟨(hexact _ _).2 ⟨by decide, isInvocation_eq_false_iff.1 (by decide), hload, hleftmost⟩,
    hstart, ?_⟩
  exact hcall _ _ hstart

end SyscallCensus.Listing
