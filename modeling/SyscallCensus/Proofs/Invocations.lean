import SyscallCensus.Proofs.Recognition
import SyscallCensus.Registry.LinuxX64

/-!
# Invocations of the system

About `SyscallInvocation` in `SPEC_FULL.md`, Sections 4.1 and 10.2.

A line invokes the system by the instruction itself, or by a call of a wrapper or a jump to one. The
name of a wrapper is a text like any other: it may have slashes and white space of its own, so that
the white space behind the instruction and the package path may be cut off in several ways, and the
longest is not always the right one. `CallsWrapper` speaks of some way to cut, and
`reads_wrapperCall?` says that the reader finds one if there is one.

`syscallInvocation_iff_invokesSystem` says what this comes to for a whole line: which lines are
invocations, that the order of the wrappers and repeats among them have no influence, and where the
name of a wrapper may stand.
-/

namespace SyscallCensus.Listing

open Text

variable {text line : List Char} {wrappers : List String}

/-! ### The instruction -/

/-- The system call instruction, as a whole word. -/
def IsInstruction (text : List Char) : Prop :=
  ∃ rest, text = ['S', 'Y', 'S', 'C', 'A', 'L', 'L'] ++ rest ∧ rest.head?.any isWord = false

theorem reads_syscallInstruction? : Reads syscallInstruction? fun text _ => IsInstruction text where
  eq_some_iff := by
    intro text answer
    unfold syscallInstruction?
    constructor
    · intro h
      split at h
      · rename_i rest hrest
        rw [Option.ite_none_left_eq_some, Bool.not_eq_true] at h
        exact ⟨rest, strip_eq_some_iff.1 hrest, h.1⟩
      · cases h
    · rintro ⟨rest, htext, hrest⟩
      rw [strip_eq_some_iff.2 htext]
      simp [hrest]
  empty := rfl

/-! ### Calls of wrappers -/

theorem afterTransfer?_eq_some_iff {rest : List Char} :
    afterTransfer? text = some rest ↔
      ∃ instruction, (instruction = ['C', 'A', 'L', 'L'] ∨ instruction = ['J', 'M', 'P']) ∧
        text = instruction ++ rest :=
  strip_or_strip_eq_some_iff fun _ => rfl

/-- A call of a wrapper, or a jump to one: white space, a package path and the name of the wrapper
follow the instruction. An empty name is no wrapper. -/
def CallsWrapper (wrappers : List String) (text : List Char) : Prop :=
  ∃ instruction gap path rest wrapper,
    text = instruction ++ (gap ++ (path ++ (String.toList wrapper ++ rest))) ∧
    (instruction = ['C', 'A', 'L', 'L'] ∨ instruction = ['J', 'M', 'P']) ∧ IsGap gap ∧ IsPath path ∧
    wrapper ∈ wrappers ∧ wrapper ≠ ""

theorem reads_wrapperCall? :
    Reads (wrapperCall? wrappers) fun text _ => CallsWrapper wrappers text where
  eq_some_iff := by
    intro text answer
    have hnamed (target : List Char) :
        (wrappers.any fun w => !w.isEmpty && (strip w.toList target).isSome) = true ↔
          ∃ wrapper ∈ wrappers, wrapper ≠ "" ∧ ∃ rest, target = wrapper.toList ++ rest := by
      simp only [List.any_eq_true, Bool.and_eq_true, Bool.not_eq_true', isSome_strip_iff,
        String.isEmpty_eq_false_iff]
    constructor
    · intro h
      unfold wrapperCall? at h
      split at h
      · rename_i operand htransfer
        rw [Option.ite_none_right_eq_some, behindBlanks_iff] at h
        obtain ⟨⟨gap, target, rfl, hgap, h⟩, -⟩ := h
        obtain ⟨path, named, rfl, hpath, h⟩ := behindPath_iff.1 h
        obtain ⟨wrapper, hmem, hne, rest, rfl⟩ := (hnamed named).1 h
        obtain ⟨instruction, hinstruction, rfl⟩ := afterTransfer?_eq_some_iff.1 htransfer
        exact ⟨instruction, gap, path, rest, wrapper, rfl, hinstruction, hgap, hpath, hmem, hne⟩
      · cases h
    · rintro ⟨instruction, gap, path, rest, wrapper, rfl, hinstruction, hgap, hpath, hmem, hne⟩
      rw [wrapperCall?, afterTransfer?_eq_some_iff.2 ⟨instruction, hinstruction, rfl⟩]
      simp only [Option.ite_none_right_eq_some, behindBlanks_iff, behindPath_iff, and_true]
      exact ⟨gap, _, rfl, hgap, path, _, rfl, hpath, (hnamed _).2 ⟨wrapper, hmem, hne, rest, rfl⟩⟩
  empty := rfl

/-- Only the names that are not empty matter, and only which they are. -/
theorem CallsWrapper.of_subset {others : List String} (h : CallsWrapper wrappers text)
    (hsubset : ∀ wrapper ≠ "", wrapper ∈ wrappers → wrapper ∈ others) :
    CallsWrapper others text := by
  obtain ⟨instruction, gap, path, rest, wrapper, htext, hinstruction, hgap, hpath, hmem, hne⟩ := h
  exact ⟨instruction, gap, path, rest, wrapper, htext, hinstruction, hgap, hpath,
    hsubset wrapper hne hmem, hne⟩

theorem IsPath.eq_nil_or_concat {path : List Char} (h : IsPath path) :
    path = [] ∨ ∃ before, path = before ++ ['/'] := by
  induction h with
  | nil => exact .inl rfl
  | @segment run path _ _ _ ih =>
    rcases ih with rfl | ⟨before, rfl⟩
    · exact .inr ⟨run, rfl⟩
    · exact .inr ⟨run ++ '/' :: before, by simp⟩

/-- The name of a wrapper that is called stands behind white space or behind a slash. -/
theorem CallsWrapper.exists_before (h : CallsWrapper wrappers text) :
    ∃ before c wrapper rest, text = before ++ c :: (String.toList wrapper ++ rest) ∧
      (isBlank c = true ∨ c = '/') ∧
      wrapper ∈ wrappers ∧ wrapper ≠ "" := by
  obtain ⟨instruction, gap, path, rest, wrapper, rfl, -, ⟨hne, hgap⟩, hpath, hmem, hwrapper⟩ := h
  rcases hpath.eq_nil_or_concat with rfl | ⟨before, rfl⟩
  · obtain ⟨blanks, c, rfl⟩ := (List.eq_nil_or_concat gap).resolve_left hne
    exact ⟨instruction ++ blanks, c, wrapper, rest, by simp, .inl (hgap c (by simp)),
      hmem, hwrapper⟩
  · exact ⟨instruction ++ (gap ++ before), '/', wrapper, rest, by simp, .inr rfl, hmem, hwrapper⟩

/-! ### Invocations -/

/-- A line invokes the system: where a word may begin there is the instruction, or the call of a
wrapper. -/
def InvokesSystem (wrappers : List String) (line : List Char) : Prop :=
  ∃ before rest, WordStart line before rest ∧ (IsInstruction rest ∨ CallsWrapper wrappers rest)

theorem isInvocation_iff : isInvocation wrappers line = true ↔ InvokesSystem wrappers line := by
  rw [isInvocation, Bool.or_eq_true, reads_syscallInstruction?.isSome_search_iff,
    reads_wrapperCall?.isSome_search_iff]
  constructor
  · rintro (⟨before, rest, -, hword, h⟩ | ⟨before, rest, -, hword, h⟩)
    · exact ⟨before, rest, hword, .inl h⟩
    · exact ⟨before, rest, hword, .inr h⟩
  · rintro ⟨before, rest, hword, h | h⟩
    · exact .inl ⟨before, rest, (), hword, h⟩
    · exact .inr ⟨before, rest, (), hword, h⟩

theorem isInvocation_eq_false_iff :
    isInvocation wrappers line = false ↔ ¬ InvokesSystem wrappers line := by
  rw [← isInvocation_iff, Bool.not_eq_true]

/-- Lists with the same names, the empty one apart, make the same lines invocations. -/
theorem isInvocation_congr {others : List String}
    (h : ∀ wrapper ≠ "", wrapper ∈ others ↔ wrapper ∈ wrappers) :
    isInvocation others line = isInvocation wrappers line := by
  rw [Bool.eq_iff_iff, isInvocation_iff, isInvocation_iff]
  constructor
  · rintro ⟨before, rest, hword, hinvokes⟩
    exact ⟨before, rest, hword, hinvokes.imp_right fun hcalls => hcalls.of_subset fun w hne =>
      (h w hne).1⟩
  · rintro ⟨before, rest, hword, hinvokes⟩
    exact ⟨before, rest, hword, hinvokes.imp_right fun hcalls => hcalls.of_subset fun w hne =>
      (h w hne).2⟩

/-- **Invocations are recognised exactly.** A line on which no function begins is read as an
invocation if and only if it invokes the system. Of the list of wrappers only the set of its names
matters that are not empty. Where there is no system call instruction, the name of a wrapper stands
directly behind white space or behind a slash. -/
theorem syscallInvocation_iff_invokesSystem (registry : Registry) (wrappers : List String)
    (line : List Char) (hstart : functionStart? line = none) :
    (classify registry wrappers line = .syscallInvocation ↔ InvokesSystem wrappers line) ∧
    (∀ others : List String, (∀ wrapper ≠ "", wrapper ∈ others ↔ wrapper ∈ wrappers) →
      classify registry others line = classify registry wrappers line) ∧
    (classify registry wrappers line = .syscallInvocation →
      (∃ before rest, WordStart line before rest ∧ IsInstruction rest) ∨
      ∃ before c wrapper rest, line = before ++ c :: (String.toList wrapper ++ rest) ∧
        (isBlank c = true ∨ c = '/') ∧
        wrapper ∈ wrappers ∧ wrapper ≠ "") := by
  have hexact : classify registry wrappers line = .syscallInvocation ↔
      InvokesSystem wrappers line := by
    rw [classify_eq_iff, Decided, isInvocation_iff, and_iff_right hstart]
  refine ⟨hexact, ?_, ?_⟩
  · intro others hothers
    rw [classify, classify, isInvocation_congr hothers]
  · intro hkind
    obtain ⟨before, rest, hword, hinstruction | hcalls⟩ := hexact.1 hkind
    · exact .inl ⟨before, rest, hword, hinstruction⟩
    · obtain ⟨between, c, wrapper, behind, rfl, hc, hwrapper⟩ := hcalls.exists_before
      exact .inr ⟨before ++ between, c, wrapper, behind, by rw [hword.1]; simp, hc, hwrapper⟩

/-- A jump to a wrapper whose name has slashes, behind a package path: the longest path that could
be read leaves no name. The instruction stands on the line too, but within a word. -/
theorem syscallInvocation_of_vendored_jump :
    let line := "\tNOSYSCALL JMP  vendor/golang.org/x/sys/unix.Syscall6(SB)".toList
    let wrappers := ["x.*", "", "golang.org/x/sys/unix.Syscall"]
    let others := ["golang.org/x/sys/unix.Syscall", "x.*", "x.*"]
    functionStart? line = none ∧ InvokesSystem wrappers line ∧
    classify .linuxX64 wrappers line = .syscallInvocation ∧
      classify .linuxX64 others line = .syscallInvocation := by
  intro line wrappers others
  have hstart : functionStart? line = none := by decide
  have hinvokes : InvokesSystem wrappers line := by
    refine ⟨"\tNOSYSCALL ".toList, "JMP  vendor/golang.org/x/sys/unix.Syscall6(SB)".toList,
      ?_, .inr ?_⟩
    · exact ⟨by decide, by decide⟩
    refine ⟨['J', 'M', 'P'], [' ', ' '], "vendor/".toList, "6(SB)".toList,
      "golang.org/x/sys/unix.Syscall", ?_, ?_⟩
    · decide
    have hpath : IsPath "vendor/".toList :=
      @IsPath.segment ['v', 'e', 'n', 'd', 'o', 'r'] [] (by decide)
        (List.all_eq_true.1 (by decide)) .nil
    exact ⟨.inr rfl, ⟨by decide, List.all_eq_true.1 (by decide)⟩, hpath, by decide, by decide⟩
  obtain ⟨hexact, hsame, -⟩ := syscallInvocation_iff_invokesSystem .linuxX64 wrappers line hstart
  have hkind := hexact.2 hinvokes
  refine ⟨hstart, hinvokes, hkind, (hsame others ?_).trans hkind⟩
  intro wrapper hne
  simp [others, wrappers, hne, or_comm]

end SyscallCensus.Listing
