import Mathlib.Data.List.Basic
import SyscallCensus.Report.Text

/-!
# Reading plain text back

About the default text of `SPEC_FULL.md`, Section 10.8 (CLI).

Two results with the same plain text are the same result, as long as no label has a line feed in it.
Labels may be empty, and may look like the end of a line. So a line is read from its end: the number
is what stands between the closing bracket there and the last opening bracket before it, since
digits are no brackets (`entryLine_injective`). The lines are found by cutting the text at its line
feeds (`splitOn_text`), and the header says how many there are.
-/

namespace SyscallCensus.Report

/-! ### Lines -/

/-- The line of a system call, without its line feed. -/
def entryLine (call : SystemCall) : List Char :=
  [' ', ' ', ' ', ' '] ++ call.name.toList ++ ' ' :: '(' :: (Nat.toDigits 10 call.id.toNat ++ [')'])

/-- The line in front of the system calls, without its line feed. -/
def headerLine (count : Nat) : List Char := Nat.toDigits 10 count ++ " system calls found:".toList

theorem toList_callLine (call : SystemCall) :
    (callLine call).toList = entryLine call ++ ['\n'] := by
  simp [callLine, entryLine]

theorem toList_text {calls : List SystemCall} (h : calls ≠ []) :
    (text calls).toList = headerLine calls.length ++ '\n' :: calls.flatMap fun call =>
      entryLine call ++ ['\n'] := by
  rw [text, if_neg (by simpa using h), String.toList_append, String.toList_join, List.flatMap_map]
  simp [headerLine, toList_callLine]

theorem not_mem_toDigits {n : Nat} {c : Char} (hc : c.isDigit = false) : c ∉ Nat.toDigits 10 n := by
  intro h
  rw [Nat.isDigit_of_mem_toDigits (by decide) (by decide) h] at hc
  cases hc

theorem toDigits_injective : Function.Injective (Nat.toDigits 10) := by
  intro m n h
  have hvalues := congrArg (fun digits => Nat.ofDigitChars 10 digits 0) h
  simpa using hvalues

/-- **A line belongs to one system call**, whatever the label looks like. -/
theorem entryLine_injective : Function.Injective entryLine := by
  intro call other h
  obtain ⟨id, name⟩ := call
  obtain ⟨id', name'⟩ := other
  -- Read from its end, a line is cut at its first opening bracket, which stands behind the number.
  have hends (id : SyscallId) (name : String) : (entryLine ⟨id, name⟩).reverse.splitOn '(' =
      (')' :: (Nat.toDigits 10 id.toNat).reverse) ::
        (' ' :: name.toList.reverse ++ [' ', ' ', ' ', ' ']).splitOn '(' := by
    have hnumber : '(' ∉ ')' :: (Nat.toDigits 10 id.toNat).reverse := by
      simpa using not_mem_toDigits (n := id.toNat) (c := '(') (by decide)
    rw [← List.splitOn_append_cons_self_of_not_mem hnumber]
    simp [entryLine]
  have hcut := congrArg (fun line => line.reverse.splitOn '(') h
  simp only [hends, List.cons.injEq, true_and, List.reverse_inj] at hcut
  obtain rfl : id = id' := UInt16.toNat_inj.1 (toDigits_injective hcut.1)
  have hname : name.toList = name'.toList := by simpa [entryLine] using h
  rw [String.toList_inj.1 hname]

/-! ### The text -/

/-- No label has a line feed in it. -/
def OneLined (calls : List SystemCall) : Prop := ∀ call ∈ calls, '\n' ∉ call.name.toList

theorem lineFeed_not_mem_entryLine {call : SystemCall} (h : '\n' ∉ call.name.toList) :
    '\n' ∉ entryLine call := by
  have hnumber : '\n' ∉ Nat.toDigits 10 call.id.toNat := not_mem_toDigits (by decide)
  simp [entryLine, h, hnumber]

theorem lineFeed_not_mem_headerLine (count : Nat) : '\n' ∉ headerLine count := by
  have hnumber : '\n' ∉ Nat.toDigits 10 count := not_mem_toDigits (by decide)
  simp [headerLine, hnumber]

theorem splitOn_entries {calls : List SystemCall} (h : OneLined calls) :
    (calls.flatMap fun call => entryLine call ++ ['\n']).splitOn '\n' =
      calls.map entryLine ++ [[]] := by
  induction calls with
  | nil => rfl
  | cons call calls ih =>
    obtain ⟨hcall, hcalls⟩ := List.forall_mem_cons.1 h
    rw [List.flatMap_cons, List.append_assoc, List.singleton_append,
      List.splitOn_append_cons_self_of_not_mem (lineFeed_not_mem_entryLine hcall), ih hcalls]
    rfl

/-- **The lines of the text**: the header, and a line for each system call. Nothing stands behind
the last line feed. -/
theorem splitOn_text {calls : List SystemCall} (hcalls : calls ≠ []) (h : OneLined calls) :
    (text calls).toList.splitOn '\n' = headerLine calls.length :: calls.map entryLine ++ [[]] := by
  rw [toList_text hcalls, List.splitOn_append_cons_self_of_not_mem (lineFeed_not_mem_headerLine _),
    splitOn_entries h]
  rfl

/-- The header begins with a digit, and the text that reports nothing does not. -/
theorem text_ne_text_nil {calls : List SystemCall} (h : calls ≠ []) : text calls ≠ text [] := by
  intro heq
  have hfirst := congrArg (fun text => text.toList.head?) heq
  rw [toList_text h, headerLine] at hfirst
  have hn : 'n' ∉ Nat.toDigits 10 calls.length := not_mem_toDigits (by decide)
  cases hdigits : Nat.toDigits 10 calls.length with
  | nil => simp [hdigits, text] at hfirst
  | cons digit digits =>
    obtain rfl : digit = 'n' := by simpa [hdigits, text] using hfirst
    exact hn (hdigits ▸ List.mem_cons_self)

theorem eq_of_text_eq {calls others : List SystemCall} (hcalls : OneLined calls)
    (hothers : OneLined others) (h : text calls = text others) : calls = others := by
  by_cases hempty : calls = []
  · by_contra hne
    subst hempty
    exact text_ne_text_nil (Ne.symm hne) h.symm
  · have hother : others ≠ [] := by
      rintro rfl
      exact text_ne_text_nil hempty h
    have hlines := congrArg (fun text => text.toList.splitOn '\n') h
    simp only [splitOn_text hempty hcalls, splitOn_text hother hothers, List.cons_append,
      List.cons.injEq, List.append_cancel_right_eq] at hlines
    exact List.map_injective_iff.2 entryLine_injective hlines.2

/-- **The plain text is unambiguous.** Results whose labels have no line feeds can be told apart by
their texts, whatever else the labels hold. The text of an empty result is none of another result.
The number in the header is that of the lines which follow. -/
theorem text_unambiguous :
    (∀ calls others, OneLined calls → OneLined others → text calls = text others → calls = others) ∧
    (∀ calls, calls ≠ [] → text calls ≠ text []) ∧
    ∀ calls, calls ≠ [] → OneLined calls →
      ∃ following : List (List Char), following.length = calls.length ∧
      (text calls).toList.splitOn '\n' =
        (toString following.length ++ " system calls found:").toList :: following ++ [[]] := by
  refine ⟨fun calls others hcalls hothers h => eq_of_text_eq hcalls hothers h,
    fun calls h => text_ne_text_nil h, ?_⟩
  intro calls hcalls h
  refine ⟨calls.map entryLine, List.length_map entryLine, ?_⟩
  rw [splitOn_text hcalls h, List.length_map]
  simp [headerLine]

/-- The first label ends like a line, and the second is empty. -/
theorem text_unambiguous_of_brackets :
    let calls : List SystemCall := [⟨1, "write (1)"⟩, ⟨60, ""⟩]
    let others : List SystemCall := [⟨1, "write"⟩, ⟨60, ""⟩]
    OneLined calls ∧ OneLined others ∧ text calls ≠ text others ∧ text calls ≠ text [] ∧
    ∃ following : List (List Char), following.length = 2 ∧ (text calls).toList.splitOn '\n' =
      (toString following.length ++ " system calls found:").toList :: following ++ [[]] := by
  intro calls others
  obtain ⟨hinjective, hempty, hheader⟩ := text_unambiguous
  have hcalls : OneLined calls := by simp [calls, OneLined]
  have hothers : OneLined others := by simp [others, OneLined]
  have hne : calls ≠ others := by decide
  exact ⟨hcalls, hothers, fun h => hne (hinjective calls others hcalls hothers h),
    hempty calls (by decide), hheader calls (by decide) hcalls⟩

/-- With a line feed in a label, a label can pass for the end of one line and the beginning of
another. -/
example : text [⟨1, "a (1)\n    b"⟩, ⟨1, "c"⟩] = text [⟨1, "a"⟩, ⟨1, "b (1)\n    c"⟩] := by decide

end SyscallCensus.Report
