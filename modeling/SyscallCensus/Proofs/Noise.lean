import SyscallCensus.Proofs.LineEnds

/-!
# Lines that say nothing

About `SPEC_FULL.md`, Section 7: "all other anomalies are absorbed silently during parsing".

Most lines of a listing are ignored. They can be left out, or added, wherever a line may begin:
within a block, between blocks, and before the first one. The blocks of a listing are those of its
other lines (`awaiting_filter`), so that the table and what is counted of blocks stay the same. Nor
does it matter how lines end, since each line is read without its end. `build_ignores_noise` is the
result.
-/

namespace SyscallCensus

namespace Text

theorem Padded.append_left (same : List UInt8) {bytes padded : List UInt8}
    (h : Padded bytes padded) : Padded (same ++ bytes) (same ++ padded) := by
  induction same with
  | nil => exact h
  | cons b same ih => exact .byte b ih

end Text

namespace Listing

variable {registry : Registry} {wrappers : List String}

/-- Whether a line says nothing: it is neither blank nor of interest. -/
def isNoise (registry : Registry) (wrappers : List String) (line : List Char) : Bool :=
  !isEndOfBlock line && classify registry wrappers line == .ignored

theorem isNoise_iff {line : List Char} :
    isNoise registry wrappers line = true ↔
      isEndOfBlock line = false ∧ classify registry wrappers line = .ignored := by
  rw [isNoise, Bool.and_eq_true, Bool.not_eq_true', beq_iff_eq]

/-- A line that says nothing belongs to the block that is open before it, and adds nothing to it. -/
theorem awaiting_of_isNoise (block : Option Block) {line : List Char}
    (h : isNoise registry wrappers line = true) (lines : List (List Char)) :
    awaiting registry wrappers block (line :: lines) = awaiting registry wrappers block lines := by
  obtain ⟨hblank, hignored⟩ := isNoise_iff.1 h
  have hgoes : goesOn line = true := by simp [goesOn, hblank, (classify_eq_iff.1 hignored).1]
  have hfeed (block : Block) : (block.feed (classify registry wrappers line)).1 = block := by
    rw [hignored]; rfl
  rw [awaiting_of_goesOn registry wrappers block hgoes]
  simp only [hfeed, Option.map_id']

/-- **The blocks of a listing** are those of the lines that say something. -/
theorem awaiting_filter (r : Reading) (lines : List (List Char)) :
    awaiting registry wrappers r.block lines =
      awaiting registry wrappers r.block
        (lines.filter fun line => !isNoise registry wrappers line) := by
  induction lines generalizing r with
  | nil => rfl
  | cons line lines ih =>
    cases hnoise : isNoise registry wrappers line with
    | true =>
      rw [awaiting_of_isNoise r.block hnoise, List.filter_cons_of_neg (by simp [hnoise])]
      exact ih r
    | false =>
      -- What the line ends and what it leaves open do not depend on the lines behind it.
      obtain ⟨-, hrest⟩ := r.readLine_ended registry wrappers line
      rw [List.filter_cons_of_pos (by simp [hnoise]), hrest, hrest, ih]

/-- What comes of a listing depends on the lines that say something. -/
theorem tally_build_filter (bytes : List UInt8) :
    (build registry wrappers bytes).tally =
      (awaiting registry wrappers none
        (((Text.lines bytes).map Text.lineText).filter fun line =>
          !isNoise registry wrappers line)).foldl
          Tally.record .start := by
  rw [tally_build]
  exact congrArg (List.foldl Tally.record .start) (awaiting_filter .start _)

/-- **A complete line that says nothing**: it ends in its only line feed, it is not blank, and it is
ignored. -/
structure NoiseLine (registry : Registry) (wrappers : List String) (line : List UInt8) : Prop where
  /-- The line feed is the last byte. -/
  complete : ∃ body, Text.lineFeed ∉ body ∧ line = body ++ [Text.lineFeed]
  /-- The line ends no block. -/
  notBlank : isEndOfBlock (Text.lineText line) = false
  /-- The line says nothing of interest. -/
  ignored : classify registry wrappers (Text.lineText line) = .ignored

theorem NoiseLine.lines_eq {line : List UInt8} (h : NoiseLine registry wrappers line) :
    Text.lines line = [line] := by
  obtain ⟨body, hbody, rfl⟩ := h.complete
  exact Text.lines_append_lineFeed hbody []

theorem NoiseLine.lines_insert {first line : List UInt8} (h : NoiseLine registry wrappers line)
    (hfirst : first = [] ∨ first.getLast? = some Text.lineFeed) (second : List UInt8) :
    Text.lines (first ++ line ++ second) = Text.lines first ++ line :: Text.lines second := by
  have hline : line = [] ∨ line.getLast? = some Text.lineFeed := by
    obtain ⟨body, -, rfl⟩ := h.complete
    exact .inr List.getLast?_concat
  rw [List.append_assoc, Text.lines_append hfirst, Text.lines_append hline, h.lines_eq,
    List.singleton_append]

/-- Of a line that says nothing nothing comes. -/
theorem NoiseLine.tally_insert {first line : List UInt8} (h : NoiseLine registry wrappers line)
    (hfirst : first = [] ∨ first.getLast? = some Text.lineFeed) (second : List UInt8) :
    (build registry wrappers (first ++ line ++ second)).tally =
      (build registry wrappers (first ++ second)).tally := by
  have hnoise : isNoise registry wrappers (Text.lineText line) = true :=
    isNoise_iff.2 ⟨h.notBlank, h.ignored⟩
  rw [tally_build_filter, tally_build_filter, h.lines_insert hfirst, Text.lines_append hfirst,
    List.map_append, List.map_append, List.map_cons, List.filter_append, List.filter_append,
    List.filter_cons_of_neg (by simp [hnoise])]

/-- Listings with the same texts of lines are read in the same way. -/
theorem build_congr {bytes other : List UInt8}
    (h : (Text.lines bytes).map Text.lineText = (Text.lines other).map Text.lineText) :
    build registry wrappers bytes = build registry wrappers other := by
  have hread (lines : List (List UInt8)) : Reading.start.readLines registry wrappers lines =
      (lines.map Text.lineText).foldl (fun r line => r.readLine registry wrappers line) .start :=
    List.foldl_map.symm
  rw [build, build, hread, hread, h]

/-- **Noise and line ends do not matter.** A complete line that is neither blank nor of interest can
be put wherever a line may begin, or be taken away: the table stays the same, and so do the numbers
of blocks, of functions that were kept and of functions that were replaced. Carriage returns that
are put in front of line feeds change nothing at all. -/
theorem build_ignores_noise (registry : Registry) (wrappers : List String) :
    (∀ first line second : List UInt8, (first = [] ∨ first.getLast? = some Text.lineFeed) →
      NoiseLine registry wrappers line →
      let plain := build registry wrappers (first ++ second)
      let noisy := build registry wrappers (first ++ line ++ second)
      noisy.table = plain.table ∧ noisy.stats =
        { plain.stats with lines := plain.stats.lines + 1 }) ∧
    ∀ bytes padded : List UInt8, Text.Padded bytes padded →
      build registry wrappers padded = build registry wrappers bytes := by
  constructor
  · intro first line second hfirst hline plain noisy
    obtain ⟨htable, hblocks, hkept, hreplaced⟩ := Tally.mk.inj (hline.tally_insert hfirst second)
    have hlines : noisy.stats.lines = plain.stats.lines + 1 := by
      rw [lines_build, lines_build, hline.lines_insert hfirst, Text.lines_append hfirst,
        List.length_append, List.length_append, List.length_cons, Nat.add_assoc]
    exact ⟨htable, by rw [BuildStats.mk.injEq]; exact ⟨hlines, hblocks, hkept, hreplaced⟩⟩
  · intro bytes padded hpadded
    exact build_congr hpadded.map_lineText_lines

/-- A line that says nothing and ends within a character stands between a load and the invocation
that uses it. Another listing gets carriage returns behind a character that is not complete, and on
the blank line that ends its block. -/
theorem build_ignores_noise_within_main :
    let first := Text.Utf8.encode "TEXT main.main(SB)\n\tMOVL $0x3c, AX\n"
    let line := Text.Utf8.encode "\tNOPW " ++ [0xE2, 0x82, 0x0D, 0x0A]
    let second := Text.Utf8.encode "\tSYSCALL\n\n\tCALL main.outside(SB)\n"
    let block := Text.Utf8.encode "TEXT main.main(SB)\n\tCALL main.last(SB)"
    let bytes := block ++ [0xF0, 0x9F, 0x0A, 0x0A]
    let padded := block ++ [0xF0, 0x9F, 0x0D, 0x0A, 0x0D, 0x0D, 0x0A]
    (first.getLast? = some Text.lineFeed ∧ NoiseLine .linuxX64 [] line ∧
      (build .linuxX64 [] (first ++ line ++ second)).table.get? "main.main" =
        some ⟨"main.main", [], .ofList [60]⟩ ∧
      (build .linuxX64 [] (first ++ line ++ second)).stats = ⟨6, 1, 1, 0⟩) ∧
    Text.Padded bytes padded ∧
      (build .linuxX64 [] padded).table.get? "main.main" =
        some ⟨"main.main", ["main.last"], .empty⟩ ∧
      (build .linuxX64 [] padded).stats = ⟨3, 1, 1, 0⟩ := by
  intro first line second block bytes padded
  obtain ⟨hfirst, hblank, hignored, hbody⟩ : first.getLast? = some Text.lineFeed ∧
      isEndOfBlock (Text.lineText line) = false ∧
        classify .linuxX64 [] (Text.lineText line) = .ignored ∧
      Text.lineFeed ∉ Text.Utf8.encode "\tNOPW " ++ [0xE2, 0x82, 0x0D] := by
    decide +kernel +revert
  obtain ⟨hplain, hstats, hbytes, hstats'⟩ :
      (build .linuxX64 [] (first ++ second)).table.get? "main.main" =
        some ⟨"main.main", [], .ofList [60]⟩ ∧
      (build .linuxX64 [] (first ++ second)).stats = ⟨5, 1, 1, 0⟩ ∧
      (build .linuxX64 [] bytes).table.get? "main.main" =
        some ⟨"main.main", ["main.last"], .empty⟩ ∧
      (build .linuxX64 [] bytes).stats = ⟨3, 1, 1, 0⟩ := by
    decide +kernel +revert
  have hline : NoiseLine .linuxX64 [] line :=
    ⟨⟨_, hbody, by simp [line, Text.lineFeed]⟩, hblank, hignored⟩
  have hpadded : Text.Padded bytes padded :=
    .append_left block (.byte _ (.byte _ (.feed 1 (.feed 2 .nil))))
  obtain ⟨hnoisy, hsame⟩ := build_ignores_noise .linuxX64 []
  obtain ⟨htable, hcounts⟩ := hnoisy first line second (.inr hfirst) hline
  refine ⟨⟨hfirst, hline, ?_, ?_⟩, hpadded, ?_, ?_⟩
  · rw [htable, hplain]
  · rw [hcounts, hstats]
  · rw [hsame bytes padded hpadded, hbytes]
  · rw [hsame bytes padded hpadded, hstats']

end Listing

end SyscallCensus
