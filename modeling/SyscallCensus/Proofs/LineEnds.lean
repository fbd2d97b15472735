import SyscallCensus.Proofs.Concatenation

/-!
# The ends of lines

About `SPEC_FULL.md`, Section 10.2: "lines are read as bytes and decoded lossily".

A text is cut into lines as bytes, and each line is decoded and loses the carriage returns and line
feeds at its end. What is left of a line does not depend on how many there were: a byte of the ASCII
range ends whatever character was left open before it (`Utf8.decodeFrom_append_ascii`), so that a
line end is decoded as itself behind any bytes, and taken away again (`lineText_append_lineEnds`).

* `Padded.map_lineText_lines` — carriage returns in front of line feeds change the text of no line.
* `length_lines` — there are as many lines as line feeds, and one more if the last line has none.
-/

namespace SyscallCensus.Text

/-! ### Bytes between characters -/

namespace Utf8

/-- A byte of the ASCII range does not continue a character. -/
def ExpectsTail (state : Option Partial) : Prop := ∀ p ∈ state, 0x80 ≤ p.low

theorem expectsTail_none : ExpectsTail none := fun _ h => nomatch h

theorem expectsTail_lead? (b : UInt8) : ExpectsTail (lead? b) := by
  intro p hp
  unfold lead? at hp
  split at hp
  · cases hp
  · split at hp
    · cases hp
      exact UInt8.le_refl _
    · split at hp
      · cases hp
        dsimp only
        split <;> decide
      · split at hp
        · cases hp
          dsimp only
          split <;> decide
        · cases hp

theorem expectsTail_begin (b : UInt8) : ExpectsTail (begin b).2 := by
  unfold begin
  split
  · exact expectsTail_none
  · have hlead := expectsTail_lead? b
    cases h : lead? b with
    | none => exact expectsTail_none
    | some p =>
      rw [h] at hlead
      exact hlead

/-- Whatever was open before, the next byte that continues a character is none of the ASCII
range. -/
theorem expectsTail_step (state : Option Partial) (b : UInt8) : ExpectsTail (step state b).2 := by
  cases state with
  | none => exact expectsTail_begin b
  | some p =>
    unfold step
    dsimp only
    split
    · split
      · exact expectsTail_none
      · intro q hq
        cases hq
        exact UInt8.le_refl _
    · exact expectsTail_begin b

/-- A byte of the ASCII range ends the character that was left open, and is read as itself. -/
theorem decodeFrom_ascii {state : Option Partial} (hstate : ExpectsTail state) {b : UInt8}
    (hb : b < 0x80) (rest : List UInt8) :
    decodeFrom state (b :: rest) = decodeFrom state [] ++ Char.ofNat b.toNat :: decode rest := by
  have hbegin : begin b = ([Char.ofNat b.toNat], none) := by rw [begin, if_pos hb]
  cases state with
  | none =>
    show (begin b).1 ++ decodeFrom (begin b).2 rest = _
    rw [hbegin]
    rfl
  | some p =>
    have hout : ¬ (p.low ≤ b ∧ b ≤ p.high) :=
      fun h => UInt8.not_le.2 hb (UInt8.le_trans (hstate p rfl) h.1)
    have hstep : step (some p) b = ([replacement, Char.ofNat b.toNat], none) := by
      rw [step, if_neg hout, hbegin]
    show (step (some p) b).1 ++ decodeFrom (step (some p) b).2 rest = _
    rw [hstep]
    rfl

/-- **A byte of the ASCII range** separates what is decoded before it from what is decoded behind
it. -/
theorem decodeFrom_append_ascii {state : Option Partial} (hstate : ExpectsTail state)
    (first : List UInt8) {b : UInt8} (hb : b < 0x80) (rest : List UInt8) :
    decodeFrom state (first ++ b :: rest) =
      decodeFrom state first ++ Char.ofNat b.toNat :: decode rest := by
  induction first generalizing state with
  | nil => exact decodeFrom_ascii hstate hb rest
  | cons c first ih =>
    rw [List.cons_append, decodeFrom, ih (expectsTail_step state c), decodeFrom, List.append_assoc]

end Utf8

/-! ### What is left of a line -/

/-- The carriage return byte. -/
def carriageReturn : UInt8 := 0x0D

/-- The bytes that are taken away at the end of a line. -/
def IsLineEnd (b : UInt8) : Prop := b = lineFeed ∨ b = carriageReturn

theorem chompLine_concat (text : List Char) {c : Char} (hc : c = '\n' ∨ c = '\r') :
    chompLine (text ++ [c]) = chompLine text := by
  have hends : (c == '\n' || c == '\r') = true := by simpa using hc
  rw [chompLine, List.reverse_append, List.reverse_singleton, List.singleton_append,
    List.dropWhile_cons, if_pos hends, chompLine]

theorem lineText_concat (line : List UInt8) {b : UInt8} (hb : IsLineEnd b) :
    lineText (line ++ [b]) = lineText line := by
  have hascii : b < 0x80 := by rcases hb with rfl | rfl <;> decide
  have hchar : Char.ofNat b.toNat = '\n' ∨ Char.ofNat b.toNat = '\r' := by
    rcases hb with rfl | rfl <;> decide
  rw [lineText, Utf8.decode, Utf8.decodeFrom_append_ascii Utf8.expectsTail_none line hascii]
  exact chompLine_concat _ hchar

/-- **The text of a line** does not depend on its end, whatever bytes stand before it. -/
theorem lineText_append_lineEnds (body : List UInt8) {ending : List UInt8}
    (h : ∀ b ∈ ending, IsLineEnd b) : lineText (body ++ ending) = lineText body := by
  induction ending using List.reverseRecOn with
  | nil => rw [List.append_nil]
  | append_singleton ending b ih =>
    rw [List.forall_mem_append, List.forall_mem_singleton] at h
    rw [← List.append_assoc, lineText_concat _ h.2, ih h.1]

/-! ### Carriage returns in front of line feeds -/

/-- **A text with more carriage returns**: any number of them stands in front of each line feed. -/
inductive Padded : List UInt8 → List UInt8 → Prop where
  /-- Nothing is left. -/
  | nil : Padded [] []
  /-- A byte stays as it is. -/
  | byte (b : UInt8) {bytes padded : List UInt8} : Padded bytes padded →
      Padded (b :: bytes) (b :: padded)
  /-- Carriage returns are put in front of a line feed. -/
  | feed (n : Nat) {bytes padded : List UInt8} : Padded bytes padded →
      Padded (lineFeed :: bytes) (List.replicate n carriageReturn ++ lineFeed :: padded)

/-- Two lines that differ at most in their ends. -/
def SameBody (line other : List UInt8) : Prop :=
  ∃ body ending ending', line = body ++ ending ∧ other = body ++ ending' ∧
    (∀ b ∈ ending, IsLineEnd b) ∧ ∀ b ∈ ending', IsLineEnd b

theorem SameBody.refl (line : List UInt8) : SameBody line line :=
  ⟨line, [], [], (List.append_nil line).symm, (List.append_nil line).symm, by simp, by simp⟩

theorem SameBody.cons (b : UInt8) {line other : List UInt8} (h : SameBody line other) :
    SameBody (b :: line) (b :: other) := by
  obtain ⟨body, ending, ending', rfl, rfl, hending⟩ := h
  exact ⟨b :: body, ending, ending', rfl, rfl, hending⟩

theorem SameBody.lineText_eq {line other : List UInt8} (h : SameBody line other) :
    lineText line = lineText other := by
  obtain ⟨body, ending, ending', rfl, rfl, hending, hending'⟩ := h
  rw [lineText_append_lineEnds body hending, lineText_append_lineEnds body hending']

/-- A byte in front of two texts becomes a line in both, or a part of the first line in both. -/
theorem forall₂_consByte (b : UInt8) {lines others : List (List UInt8)}
    (h : List.Forall₂ SameBody lines others) :
    List.Forall₂ SameBody (consByte b lines) (consByte b others) := by
  unfold consByte
  split
  · exact .cons (.refl [b]) h
  · cases h with
    | nil => exact .cons (.refl [b]) .nil
    | cons hline hlines => exact .cons (hline.cons b) hlines

/-- Bytes in front of a line feed, none of which is one, make one line with it. -/
theorem lines_append_lineFeed {body : List UInt8} (h : lineFeed ∉ body) (rest : List UInt8) :
    lines (body ++ lineFeed :: rest) = (body ++ [lineFeed]) :: lines rest := by
  induction body with
  | nil => rfl
  | cons b body ih =>
    rw [List.mem_cons, not_or] at h
    show consByte b (lines (body ++ lineFeed :: rest)) = _
    rw [ih h.2, consByte, if_neg (Ne.symm h.1)]
    rfl

/-- Carriage returns in front of line feeds change lines at most at their ends. -/
theorem Padded.forall₂_lines {bytes padded : List UInt8} (h : Padded bytes padded) :
    List.Forall₂ SameBody (lines bytes) (lines padded) := by
  induction h with
  | nil => exact .nil
  | byte b _ ih => exact forall₂_consByte b ih
  | @feed n bytes padded _ ih =>
    have hnone : lineFeed ∉ List.replicate n carriageReturn := fun hmem =>
      absurd (List.eq_of_mem_replicate hmem) (by decide)
    rw [lines_append_lineFeed hnone]
    refine .cons ⟨[], [lineFeed], _, rfl, rfl, ?_, ?_⟩ ih
    · exact List.forall_mem_singleton.2 (.inl rfl)
    · refine List.forall_mem_append.2 ⟨fun b hb => .inr (List.eq_of_mem_replicate hb), ?_⟩
      exact List.forall_mem_singleton.2 (.inl rfl)

/-- **Carriage returns in front of line feeds** change the text of no line. -/
theorem Padded.map_lineText_lines {bytes padded : List UInt8} (h : Padded bytes padded) :
    (lines padded).map lineText = (lines bytes).map lineText := by
  have htexts : List.Forall₂ Eq ((lines bytes).map lineText) ((lines padded).map lineText) := by
    rw [List.forall₂_map_left_iff, List.forall₂_map_right_iff]
    exact h.forall₂_lines.imp fun _ _ => SameBody.lineText_eq
  rw [List.forall₂_eq_eq_eq] at htexts
  exact htexts.symm

/-! ### How many lines there are -/

theorem length_consByte (b : UInt8) (lines : List (List UInt8)) :
    (consByte b lines).length = lines.length + if b = lineFeed ∨ lines = [] then 1 else 0 := by
  unfold consByte
  by_cases hb : b = lineFeed
  · rw [if_pos hb, if_pos (.inl hb), List.length_cons]
  · rw [if_neg hb]
    cases lines with
    | nil => rw [if_pos (.inr rfl), List.length_singleton, List.length_nil]
    | cons line others => rw [if_neg (by simp [hb])]; rfl

/-- **The number of lines**: one for each line feed, and one more for bytes behind the last line
feed. -/
theorem length_lines (bytes : List UInt8) :
    (lines bytes).length =
      bytes.count lineFeed + if bytes = [] ∨ bytes.getLast? = some lineFeed then 0 else 1 := by
  induction bytes with
  | nil => rfl
  | cons b bytes ih =>
    show (consByte b (lines bytes)).length = _
    rw [length_consByte, ih, List.count_cons]
    cases bytes with
    | nil => by_cases hb : b = lineFeed <;> simp [hb, lines]
    | cons c bytes =>
      -- The last byte is that of the bytes behind `b`, which are in a line already.
      have hlast : (b :: c :: bytes).getLast? = (c :: bytes).getLast? := List.getLast?_cons_cons
      have hlines : lines (c :: bytes) ≠ [] := lines_ne_nil (List.cons_ne_nil c bytes)
      rw [hlast]
      by_cases hb : b = lineFeed
      · simp only [hb, hlines, or_false, if_true, beq_self_eq_true, List.cons_ne_nil, false_or]
        omega
      · simp [hb, hlines]

end SyscallCensus.Text
