import Mathlib.Data.List.DropRight
import SyscallCensus.Proofs.Decoding
import SyscallCensus.Report.Document

/-!
# Documents read back

About the report of `SPEC_FULL.md`, Section 10.8 (CLI).

A document that was written on many lines is read as the value that it stands for (`parse?_lines`),
whatever texts and numbers are in it. So the text of a report determines what the report says: its
members, in their order, and all of its system calls (`parse?_report`). A list of system calls that
stands alone is read as that list (`parseCalls?_lines`).

The leaves come first. A text is written character by character, and `Spells` says of some bytes
that the reader takes them for others, whatever follows; it holds of every escaped character, and of
what is composed of such. A number ends where no digit, point or exponent follows (`Ends`). Values
are then read by recursion on the document. A reader gets no further than its depth allows, and each
takes at least one byte, so that the length of the text is depth enough.
-/

namespace SyscallCensus

open String (utf8EncodeChar)

namespace Text.Utf8

@[simp] theorem encode_append (first second : String) :
    encode (first ++ second) = encode first ++ encode second := by
  simp [encode_eq_flatMap]

theorem encode_join (texts : List String) : encode (String.join texts) = texts.flatMap encode := by
  induction texts with
  | nil => rfl
  | cons text texts ih => rw [String.join_cons, encode_append, ih, List.flatMap_cons]

theorem decode?_encode (text : String) : decode? (encode text) = some text := by
  have hvalid : (⟨(encode text).toArray⟩ : ByteArray) = text.toByteArray := by
    rw [encode, Array.toArray_toList, String.toUTF8_eq_toByteArray]
  rw [decode?, hvalid, String.fromUTF8?, dif_pos text.isValidUTF8]
  rfl

theorem utf8EncodeChar_of_ascii {c : Char} (h : c.toNat < 0x80) :
    utf8EncodeChar c = [UInt8.ofNat c.toNat] := by
  have hle : c.val.toNat ≤ 0x7f := Nat.le_of_lt_succ h
  rw [utf8EncodeChar, if_pos hle]
  rfl

theorem le_of_mem_utf8EncodeChar {c : Char} (h : 0x80 ≤ c.toNat) {b : UInt8}
    (hb : b ∈ utf8EncodeChar c) : 0x80 ≤ b := by
  have hlt : ¬ c.val.toNat ≤ 0x7f := Nat.not_le_of_lt h
  rw [utf8EncodeChar, if_neg hlt] at hb
  rw [UInt8.le_iff_toNat_le]
  split at hb
  · simp only [List.mem_cons, List.not_mem_nil, or_false] at hb
    rcases hb with rfl | rfl <;> simp <;> omega
  · split at hb
    · simp only [List.mem_cons, List.not_mem_nil, or_false] at hb
      rcases hb with rfl | rfl | rfl <;> simp <;> omega
    · simp only [List.mem_cons, List.not_mem_nil, or_false] at hb
      rcases hb with rfl | rfl | rfl | rfl <;> simp <;> omega

end Text.Utf8

namespace Json

open Text.Utf8 (encode encode_append encode_eq_flatMap)

/-! ### Texts -/

/-- Bytes between quotes that are read as others, whatever follows. -/
def Spells (written bytes : List UInt8) : Prop :=
  ∃ read : List Piece,
    (∀ rest, pieces (written ++ rest) = (pieces rest).map fun (more, rest) =>
      (read ++ more, rest)) ∧
    ∀ more, pieceBytes (read ++ more) = (pieceBytes more).map (bytes ++ ·)

namespace Spells

variable {written written' bytes bytes' : List UInt8}

theorem nil : Spells [] [] :=
  ⟨[], fun rest => by simp, fun more => by simp⟩

theorem append (h : Spells written bytes) (h' : Spells written' bytes') :
    Spells (written ++ written') (bytes ++ bytes') := by
  obtain ⟨read, hread, hbytes⟩ := h
  obtain ⟨read', hread', hbytes'⟩ := h'
  refine ⟨read ++ read', fun rest => ?_, fun more => ?_⟩
  · rw [List.append_assoc, hread, hread', Option.map_map]
    simp [Function.comp_def]
  · rw [List.append_assoc, hbytes, hbytes', Option.map_map]
    simp [Function.comp_def]

/-- A byte that needs no escape stands for itself. -/
theorem plain {b : UInt8} (hb : 0x20 ≤ b) (hquote : b ≠ 0x22) (hslash : b ≠ 0x5C) :
    Spells [b] [b] := by
  refine ⟨[.byte b], fun rest => ?_, fun more => rfl⟩
  have hcontrol : ¬ b < 0x20 := UInt8.not_lt.2 hb
  rw [List.singleton_append, pieces]
  · cases pieces rest <;> simp [hcontrol, hslash]
  · exact hquote
  · intro _ _ _ _ _ h
    exact absurd h hslash
  · intro _ _ h
    exact absurd h hslash

theorem plains (h : ∀ b ∈ bytes, 0x20 ≤ b ∧ b ≠ 0x22 ∧ b ≠ 0x5C) : Spells bytes bytes := by
  induction bytes with
  | nil => exact nil
  | cons b bytes ih =>
    obtain ⟨hb, hquote, hslash⟩ := h b List.mem_cons_self
    exact (plain hb hquote hslash).append (ih fun b hb => h b (List.mem_cons_of_mem _ hb))

/-- A short escape stands for its byte. -/
theorem short {e b : UInt8} (he : shortEscape? e = some b) (hu : e ≠ 0x75) :
    Spells [0x5C, e] [b] := by
  refine ⟨[.byte b], fun rest => ?_, fun more => rfl⟩
  rw [List.cons_append, List.singleton_append, pieces]
  · cases pieces rest <;> simp [he]
  · intro _ _ _ _ _ h
    exact absurd h hu

/-- A long escape stands for the character with its number. -/
theorem long {n : Nat} (hn : n < 0x20) :
    Spells (encode ("\\u00" ++ String.ofList [Nat.digitChar (n / 16), Nat.digitChar (n % 16)]))
      (utf8EncodeChar (Char.ofNat n)) := by
  have hdigit : ∀ d < 16, utf8EncodeChar (Nat.digitChar d) = [UInt8.ofNat (Nat.digitChar d).toNat] ∧
      hexDigit? (UInt8.ofNat (Nat.digitChar d).toNat) = some d := by
    decide
  obtain ⟨hhigh, hhigh'⟩ := hdigit (n / 16) (by omega)
  obtain ⟨hlow, hlow'⟩ := hdigit (n % 16) (by omega)
  have hwritten :
    encode ("\\u00" ++ String.ofList [Nat.digitChar (n / 16), Nat.digitChar (n % 16)]) =
      [0x5C, 0x75, 0x30, 0x30, UInt8.ofNat (Nat.digitChar (n / 16)).toNat,
        UInt8.ofNat (Nat.digitChar (n % 16)).toNat] := by
    rw [encode_append, encode_eq_flatMap (.ofList [Nat.digitChar (n / 16), Nat.digitChar (n % 16)]),
      String.toList_ofList]
    simp only [List.flatMap_cons, List.flatMap_nil, hhigh, hlow]
    rfl
  have hzero : hexDigit? 0x30 = some 0 := rfl
  have hvalue : ((0 * 16 + 0) * 16 + n / 16) * 16 + n % 16 = n := by omega
  refine ⟨[.unit n], fun rest => ?_, fun more => ?_⟩
  · rw [hwritten]
    simp only [List.cons_append, List.nil_append]
    rw [pieces]
    simp only [hzero, hhigh', hlow', Option.bind_eq_bind, Option.bind_some, hvalue]
    cases pieces rest <;> rfl
  · have hhigher : ¬ (0xD800 ≤ n ∧ n < 0xDC00) := by omega
    have hlower : ¬ (0xDC00 ≤ n ∧ n < 0xE000) := by omega
    rw [List.singleton_append, pieceBytes.eq_def]
    simp [hhigher, hlower, encode_eq_flatMap]

theorem unescaped {c : Char} (hcontrol : 0x20 ≤ c.toNat) (hquote : c ≠ '"') (hslash : c ≠ '\\') :
    Spells (encode (String.singleton c)) (utf8EncodeChar c) := by
  have hsingle : encode (String.singleton c) = utf8EncodeChar c := by
    rw [encode_eq_flatMap]
    simp
  rw [hsingle]
  apply plains
  intro b hb
  by_cases hascii : c.toNat < 0x80
  · rw [Text.Utf8.utf8EncodeChar_of_ascii hascii, List.mem_singleton] at hb
    have hnumber : b.toNat = c.toNat := by
      rw [hb, UInt8.toNat_ofNat_of_lt' (by simp [UInt8.size]; omega)]
    refine ⟨by rwa [UInt8.le_iff_toNat_le, hnumber], ?_, ?_⟩
    · rintro rfl
      exact hquote (Char.toNat_inj.1 hnumber.symm)
    · rintro rfl
      exact hslash (Char.toNat_inj.1 hnumber.symm)
  · have hhigh := Text.Utf8.le_of_mem_utf8EncodeChar (Nat.le_of_not_lt hascii) hb
    rw [UInt8.le_iff_toNat_le] at hhigh
    refine ⟨?_, ?_, ?_⟩
    · rw [UInt8.le_iff_toNat_le]
      exact Nat.le_trans (by decide) hhigh
    · rintro rfl
      exact absurd hhigh (by decide)
    · rintro rfl
      exact absurd hhigh (by decide)

/-- **Every character is read as itself.** -/
theorem escape (c : Char) : Spells (encode (Json.escape c)) (utf8EncodeChar c) := by
  unfold Json.escape
  split
  · exact short (e := 0x22) rfl (by decide)
  · exact short (e := 0x5C) rfl (by decide)
  · exact short (e := 0x6E) rfl (by decide)
  · exact short (e := 0x72) rfl (by decide)
  · exact short (e := 0x74) rfl (by decide)
  · rename_i hquote hslash _ _ _
    -- What is left is not one of the five characters above, and the escape depends on its number.
    split
    · rename_i hnumber
      rw [Text.Utf8.utf8EncodeChar_of_ascii (by omega), hnumber]
      exact short (e := 0x62) rfl (by decide)
    · split
      · rename_i hnumber
        rw [Text.Utf8.utf8EncodeChar_of_ascii (by omega), hnumber]
        exact short (e := 0x66) rfl (by decide)
      · split
        · rename_i hcontrol
          have hlong := long hcontrol
          rwa [Char.ofNat_toNat] at hlong
        · rename_i hcontrol
          exact unescaped (Nat.le_of_not_lt hcontrol) hquote hslash

theorem text (chars : List Char) :
    Spells (chars.flatMap fun c => encode (Json.escape c)) (chars.flatMap utf8EncodeChar) := by
  induction chars with
  | nil => exact nil
  | cons c chars ih => exact (Spells.escape c).append ih

end Spells

/-- What is written for a text, up to the quotes. -/
theorem encode_quote (text : String) :
    encode (quote text) = 0x22 :: (text.toList.flatMap fun c => encode (escape c)) ++ [0x22] := by
  have hquote : encode "\"" = [0x22] := rfl
  rw [quote, encode_append, encode_append, Text.Utf8.encode_join, List.flatMap_map, hquote]
  rfl

/-- **A text is read as itself**, whatever characters are in it. -/
theorem string?_written (text : String) (rest : Input) :
    string? ((text.toList.flatMap fun c => encode (escape c)) ++ 0x22 :: rest) =
      some (some text, rest) := by
  obtain ⟨read, hread, hbytes⟩ := Spells.text text.toList
  have hall : pieceBytes read = some (encode text) := by
    have hend := hbytes []
    rw [List.append_nil] at hend
    rw [hend, encode_eq_flatMap]
    simp [pieceBytes]
  rw [string?, hread, pieces]
  simp [hall, Text.Utf8.decode?_encode]

/-! ### Numbers -/

/-- What may stand behind a number. -/
def Ends (rest : Input) : Prop :=
  ∀ b ∈ rest.head?, isDigit b = false ∧ b ≠ 0x2E ∧ b ≠ 0x65 ∧ b ≠ 0x45

/-- The byte of a digit. -/
def digitByte (c : Char) : UInt8 := UInt8.ofNat c.toNat

/-- The bytes of a number. -/
def digitBytes (n : Nat) : List UInt8 := (Nat.toDigits 10 n).map digitByte

theorem toNat_digitByte {c : Char} (h : c.isDigit = true) :
    (digitByte c).toNat = c.toNat ∧ 0x30 ≤ c.toNat ∧ c.toNat ≤ 0x39 := by
  have hbounds : 0x30 ≤ c.toNat ∧ c.toNat ≤ 0x39 := by
    unfold Char.isDigit at h
    simp only [Bool.and_eq_true, decide_eq_true_eq, ge_iff_le, UInt32.le_iff_toNat_le] at h
    exact h
  refine ⟨?_, hbounds⟩
  rw [digitByte, UInt8.toNat_ofNat_of_lt' (by simp [UInt8.size]; omega)]

theorem isDigit_digitByte {c : Char} (h : c.isDigit = true) : isDigit (digitByte c) = true := by
  obtain ⟨hbyte, hlow, hhigh⟩ := toNat_digitByte h
  simp only [isDigit, Bool.and_eq_true, decide_eq_true_eq, UInt8.le_iff_toNat_le, hbyte]
  exact ⟨hlow, hhigh⟩

theorem isDigit_of_mem_toDigits {n : Nat} {c : Char} (h : c ∈ Nat.toDigits 10 n) :
    c.isDigit = true :=
  Nat.isDigit_of_mem_toDigits (by decide) (by decide) h

theorem isDigit_of_mem_digitBytes {n : Nat} {b : UInt8} (hb : b ∈ digitBytes n) :
    isDigit b = true := by
  obtain ⟨c, hc, rfl⟩ := List.mem_map.1 hb
  exact isDigit_digitByte (isDigit_of_mem_toDigits hc)

theorem encode_toString (n : Nat) : encode (toString n) = digitBytes n := by
  rw [encode_eq_flatMap, Nat.toString_eq_ofList_toDigits, String.toList_ofList, digitBytes,
    List.map_eq_flatMap]
  apply List.flatMap_congr
  intro c hc
  have hbounds := toNat_digitByte (isDigit_of_mem_toDigits hc)
  exact Text.Utf8.utf8EncodeChar_of_ascii (by omega)

theorem digitBytes_ne_nil (n : Nat) : digitBytes n ≠ [] := by
  simp [digitBytes, Nat.toDigits_ne_nil]

theorem exists_digitBytes (n : Nat) : ∃ b tail, digitBytes n = b :: tail ∧ isDigit b = true := by
  cases hbytes : digitBytes n with
  | nil => exact absurd hbytes (digitBytes_ne_nil n)
  | cons b tail =>
    exact ⟨b, tail, rfl, isDigit_of_mem_digitBytes (n := n)
      (by rw [hbytes]; exact List.mem_cons_self)⟩

theorem decimal_digitBytes (n : Nat) : decimal (digitBytes n) = n := by
  have hfold (digits : List Char) (hdigits : ∀ c ∈ digits, c.isDigit = true) (start : Nat) :
      (digits.map digitByte).foldl (fun m b => m * 10 + (b.toNat - 0x30)) start =
        Nat.ofDigitChars 10 digits start := by
    induction digits generalizing start with
    | nil => rfl
    | cons c digits ih =>
      have hc := (toNat_digitByte (hdigits c List.mem_cons_self)).1
      rw [List.map_cons, List.foldl_cons, Nat.ofDigitChars_cons, hc,
        ih fun c hc => hdigits c (List.mem_cons_of_mem _ hc), Nat.mul_comm start]
      rfl
  rw [decimal, digitBytes, hfold _ (fun c hc => isDigit_of_mem_toDigits hc),
    Nat.ofDigitChars_toDigits (by decide) (by decide)]

/-- No zero stands in front of another digit. -/
theorem head?_toDigits {n : Nat} (hn : 0 < n) : (Nat.toDigits 10 n).head? ≠ some '0' := by
  induction n using Nat.strongRecOn with
  | ind n ih =>
    by_cases hsmall : n < 10
    · rw [Nat.toDigits_of_lt_base hsmall]
      have hdigit : ∀ m < 10, 0 < m → Nat.digitChar m ≠ '0' := by decide
      simpa using hdigit n hsmall hn
    · have hle : 10 ≤ n := Nat.le_of_not_lt hsmall
      rw [Nat.toDigits_of_base_le (by decide) hle,
        List.head?_append_of_ne_nil _ Nat.toDigits_ne_nil]
      exact ih (n / 10) (by omega) (by omega)

theorem integer?_digitBytes (n : Nat) {rest : Input} (hrest : Ends rest) :
    integer? (digitBytes n ++ rest) = some (n, rest) := by
  have hall : ∀ b ∈ digitBytes n, isDigit b = true := fun b hb => isDigit_of_mem_digitBytes hb
  have hstop : rest.takeWhile isDigit = [] ∧ rest.dropWhile isDigit = rest := by
    cases rest with
    | nil => exact ⟨rfl, rfl⟩
    | cons b rest =>
      have hb := (hrest b rfl).1
      simp [hb]
  have hdigits : digits? (digitBytes n ++ rest) = some (digitBytes n, rest) := by
    obtain ⟨b, tail, hbytes, hb⟩ := exists_digitBytes n
    have hhead : (digitBytes n ++ rest).head?.any isDigit = true := by
      rw [hbytes]
      exact hb
    rw [digits?, if_pos hhead, List.takeWhile_append_of_pos hall, List.dropWhile_append_of_pos hall,
      hstop.1, hstop.2, List.append_nil]
  have hzero : ¬ ((digitBytes n).length > 1 ∧ (digitBytes n).head? = some 0x30) := by
    rintro ⟨hlength, hhead⟩
    rcases Nat.eq_zero_or_pos n with rfl | hn
    · exact absurd hlength (by decide)
    · rw [digitBytes, List.head?_map, Option.map_eq_some_iff] at hhead
      obtain ⟨c, hc, hbyte⟩ := hhead
      have hmem : c ∈ Nat.toDigits 10 n := List.mem_of_head? hc
      have hnumber := (toNat_digitByte (isDigit_of_mem_toDigits hmem)).1
      rw [hbyte] at hnumber
      obtain rfl : '0' = c := Char.toNat_inj.1 hnumber
      exact head?_toDigits hn hc
  simp only [integer?, hdigits, Option.bind_eq_bind, Option.bind_some]
  rw [if_neg hzero, decimal_digitBytes]
  rfl

/-- **A number is read as itself**, where it ends. -/
theorem number?_digitBytes (n : Nat) {rest : Input} (hrest : Ends rest) :
    number? (digitBytes n ++ rest) = some (.natural n, rest) := by
  have hfraction : fraction? rest = some (false, rest) := by
    cases rest with
    | nil => rfl
    | cons b rest =>
      rw [fraction?]
      intro more hmore
      exact absurd (List.cons.inj hmore).1 (hrest b rfl).2.1
  have hexponent : exponent? rest = some (false, rest) := by
    cases rest with
    | nil => rfl
    | cons b rest =>
      obtain ⟨-, -, hsmall, hcapital⟩ := hrest b rfl
      simp [exponent?, hsmall, hcapital]
  have hmagnitude : magnitude? false (digitBytes n ++ rest) = some (.natural n, rest) := by
    rw [magnitude?, integer?_digitBytes n hrest]
    simp [hfraction, hexponent]
  obtain ⟨b, tail, hbytes, hb⟩ := exists_digitBytes n
  rw [hbytes, List.cons_append] at hmagnitude ⊢
  rw [number?, hmagnitude]
  intro more hmore
  rw [(List.cons.inj hmore).1] at hb
  cases hb

/-! ### White space -/

/-- Bytes of white space. -/
def Blank (bytes : List UInt8) : Prop := ∀ b ∈ bytes, isSpace b = true

theorem Blank.append {first second : List UInt8} (h : Blank first) (h' : Blank second) :
    Blank (first ++ second) := by
  intro b hb
  rcases List.mem_append.1 hb with hb | hb
  · exact h b hb
  · exact h' b hb

theorem blank_lineFeed : Blank [0x0A] := List.forall_mem_singleton.2 rfl

theorem blank_space : Blank [0x20] := List.forall_mem_singleton.2 rfl

theorem blank_twoSpaces : Blank (encode "  ") := by
  intro b hb
  exact List.all_eq_true.1 (by decide : (encode "  ").all isSpace = true) b hb

section

variable {blanks : List UInt8} {input other : Input} {b : UInt8}

theorem skipSpace_append (h : Blank blanks) : skipSpace (blanks ++ input) = skipSpace input :=
  List.dropWhile_append_of_pos h

theorem skipSpace_cons (h : isSpace b = false) : skipSpace (b :: input) = b :: input := by
  rw [skipSpace, List.dropWhile_cons_of_neg (by simp [h])]

theorem skipSpace_skipSpace : skipSpace (skipSpace input) = skipSpace input :=
  List.dropWhile_idempotent isSpace input

theorem skipSpace_append_cons (h : Blank blanks) (hb : isSpace b = false) :
    skipSpace (blanks ++ b :: input) = b :: input := by
  rw [skipSpace_append h, skipSpace_cons hb]

/-- White space before a value does not matter. -/
theorem value?_congr (depth : Nat) (h : skipSpace input = skipSpace other) :
    value? depth input = value? depth other := by
  cases depth with
  | zero => rfl
  | succ depth => rw [value?, value?, h]

theorem items?_congr (depth : Nat) (h : skipSpace input = skipSpace other) :
    items? depth input = items? depth other := by
  cases depth with
  | zero => rfl
  | succ depth => rw [items?, items?, value?_congr depth h]

theorem members?_congr (depth : Nat) (h : skipSpace input = skipSpace other) :
    members? depth input = members? depth other := by
  cases depth with
  | zero => rfl
  | succ depth => rw [members?, members?, memberName?, memberName?, h]

end

/-! ### Values -/

mutual

/-- The value that a document stands for. -/
def Document.value : Document → Value
  | .number n => .number (.natural n)
  | .text s => .string (some s)
  | .list items => .array (itemValues items)
  | .record fields => .object (fieldValues fields)

/-- The values that documents stand for. -/
def itemValues : List Document → List Value
  | [] => []
  | d :: rest => d.value :: itemValues rest

/-- The named values that named documents stand for. -/
def fieldValues : List (String × Document) → List (Option String × Value)
  | [] => []
  | (name, d) :: rest => (some name, d.value) :: fieldValues rest

end

theorem itemValues_eq_map (items : List Document) :
    itemValues items = items.map Document.value := by
  induction items with
  | nil => rfl
  | cons d items ih => rw [itemValues, ih, List.map_cons]

/-- Parts on lines of their own, without the brackets around them. -/
def joined (indent : String) (parts : List String) : List UInt8 :=
  encode (String.intercalate ",\n" (parts.map fun part => indent ++ part))

theorem joined_singleton (indent part : String) :
    joined indent [part] = encode indent ++ encode part := by
  simp [joined]

theorem joined_cons_cons (indent part next : String) (parts : List String) :
    joined indent (part :: next :: parts) =
      encode indent ++ (encode part ++ 0x2C :: ([0x0A] ++ joined indent (next :: parts))) := by
  have hcomma : encode ",\n" = [0x2C, 0x0A] := rfl
  simp only [joined, List.map_cons, String.intercalate_cons_cons, encode_append, hcomma]
  simp

theorem encode_block {indent opening closing : String} {parts : List String} (h : parts ≠ []) :
    encode (block indent opening closing parts) =
      encode opening ++ ([0x0A] ++ (joined (indent ++ "  ") parts ++
        ([0x0A] ++ encode indent ++ encode closing))) := by
  have hfeed : encode "\n" = [0x0A] := rfl
  rw [block, if_neg (by simpa using h)]
  simp [joined, hfeed, String.append_assoc]

theorem prettyItems_ne_nil {indent : String} {items : List Document} (h : items ≠ []) :
    prettyItems indent items ≠ [] := by
  cases items with
  | nil => exact absurd rfl h
  | cons d items => simp [prettyItems]

theorem prettyFields_ne_nil {indent : String} {fields : List (String × Document)}
    (h : fields ≠ []) : prettyFields indent fields ≠ [] := by
  cases fields with
  | nil => exact absurd rfl h
  | cons field fields =>
    obtain ⟨name, d⟩ := field
    simp [prettyFields]

theorem encode_pretty_list (indent : String) {items : List Document} (h : items ≠ []) :
    encode ((Document.list items).pretty indent) =
      0x5B :: ([0x0A] ++ (joined (indent ++ "  ") (prettyItems (indent ++ "  ") items) ++
        ([0x0A] ++ encode indent ++ [0x5D]))) := by
  have hopening : encode "[" = [0x5B] := rfl
  have hclosing : encode "]" = [0x5D] := rfl
  rw [Document.pretty, encode_block (prettyItems_ne_nil h), hopening, hclosing]
  rfl

theorem encode_pretty_record (indent : String) {fields : List (String × Document)}
    (h : fields ≠ []) :
    encode ((Document.record fields).pretty indent) =
      0x7B :: ([0x0A] ++ (joined (indent ++ "  ") (prettyFields (indent ++ "  ") fields) ++
        ([0x0A] ++ encode indent ++ [0x7D]))) := by
  have hopening : encode "\x7b" = [0x7B] := rfl
  have hclosing : encode "\x7d" = [0x7D] := rfl
  rw [Document.pretty, encode_block (prettyFields_ne_nil h), hopening, hclosing]
  rfl

theorem isSpace_of_isDigit {b : UInt8} (hb : isDigit b = true) : isSpace b = false := by
  cases hspace : isSpace b with
  | false => rfl
  | true =>
    simp only [isSpace, Bool.or_eq_true, beq_iff_eq] at hspace
    rcases hspace with ((rfl | rfl) | rfl) | rfl <;> cases hb

/-- **How a document begins**: not with white space, and not with a closing bracket. -/
theorem exists_encode_pretty (indent : String) (d : Document) :
    ∃ b tail, encode (d.pretty indent) = b :: tail ∧ isSpace b = false ∧ b ≠ 0x5D := by
  cases d with
  | number n =>
    obtain ⟨b, tail, hbytes, hb⟩ := exists_digitBytes n
    refine ⟨b, tail, by rw [Document.pretty, encode_toString, hbytes], isSpace_of_isDigit hb, ?_⟩
    rintro rfl
    cases hb
  | text s => exact ⟨0x22, _, by rw [Document.pretty, encode_quote]; rfl, rfl, by decide⟩
  | list items =>
    by_cases h : items = []
    · subst h
      exact ⟨0x5B, [0x5D], rfl, rfl, by decide⟩
    · exact ⟨0x5B, _, encode_pretty_list indent h, rfl, by decide⟩
  | record fields =>
    by_cases h : fields = []
    · subst h
      exact ⟨0x7B, [0x7D], rfl, rfl, by decide⟩
    · exact ⟨0x7B, _, encode_pretty_record indent h, rfl, by decide⟩

/-- Parts begin like the first of them, behind white space. -/
theorem head?_skipSpace_joined {indent part : String} (hindent : Blank (encode indent)) {b : UInt8}
    {tail : List UInt8} (hpart : encode part = b :: tail) (hb : isSpace b = false)
    (parts : List String) (close : Input) :
    (skipSpace (joined indent (part :: parts) ++ close)).head? = some b := by
  obtain ⟨more, hmore⟩ : ∃ more, joined indent (part :: parts) = encode indent ++ b :: more := by
    cases parts with
    | nil => exact ⟨tail, by rw [joined_singleton, hpart]⟩
    | cons next parts => exact ⟨_, by rw [joined_cons_cons, hpart, List.cons_append]⟩
  rw [hmore, List.append_assoc, List.cons_append, skipSpace_append_cons hindent hb]
  rfl

/-! ### Documents -/

theorem memberName?_written (name : String) {blanks : List UInt8} (hblanks : Blank blanks)
    (rest : Input) :
    memberName? (blanks ++ (encode (quote name) ++ 0x3A :: rest)) = some (some name, rest) := by
  have hinput : encode (quote name) ++ 0x3A :: rest =
      0x22 :: ((name.toList.flatMap fun c => encode (escape c)) ++ 0x22 :: 0x3A :: rest) := by
    rw [encode_quote]
    simp
  rw [memberName?, hinput, skipSpace_append_cons hblanks rfl]
  simp only [string?_written, Option.bind_eq_bind, Option.bind_some]
  rw [skipSpace_cons rfl]
  rfl

theorem ends_cons {b : UInt8} {rest : Input} (hdigit : isDigit b = false) (hpoint : b ≠ 0x2E)
    (hsmall : b ≠ 0x65) (hcapital : b ≠ 0x45) : Ends (b :: rest) := by
  intro c hc
  obtain rfl : b = c := by simpa using hc
  exact ⟨hdigit, hpoint, hsmall, hcapital⟩

section

variable {depth : Nat} {b : UInt8} {blanks : List UInt8} {input after rest : Input} {item : Value}
  {name : Option String}

theorem value?_digit (hb : isDigit b = true) :
    value? (depth + 1) (b :: rest) =
      (number? (b :: rest)).map fun (n, rest) => (.number n, rest) := by
  have hne (c : UInt8) (hc : isDigit c = false) : b ≠ c := by
    rintro rfl
    rw [hb] at hc
    cases hc
  rw [value?, skipSpace_cons (isSpace_of_isDigit hb)]
  -- None of the six bytes that other values begin with is a digit.
  split <;> first
    | rfl
    | rename_i heq
      exact absurd (List.cons.inj heq).1 (hne _ rfl)

theorem value?_list (hhead : (skipSpace input).head? ≠ some 0x5D) :
    value? (depth + 1) (0x5B :: input) =
      (items? depth input).map fun (items, rest) => (.array items, rest) := by
  rw [value?, skipSpace_cons rfl]
  simp only
  split
  · rename_i heq
    exact absurd (by rw [heq]; rfl) hhead
  · rw [items?_congr depth skipSpace_skipSpace]
    cases items? depth input <;> rfl

theorem value?_record (hhead : (skipSpace input).head? ≠ some 0x7D) :
    value? (depth + 1) (0x7B :: input) =
      (members? depth input).map fun (members, rest) => (.object members, rest) := by
  rw [value?, skipSpace_cons rfl]
  simp only
  split
  · rename_i heq
    exact absurd (by rw [heq]; rfl) hhead
  · rw [members?_congr depth skipSpace_skipSpace]
    cases members? depth input <;> rfl

theorem items?_last (hvalue : value? depth input = some (item, after))
    (hafter : skipSpace after = 0x5D :: rest) : items? (depth + 1) input = some ([item], rest) := by
  simp [items?, hvalue, hafter]

theorem items?_more (hvalue : value? depth input = some (item, 0x2C :: rest)) :
    items? (depth + 1) input =
      (items? depth rest).map fun (more, rest) => (item :: more, rest) := by
  have hcomma : skipSpace (0x2C :: rest) = 0x2C :: rest := skipSpace_cons rfl
  simp only [items?, hvalue, hcomma, Option.bind_eq_bind, Option.bind_some]
  cases items? depth rest <;> rfl

theorem members?_last (hname : memberName? input = some (name, rest))
    (hvalue : value? depth rest = some (item, after)) {behind : Input}
    (hafter : skipSpace after = 0x7D :: behind) :
    members? (depth + 1) input = some ([(name, item)], behind) := by
  simp [members?, hname, hvalue, hafter]

theorem members?_more (hname : memberName? input = some (name, rest)) {behind : Input}
    (hvalue : value? depth rest = some (item, 0x2C :: behind)) :
    members? (depth + 1) input =
      (members? depth behind).map fun (more, rest) => ((name, item) :: more, rest) := by
  have hcomma : skipSpace (0x2C :: behind) = 0x2C :: behind := skipSpace_cons rfl
  simp only [members?, hname, hvalue, hcomma, Option.bind_eq_bind, Option.bind_some]
  cases members? depth behind <;> rfl

end

theorem encode_field (name : String) (d : Document) (indent : String) :
    encode (quote name ++ ": " ++ d.pretty indent) =
      encode (quote name) ++ 0x3A :: ([0x20] ++ encode (d.pretty indent)) := by
  have hcolon : encode ": " = [0x3A, 0x20] := rfl
  simp [hcolon]

theorem ends_lineFeed (rest : Input) : Ends (0x0A :: rest) :=
  ends_cons rfl (by decide) (by decide) (by decide)

theorem ends_comma (rest : Input) : Ends (0x2C :: rest) :=
  ends_cons rfl (by decide) (by decide) (by decide)

theorem blank_deeper {indent : String} (hindent : Blank (encode indent)) :
    Blank (encode (indent ++ "  ")) := by
  rw [encode_append]
  exact hindent.append blank_twoSpaces

/-- A list is read if its items are. -/
theorem value?_pretty_list {indent : String} (hindent : Blank (encode indent)) {depth : Nat}
    {d : Document} {items : List Document} {values : List Value} {rest : Input}
    (hread : items? depth (joined (indent ++ "  ") (prettyItems (indent ++ "  ") (d :: items)) ++
      ([0x0A] ++ encode indent ++ 0x5D :: rest)) = some (values, rest)) :
    value? (depth + 1) (encode ((Document.list (d :: items)).pretty indent) ++ rest) =
      some (.array values, rest) := by
  obtain ⟨b, tail, hbytes, hspace, hbracket⟩ := exists_encode_pretty (indent ++ "  ") d
  have hhead := head?_skipSpace_joined (blank_deeper hindent) hbytes hspace
    (prettyItems (indent ++ "  ") items) ([0x0A] ++ encode indent ++ 0x5D :: rest)
  rw [encode_pretty_list indent (List.cons_ne_nil d items), List.cons_append, List.append_assoc,
    List.append_assoc, List.append_assoc, List.singleton_append (x := 0x5D), value?_list,
    items?_congr depth (skipSpace_append blank_lineFeed), hread]
  · rfl
  · rw [skipSpace_append blank_lineFeed, prettyItems, hhead]
    simpa using hbracket

/-- A record is read if its members are. -/
theorem value?_pretty_record {indent : String} (hindent : Blank (encode indent)) {depth : Nat}
    {name : String} {d : Document} {fields : List (String × Document)}
    {values : List (Option String × Value)} {rest : Input}
    (hread : members? depth (joined (indent ++ "  ")
      (prettyFields (indent ++ "  ") ((name, d) :: fields)) ++
      ([0x0A] ++ encode indent ++ 0x7D :: rest)) = some (values, rest)) :
    value? (depth + 1) (encode ((Document.record ((name, d) :: fields)).pretty indent) ++ rest) =
      some (.object values, rest) := by
  obtain ⟨tail, hquote⟩ : ∃ tail, encode (quote name ++ ": " ++ d.pretty (indent ++ "  ")) =
      0x22 :: tail := by
    rw [encode_field, encode_quote]
    exact ⟨_, rfl⟩
  have hhead := head?_skipSpace_joined (blank_deeper hindent) hquote rfl
    (prettyFields (indent ++ "  ") fields) ([0x0A] ++ encode indent ++ 0x7D :: rest)
  rw [encode_pretty_record indent (List.cons_ne_nil (name, d) fields), List.cons_append,
    List.append_assoc, List.append_assoc, List.append_assoc, List.singleton_append (x := 0x7D),
    value?_record, members?_congr depth (skipSpace_append blank_lineFeed), hread]
  · rfl
  · rw [skipSpace_append blank_lineFeed, prettyFields, hhead]
    decide

mutual

/-- **A document is read as the value that it stands for**, where it ends. -/
theorem value?_pretty {indent : String} (hindent : Blank (encode indent)) (d : Document)
    (depth : Nat) (hdepth : (encode (d.pretty indent)).length ≤ depth) {rest : Input}
    (hrest : Ends rest) :
    value? depth (encode (d.pretty indent) ++ rest) = some (d.value, rest) := by
  have hinner := blank_deeper hindent
  -- A document has at least one byte, so that there is a reader for it.
  obtain ⟨depth, rfl⟩ : ∃ inner, depth = inner + 1 := by
    obtain ⟨b, tail, hbytes, -⟩ := exists_encode_pretty indent d
    rw [hbytes, List.length_cons] at hdepth
    exact ⟨depth - 1, by omega⟩
  match d with
  | .number n =>
    obtain ⟨b, tail, hbytes, hb⟩ := exists_digitBytes n
    have hnumber := number?_digitBytes n hrest
    rw [hbytes, List.cons_append] at hnumber
    rw [Document.pretty, encode_toString, hbytes, List.cons_append, value?_digit hb, hnumber]
    rfl
  | .text s =>
    rw [Document.pretty, encode_quote, List.cons_append, List.cons_append, List.append_assoc,
      List.singleton_append, value?, skipSpace_cons rfl]
    simp only [string?_written, Option.bind_eq_bind, Option.bind_some]
    rfl
  | .list [] => rfl
  | .list (d :: items) =>
    have hlength : (joined (indent ++ "  ") (prettyItems (indent ++ "  ") (d :: items))).length <
        depth := by
      simp only [encode_pretty_list indent (List.cons_ne_nil d items), List.length_cons,
        List.length_append, List.length_nil] at hdepth
      omega
    exact value?_pretty_list hindent (items?_pretty hinner (d :: items) (List.cons_ne_nil d items)
      depth hlength (ends_lineFeed _) (skipSpace_append_cons (blank_lineFeed.append hindent) rfl))
  | .record [] => rfl
  | .record ((name, d) :: fields) =>
    have hlength : (joined (indent ++ "  ")
        (prettyFields (indent ++ "  ") ((name, d) :: fields))).length < depth := by
      simp only [encode_pretty_record indent (List.cons_ne_nil (name, d) fields), List.length_cons,
        List.length_append, List.length_nil] at hdepth
      omega
    exact value?_pretty_record hindent (members?_pretty hinner ((name, d) :: fields)
      (List.cons_ne_nil (name, d) fields) depth hlength (ends_lineFeed _)
      (skipSpace_append_cons (blank_lineFeed.append hindent) rfl))

/-- Documents are read one after the other, up to the bracket. -/
theorem items?_pretty {indent : String} (hindent : Blank (encode indent)) (items : List Document)
    (hitems : items ≠ []) (depth : Nat)
    (hdepth : (joined indent (prettyItems indent items)).length < depth) {close rest : Input}
    (hends : Ends close) (hclose : skipSpace close = 0x5D :: rest) :
    items? depth (joined indent (prettyItems indent items) ++ close) =
      some (itemValues items, rest) := by
  obtain ⟨depth, rfl⟩ : ∃ inner, depth = inner + 1 := ⟨depth - 1, by omega⟩
  match items with
  | [] => exact absurd rfl hitems
  | [d] =>
    simp only [prettyItems, joined_singleton, List.length_append] at hdepth ⊢
    rw [List.append_assoc, items?_congr _ (skipSpace_append hindent)]
    exact items?_last (value?_pretty hindent d depth (by omega) hends) hclose
  | d :: next :: items =>
    have hread := items?_pretty hindent (next :: items) (List.cons_ne_nil next items) depth
    simp only [prettyItems, joined_cons_cons, List.length_append,
      List.length_cons] at hdepth hread ⊢
    rw [List.append_assoc, List.append_assoc, items?_congr _ (skipSpace_append hindent)]
    have hvalue := value?_pretty hindent d depth (by omega)
      (ends_comma ([0x0A] ++ joined indent (next.pretty indent :: prettyItems indent items) ++
        close))
    rw [List.cons_append, items?_more hvalue, List.append_assoc,
      items?_congr _ (skipSpace_append blank_lineFeed), hread (by omega) hends hclose]
    rfl

/-- Named documents are read one after the other, up to the brace. -/
theorem members?_pretty {indent : String} (hindent : Blank (encode indent))
    (fields : List (String × Document)) (hfields : fields ≠ []) (depth : Nat)
    (hdepth : (joined indent (prettyFields indent fields)).length < depth) {close rest : Input}
    (hends : Ends close) (hclose : skipSpace close = 0x7D :: rest) :
    members? depth (joined indent (prettyFields indent fields) ++ close) =
      some (fieldValues fields, rest) := by
  obtain ⟨depth, rfl⟩ : ∃ inner, depth = inner + 1 := ⟨depth - 1, by omega⟩
  match fields with
  | [] => exact absurd rfl hfields
  | [(name, d)] =>
    simp only [prettyFields, joined_singleton, encode_field, List.length_append, List.length_cons]
      at hdepth ⊢
    have hname := memberName?_written name hindent ([0x20] ++ (encode (d.pretty indent) ++ close))
    have hvalue := value?_pretty hindent d depth (by omega) hends
    rw [← value?_congr _ (skipSpace_append blank_space)] at hvalue
    simp only [List.append_assoc, List.cons_append] at hname hvalue ⊢
    exact members?_last hname hvalue hclose
  | (name, d) :: (next, e) :: fields =>
    have hread := members?_pretty hindent ((next, e) :: fields) (List.cons_ne_nil _ fields) depth
    simp only [prettyFields, joined_cons_cons, encode_field, List.length_append, List.length_cons]
      at hdepth hread ⊢
    have hname := memberName?_written name hindent ([0x20] ++ (encode (d.pretty indent) ++ 0x2C ::
      ([0x0A] ++ (joined indent ((quote next ++ ": " ++ e.pretty indent) ::
        prettyFields indent fields) ++ close))))
    have hvalue := value?_pretty hindent d depth (by omega)
      (ends_comma ([0x0A] ++ (joined indent ((quote next ++ ": " ++ e.pretty indent) ::
        prettyFields indent fields) ++ close)))
    rw [← value?_congr _ (skipSpace_append blank_space)] at hvalue
    have hstep := members?_more hname hvalue
    rw [members?_congr _ (skipSpace_append blank_lineFeed), hread (by omega) hends hclose] at hstep
    simp only [List.append_assoc, List.cons_append] at hstep ⊢
    exact hstep

end

/-- **The text of a document determines what it stands for.** -/
theorem parse?_lines (d : Document) : parse? (encode (Report.lines d)) = some d.value := by
  have hfeed : encode "\n" = [0x0A] := rfl
  have hindent : Blank (encode "") := fun b hb => absurd hb List.not_mem_nil
  have hread := value?_pretty hindent d ((encode (Report.lines d)).length + 1)
    (by rw [Report.lines, encode_append, List.length_append]; omega) (ends_lineFeed [])
  rw [Report.lines, encode_append, hfeed] at hread ⊢
  rw [parse?, hread]
  rfl

end Json

namespace Report

open Text.Utf8 (encode)

/-! ### Reports -/

/-- The value that a system call stands for: an object with its number and its label. -/
def callValue (call : SystemCall) : Json.Value :=
  .object [(some "id", .number (.natural call.id.toNat)), (some "name", .string (some call.name))]

theorem value_callDocument (call : SystemCall) : (callDocument call).value = callValue call := by
  simp only [callDocument, callValue, Json.Document.value, Json.fieldValues]

theorem value_callsDocument (calls : List SystemCall) :
    (callsDocument calls).value = .array (calls.map callValue) := by
  simp only [callsDocument, Json.Document.value, Json.itemValues_eq_map, List.map_map]
  exact congrArg Json.Value.array (List.map_congr_left fun call _ => value_callDocument call)

/-- **The text of a report says what the report says**: the input, its kind and digest, the time,
and all system calls in their order, each with its number and its label. -/
theorem parse?_report (report : Report) :
    Json.parse? (encode (lines report.document)) = some (.object [
      (some "source", .string (some report.source)),
      (some "kind", .string (some report.kind.label)),
      (some "sha256", .string (some report.sha256)),
      (some "generated_at", .string (some report.generatedAt)),
      (some "syscalls", .array (report.syscalls.map callValue))]) := by
  rw [Json.parse?_lines]
  simp only [document, Json.Document.value, Json.fieldValues, value_callsDocument]

theorem callOfJson?_callValue (call : SystemCall) : callOfJson? (callValue call) = some call := by
  have hid : call.id.toNat < 0x10000 := call.id.toNat_lt
  simp [callOfJson?, callValue, onlyMember?, call?, Json.Value.nat?, Json.Value.text?, hid]

/-- **A list of system calls is read back as it was written.** -/
theorem parseCalls?_lines (calls : List SystemCall) :
    parseCalls? (encode (lines (callsDocument calls))) = some calls := by
  have hcalls : (calls.map callValue).mapM callOfJson? = some calls := by
    induction calls with
    | nil => rfl
    | cons call calls ih => simp [callOfJson?_callValue, ih]
  rw [parseCalls?, Json.parse?_lines, value_callsDocument]
  exact hcalls

end Report

end SyscallCensus
