import SyscallCensus.Proofs.LineEnds

/-!
# Decoding line by line

About `SPEC_FULL.md`, Section 10.2: "lines are read as bytes and decoded lossily".

Bytes are decoded with replacements: where a character is spelled it is read, and where none is, the
longest beginning of a spelling that stands there becomes one replacement character
(`Utf8.Decodes`). The decoder, which reads one byte at a time, does just that (`Utf8.decodes_iff`).
Between two bytes it knows which characters can still come of what it has read: those with the bits
that were read in front and with the next six bits within bounds (`Utf8.Opens`). A first byte brings
this about (`opens_lead`), and another byte keeps it (`Opens.next`) or completes the character
(`Opens.last`).

The bytes of a listing are decoded line by line. No spelling goes past a line feed, so that the
texts of the lines are together the text of the whole (`decode_by_lines`).
-/

namespace SyscallCensus.Text

namespace Utf8

open String (utf8EncodeChar)

/-! ### How characters are spelled -/

/-- A number without its last groups of six bits. -/
def leading (n : Nat) : Nat → Nat
  | 0 => n
  | k + 1 => leading n k / 64

/-- The last groups of six bits of a number, as the bytes that continue a character. -/
def tails (n : Nat) : Nat → List UInt8
  | 0 => []
  | k + 1 => UInt8.ofNat (leading n k % 64 + 0x80) :: tails n k

theorem exists_leading_eq (k m : Nat) : ∃ n, leading n k = m := by
  induction k generalizing m with
  | zero => exact ⟨m, rfl⟩
  | succ k ih =>
    obtain ⟨n, hn⟩ := ih (m * 64)
    refine ⟨n, ?_⟩
    rw [leading, hn]
    omega

/-- **How a spelling begins**: the first byte for the number of a character, and how many bytes come
behind it. -/
inductive First (b n : Nat) : Nat → Prop where
  /-- The first byte is the number. -/
  | none : n < 0x80 → b = n → First b n 0
  /-- The first byte has the leading bits, and one byte comes behind it. -/
  | one : 0x80 ≤ n → n < 0x800 → b = n / 64 + 0xC0 → First b n 1
  /-- Two bytes come behind the first. -/
  | two : 0x800 ≤ n → n < 0x10000 → b = n / 64 / 64 + 0xE0 → First b n 2
  /-- Three bytes come behind the first. -/
  | three : 0x10000 ≤ n → b = n / 64 / 64 / 64 + 0xF0 → First b n 3

theorem First.unique {b b' n k k' : Nat} (h : First b n k) (h' : First b' n k') :
    b = b' ∧ k = k' := by
  cases h <;> cases h' <;> constructor <;> omega

theorem utf8EncodeChar_eq (c : Char) :
    ∃ (b : UInt8) (k : Nat), First b.toNat c.toNat k ∧ utf8EncodeChar c = b :: tails c.toNat k := by
  have hscalar : c.toNat < 0xD800 ∨ 0xDFFF < c.toNat ∧ c.toNat < 0x110000 := c.valid
  have hdef : utf8EncodeChar c =
      if c.toNat ≤ 0x7F then [UInt8.ofNat c.toNat]
      else if c.toNat ≤ 0x7FF then
        [UInt8.ofNat (c.toNat / 64 % 32 + 0xC0), UInt8.ofNat (c.toNat % 64 + 0x80)]
      else if c.toNat ≤ 0xFFFF then
        [UInt8.ofNat (c.toNat / 4096 % 16 + 0xE0), UInt8.ofNat (c.toNat / 64 % 64 + 0x80),
          UInt8.ofNat (c.toNat % 64 + 0x80)]
      else
        [UInt8.ofNat (c.toNat / 262144 % 8 + 0xF0), UInt8.ofNat (c.toNat / 4096 % 64 + 0x80),
          UInt8.ofNat (c.toNat / 64 % 64 + 0x80), UInt8.ofNat (c.toNat % 64 + 0x80)] := rfl
  generalize c.toNat = n at *
  have hbyte {m : Nat} (hm : m < 256) : (UInt8.ofNat m).toNat = m := by
    rw [UInt8.toNat_ofNat']
    omega
  rw [hdef]
  by_cases hone : n ≤ 0x7F
  · rw [if_pos hone]
    exact ⟨_, 0, .none (by omega) (hbyte (by omega)), rfl⟩
  rw [if_neg hone]
  by_cases htwo : n ≤ 0x7FF
  · have hfirst : n / 64 % 32 = n / 64 := by omega
    rw [if_pos htwo, hfirst]
    exact ⟨_, 1, .one (by omega) (by omega) (hbyte (by omega)), rfl⟩
  rw [if_neg htwo]
  by_cases hthree : n ≤ 0xFFFF
  · have hfirst : n / 4096 % 16 = n / 64 / 64 := by omega
    rw [if_pos hthree, hfirst]
    exact ⟨_, 2, .two (by omega) (by omega) (hbyte (by omega)), rfl⟩
  · have hfirst : n / 262144 % 8 = n / 64 / 64 / 64 := by omega
    have hsecond : n / 4096 = n / 64 / 64 := by omega
    rw [if_neg hthree, hfirst, hsecond]
    exact ⟨_, 3, .three (by omega) (hbyte (by omega)), rfl⟩

/-- The first byte of a spelling. -/
theorem exists_first_of_prefix {b : UInt8} {c : Char} (h : [b] <+: utf8EncodeChar c) :
    ∃ k, First b.toNat c.toNat k := by
  obtain ⟨first, k, hfirst, hspelling⟩ := utf8EncodeChar_eq c
  rw [hspelling, List.cons_prefix_cons] at h
  exact ⟨k, h.1 ▸ hfirst⟩

/-- **The spelling of a character** goes on with its last bits. -/
theorem First.spelling {b : UInt8} {c : Char} {k : Nat} (h : First b.toNat c.toNat k) :
    utf8EncodeChar c = b :: tails c.toNat k := by
  obtain ⟨first, k', hfirst, hspelling⟩ := utf8EncodeChar_eq c
  obtain ⟨hb, rfl⟩ := h.unique hfirst
  rw [hspelling, UInt8.toNat_inj.1 hb]

/-! ### Characters that were begun -/

theorem toNat_ofNat {n : Nat} (h : n.isValidChar) : (Char.ofNat n).toNat = n := by
  have hchar : Char.ofNat (Char.ofNatAux n h).toNat = Char.ofNatAux n h := Char.ofNat_toNat _
  exact congrArg Char.toNat hchar

/-- The numbers of the characters that go on as announced: the bits that were read are in front, and
the next byte is within its bounds. -/
structure Partial.Covers (p : Partial) (n : Nat) : Prop where
  /-- The bits that were read. -/
  bits : leading n (p.owed + 1) = p.bits
  /-- The next byte is not too small. -/
  low : p.low.toNat ≤ leading n p.owed % 64 + 0x80
  /-- The next byte is not too great. -/
  high : leading n p.owed % 64 + 0x80 ≤ p.high.toNat

/-- **What is known of a character of which `part` was read.** The characters whose spelling begins
so are those that go on as announced, and there are such. -/
structure Opens (part : List UInt8) (p : Partial) : Prop where
  /-- Something was read. -/
  nonempty : part ≠ []
  /-- The next byte is one that continues a character. -/
  bounds : 0x80 ≤ p.low.toNat ∧ p.low.toNat ≤ p.high.toNat ∧ p.high.toNat ≤ 0xBF
  /-- Whatever goes on as announced is a character. -/
  scalar : ∀ n, p.Covers n → n.isValidChar
  /-- A spelling that begins so goes on as announced. -/
  covers : ∀ c : Char, part <+: utf8EncodeChar c → p.Covers c.toNat
  /-- What goes on as announced is spelled so. -/
  spelled : ∀ c : Char, p.Covers c.toNat → utf8EncodeChar c = part ++ tails c.toNat (p.owed + 1)

namespace Opens

variable {part : List UInt8} {p : Partial} {b : UInt8}

/-- The byte behind `part` in a spelling. -/
theorem toNat_eq_of_prefix (h : Opens part p) {c : Char} (hb : part ++ [b] <+: utf8EncodeChar c) :
    p.Covers c.toNat ∧ b.toNat = leading c.toNat p.owed % 64 + 0x80 := by
  have hcovers := h.covers c ((List.prefix_append part [b]).trans hb)
  rw [h.spelled c hcovers, List.prefix_append_right_inj, tails, List.cons_prefix_cons] at hb
  refine ⟨hcovers, ?_⟩
  rw [hb.1, UInt8.toNat_ofNat']
  omega

/-- A byte that continues the spelling of a character is within the bounds. -/
theorem within (h : Opens part p) {c : Char} (hb : part ++ [b] <+: utf8EncodeChar c) :
    p.low ≤ b ∧ b ≤ p.high := by
  obtain ⟨hcovers, hbyte⟩ := h.toNat_eq_of_prefix hb
  rw [UInt8.le_iff_toNat_le, UInt8.le_iff_toNat_le, hbyte]
  exact ⟨hcovers.low, hcovers.high⟩

/-- A character that goes on as announced has been begun and is not finished. -/
theorem exists_spelling (h : Opens part p) :
    ∃ c : Char, part <+: utf8EncodeChar c ∧ part ≠ utf8EncodeChar c := by
  obtain ⟨hlow, hbounds, hhigh⟩ := h.bounds
  obtain ⟨n, hn⟩ := exists_leading_eq p.owed (p.bits * 64 + (p.low.toNat - 0x80))
  have hcovers : p.Covers n := by
    constructor
    · rw [leading, hn]
      omega
    · rw [hn]
      omega
    · rw [hn]
      omega
  have hnat := toNat_ofNat (h.scalar n hcovers)
  have hspelled := h.spelled (Char.ofNat n) (by rwa [hnat])
  refine ⟨Char.ofNat n, ?_, ?_⟩
  · rw [hspelled]
    exact List.prefix_append _ _
  · rw [hspelled, tails]
    simp

/-- **One more byte** of a character that is not the last. -/
theorem next (h : Opens part p) (hlow : p.low ≤ b) (hhigh : b ≤ p.high) {owed : Nat}
    (howed : p.owed = owed + 1) :
    Opens (part ++ [b]) ⟨owed, 0x80, 0xBF, p.bits * 64 + (b.toNat - 0x80)⟩ := by
  obtain ⟨hbound, -, hbound'⟩ := h.bounds
  rw [UInt8.le_iff_toNat_le] at hlow hhigh
  -- The numbers that go on as announced behind the byte went on so before it, with this byte.
  have hcovers {n : Nat} (hn : leading n (owed + 1) = p.bits * 64 + (b.toNat - 0x80)) :
      p.Covers n ∧ leading n p.owed % 64 + 0x80 = b.toNat := by
    rw [howed, hn]
    refine ⟨⟨?_, ?_, ?_⟩, by omega⟩
    · rw [howed, leading, hn]
      omega
    · rw [howed, hn]
      omega
    · rw [howed, hn]
      omega
  refine ⟨by simp, by simp, fun n hn => h.scalar n (hcovers hn.bits).1, fun c hc => ?_,
    fun c hc => ?_⟩
  · obtain ⟨hcovers, hbyte⟩ := h.toNat_eq_of_prefix hc
    have hbits := hcovers.bits
    rw [howed] at hbyte hbits
    rw [leading] at hbits
    refine ⟨?_, ?_, ?_⟩
    · show leading c.toNat (owed + 1) = p.bits * 64 + (b.toNat - 0x80)
      omega
    · show 0x80 ≤ leading c.toNat owed % 64 + 0x80
      omega
    · show leading c.toNat owed % 64 + 0x80 ≤ 0xBF
      omega
  · obtain ⟨hcovers, hbyte⟩ := hcovers hc.bits
    rw [h.spelled c hcovers, tails, hbyte, UInt8.ofNat_toNat, howed]
    simp

/-- **The last byte** of a character. -/
theorem last (h : Opens part p) (hlow : p.low ≤ b) (hhigh : b ≤ p.high) (howed : p.owed = 0) :
    utf8EncodeChar (Char.ofNat (p.bits * 64 + (b.toNat - 0x80))) = part ++ [b] := by
  obtain ⟨hbound, -, hbound'⟩ := h.bounds
  rw [UInt8.le_iff_toNat_le] at hlow hhigh
  generalize hn : p.bits * 64 + (b.toNat - 0x80) = n
  have hbyte : n % 64 + 0x80 = b.toNat := by omega
  have hcovers : p.Covers n := by
    refine ⟨?_, ?_, ?_⟩
    · rw [howed]
      show n / 64 = p.bits
      omega
    · rw [howed]
      show p.low.toNat ≤ n % 64 + 0x80
      omega
    · rw [howed]
      show n % 64 + 0x80 ≤ p.high.toNat
      omega
  have hnat := toNat_ofNat (h.scalar n hcovers)
  rw [h.spelled _ (by rwa [hnat]), hnat, howed]
  show part ++ [UInt8.ofNat (n % 64 + 0x80)] = part ++ [b]
  rw [hbyte, UInt8.ofNat_toNat]

end Opens

/-- What a first byte announces. -/
theorem lead?_eq_some {b : UInt8} {p : Partial} (h : lead? b = some p) :
    (0xC2 ≤ b.toNat ∧ b.toNat < 0xE0 ∧ p = ⟨0, 0x80, 0xBF, b.toNat - 0xC0⟩) ∨
    (0xE0 ≤ b.toNat ∧ b.toNat < 0xF0 ∧
      p = ⟨1, if b = 0xE0 then 0xA0 else 0x80, if b = 0xED then 0x9F else 0xBF, b.toNat - 0xE0⟩) ∨
    (0xF0 ≤ b.toNat ∧ b.toNat < 0xF5 ∧
      p = ⟨2, if b = 0xF0 then 0x90 else 0x80, if b = 0xF4 then 0x8F else 0xBF,
        b.toNat - 0xF0⟩) := by
  unfold lead? at h
  simp only [UInt8.lt_iff_toNat_lt, UInt8.reduceToNat] at h
  split at h
  · cases h
  split at h
  · cases h
    exact .inl ⟨by omega, by omega, rfl⟩
  split at h
  · cases h
    exact .inr (.inl ⟨by omega, by omega, rfl⟩)
  split at h
  · cases h
    exact .inr (.inr ⟨by omega, by omega, rfl⟩)
  · cases h

theorem toNat_ite (b x y z : UInt8) :
    (b.toNat = x.toNat ∧ (if b = x then y else z).toNat = y.toNat) ∨
    (b.toNat ≠ x.toNat ∧ (if b = x then y else z).toNat = z.toNat) := by
  by_cases h : b = x
  · exact .inl ⟨by rw [h], by rw [if_pos h]⟩
  · exact .inr ⟨fun hnat => h (UInt8.toNat_inj.1 hnat), by rw [if_neg h]⟩

theorem opens_singleton {b : UInt8} {p : Partial}
    (hbounds : 0x80 ≤ p.low.toNat ∧ p.low.toNat ≤ p.high.toNat ∧ p.high.toNat ≤ 0xBF)
    (hcovers : ∀ n k, n.isValidChar → First b.toNat n k → p.Covers n)
    (hfirst : ∀ n, p.Covers n → n.isValidChar ∧ First b.toNat n (p.owed + 1)) : Opens [b] p := by
  refine ⟨by simp, hbounds, fun n hn => (hfirst n hn).1, fun c hc => ?_,
    fun c hc => (hfirst _ hc).2.spelling⟩
  obtain ⟨k, hk⟩ := exists_first_of_prefix hc
  exact hcovers c.toNat k c.valid hk

/-- **The first byte** of a character of several bytes. The bounds on the next byte leave out what
has a shorter spelling, what is no character and what is too great. -/
theorem opens_lead {b : UInt8} {p : Partial} (h : lead? b = some p) : Opens [b] p := by
  rcases lead?_eq_some h with ⟨hfrom, hto, rfl⟩ | ⟨hfrom, hto, rfl⟩ | ⟨hfrom, hto, rfl⟩
  · refine opens_singleton (by simp) (fun n k hn hfirst => ?_) (fun n hn => ?_)
    · refine ⟨?_, ?_, ?_⟩ <;> cases hfirst <;> simp only [leading, UInt8.reduceToNat] <;> omega
    · obtain ⟨hbits, -, -⟩ := hn
      simp only [leading] at hbits
      exact ⟨.inl (by omega), .one (by omega) (by omega) (by omega)⟩
  · have hlow := toNat_ite b 0xE0 0xA0 0x80
    have hhigh := toNat_ite b 0xED 0x9F 0xBF
    generalize (if b = 0xE0 then 0xA0 else 0x80 : UInt8) = low at *
    generalize (if b = 0xED then 0x9F else 0xBF : UInt8) = high at *
    simp only [UInt8.reduceToNat] at hlow hhigh
    refine opens_singleton (by dsimp only; omega) (fun n k hn hfirst => ?_) (fun n hn => ?_)
    · have hscalar : n < 0xD800 ∨ 0xDFFF < n ∧ n < 0x110000 := hn
      refine ⟨?_, ?_, ?_⟩ <;> cases hfirst <;> simp only [leading] <;> omega
    · obtain ⟨hbits, hlow', hhigh'⟩ := hn
      simp only [leading] at hbits hlow' hhigh'
      have hscalar : n < 0xD800 ∨ 0xDFFF < n ∧ n < 0x110000 := by omega
      exact ⟨hscalar, .two (by omega) (by omega) (by omega)⟩
  · have hlow := toNat_ite b 0xF0 0x90 0x80
    have hhigh := toNat_ite b 0xF4 0x8F 0xBF
    generalize (if b = 0xF0 then 0x90 else 0x80 : UInt8) = low at *
    generalize (if b = 0xF4 then 0x8F else 0xBF : UInt8) = high at *
    simp only [UInt8.reduceToNat] at hlow hhigh
    refine opens_singleton (by dsimp only; omega) (fun n k hn hfirst => ?_) (fun n hn => ?_)
    · have hscalar : n < 0xD800 ∨ 0xDFFF < n ∧ n < 0x110000 := hn
      refine ⟨?_, ?_, ?_⟩ <;> cases hfirst <;> simp only [leading] <;> omega
    · obtain ⟨hbits, hlow', hhigh'⟩ := hn
      simp only [leading] at hbits hlow' hhigh'
      have hscalar : n < 0xD800 ∨ 0xDFFF < n ∧ n < 0x110000 := by omega
      exact ⟨hscalar, .three (by omega) (by omega)⟩

theorem lead?_eq_none {b : UInt8} (h : lead? b = none) : b.toNat < 0xC2 ∨ 0xF5 ≤ b.toNat := by
  unfold lead? at h
  simp only [UInt8.lt_iff_toNat_lt, UInt8.reduceToNat] at h
  split at h
  · exact .inl (by omega)
  split at h
  · cases h
  split at h
  · cases h
  split at h
  · cases h
  · exact .inr (by omega)

/-! ### Decoding with replacements -/

/-- No spelling is the beginning of another. -/
theorem eq_of_append_eq {c c' : Char} {rest rest' : List UInt8}
    (h : utf8EncodeChar c ++ rest = utf8EncodeChar c' ++ rest') : c = c' := by
  have hread (c : Char) (rest : List UInt8) :
      (utf8EncodeChar c ++ rest).toByteArray.utf8DecodeChar? 0 = some c := by
    rw [List.toByteArray_append]
    exact ByteArray.utf8DecodeChar?_utf8EncodeChar_append
  rw [← Option.some_inj, ← hread c rest, h, hread]

/-- **What is replaced** where no character is spelled: the longest beginning of a spelling that
stands there, or a single byte. -/
structure Replaced (part rest : List UInt8) : Prop where
  /-- Something is replaced. -/
  nonempty : part ≠ []
  /-- No character is spelled there. -/
  unspelled : ∀ c : Char, ¬ utf8EncodeChar c <+: part ++ rest
  /-- It is a single byte or the beginning of a spelling. -/
  begun : part.length = 1 ∨ ∃ c : Char, part <+: utf8EncodeChar c
  /-- No longer beginning of a spelling stands there. -/
  longest : ∀ (c : Char) (longer : List UInt8), longer <+: part ++ rest →
    longer <+: utf8EncodeChar c →
    longer.length ≤ part.length

/-- **Decoding with replacements**: characters are read as they are spelled, and where none is
spelled the longest beginning of a spelling becomes one replacement character. -/
inductive Decodes : List UInt8 → List Char → Prop where
  /-- Nothing is left. -/
  | nil : Decodes [] []
  /-- A character is spelled here. -/
  | char (c : Char) {rest : List UInt8} {text : List Char} : Decodes rest text →
      Decodes (utf8EncodeChar c ++ rest) (c :: text)
  /-- No character is spelled here. -/
  | replaced {part rest : List UInt8} {text : List Char} : Replaced part rest → Decodes rest text →
      Decodes (part ++ rest) (replacement :: text)

theorem Replaced.length_le {part rest part' rest' : List UInt8} (h : Replaced part rest)
    (h' : Replaced part' rest') (heq : part ++ rest = part' ++ rest') :
    part'.length ≤ part.length := by
  rcases h'.begun with hone | ⟨c, hc⟩
  · rw [hone]
    exact List.length_pos_iff.2 h.nonempty
  · exact h.longest c part' (heq ▸ List.prefix_append part' rest') hc

/-- Bytes are decoded in one way. -/
theorem Decodes.unique {bytes : List UInt8} {text text' : List Char} (h : Decodes bytes text)
    (h' : Decodes bytes text') : text = text' := by
  have hspelling (c : Char) (rest : List UInt8) : utf8EncodeChar c ++ rest ≠ [] := by
    obtain ⟨b, k, -, hspelling⟩ := utf8EncodeChar_eq c
    simp [hspelling]
  induction h generalizing text' with
  | nil =>
    generalize hbytes : [] = bytes at h'
    cases h' with
    | nil => rfl
    | char c => exact absurd hbytes.symm (hspelling c _)
    | replaced hreplaced => exact absurd (List.append_eq_nil_iff.1 hbytes.symm).1 hreplaced.nonempty
  | @char c rest text _ ih =>
    generalize hbytes : utf8EncodeChar c ++ rest = bytes at h'
    cases h' with
    | nil => exact absurd hbytes (hspelling c _)
    | char c' h' =>
      obtain rfl := eq_of_append_eq hbytes
      rw [ih (List.append_cancel_left hbytes ▸ h')]
    | replaced hreplaced => exact absurd ⟨rest, hbytes⟩ (hreplaced.unspelled c)
  | @replaced part rest text hreplaced _ ih =>
    generalize hbytes : part ++ rest = bytes at h'
    cases h' with
    | nil => exact absurd (List.append_eq_nil_iff.1 hbytes).1 hreplaced.nonempty
    | @char c rest' => exact absurd ⟨rest', hbytes.symm⟩ (hreplaced.unspelled c)
    | replaced hreplaced' h' =>
      have hlength := Nat.le_antisymm (hreplaced'.length_le hreplaced hbytes.symm)
        (hreplaced.length_le hreplaced' hbytes)
      rw [ih ((List.append_inj hbytes hlength).2 ▸ h')]

/-- What was read of a character that does not go on as announced is replaced. -/
theorem Opens.replaced {part rest : List UInt8} {p : Partial} (h : Opens part p)
    (hrest : ∀ b ∈ rest.head?, ¬ (p.low ≤ b ∧ b ≤ p.high)) : Replaced part rest := by
  have hlongest (c : Char) (longer : List UInt8) (hlonger : longer <+: part ++ rest)
      (hc : longer <+: utf8EncodeChar c) : longer.length ≤ part.length := by
    by_contra hlength
    obtain ⟨more, rfl⟩ :=
      List.prefix_of_prefix_length_le (List.prefix_append part rest) hlonger (by omega)
    cases more with
    | nil => simp at hlength
    | cons b more =>
      rw [List.prefix_append_right_inj] at hlonger
      obtain ⟨behind, rfl⟩ := hlonger
      have hnext : part ++ [b] <+: part ++ b :: more := by simp
      exact hrest b rfl (h.within (hnext.trans hc))
  obtain ⟨c', hbegun, hunfinished⟩ := h.exists_spelling
  refine ⟨h.nonempty, fun c hc => ?_, .inr ⟨c', hbegun⟩, hlongest⟩
  -- A spelling that is no longer than `part` would be the whole spelling of which `part` is a
  -- beginning.
  have hpart : utf8EncodeChar c <+: part :=
    List.prefix_of_prefix_length_le hc (List.prefix_append part rest)
      (hlongest c _ hc (List.prefix_refl _))
  obtain ⟨more, hmore⟩ := hpart.trans hbegun
  obtain rfl : c = c' := eq_of_append_eq (hmore.trans (List.append_nil _).symm)
  exact hunfinished (hbegun.eq_of_length_le hpart.length_le)

/-- A byte with which no spelling begins is replaced. -/
theorem replaced_stray {b : UInt8} (hb : ¬ b < 0x80) (hlead : lead? b = none) (rest : List UInt8) :
    Replaced [b] rest := by
  have hnone (c : Char) : ¬ [b] <+: utf8EncodeChar c := by
    intro hc
    obtain ⟨k, hfirst⟩ := exists_first_of_prefix hc
    have hrange := lead?_eq_none hlead
    have hscalar : c.toNat < 0xD800 ∨ 0xDFFF < c.toNat ∧ c.toNat < 0x110000 := c.valid
    simp only [UInt8.lt_iff_toNat_lt, UInt8.reduceToNat] at hb
    cases hfirst <;> omega
  refine ⟨by simp, fun c hc => ?_, .inl rfl, fun c longer hlonger hc => ?_⟩
  · obtain ⟨first, k, -, hspelling⟩ := utf8EncodeChar_eq c
    rw [hspelling, List.singleton_append, List.cons_prefix_cons] at hc
    apply hnone c
    rw [hspelling, hc.1]
    simp
  · cases longer with
    | nil => simp
    | cons first longer =>
      rw [List.singleton_append, List.cons_prefix_cons] at hlonger
      rw [hlonger.1] at hc
      exact absurd ((List.prefix_append [b] longer).trans hc) (hnone c)

/-- The next character, or what is replaced, is read between two characters. -/
theorem decodes_cons (b : UInt8) {rest : List UInt8} (hrest : Decodes rest (decode rest))
    (hopen : ∀ part p, Opens part p → Decodes (part ++ rest) (decodeFrom (some p) rest)) :
    Decodes (b :: rest) (decode (b :: rest)) := by
  show Decodes (b :: rest) ((begin b).1 ++ decodeFrom (begin b).2 rest)
  by_cases hb : b < 0x80
  · have hspelling : utf8EncodeChar (Char.ofNat b.toNat) = [b] := by
      simp only [UInt8.lt_iff_toNat_lt, UInt8.reduceToNat] at hb
      have hnat : (Char.ofNat b.toNat).toNat = b.toNat := toNat_ofNat (.inl (by omega))
      exact First.spelling (k := 0) (.none (by omega) hnat.symm)
    rw [begin, if_pos hb]
    have hchar := Decodes.char (Char.ofNat b.toNat) hrest
    rwa [hspelling] at hchar
  · rw [begin, if_neg hb]
    cases hlead : lead? b with
    | some p => exact hopen [b] p (opens_lead hlead)
    | none => exact .replaced (replaced_stray hb hlead rest) hrest

/-- **The decoder decodes with replacements**, from between two characters and from within one. -/
theorem decodes_decodeFrom (rest : List UInt8) :
    Decodes rest (decode rest) ∧
    ∀ part p, Opens part p → Decodes (part ++ rest) (decodeFrom (some p) rest) := by
  induction rest with
  | nil => exact ⟨.nil, fun part p h => .replaced (h.replaced (by simp)) .nil⟩
  | cons b rest ih =>
    obtain ⟨hrest, hopen⟩ := ih
    have hbetween := decodes_cons b hrest hopen
    refine ⟨hbetween, fun part p h => ?_⟩
    show Decodes (part ++ b :: rest) ((step (some p) b).1 ++ decodeFrom (step (some p) b).2 rest)
    by_cases hin : p.low ≤ b ∧ b ≤ p.high
    · have hread : part ++ b :: rest = part ++ [b] ++ rest := by simp
      rw [step, if_pos hin, hread]
      cases howed : p.owed with
      | zero =>
        rw [← h.last hin.1 hin.2 howed]
        exact .char _ hrest
      | succ owed => exact hopen _ _ (h.next hin.1 hin.2 howed)
    · rw [step, if_neg hin]
      exact .replaced (h.replaced (by simpa using hin)) hbetween

theorem decodes_iff {bytes : List UInt8} {text : List Char} :
    Decodes bytes text ↔ text = decode bytes := by
  have hdecode := (decodes_decodeFrom bytes).1
  constructor
  · intro h
    exact h.unique hdecode
  · rintro rfl
    exact hdecode

theorem encode_eq_flatMap (text : String) : encode text = text.toList.flatMap utf8EncodeChar := by
  rw [encode, String.toUTF8_eq_toByteArray, ← String.utf8Encode_toList, List.utf8Encode,
    List.data_toByteArray]

/-- **Well-formed bytes** are decoded as what they spell. -/
theorem decode_encode (text : String) : decode (encode text) = text.toList := by
  have hspelled (chars : List Char) : Decodes (chars.flatMap utf8EncodeChar) chars := by
    induction chars with
    | nil => exact .nil
    | cons c chars ih => exact .char c ih
  rw [encode_eq_flatMap, ← decodes_iff.1 (hspelled text.toList)]

end Utf8

/-! ### Lines -/

/-- **Lines that a text is cut into.** -/
structure Cut (lines : List (List UInt8)) : Prop where
  /-- No line is empty. -/
  nonempty : ∀ line ∈ lines, line ≠ []
  /-- A line feed stands at the end of a line only. -/
  inside : ∀ line ∈ lines, lineFeed ∉ line.dropLast
  /-- All lines but the last have one. -/
  ended : ∀ line ∈ lines.dropLast, line.getLast? = some lineFeed

theorem cut_nil : Cut [] := ⟨by simp, by simp, by simp⟩

theorem cut_cons {line : List UInt8} {others : List (List UInt8)} :
    Cut (line :: others) ↔
      line ≠ [] ∧ lineFeed ∉ line.dropLast ∧ (others ≠ [] → line.getLast? = some lineFeed) ∧
        Cut others := by
  constructor
  · rintro ⟨hnonempty, hinside, hended⟩
    rw [List.forall_mem_cons] at hnonempty hinside
    refine ⟨hnonempty.1, hinside.1, fun hothers => ?_, hnonempty.2, hinside.2,
      fun other hother => ?_⟩
    · exact hended line (by simp [List.dropLast_cons_of_ne_nil hothers])
    · have hothers : others ≠ [] := by
        rintro rfl
        cases hother
      exact hended other (by simp [List.dropLast_cons_of_ne_nil hothers, hother])
  · rintro ⟨hnonempty, hinside, hended, hothers⟩
    refine ⟨List.forall_mem_cons.2 ⟨hnonempty, hothers.nonempty⟩,
      List.forall_mem_cons.2 ⟨hinside, hothers.inside⟩, ?_⟩
    cases others with
    | nil => simp
    | cons other others => exact List.forall_mem_cons.2 ⟨hended (by simp), hothers.ended⟩

theorem Cut.consByte {lines : List (List UInt8)} (h : Cut lines) (b : UInt8) :
    Cut (consByte b lines) := by
  unfold Text.consByte
  split
  · rename_i hb
    exact cut_cons.2 ⟨by simp, by simp, by simp [hb], h⟩
  · rename_i hb
    cases lines with
    | nil => exact cut_cons.2 ⟨by simp, by simp, by simp, cut_nil⟩
    | cons line others =>
      obtain ⟨hnonempty, hinside, hended, hothers⟩ := cut_cons.1 h
      refine cut_cons.2 ⟨by simp, ?_, fun hne => ?_, hothers⟩
      · simp [List.dropLast_cons_of_ne_nil hnonempty, hinside, Ne.symm hb]
      · rw [List.getLast?_cons_of_ne_nil hnonempty, hended hne]

/-- **A text is cut into lines.** -/
theorem cut_lines (bytes : List UInt8) : Cut (lines bytes) := by
  induction bytes with
  | nil => exact cut_nil
  | cons b bytes ih => exact ih.consByte b

theorem flatten_consByte (b : UInt8) (lines : List (List UInt8)) :
    (consByte b lines).flatten = b :: lines.flatten := by
  unfold consByte
  split
  · rfl
  · cases lines <;> rfl

theorem flatten_lines (bytes : List UInt8) : (lines bytes).flatten = bytes := by
  induction bytes with
  | nil => rfl
  | cons b bytes ih =>
    show (consByte b (lines bytes)).flatten = b :: bytes
    rw [flatten_consByte, ih]

/-- What stands before a line feed and what stands behind it do not touch each other. -/
theorem decode_append_lineFeed (first rest : List UInt8) :
    Utf8.decode (first ++ lineFeed :: rest) = Utf8.decode first ++ '\n' :: Utf8.decode rest :=
  Utf8.decodeFrom_append_ascii Utf8.expectsTail_none first (by decide) rest

/-- **Lines can be decoded one by one.** -/
theorem Cut.flatten_map_decode {lines : List (List UInt8)} (h : Cut lines) :
    (lines.map Utf8.decode).flatten = Utf8.decode lines.flatten := by
  induction lines with
  | nil => rfl
  | cons line others ih =>
    obtain ⟨-, -, hended, hothers⟩ := cut_cons.1 h
    rw [List.map_cons, List.flatten_cons, List.flatten_cons, ih hothers]
    by_cases hne : others = []
    · subst hne
      simp [Utf8.decode, Utf8.decodeFrom]
    · obtain ⟨body, rfl⟩ := List.getLast?_eq_some_iff.1 (hended hne)
      rw [List.append_assoc, List.singleton_append, decode_append_lineFeed, decode_append_lineFeed,
        List.append_assoc]
      rfl

/-- **Cutting into lines and decoding lose nothing, and do not depend on their order.** The lines of
a text are not empty, are together the whole text, have line feeds at their ends only, and all but
the last have one. Decoded one by one they give what the whole text gives, which is the text with
replacements. So whatever bytes stand before a line feed, what stands behind it is read in the same
way, and the other way round. Well-formed bytes are read as what they spell. -/
theorem decode_by_lines (bytes : List UInt8) :
    (∀ line ∈ lines bytes, line ≠ [] ∧ lineFeed ∉ line.dropLast) ∧
    (∀ line ∈ (lines bytes).dropLast, line.getLast? = some lineFeed) ∧
    (lines bytes).flatten = bytes ∧
    ((lines bytes).map Utf8.decode).flatten = Utf8.decode bytes ∧
    (∀ text, Utf8.Decodes bytes text ↔ text = Utf8.decode bytes) ∧
    (∀ first rest, Utf8.decode (first ++ lineFeed :: rest) =
      Utf8.decode first ++ '\n' :: Utf8.decode rest) ∧
    ∀ text : String, Utf8.decode (Utf8.encode text) = text.toList := by
  have hcut := cut_lines bytes
  refine ⟨fun line hline => ⟨hcut.nonempty line hline, hcut.inside line hline⟩, hcut.ended,
    flatten_lines bytes, ?_, fun text =>
      Utf8.decodes_iff, decode_append_lineFeed, Utf8.decode_encode⟩
  rw [hcut.flatten_map_decode, flatten_lines]

/-- The spelling of a character is cut off by a line feed behind its second byte, and its third byte
begins the next line. -/
theorem decode_by_lines_of_broken_character :
    let bytes : List UInt8 := [0xE2, 0x82, 0x0A, 0xAC, 0xC3, 0xA9]
    [0xE2, 0x82, 0x0A] ∈ (lines bytes).dropLast ∧
      ([0xE2, 0x82, 0x0A] : List UInt8).getLast? = some lineFeed ∧
    [0xAC, 0xC3, 0xA9] ∈ lines bytes ∧ lineFeed ∉ ([0xAC, 0xC3, 0xA9] : List UInt8).dropLast ∧
    ((lines bytes).map Utf8.decode).flatten = [Utf8.replacement, '\n', Utf8.replacement, 'é'] ∧
    Utf8.Decodes bytes [Utf8.replacement, '\n', Utf8.replacement, 'é'] := by
  intro bytes
  obtain ⟨hfirst, hsecond, htext⟩ : [0xE2, 0x82, 0x0A] ∈ (lines bytes).dropLast ∧
    [0xAC, 0xC3, 0xA9] ∈ lines bytes ∧
      [Utf8.replacement, '\n', Utf8.replacement, 'é'] = Utf8.decode bytes := by
    decide +kernel +revert
  obtain ⟨hlines, hended, -, hdecode, hdecodes, -⟩ := decode_by_lines bytes
  exact ⟨hfirst, hended _ hfirst, hsecond, (hlines _ hsecond).2, hdecode.trans htext.symm,
    (hdecodes _).2 htext⟩

end SyscallCensus.Text
