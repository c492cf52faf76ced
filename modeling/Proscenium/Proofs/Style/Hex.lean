import Proscenium.Style.Color
import Mathlib.Data.List.Forall2
import Mathlib.Tactic.IntervalCases

/-!
# The language of hex colours

`Color.ofHex` reads `#RRGGBB`. This module says, without the reader, which texts it accepts and
what they name, and proves that the reader agrees.

A hex digit of value `d < 16` is Lean's own digit character `Nat.digitChar d` (`0`–`9`, `a`–`f`)
or its capital (`IsHexDigitOf`). A channel is spelt by two hex digits, high digit first, or by `+`
and one hex digit, as the usual reading of an unsigned number allows (`HexPair`). A colour's text
is any number of `#`s and then three such pairs (`HexText`); every character of a pair is ASCII,
so the six characters are six bytes.

* `hexText_of_ofHex` and `ofHex_of_hexText`: the reader answers `some c` exactly for the texts of
  `c`, and `none` for every other text (also for six bytes of multibyte text).
* `ofHex_hashes_hexBytes`: the two-digit spelling of any three bytes, behind any number of `#`s
  and with each letter in either case, reads back as those bytes.
* `hex_text_reads_as_its_channels` gathers both, with `toRgb` keeping every colour the reader
  gives.

The reader is a total function: the original's byte slicing is safe because the guard admits
only ASCII, and here the six characters are taken apart as a list.
-/

namespace Proscenium.Color

/-! ## Hex digits -/

/-- `c` is a hex digit of value `d`: Lean's digit character for `d`, or its capital. -/
def IsHexDigitOf (c : Char) (d : Nat) : Prop :=
  d < 16 ∧ (c = Nat.digitChar d ∨ c = (Nat.digitChar d).toUpper)

/-- The digit characters of values below 16 sit at `48 + d` (`0` is 48) and `87 + d` (`a` is 97). -/
theorem toNat_digitChar {d : Nat} (h : d < 16) :
    (Nat.digitChar d).toNat = if d < 10 then 48 + d else 87 + d := by
  interval_cases d <;> rfl

/-- Their capitals: the letters move to `55 + d` (`A` is 65), the decimal digits stay. -/
theorem toNat_toUpper_digitChar {d : Nat} (h : d < 16) :
    (Nat.digitChar d).toUpper.toNat = if d < 10 then 48 + d else 55 + d := by
  interval_cases d <;> rfl

/-- Being a hex digit is arithmetic on the code point. -/
theorem isHexDigitOf_iff {c : Char} {d : Nat} :
    IsHexDigitOf c d ↔
      d < 16 ∧ (c.toNat = (if d < 10 then 48 + d else 87 + d) ∨
        c.toNat = if d < 10 then 48 + d else 55 + d) := by
  constructor
  · rintro ⟨hd, rfl | rfl⟩
    · exact ⟨hd, .inl (toNat_digitChar hd)⟩
    · exact ⟨hd, .inr (toNat_toUpper_digitChar hd)⟩
  · rintro ⟨hd, h | h⟩
    · exact ⟨hd, .inl (Char.toNat_inj.1 (h.trans (toNat_digitChar hd).symm))⟩
    · exact ⟨hd, .inr (Char.toNat_inj.1 (h.trans (toNat_toUpper_digitChar hd).symm))⟩

/-- The reader's digit table is the hex digits, with their values. -/
theorem hexDigit_eq_some_iff {c : Char} {d : Nat} : hexDigit c = some d ↔ IsHexDigitOf c d := by
  have h0 : '0'.toNat = 48 := rfl
  have h9 : '9'.toNat = 57 := rfl
  have ha : 'a'.toNat = 97 := rfl
  have hf : 'f'.toNat = 102 := rfl
  have hA : 'A'.toNat = 65 := rfl
  have hF : 'F'.toNat = 70 := rfl
  rw [isHexDigitOf_iff]
  unfold hexDigit
  simp only [Char.le_def, UInt32.le_iff_toNat_le, Char.toNat_val, h0, h9, ha, hf, hA, hF]
  -- each of the reader's three ranges against the two spellings of each value
  split_ifs <;> simp only [Option.some.injEq, false_iff] <;> omega

theorem IsHexDigitOf.ascii {c : Char} {d : Nat} (h : IsHexDigitOf c d) : c.toNat < 128 := by
  rw [isHexDigitOf_iff] at h
  split_ifs at h <;> omega

theorem IsHexDigitOf.ne_plus {c : Char} {d : Nat} (h : IsHexDigitOf c d) : c ≠ '+' := by
  intro hc
  have hplus : '+'.toNat = 43 := rfl
  rw [isHexDigitOf_iff, hc, hplus] at h
  split_ifs at h <;> omega

theorem IsHexDigitOf.ne_hash {c : Char} {d : Nat} (h : IsHexDigitOf c d) : c ≠ '#' := by
  intro hc
  have hhash : '#'.toNat = 35 := rfl
  rw [isHexDigitOf_iff, hc, hhash] at h
  split_ifs at h <;> omega

/-! ## Channels -/

/-- The pair `c₁ c₂` spells the channel value `v`: `+` and one hex digit, or two hex digits with
the high one first. -/
def HexPair (c₁ c₂ : Char) (v : Nat) : Prop :=
  (c₁ = '+' ∧ IsHexDigitOf c₂ v) ∨
    ∃ hi lo, IsHexDigitOf c₁ hi ∧ IsHexDigitOf c₂ lo ∧ v = 16 * hi + lo

theorem HexPair.ascii {c₁ c₂ : Char} {v : Nat} (h : HexPair c₁ c₂ v) :
    c₁.toNat < 128 ∧ c₂.toNat < 128 := by
  rcases h with ⟨rfl, h₂⟩ | ⟨hi, lo, h₁, h₂, -⟩
  · exact ⟨by decide, h₂.ascii⟩
  · exact ⟨h₁.ascii, h₂.ascii⟩

/-- A pair never starts with `#`, so stripping the `#`s stops before the first pair. -/
theorem HexPair.ne_hash {c₁ c₂ : Char} {v : Nat} (h : HexPair c₁ c₂ v) : c₁ ≠ '#' := by
  rcases h with ⟨rfl, -⟩ | ⟨hi, lo, h₁, -, -⟩
  · decide
  · exact h₁.ne_hash

/-- The reader of one channel accepts exactly the pairs, with their values. -/
theorem channel_eq_some_iff {c₁ c₂ : Char} {v : Nat} :
    channel c₁ c₂ = some v ↔ HexPair c₁ c₂ v := by
  unfold channel HexPair
  by_cases hp : c₁ = '+'
  · simp only [hp, if_true, hexDigit_eq_some_iff, true_and]
    constructor
    · exact .inl
    · -- `+` is no hex digit, so the second spelling cannot start with it
      rintro (h | ⟨hi, lo, hhi, -, -⟩)
      · exact h
      · exact absurd rfl hhi.ne_plus
  · simp only [hp, if_false, false_and, false_or, Option.bind_eq_bind, Option.bind_eq_some_iff,
      hexDigit_eq_some_iff, Option.pure_def, Option.some.injEq]
    constructor
    · rintro ⟨hi, hhi, lo, hlo, hv⟩
      exact ⟨hi, lo, hhi, hlo, hv.symm⟩
    · rintro ⟨hi, lo, hhi, hlo, rfl⟩
      exact ⟨hi, hhi, lo, hlo, rfl⟩

/-! ## Leading `#`s -/

theorem stripHashes_replicate_append (k : Nat) {c : Char} (hc : c ≠ '#') (t : List Char) :
    stripHashes (List.replicate k '#' ++ c :: t) = c :: t := by
  induction k with
  | zero => simp [stripHashes, hc]
  | succ k ih => simpa [List.replicate_succ, stripHashes] using ih

/-- What stripping leaves is the text less some number of `#`s. -/
theorem exists_replicate_append_stripHashes (l : List Char) :
    ∃ k, List.replicate k '#' ++ stripHashes l = l := by
  fun_induction stripHashes l with
  | case1 cs ih =>
    obtain ⟨k, hk⟩ := ih
    exact ⟨k + 1, by simp [List.replicate_succ, hk]⟩
  | case2 cs _ => exact ⟨0, rfl⟩

/-! ## Colour texts -/

/-- `s` is a text of the colour `c`: `#`s, then three pairs spelling `c`'s channels. -/
def HexText (s : String) (c : Color) : Prop :=
  ∃ k r₁ r₂ g₁ g₂ b₁ b₂ r g b, s.toList = List.replicate k '#' ++ [r₁, r₂, g₁, g₂, b₁, b₂] ∧
    HexPair r₁ r₂ r ∧ HexPair g₁ g₂ g ∧ HexPair b₁ b₂ b ∧ c = .rgb r g b

/-- Everything the reader accepts is a colour text, of the colour it answers. -/
theorem hexText_of_ofHex {s : String} {c : Color} (h : ofHex s = some c) : HexText s c := by
  unfold ofHex at h
  split at h
  · rename_i r₁ r₂ g₁ g₂ b₁ b₂ hs
    split at h
    · simp only [Option.bind_eq_bind, Option.bind_eq_some_iff, channel_eq_some_iff,
        Option.pure_def, Option.some.injEq] at h
      obtain ⟨r, hr, g, hg, b, hb, rfl⟩ := h
      obtain ⟨k, hk⟩ := exists_replicate_append_stripHashes s.toList
      exact ⟨k, r₁, r₂, g₁, g₂, b₁, b₂, r, g, b, by rw [← hs, hk], hr, hg, hb, rfl⟩
    · cases h
  · cases h

/-- Every colour text is accepted: its pairs are ASCII, so the guard lets them through. -/
theorem ofHex_of_hexText {s : String} {c : Color} (h : HexText s c) : ofHex s = some c := by
  obtain ⟨k, r₁, r₂, g₁, g₂, b₁, b₂, r, g, b, hs, hr, hg, hb, rfl⟩ := h
  have ascii : [r₁, r₂, g₁, g₂, b₁, b₂].all (·.toNat < 128) = true := by
    simp [hr.ascii, hg.ascii, hb.ascii]
  unfold ofHex
  rw [hs, stripHashes_replicate_append k hr.ne_hash]
  simp only [ascii, if_true, channel_eq_some_iff.2 hr, channel_eq_some_iff.2 hg,
    channel_eq_some_iff.2 hb]
  rfl

/-! ## Writing a byte and reading it back -/

/-- The two lower-case hex digits of a byte, high digit first. -/
def hexByte (n : Nat) : List Char := [Nat.digitChar (n / 16), Nat.digitChar (n % 16)]

/-- `c` is the character `d` in either case. -/
def EitherCase (d c : Char) : Prop := c = d ∨ c = d.toUpper

theorem hexPair_of_eitherCase {n : Nat} (hn : n < 256) {c₁ c₂ : Char}
    (h₁ : EitherCase (Nat.digitChar (n / 16)) c₁) (h₂ : EitherCase (Nat.digitChar (n % 16)) c₂) :
    HexPair c₁ c₂ n :=
  .inr ⟨n / 16, n % 16, ⟨by omega, h₁⟩, ⟨by omega, h₂⟩, by omega⟩

/-- Three bytes written in hex, behind any number of `#`s and in any mix of cases, read back as
those bytes. -/
theorem ofHex_hashes_hexBytes {r g b : Nat} (hr : r < 256) (hg : g < 256) (hb : b < 256) (k : Nat)
    {t : List Char} (ht : List.Forall₂ EitherCase (hexByte r ++ hexByte g ++ hexByte b) t) :
    ofHex (String.ofList (List.replicate k '#' ++ t)) = some (.rgb r g b) := by
  have hlen : t.length = 6 := by simpa [hexByte] using ht.length_eq.symm
  -- six letters: the other lengths contradict `hlen`
  rcases t with _ | ⟨c₁, _ | ⟨c₂, _ | ⟨c₃, _ | ⟨c₄, _ | ⟨c₅, _ | ⟨c₆, _ | ⟨_, _⟩⟩⟩⟩⟩⟩⟩ <;>
    simp at hlen
  simp only [hexByte, List.cons_append, List.nil_append, List.forall₂_cons] at ht
  obtain ⟨h₁, h₂, h₃, h₄, h₅, h₆, -⟩ := ht
  exact ofHex_of_hexText ⟨k, c₁, c₂, c₃, c₄, c₅, c₆, r, g, b, String.toList_ofList,
    hexPair_of_eitherCase hr h₁ h₂, hexPair_of_eitherCase hg h₃ h₄, hexPair_of_eitherCase hb h₅ h₆,
    rfl⟩

/-! ## The reader as a whole -/

/-- The reader answers `some c` exactly for the texts of `c` (and `none` for all others); the hex
spelling of any three bytes, after any number of `#`s and in either case, reads as those bytes;
and every colour it answers is its own RGB form. -/
theorem hex_text_reads_as_its_channels :
    (∀ s c, ofHex s = some c ↔ HexText s c) ∧
    (∀ r g b k t, r < 256 → g < 256 → b < 256 →
      List.Forall₂ EitherCase (hexByte r ++ hexByte g ++ hexByte b) t →
      ofHex (String.ofList (List.replicate k '#' ++ t)) = some (.rgb r g b)) ∧
    (∀ s c, ofHex s = some c → c.toRgb = some c) := by
  refine ⟨fun s c => ⟨hexText_of_ofHex, ofHex_of_hexText⟩,
    fun r g b k t hr hg hb ht => ofHex_hashes_hexBytes hr hg hb k ht, ?_⟩
  intro s c h
  obtain ⟨-, -, -, -, -, -, -, r, g, b, -, -, -, -, rfl⟩ := hexText_of_ofHex h
  rfl

example : ofHex "#ff8000" = some (.rgb 255 128 0) := by decide
example : ofHex "+f+F0a" = some (.rgb 15 15 10) := by decide
example : ofHex "ééé" = none := by decide

/-- `##FF8000`: two `#`s and capitals still name orange. -/
theorem hex_with_two_hashes_and_capitals :
    ofHex (String.ofList (List.replicate 2 '#' ++ ['F', 'F', '8', '0', '0', '0'])) =
      some (.rgb 255 128 0) :=
  hex_text_reads_as_its_channels.2.1 255 128 0 2 _ (by decide) (by decide) (by decide)
    (.cons (.inr rfl) (.cons (.inr rfl) (.cons (.inl rfl) (.cons (.inl rfl)
      (.cons (.inl rfl) (.cons (.inl rfl) .nil))))))

end Proscenium.Color
