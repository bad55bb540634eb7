import Conduit.Proofs.Framing.Chunks
import Conduit.Text.Utf8

/-!
# Texts as Lines

A text is a line if it has no line feed in it. Its encoding has none either then, for
the bytes of characters past ASCII are all past ASCII, and so it is one line for
whoever looks at nothing but bytes. The same goes for a carriage return at its end,
which would be taken for a part of the line ending.

## Main definitions

* `Utf8.IsLine`: A text that is a line.
* `Utf8.terminated`: The encodings of texts, each with a line feed behind it.

## Theorems

* `encode_eq`, `encode_append`: The encoding of a text, character by character.
* `le_toNat_of_mem`, `toNat_of_mem`: An ASCII byte stands for itself.
* `lineFeed_not_mem`, `not_endsInReturn`: What a line is encoded to.
* `cut_terminated`: Texts, as a framer has them.
-/

namespace Conduit

open Terminator

namespace Utf8

/-- There is no line feed in a text, and no carriage return at its end. -/
def IsLine (text : String) : Prop :=
  '\n' ∉ text.toList ∧ text.toList.getLast? ≠ some '\r'

instance (text : String) : Decidable (IsLine text) :=
  inferInstanceAs (Decidable (_ ∧ _))

/-- The bytes of texts that are written line by line. -/
def terminated (texts : List String) : Bytes :=
  texts.flatMap fun text => encode (text ++ "\n")

theorem encode_eq (text : String) : encode text = text.toList.flatMap String.utf8EncodeChar := by
  rw [encode, ← String.utf8Encode_toList, List.utf8Encode, List.data_toByteArray]

theorem encode_append (a b : String) : encode (a ++ b) = encode a ++ encode b := by
  rw [encode_eq, String.toList_append, List.flatMap_append, encode_eq, encode_eq]

/-- The encoding of a character past ASCII has no ASCII byte in it. -/
theorem le_toNat_of_mem {c : Char} {byte : UInt8} (hc : 0x80 ≤ c.toNat)
    (h : byte ∈ String.utf8EncodeChar c) : 0x80 ≤ byte.toNat := by
  have hlong : ¬ c.val.toNat ≤ 127 := Nat.not_le.mpr hc
  -- The bytes are sums of some bits below and a lead above.
  have hsum : ∀ {n : Nat}, byte = UInt8.ofNat n → 0x80 ≤ n → n < 0x100 → 0x80 ≤ byte.toNat := by
    intro n hbyte hlow hhigh
    rw [hbyte, UInt8.toNat_ofNat', Nat.mod_eq_of_lt hhigh]
    exact hlow
  unfold String.utf8EncodeChar at h
  dsimp only at h
  rw [if_neg hlong] at h
  by_cases htwo : c.val.toNat ≤ 0x7ff
  · rw [if_pos htwo] at h
    simp only [List.mem_cons, List.not_mem_nil, or_false] at h
    rcases h with h | h <;> exact hsum h (by omega) (by omega)
  · rw [if_neg htwo] at h
    by_cases hthree : c.val.toNat ≤ 0xffff
    · rw [if_pos hthree] at h
      simp only [List.mem_cons, List.not_mem_nil, or_false] at h
      rcases h with h | h | h <;> exact hsum h (by omega) (by omega)
    · rw [if_neg hthree] at h
      simp only [List.mem_cons, List.not_mem_nil, or_false] at h
      rcases h with h | h | h | h <;> exact hsum h (by omega) (by omega)

/-- An ASCII byte in the encoding of a character is the character. -/
theorem toNat_of_mem {c : Char} {byte : UInt8} (h : byte ∈ String.utf8EncodeChar c)
    (hbyte : byte.toNat < 0x80) : c.toNat = byte.toNat := by
  by_cases hc : c.toNat < 0x80
  · have hshort : c.val.toNat ≤ 127 := Nat.le_of_lt_succ hc
    unfold String.utf8EncodeChar at h
    dsimp only at h
    rw [if_pos hshort, List.mem_singleton] at h
    rw [h, UInt8.toNat_ofNat', Nat.mod_eq_of_lt (by omega)]
    rfl
  · have hlong := le_toNat_of_mem (Nat.not_lt.mp hc) h
    omega

theorem lineFeed_not_mem {text : String} (h : IsLine text) : lineFeed ∉ encode text := by
  intro hmem
  rw [encode_eq] at hmem
  rcases List.mem_flatMap.mp hmem with ⟨c, hc, hbyte⟩
  have hcode : c.toNat = 10 := toNat_of_mem hbyte (by decide)
  have hfeed : c = '\n' := by rw [← Char.ofNat_toNat c, hcode]
  exact h.1 (hfeed ▸ hc)

theorem not_endsInReturn {text : String} (h : IsLine text) : ¬ EndsInReturn (encode text) := by
  intro hlast
  rw [EndsInReturn, encode_eq] at hlast
  rcases List.eq_nil_or_concat text.toList with hnil | ⟨front, c, hconcat⟩
  · rw [hnil] at hlast
    exact absurd hlast (by simp)
  · -- The last byte belongs to the last character.
    rw [List.concat_eq_append] at hconcat
    have hmem : carriageReturn ∈ String.utf8EncodeChar c := by
      have hne : String.utf8EncodeChar c ≠ [] := String.utf8EncodeChar_ne_nil
      rw [hconcat, List.flatMap_append, List.flatMap_singleton, List.getLast?_append,
        List.getLast?_eq_some_getLast hne, Option.some_or, Option.some.injEq] at hlast
      exact hlast ▸ List.getLast_mem hne
    have hcode : c.toNat = 13 := toNat_of_mem hmem (by decide)
    have hreturn : c = '\r' := by rw [← Char.ofNat_toNat c, hcode]
    refine h.2 ?_
    rw [hconcat, hreturn, List.getLast?_concat]

/-- Texts that are written line by line are cut into the lines that they were. -/
theorem cut_terminated {texts : List String} (h : ∀ text ∈ texts, IsLine text) :
    both.cut [] (terminated texts) = (texts.map fun text => ⟨encode text, [lineFeed]⟩, []) := by
  induction texts with
  | nil => rfl
  | cons text texts ih =>
      have hline := h text List.mem_cons_self
      -- The line feed behind a text is the first one, and no return before it joins it.
      have hends : both.EndsAfter (encode text) := fun hcrlf => absurd hcrlf (by decide)
      have hfirst : terminated (text :: texts) = encode text ++ lineFeed :: terminated texts := by
        rw [terminated, List.flatMap_cons, encode_append, List.append_assoc]
        rfl
      rw [hfirst, cut_append, cut_free (lineFeed_not_mem hline), List.nil_append, List.nil_append,
        cut_lineFeed hends fun _ => not_endsInReturn hline,
        ih fun text' htext' => h text' (List.mem_cons_of_mem text htext')]
      rfl

end Utf8

end Conduit
