import LoadedImage.Description
import LoadedImage.Proofs.Numerals

/-!
# The texts of addresses

The text of an address has a mark and sixteen digits, whatever the address
(`Address.length_toList_text`), and reading the digits gives the address back. So no two
addresses have the same text (`Address.text_inj`), and from a longer text that begins with that
of an address both the address and the rest can be told (`Address.text_append_inj`). As all
these texts are of one length, sorting them sorts the addresses (`Address.text_lt_iff`).

The shorter texts have the digits of the numeral of the address, without zeros in front, and are
read back as well. `Address.texts_ordered_and_readable` puts the texts together.
-/

namespace LoadedImage

/-- The digits of lower-case hexadecimal numerals in the order of what they stand for. -/
def Radix.hexDigits : List Char := "0123456789abcdef".toList

theorem Radix.digit?_hex_eq_some_iff {c : Char} {d : Nat} :
    hex.digit? c = some d ↔ hexDigits[d]? = some c := by
  have hplace : ∀ d : Fin hexDigits.length, hexDigits[d] = hex.digit d := by decide
  rw [digit?_eq_some_iff, List.getElem?_eq_some_iff]
  constructor
  · rintro ⟨hd, rfl⟩
    exact ⟨hd, hplace ⟨d, hd⟩⟩
  · rintro ⟨hd, hc⟩
    exact ⟨hd, (hplace ⟨d, hd⟩).symm.trans hc⟩

theorem Radix.mem_hexDigits_of_read? {cs : List Char} {n : Nat} (h : hex.read? cs = some n) :
    ∀ c ∈ cs, c ∈ hexDigits := by
  intro c hc
  obtain ⟨d, hd⟩ := Option.isSome_iff_exists.1 (isSome_digit?_of_read? h c hc)
  exact List.mem_of_getElem? (digit?_hex_eq_some_iff.1 hd)

namespace Address

variable {a b : Address}

theorem toList_text (a : Address) :
    a.text.toList = '0' :: 'x' :: Radix.hex.fixed 16 a.word.toNat := by
  simp [text, Radix.mark]

theorem length_toList_text (a : Address) : a.text.toList.length = 18 := by
  rw [toList_text, List.length_cons, List.length_cons, Radix.length_fixed]

/-- Sixteen digits are enough for every address. -/
theorem toNat_lt_pow (a : Address) : a.word.toNat < Radix.hex.base ^ 16 :=
  a.word.toNat_lt

theorem read?_fixed (a : Address) :
    Radix.hex.read? (Radix.hex.fixed 16 a.word.toNat) = some a.word.toNat := by
  rw [Radix.read?_fixed, Nat.mod_eq_of_lt a.toNat_lt_pow]

theorem text_inj : a.text = b.text ↔ a = b := by
  rw [← String.toList_inj, toList_text, toList_text, List.cons_inj_right, List.cons_inj_right,
    Radix.fixed_inj a.toNat_lt_pow b.toNat_lt_pow, UInt64.toNat_inj, word_inj]

/-- The order of the texts is that of the addresses. -/
theorem text_lt_iff : a.text < b.text ↔ a < b := by
  rw [String.lt_iff, toList_text, toList_text, List.cons_lt_cons_self, List.cons_lt_cons_self,
    Radix.fixed_lt_fixed_iff a.toNat_lt_pow b.toNat_lt_pow, ← lt_iff_toNat]

/-- What follows the text of an address does not run into it. -/
theorem text_append_inj {s t : String} :
    a.text ++ s = b.text ++ t ↔ a = b ∧ s = t := by
  refine ⟨fun h => ?_, fun ⟨hab, hst⟩ => by rw [hab, hst]⟩
  have hlists := congrArg String.toList h
  rw [String.toList_append, String.toList_append] at hlists
  have hlength : a.text.toList.length = b.text.toList.length := by
    rw [length_toList_text, length_toList_text]
  obtain ⟨htext, hrest⟩ := List.append_inj hlists hlength
  exact ⟨text_inj.1 (String.toList_inj.1 htext), String.toList_inj.1 hrest⟩

/-! ## Order and reading -/

theorem write_hex (a : Address) :
    a.write { radix := .hex } = String.ofList (Radix.hex.digits a.word.toNat) := rfl

theorem write_outline (a : Address) (style : Outline.Style) :
    a.outline.write style = "Address(" ++ a.shortText ++ ")" := rfl

theorem eq_null_of_head?_digits (h : (Radix.hex.digits a.word.toNat).head? = some '0') :
    a = .null :=
  word_inj.1 (UInt64.toNat_inj.1 (Radix.eq_zero_of_head?_digits h))

/-- The text of an address is the mark and sixteen lower-case digits that read as the address,
and texts are in the order of their characters as addresses are in theirs. The numeral without a
mark and the one in the description, whatever the style of that, have the same digits: they read
as the address, and the first is a zero for the null address only. What is read is the place of
each digit among the sixteen. -/
theorem texts_ordered_and_readable (a : Address) :
    (∃ ds, a.text.toList = '0' :: 'x' :: ds ∧ ds.length = 16 ∧ (∀ c ∈ ds, c ∈ Radix.hexDigits) ∧
        Radix.hex.read? ds = some a.word.toNat) ∧
      (∀ b : Address, a < b ↔ a.text < b.text) ∧
      (∃ ds, a.write { radix := .hex } = String.ofList ds ∧
        (∀ style, a.outline.write style = "Address(0x" ++ String.ofList ds ++ ")") ∧
        Radix.hex.IsNumeral ds a.word.toNat ∧ (∀ c ∈ ds, c ∈ Radix.hexDigits) ∧
        (ds.head? = some '0' → a = .null)) ∧
      ∀ c d, Radix.hex.digit? c = some d ↔ Radix.hexDigits[d]? = some c := by
  have hnumeral := Radix.hex.isNumeral_digits a.word.toNat
  refine ⟨⟨_, a.toList_text, Radix.length_fixed _ _ _, Radix.mem_hexDigits_of_read? a.read?_fixed,
    a.read?_fixed⟩, fun b => text_lt_iff.symm, ⟨_, a.write_hex, fun style => ?_, hnumeral,
    Radix.mem_hexDigits_of_read? hnumeral.read?_eq, eq_null_of_head?_digits⟩,
    fun c d => Radix.digit?_hex_eq_some_iff⟩
  rw [write_outline, shortText, Radix.writeMarked, Radix.write, Radix.mark, ← String.append_assoc]
  rfl

end Address

end LoadedImage
