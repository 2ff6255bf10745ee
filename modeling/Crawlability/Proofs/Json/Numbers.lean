import Crawlability.Json.Printer
import Crawlability.Json.Tree
import Mathlib.Data.List.Basic

/-!
Numbers, read back. A number is written as its mantissa and, unless it is spelt as a whole one, its
exponent. It is read back as it was spelt if nothing behind it could be a part of it.
-/
namespace Crawlability.Json

namespace Number

/-- A number whose exponent is spelt if there is one. -/
def IsSpelt (n : Number) : Prop := n.isWhole = true → n.exponent = 0

/-- What stands behind the mantissa of a number. -/
def exponentText (n : Number) : List Char :=
  if n.isWhole then [] else 'e' :: ((if n.exponent < 0 then ['-'] else []) ++
    Nat.toDigits 10 n.exponent.natAbs)

theorem text_eq (n : Number) : n.text =
    (if n.negative then ['-'] else []) ++ (Nat.toDigits 10 n.mantissa ++ n.exponentText) := by
  rw [text, exponentText, List.append_assoc]
  rfl

theorem exists_toDigits_eq (n : Nat) :
    ∃ c s, Nat.toDigits 10 n = c :: s ∧ c.isDigit = true := by
  obtain ⟨c, s, h⟩ := List.exists_cons_of_length_pos (Nat.length_toDigits_pos (b := 10) (n := n))
  have hmem : c ∈ Nat.toDigits 10 n := by
    rw [h]
    exact List.mem_cons_self
  exact ⟨c, s, h, Nat.isDigit_of_mem_toDigits (by decide) (by decide) hmem⟩

theorem exists_text_eq (n : Number) : ∃ c s, n.text = c :: s ∧ (c.isDigit = true ∨ c = '-') := by
  obtain ⟨c, s, hdigits, hc⟩ := Number.exists_toDigits_eq n.mantissa
  rw [text_eq, hdigits]
  cases n.negative with
  | true => exact ⟨'-', _, rfl, Or.inr rfl⟩
  | false => exact ⟨c, _, rfl, Or.inl hc⟩

/-- The first character of a number is none of those that are neither a digit nor a dash. -/
theorem ne_of_begins (c : Char) (hc : c.isDigit = true ∨ c = '-') (others : List Char)
    (hothers : (others.all fun d => !d.isDigit && d != '-') = true) : ∀ d ∈ others, c ≠ d := by
  intro d hd heq
  have hother := List.all_eq_true.mp hothers d hd
  simp only [Bool.and_eq_true, Bool.not_eq_true', bne_iff_ne] at hother
  rw [heq, hother.1] at hc
  exact hc.elim (fun hdigit => Bool.noConfusion hdigit) hother.2

end Number

namespace Tree

/-- No digit stands at the head of the input. -/
def StartsOther (s : Input) : Prop := ∀ c? ∈ s.head?, isDigit c? = false

theorem readDigits_toDigits (n : Nat) (rest : Input) (hrest : StartsOther rest) :
    readDigits ((Nat.toDigits 10 n).map some ++ rest) =
      (n, (Nat.toDigits 10 n).length, rest) := by
  have hdigits : ∀ c? ∈ (Nat.toDigits 10 n).map some, isDigit c? = true := by
    intro c? hc
    obtain ⟨c, hmem, rfl⟩ := List.mem_map.mp hc
    exact Nat.isDigit_of_mem_toDigits (by decide) (by decide) hmem
  have hnone : rest.takeWhile isDigit = [] ∧ rest.dropWhile isDigit = rest := by
    cases rest with
    | nil => exact ⟨rfl, rfl⟩
    | cons c? rest =>
      have hc : isDigit c? = false := hrest c? rfl
      simp [hc]
  have hvalue : ((Nat.toDigits 10 n).map some).foldl
      (fun n c => n * 10 + ((c.getD '0').toNat - 0x30)) 0 = n := by
    have hof : Nat.ofDigitChars 10 (Nat.toDigits 10 n) 0 = n :=
      Nat.ofDigitChars_toDigits (by decide) (by decide)
    simp only [Nat.ofDigitChars, Nat.mul_comm 10] at hof
    rw [List.foldl_map]
    exact hof
  simp only [readDigits, List.takeWhile_append_of_pos hdigits, hnone, List.append_nil, hvalue,
    List.length_map, List.dropWhile_append_of_pos hdigits]

theorem head?_toDigits (n : Nat) (h : 0 < n) : (Nat.toDigits 10 n).head? ≠ some '0' := by
  induction n using Nat.strongRecOn with
  | ind n ih =>
    rw [Nat.toDigits_eq_if (by decide)]
    by_cases hn : n < 10
    · have hall : ∀ n < 10, 0 < n → n.digitChar ≠ '0' := by decide
      simpa only [if_pos hn, List.head?_cons, ne_eq, Option.some.injEq] using hall n hn h
    · have hne : Nat.toDigits 10 (n / 10) ≠ [] :=
        List.ne_nil_of_length_pos Nat.length_toDigits_pos
      rw [if_neg hn, List.head?_append_of_ne_nil _ hne]
      exact ih (n / 10) (by omega) (by omega)

/-- No zero leads the digits of a number, unless it is the only one. -/
theorem readWhole?_toDigits (n : Nat) (rest : Input) (hrest : StartsOther rest) :
    readWhole? ((Nat.toDigits 10 n).map some ++ rest) = some (n, rest) := by
  have hpos : 0 < (Nat.toDigits 10 n).length := Nat.length_toDigits_pos
  have hhead : 1 < (Nat.toDigits 10 n).length →
      ((Nat.toDigits 10 n).map some ++ rest).head? ≠ some (some '0') := by
    intro hlong hzero
    have hn : 0 < n := by
      by_contra hn
      have hone : (Nat.toDigits 10 n).length ≤ 1 :=
        (Nat.length_toDigits_le_iff (by decide) (by decide)).mpr (by omega)
      omega
    have hne : (Nat.toDigits 10 n).map some ≠ [] := by simp
    rw [List.head?_append_of_ne_nil _ hne, List.head?_map] at hzero
    obtain ⟨c, hc, hc0⟩ := Option.map_eq_some_iff.mp hzero
    exact head?_toDigits n hn (by rw [hc, Option.some.inj hc0])
  simp only [readWhole?, readDigits_toDigits n rest hrest]
  rw [if_neg]
  simp only [Bool.or_eq_true, decide_eq_true_eq, Bool.and_eq_true, beq_iff_eq, not_or, not_and]
  exact ⟨by omega, hhead⟩

theorem readExponent?_text (exponent : Int) (rest : Input) (hrest : StartsOther rest) :
    readExponent? (some 'e' :: ((if exponent < 0 then ['-'] else []) ++
      Nat.toDigits 10 exponent.natAbs).map some ++ rest) = some (exponent, rest) := by
  have hread := readDigits_toDigits exponent.natAbs rest hrest
  obtain ⟨c, s, hdigits, hc⟩ := Number.exists_toDigits_eq exponent.natAbs
  by_cases hneg : exponent < 0
  · simp only [hneg, if_true, List.cons_append, List.nil_append, List.map_cons, readExponent?,
      hread]
    rw [if_neg (by simp [hdigits])]
    congr 2
    omega
  · have hminus : c ≠ '-' := by
      rintro rfl
      cases hc
    have hplus : c ≠ '+' := by
      rintro rfl
      cases hc
    simp only [hneg, if_false, List.cons_append, List.nil_append, readExponent?]
    rw [hdigits] at hread ⊢
    simp only [List.map_cons, List.cons_append] at hread ⊢
    simp [hminus, hplus, hread]
    omega

/-- What may stand behind a number: nothing that could be a part of it. -/
structure EndsNumber (s : Input) : Prop where
  digit : StartsOther s
  point : s.head? ≠ some (some '.')
  lower : s.head? ≠ some (some 'e')
  upper : s.head? ≠ some (some 'E')

theorem readFraction?_of_ne (whole : Nat) (s : Input) (h : s.head? ≠ some (some '.')) :
    readFraction? whole s = some (whole, 0, s) := by
  rw [readFraction?]
  intro rest hs
  exact h (by rw [hs, List.head?_cons])

theorem EndsNumber.readExponent?_eq {s : Input} (h : EndsNumber s) :
    readExponent? s = some (0, s) := by
  rw [readExponent?]
  · intro rest hs
    exact h.lower (by rw [hs, List.head?_cons])
  · intro rest hs
    exact h.upper (by rw [hs, List.head?_cons])

theorem readExponent?_exponentText (n : Number) (hn : n.IsSpelt) (rest : Input)
    (hrest : EndsNumber rest) :
    readExponent? (n.exponentText.map some ++ rest) = some (n.exponent, rest) := by
  cases hwhole : n.isWhole with
  | true =>
    rw [Number.exponentText, hwhole, if_pos rfl, hn hwhole, List.map_nil, List.nil_append]
    exact hrest.readExponent?_eq
  | false =>
    rw [Number.exponentText, hwhole, if_neg (by decide)]
    exact readExponent?_text n.exponent rest hrest.digit

/-- The mantissa ends in front of the exponent, and no fraction follows it. -/
theorem head?_exponentText (n : Number) (rest : Input) (hrest : EndsNumber rest) :
    StartsOther (n.exponentText.map some ++ rest) ∧
      (n.exponentText.map some ++ rest).head? ≠ some (some '.') := by
  cases hwhole : n.isWhole with
  | true =>
    rw [Number.exponentText, hwhole, if_pos rfl, List.map_nil, List.nil_append]
    exact ⟨hrest.digit, hrest.point⟩
  | false =>
    rw [Number.exponentText, hwhole, if_neg (by decide), List.map_cons, List.cons_append]
    exact ⟨fun c? hc => by cases hc; decide, by simp⟩

/-- A number is read as a whole one if nothing is left behind its mantissa. -/
theorem length_exponentText (n : Number) (rest : Input) :
    (rest.length == (n.exponentText.map some ++ rest).length) = n.isWhole := by
  cases hwhole : n.isWhole with
  | true => simp [Number.exponentText, hwhole]
  | false =>
    rw [beq_eq_false_iff_ne, Number.exponentText, hwhole, if_neg (by decide), List.map_cons,
      List.cons_append, List.length_cons, List.length_append]
    omega

/-- A number is read back as it was spelt. -/
theorem readNumber?_text (n : Number) (hn : n.IsSpelt) (rest : Input) (hrest : EndsNumber rest) :
    readNumber? (n.text.map some ++ rest) = some (n, rest) := by
  obtain ⟨hother, hdot⟩ := head?_exponentText n rest hrest
  have hwhole := readWhole?_toDigits n.mantissa _ hother
  have hfraction := readFraction?_of_ne n.mantissa _ hdot
  have hexponent := readExponent?_exponentText n hn rest hrest
  have hlength := length_exponentText n rest
  have hminus : ∀ tail s, (Nat.toDigits 10 n.mantissa).map some ++ tail ≠ some '-' :: s := by
    obtain ⟨c, digits, hdigits, hc⟩ := Number.exists_toDigits_eq n.mantissa
    intro tail s h
    rw [hdigits, List.map_cons, List.cons_append] at h
    rw [Option.some.inj (List.cons.inj h).1] at hc
    cases hc
  obtain ⟨⟨negative, mantissa, exponent⟩, isWhole⟩ := n
  rw [Number.text_eq]
  cases negative with
  | true =>
    simp only [if_true, List.map_append, List.map_cons, List.append_assoc, List.cons_append,
      List.nil_append, readNumber?]
    simp only [hwhole, hfraction, hexponent, hlength]
    simp
  | false =>
    simp only [Bool.false_eq_true, if_false, List.map_append, List.append_assoc, List.nil_append]
    rw [readNumber?]
    · simp only [hwhole, hfraction, hexponent, hlength]
      simp
    · exact hminus _

end Tree

end Crawlability.Json
