import Crawlability.Json.Printer
import Crawlability.Proofs.Json.Records

/-!
Quoted strings, read back. Each escape is read as one piece, and the pieces join to the characters
that were escaped: a control that is given by its number is no surrogate, so it joins with nothing
that follows. A string is therefore read as far as its closing quote, whatever stands behind that.
-/
namespace Crawlability.Json

namespace Quoted

/-- What an escaped character is read as: the character or, where the escape gives a number, a unit
of the same number. -/
inductive IsPiece (c : Char) : Piece → Prop
  | char : IsPiece c (.char c)
  | unit (h : c.toNat < 0x20) : IsPiece c (.unit c.toNat)

/-- The characters that have an escape of two characters. -/
def shortlyEscaped : List Char := ['"', '\\', '\x08', '\t', '\n', '\x0c', '\r']

theorem escape_of_mem_shortlyEscaped (c : Char) (h : c ∈ shortlyEscaped) :
    ∃ e, unescape? e = some c ∧ escape c = ['\\', e] := by
  simp only [shortlyEscaped, List.mem_cons, List.not_mem_nil, or_false] at h
  rcases h with h | h | h | h | h | h | h
  all_goals
    subst h
    exact ⟨_, rfl, rfl⟩

theorem escape_of_not_mem_shortlyEscaped (c : Char) (h : c ∉ shortlyEscaped) :
    escape c = if c.toNat < 0x20 then
        ['\\', 'u', '0', '0', hexDigit (c.toNat / 16), hexDigit (c.toNat % 16)]
      else [c] := by
  simp only [shortlyEscaped, List.mem_cons, List.not_mem_nil, or_false, not_or] at h
  simp [escape, h]

/-- The two digits of a control spell its number. -/
theorem unit?_hexDigit (code : Nat) (h : code < 0x20) :
    unit? (some '0') (some '0') (some (hexDigit (code / 16))) (some (hexDigit (code % 16))) =
      some code := by
  have hall : ∀ code < 0x20, unit? (some '0') (some '0') (some (hexDigit (code / 16)))
      (some (hexDigit (code % 16))) = some code := by decide
  exact hall code h

theorem read_short (e c : Char) (h : unescape? e = some c) (rest : List (Option Char)) :
    read (some '\\' :: some e :: rest) =
      (read rest).map fun (pieces, rest) => (.char c :: pieces, rest) := by
  have hu : e ≠ 'u' := by
    intro he
    rw [he] at h
    cases h
  rw [read, h]
  intro a b c d tail htail he
  exact hu he

theorem read_plain (c : Char) (h : c ∉ shortlyEscaped) (hcontrol : ¬ c.toNat < 0x20)
    (rest : List (Option Char)) : read (some c :: rest) =
      (read rest).map fun (pieces, rest) => (.char c :: pieces, rest) := by
  have hquote : c ≠ '"' := fun hc => h (by rw [hc]; decide)
  have hslash : c ≠ '\\' := fun hc => h (by rw [hc]; decide)
  rw [read]
  · simp [hquote, hslash, hcontrol]
  · simp [hslash]
  · simp [hslash]

/-- An escape is read as one piece. -/
theorem read_escape (c : Char) : ∃ piece, IsPiece c piece ∧ ∀ rest,
    read ((escape c).map some ++ rest) =
      (read rest).map fun (pieces, rest) => (piece :: pieces, rest) := by
  by_cases hshort : c ∈ shortlyEscaped
  · obtain ⟨e, he, hescape⟩ := escape_of_mem_shortlyEscaped c hshort
    rw [hescape]
    exact ⟨.char c, .char, read_short e c he⟩
  · rw [escape_of_not_mem_shortlyEscaped c hshort]
    by_cases hcontrol : c.toNat < 0x20
    · rw [if_pos hcontrol]
      refine ⟨.unit c.toNat, .unit hcontrol, fun rest => ?_⟩
      have hunit := unit?_hexDigit c.toNat hcontrol
      simp only [List.map_cons, List.map_nil, List.cons_append, List.nil_append, read, hunit]
    · rw [if_neg hcontrol]
      exact ⟨.char c, .char, read_plain c hshort hcontrol⟩

theorem read_flatMap_escape (s : List Char) (rest : List (Option Char)) :
    ∃ pieces, List.Forall₂ IsPiece s pieces ∧
      read ((s.flatMap escape).map some ++ some '"' :: rest) = some (pieces, rest) := by
  induction s with
  | nil => exact ⟨[], .nil, by simp [read]⟩
  | cons c s ih =>
    obtain ⟨pieces, hpieces, hread⟩ := ih
    obtain ⟨piece, hpiece, hescape⟩ := read_escape c
    refine ⟨piece :: pieces, .cons hpiece hpieces, ?_⟩
    rw [List.flatMap_cons, List.map_append, List.append_assoc, hescape, hread, Option.map_some]

/-- A control is no surrogate, so its unit makes up a character of its own. -/
theorem join_unit (code : Nat) (h : code < 0x20) (pieces : List Piece) :
    join (.unit code :: pieces) = some (.ofNat code) :: join pieces := by
  have hhigh : isHighSurrogate code = false := by
    simp only [isHighSurrogate, Bool.and_eq_false_iff, decide_eq_false_iff_not]
    omega
  have hlow : isLowSurrogate code = false := by
    simp only [isLowSurrogate, Bool.and_eq_false_iff, decide_eq_false_iff_not]
    omega
  cases pieces with
  | nil => simp [join, hhigh, hlow]
  | cons piece pieces => cases piece <;> simp [join, hhigh, hlow]

theorem join_of_forall₂ (s : List Char) (pieces : List Piece)
    (h : List.Forall₂ IsPiece s pieces) : join pieces = s.map some := by
  induction h with
  | nil => rfl
  | cons hpiece _ ih =>
    cases hpiece with
    | char => rw [join, ih, List.map_cons]
    | unit hcontrol => rw [join_unit _ hcontrol, ih, List.map_cons, Char.ofNat_toNat]

/-- A string is read as far as its closing quote, and its text is what was written. -/
theorem read_quote (s : String) (rest : List (Option Char)) :
    ∃ pieces, text? pieces = some s ∧
      read ((s.toList.flatMap escape).map some ++ some '"' :: rest) = some (pieces, rest) := by
  obtain ⟨pieces, hpieces, hread⟩ := read_flatMap_escape s.toList rest
  have hjoin := join_of_forall₂ s.toList pieces hpieces
  have hall : (s.toList.map some).mapM id = some s.toList := by
    rw [mapM_eq_some_iff, List.forall₂_map_left_iff]
    exact List.forall₂_same.mpr fun _ _ => rfl
  refine ⟨pieces, ?_, hread⟩
  rw [text?, hjoin, hall, Option.map_some, String.ofList_toList]

end Quoted

end Crawlability.Json
