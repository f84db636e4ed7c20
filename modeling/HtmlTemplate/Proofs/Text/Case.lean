/-
This file says what lowering does to a text. It changes the letters from `A` to `Z` and nothing else.
-/

import HtmlTemplate.Text.Basic

namespace HtmlTemplate.Text

theorem toLower_of_not_isUpper {c : Char} (noUpper : c.isUpper = false) : c.toLower = c :=
  dif_neg (of_decide_eq_false noUpper)

/-- A text without capitals is its own lower case. -/
theorem lower_eq_self {chars : List Char} (noUpper : ∀ c ∈ chars, c.isUpper = false) :
    lower chars = chars := by
  rw [lower, List.map_congr_left fun c member => toLower_of_not_isUpper (noUpper c member)]
  exact List.map_id chars

theorem toNat_lt_of_isUpper {c : Char} (isUpper : c.isUpper = true) : c.toNat < 0x80 := by
  have bounds : c.val ≤ 'Z'.val := (of_decide_eq_true isUpper).2
  exact Nat.lt_of_le_of_lt bounds (by decide)

/-- What lowering keeps of the ASCII characters it keeps of all characters. -/
theorem toLower_of_ascii {Kind : Type} (kind : Char → Kind)
    (ascii : ∀ code < 0x80, kind (Char.ofNat code).toLower = kind (Char.ofNat code)) (c : Char) :
    kind c.toLower = kind c := by
  cases upper : c.isUpper with
  | true =>
      have same := ascii c.toNat (toNat_lt_of_isUpper upper)
      rwa [Char.ofNat_toNat] at same
  | false => rw [toLower_of_not_isUpper upper]

/-- A test that no case changes holds in lower case. -/
theorem all_lower {keep : Char → Bool} (kept : ∀ c, keep c.toLower = keep c) (chars : List Char) :
    (lower chars).all keep = chars.all keep := by
  rw [lower, List.all_map]
  exact congrArg chars.all (funext kept)

/-- Lowering keeps every character where it stands. -/
theorem byteLength_lower (chars : List Char) : byteLength (lower chars) = byteLength chars := by
  induction chars with
  | nil => rfl
  | cons c rest inductionHypothesis =>
      have size : c.toLower.utf8Size = c.utf8Size := toLower_of_ascii Char.utf8Size (by decide) c
      rw [byteLength_cons, ← size, ← inductionHypothesis]
      rfl

/-- A lowered text has nothing left to lower. -/
theorem lower_lower (chars : List Char) : lower (lower chars) = lower chars := by
  have twice : ∀ c : Char, c.toLower.toLower = c.toLower := toLower_of_ascii Char.toLower (by decide)
  rw [lower, lower, List.map_map]
  exact List.map_congr_left fun c _ => twice c

end HtmlTemplate.Text
