import ClusterProvisioning.Number.Binary64
import Mathlib.Data.Nat.Dist
import Mathlib.Tactic.Ring

/-!
# Whole numbers in binary floating point

The whole numbers of the format are those with a significand of 53 bits (`Fits`). Every other one
stands for the nearest of these, and of two that are equally near for the one whose significand is
even (`Nearest`). Steps play no part in that: rounding a whole number in steps of the format is
rounding it to the spacing that the format has there (`ofNat_whole`).
-/

namespace ClusterProvisioning.Proofs
open Binary64

/-- A significand of so many bits times a power of two. -/
def Fits (bits n : Nat) : Prop :=
  ∃ significand exponent, significand < 2 ^ bits ∧ n = significand * 2 ^ exponent

/-- No number of the format is nearer to `n`, and if another is as near the last of the 53 bits of
the significand is zero. -/
structure Nearest (n value : Nat) : Prop where
  fits : Fits 53 value
  nearest : ∀ {other}, Fits 53 other → Nat.dist value n ≤ Nat.dist other n
  even : ∀ {other}, Fits 53 other → other ≠ value → Nat.dist value n = Nat.dist other n →
    Fits 52 value

/-- A whole number rounded to the spacing of the format. -/
def nearestWhole (n : Nat) : Nat := roundHalfEven n (spacing n) * spacing n

variable {n num den k bits significand : Nat}

/-! ### Significands -/

theorem fits_mul_two_pow (h : Fits bits n) (exponent : Nat) : Fits bits (n * 2 ^ exponent) := by
  obtain ⟨s, e, hs, rfl⟩ := h
  exact ⟨s, e + exponent, hs, by rw [Nat.mul_assoc, ← Nat.pow_add]⟩

/-- A significand that is one too great is a power of two itself. -/
theorem fits_of_le (hbits : 0 < bits) (h : significand ≤ 2 ^ bits) (exponent : Nat) :
    Fits bits (significand * 2 ^ exponent) := by
  rcases Nat.lt_or_eq_of_le h with hlt | rfl
  · exact ⟨significand, exponent, hlt, rfl⟩
  · exact ⟨1, bits + exponent, Nat.one_lt_two_pow hbits.ne', by rw [Nat.one_mul, Nat.pow_add]⟩

theorem fits_small (h : n ≤ 2 ^ 53) : Fits 53 n := by
  simpa using fits_of_le (by decide) h 0

theorem log2_mul_two_pow (hn : n ≠ 0) (exponent : Nat) :
    (n * 2 ^ exponent).log2 = n.log2 + exponent := by
  have hpos : 0 < 2 ^ exponent := Nat.two_pow_pos exponent
  have hlower := Nat.mul_le_mul_right (2 ^ exponent) (Nat.log2_self_le hn)
  have hupper := Nat.mul_lt_mul_of_pos_right (Nat.lt_log2_self (n := n)) hpos
  rw [← Nat.pow_add] at hlower hupper
  rw [Nat.log2_eq_iff (Nat.mul_ne_zero hn hpos.ne')]
  exact ⟨hlower, by rwa [Nat.add_right_comm]⟩

theorem spacing_pos (n : Nat) : 0 < spacing n := Nat.two_pow_pos _

/-- At a number the spacing is one, or its significand takes all 53 bits. -/
theorem spacing_spans (n : Nat) :
    n < 2 ^ 53 * spacing n ∧ (spacing n = 1 ∨ 2 ^ 52 * spacing n ≤ n) := by
  change n < 2 ^ 53 * 2 ^ (n.log2 - 52) ∧
    (2 ^ (n.log2 - 52) = 1 ∨ 2 ^ 52 * 2 ^ (n.log2 - 52) ≤ n)
  rw [← Nat.pow_add, ← Nat.pow_add]
  refine ⟨lt_of_lt_of_le Nat.lt_log2_self (Nat.pow_le_pow_right (by decide) (by omega)), ?_⟩
  by_cases hlog : n.log2 ≤ 52
  · rw [Nat.sub_eq_zero_of_le hlog]
    exact .inl rfl
  · have hn : n ≠ 0 := by
      rintro rfl
      exact hlog (by decide)
    rw [Nat.add_sub_cancel' (by omega)]
    exact .inr (Nat.log2_self_le hn)

/-- A number of the format is a multiple of the spacing at `n` or lies below all numbers with that
spacing. -/
theorem fits_grid {other : Nat} (h : Fits 53 other) (n : Nat) :
    (∃ k, other = k * spacing n) ∨ other < 2 ^ 52 * spacing n ∧ 2 ^ 52 * spacing n ≤ n := by
  obtain ⟨s, e, hs, rfl⟩ := h
  by_cases hgrid : n.log2 - 52 ≤ e
  · refine .inl ⟨s * 2 ^ (e - (n.log2 - 52)), ?_⟩
    change _ = _ * 2 ^ (n.log2 - 52)
    rw [Nat.mul_assoc, ← Nat.pow_add, Nat.sub_add_cancel hgrid]
  · have hwide : 2 * 2 ^ e ≤ spacing n := by
      change _ ≤ 2 ^ (n.log2 - 52)
      rw [← Nat.pow_succ']
      exact Nat.pow_le_pow_right (by decide) (by omega)
    have hbelow : s * 2 ^ e < 2 ^ 53 * 2 ^ e :=
      Nat.mul_lt_mul_of_pos_right hs (Nat.two_pow_pos e)
    have hfull : 2 ^ 52 * spacing n ≤ n := by
      refine (spacing_spans n).2.resolve_left fun hone => ?_
      have := Nat.two_pow_pos e
      omega
    exact .inr ⟨by omega, hfull⟩

/-! ### Rounding to a multiple -/

theorem roundHalfEven_cases (num den : Nat) :
    roundHalfEven num den = num / den ∧ 2 * (num % den) ≤ den ∨
      roundHalfEven num den = num / den + 1 ∧ den ≤ 2 * (num % den) := by
  unfold roundHalfEven
  dsimp only
  split
  next below => exact .inl ⟨rfl, by omega⟩
  split
  next above => exact .inr ⟨rfl, by omega⟩
  next => rcases Nat.mod_two_eq_zero_or_one (num / den) with h | h <;> rw [h] <;> omega

theorem roundHalfEven_half (half : 2 * (num % den) = den) : roundHalfEven num den % 2 = 0 := by
  unfold roundHalfEven
  dsimp only
  rw [if_neg (by omega), if_neg (by omega)]
  omega

theorem roundHalfEven_scaled {c : Nat} (hc : 0 < c) (num den : Nat) :
    roundHalfEven (num * c) (den * c) = roundHalfEven num den := by
  have hbelow : 2 * (num % den * c) < den * c ↔ 2 * (num % den) < den := by
    rw [← Nat.mul_assoc, Nat.mul_lt_mul_right hc]
  have habove : den * c < 2 * (num % den * c) ↔ den < 2 * (num % den) := by
    rw [← Nat.mul_assoc, Nat.mul_lt_mul_right hc]
  unfold roundHalfEven
  dsimp only
  rw [Nat.mul_div_mul_right _ _ hc, Nat.mul_mod_mul_right]
  simp only [hbelow, habove]

/-- A multiple lies at or below the quotient or above it. -/
theorem multiple_beside (k quotient den : Nat) :
    k * den + den ≤ quotient * den ∨ k = quotient ∨ k = quotient + 1 ∨
      quotient * den + 2 * den ≤ k * den := by
  rcases Nat.lt_trichotomy k quotient with below | rfl | above
  · exact .inl (by rw [← Nat.succ_mul]; exact Nat.mul_le_mul_right den below)
  · exact .inr (.inl rfl)
  · rcases Nat.eq_or_lt_of_le above with rfl | above
    · exact .inr (.inr (.inl rfl))
    · exact .inr (.inr (.inr (by rw [← Nat.add_mul]; exact Nat.mul_le_mul_right den above)))

theorem roundHalfEven_nearest (hden : 0 < den) (num k : Nat) :
    Nat.dist (roundHalfEven num den * den) num ≤ Nat.dist (k * den) num := by
  have split := Nat.div_add_mod' num den
  have rest := Nat.mod_lt num hden
  have beside := multiple_beside k (num / den) den
  have next : (num / den + 1) * den = num / den * den + den := Nat.succ_mul _ _
  unfold Nat.dist
  rcases roundHalfEven_cases num den with ⟨hround, hhalf⟩ | ⟨hround, hhalf⟩ <;> rw [hround]
  all_goals rcases beside with _ | rfl | rfl | _ <;> omega

/-- If another multiple is as near, the one that is taken is even. -/
theorem roundHalfEven_even (hden : 0 < den) (hk : k ≠ roundHalfEven num den)
    (tie : Nat.dist (roundHalfEven num den * den) num = Nat.dist (k * den) num) :
    roundHalfEven num den % 2 = 0 := by
  refine roundHalfEven_half ?_
  have split := Nat.div_add_mod' num den
  have rest := Nat.mod_lt num hden
  have beside := multiple_beside k (num / den) den
  have next : (num / den + 1) * den = num / den * den + den := Nat.succ_mul _ _
  unfold Nat.dist at tie
  rcases roundHalfEven_cases num den with ⟨hround, hhalf⟩ | ⟨hround, hhalf⟩ <;>
    rw [hround] at hk tie
  all_goals rcases beside with _ | rfl | rfl | _ <;> omega

theorem dist_roundHalfEven (hden : 0 < den) (num : Nat) :
    2 * Nat.dist (roundHalfEven num den * den) num ≤ den := by
  have split := Nat.div_add_mod' num den
  have rest := Nat.mod_lt num hden
  have next : (num / den + 1) * den = num / den * den + den := Nat.succ_mul _ _
  unfold Nat.dist
  rcases roundHalfEven_cases num den with ⟨hround, hhalf⟩ | ⟨hround, hhalf⟩ <;> rw [hround] <;>
    omega

/-! ### The nearest number of the format -/

theorem rounded_le (n : Nat) : roundHalfEven n (spacing n) ≤ 2 ^ 53 := by
  have hquotient : n / spacing n < 2 ^ 53 :=
    (Nat.div_lt_iff_lt_mul (spacing_pos n)).mpr (spacing_spans n).1
  rcases roundHalfEven_cases n (spacing n) with ⟨hround, -⟩ | ⟨hround, -⟩ <;> omega

theorem nearest_nearestWhole (n : Nat) : Nearest n (nearestWhole n) where
  fits := fits_of_le (by decide) (rounded_le n) _
  nearest := by
    intro other h
    rcases fits_grid h n with ⟨k, rfl⟩ | ⟨hbelow, hfull⟩
    · exact roundHalfEven_nearest (spacing_pos n) n k
    · have hnear := roundHalfEven_nearest (spacing_pos n) n (2 ^ 52)
      unfold nearestWhole
      unfold Nat.dist at hnear ⊢
      omega
  even := by
    intro other h hne tie
    rcases fits_grid h n with ⟨k, rfl⟩ | ⟨hbelow, hfull⟩
    · have hk : k ≠ roundHalfEven n (spacing n) := by
        rintro rfl
        exact hne rfl
      have heven := roundHalfEven_even (spacing_pos n) hk tie
      obtain ⟨half, hhalf⟩ := Nat.dvd_of_mod_eq_zero heven
      have hle : half ≤ 2 ^ 52 := by
        have := rounded_le n
        omega
      have hvalue : nearestWhole n = half * 2 ^ (n.log2 - 52 + 1) := by
        unfold nearestWhole
        rw [hhalf]
        change 2 * half * 2 ^ (n.log2 - 52) = _
        ring
      rw [hvalue]
      exact fits_of_le (by decide) hle _
    · -- The least number with the spacing of `n` would be nearer than one below it.
      have hnear := roundHalfEven_nearest (spacing_pos n) n (2 ^ 52)
      unfold nearestWhole at tie
      unfold Nat.dist at hnear tie
      omega

/-- A whole number is kept exactly if it is a number of the format. -/
theorem nearestWhole_eq_iff (n : Nat) : nearestWhole n = n ↔ Fits 53 n := by
  constructor
  · intro h
    have fits := (nearest_nearestWhole n).fits
    rwa [h] at fits
  · intro fits
    have h := (nearest_nearestWhole n).nearest fits
    rw [Nat.dist_self] at h
    exact Nat.eq_of_dist_eq_zero (Nat.eq_zero_of_le_zero h)

/-- Counted in smaller units a whole number is rounded as it is by itself. -/
theorem nearestWhole_mul_two_pow (n exponent : Nat) :
    nearestWhole (n * 2 ^ exponent) = nearestWhole n * 2 ^ exponent := by
  by_cases hlog : 52 ≤ n.log2
  · have hn : n ≠ 0 := by
      rintro rfl
      exact absurd hlog (by decide)
    have hspacing : spacing (n * 2 ^ exponent) = spacing n * 2 ^ exponent := by
      change 2 ^ ((n * 2 ^ exponent).log2 - 52) = 2 ^ (n.log2 - 52) * 2 ^ exponent
      rw [log2_mul_two_pow hn, ← Nat.pow_add, Nat.sub_add_comm hlog]
    unfold nearestWhole
    rw [hspacing, roundHalfEven_scaled (Nat.two_pow_pos exponent), ← Nat.mul_assoc]
  · -- Below `2 ^ 52` every whole number is exact, in any unit.
    have hfits : Fits 53 n := by
      refine fits_small (Nat.lt_log2_self.le.trans ?_)
      exact Nat.pow_le_pow_right (by decide) (by omega)
    rw [(nearestWhole_eq_iff n).mpr hfits]
    exact (nearestWhole_eq_iff _).mpr (fits_mul_two_pow hfits exponent)

theorem dist_nearestWhole (n : Nat) : 2 ^ 53 * Nat.dist (nearestWhole n) n ≤ n := by
  have hhalf : 2 * Nat.dist (nearestWhole n) n ≤ spacing n :=
    dist_roundHalfEven (spacing_pos n) n
  rcases (spacing_spans n).2 with hone | hfull <;> omega

theorem nearestWhole_le_two_pow {e : Nat} (h : n ≤ 2 ^ e) : nearestWhole n ≤ 2 ^ e := by
  have hpow : Fits 53 (2 ^ e) := ⟨1, e, by decide, (Nat.one_mul _).symm⟩
  have hnear := (nearest_nearestWhole n).nearest hpow
  unfold Nat.dist at hnear
  omega

/-- The numbers of 64 bits that are rounded to `2 ^ 64` begin in the middle between it and the
number of the format below it. -/
theorem two_pow_64_le_nearestWhole (h : n < 2 ^ 64) :
    2 ^ 64 ≤ nearestWhole n ↔ 2 ^ 64 - 1024 ≤ n := by
  by_cases hlow : n < 2 ^ 63
  · have hle : nearestWhole n ≤ 2 ^ 63 := nearestWhole_le_two_pow hlow.le
    omega
  · have hlog : n.log2 = 63 := (Nat.log2_eq_iff (by omega)).mpr ⟨by omega, h⟩
    have hspacing : spacing n = 2048 := by
      change 2 ^ (n.log2 - 52) = 2048
      rw [hlog]
      rfl
    have htie := @roundHalfEven_half n 2048
    unfold nearestWhole
    rw [hspacing]
    rcases roundHalfEven_cases n 2048 with ⟨hround, hhalf⟩ | ⟨hround, hhalf⟩ <;> omega

/-! ### Steps -/

theorem steps_one : ∃ exponent, one = 2 ^ exponent := by
  unfold one
  generalize 1074 = exponent
  exact ⟨exponent, Nat.pow_eq⟩

theorem steps_one_pos : 0 < one := by
  obtain ⟨exponent, h⟩ := steps_one
  rw [h]
  exact Nat.two_pow_pos exponent

/-- Powers of two below `2 ^ 1024` are finite. -/
theorem steps_limit {e : Nat} (he : e < 1024) : 2 ^ e * one < limit := by
  unfold limit one
  generalize 1024 = top at he ⊢
  generalize 1074 = exponent
  change 2 ^ e * 2 ^ exponent < 2 ^ (top + exponent)
  rw [← Nat.pow_add]
  exact Nat.pow_lt_pow_right Nat.one_lt_two (Nat.add_lt_add_right he exponent)

theorem finite_mul (a b : Nat) :
    Binary64.finite a * Binary64.finite b = ofStepRatio (a * b) one := by
  change Binary64.mul _ _ = _
  rw [Binary64.mul]

theorem nearestWhole_steps_lt_limit {e : Nat} (h : n ≤ 2 ^ e) (he : e < 1024) :
    nearestWhole n * one < limit :=
  (Nat.mul_le_mul_right one (nearestWhole_le_two_pow h)).trans_lt (steps_limit he)

/-- A whole number in the range of the format stands for the nearest number of the format. -/
theorem ofNat_whole {e : Nat} (h : n ≤ 2 ^ e) (he : e < 1024) :
    Binary64.ofNat n = .finite (nearestWhole n * one) := by
  have hsteps : nearestWhole (n * one) = nearestWhole n * one := by
    obtain ⟨exponent, hone⟩ := steps_one
    rw [hone]
    exact nearestWhole_mul_two_pow n exponent
  unfold nearestWhole at hsteps
  unfold Binary64.ofNat ofRatio ofStepRatio
  dsimp only
  rw [Nat.div_one, Nat.one_mul, hsteps]
  exact if_pos (nearestWhole_steps_lt_limit h he)

/-- What a whole number stands for is a number of the format in steps, too. -/
theorem fits_steps (h : Fits bits n) : Fits bits (n * one) := by
  obtain ⟨exponent, hone⟩ := steps_one
  rw [hone]
  exact fits_mul_two_pow h exponent

theorem ofNat_one : Binary64.ofNat 1 = .finite one := by
  have hexact : nearestWhole 1 = 1 := (nearestWhole_eq_iff 1).mpr (fits_small (by decide))
  have hone : 1 ≤ 2 ^ 0 := le_rfl
  rw [ofNat_whole hone (by decide), hexact, Nat.one_mul]

/-- Multiplying a number of the format by one does not round it again. -/
theorem finite_mul_one (hfits : Fits 53 n) (hlt : n < limit) :
    Binary64.finite n * .ofNat 1 = .finite n := by
  have hkept : roundHalfEven (n * one) (one * spacing n) * spacing n = n := by
    rw [Nat.mul_comm one, roundHalfEven_scaled steps_one_pos]
    exact (nearestWhole_eq_iff n).mpr hfits
  rw [ofNat_one, finite_mul]
  unfold ofStepRatio
  dsimp only
  rw [Nat.mul_div_cancel n steps_one_pos, hkept, if_pos hlt]

end ClusterProvisioning.Proofs
