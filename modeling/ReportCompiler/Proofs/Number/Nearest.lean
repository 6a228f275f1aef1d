import Mathlib.Algebra.Order.Field.Power
import Mathlib.Data.Nat.Log
import Mathlib.Data.Rat.Cast.Order
import Mathlib.Tactic.Linarith
import Mathlib.Tactic.Positivity
import Mathlib.Tactic.FieldSimp
import Mathlib.Tactic.Ring
import ReportCompiler.Number.Decimal

/-!
Which double is nearest to a ratio. Ratios are compared as rational numbers, where a mantissa and an
exponent stand for `mantissa * 2 ^ exponent`: the interval that belongs to a double is the one from
which every ratio is rounded to it.
-/

namespace ReportCompiler

namespace Double

/-! ### Ratios -/

theorem scale_fst_div_snd (mantissa : Nat) (exponent : Int) :
    ((scale mantissa exponent).1 : ℚ) / (scale mantissa exponent).2 = mantissa * 2 ^ exponent := by
  unfold scale
  split
  · next up =>
      obtain ⟨n, rfl⟩ := Int.eq_ofNat_of_zero_le up
      simp
  · next down =>
      obtain ⟨n, same⟩ := Int.eq_ofNat_of_zero_le (show 0 ≤ -exponent by omega)
      obtain rfl : exponent = -(n : Int) := by omega
      simp [div_eq_mul_inv]

theorem scale_fst_pos (mantissa : Nat) (exponent : Int) (positive : 0 < mantissa) :
    0 < (scale mantissa exponent).1 := by
  unfold scale
  split
  · exact Nat.mul_pos positive (Nat.pow_pos (by decide))
  · exact positive

/-- Products crosswise compare as quotients do. -/
theorem cross_le_iff (num den other parts : Nat) (den_pos : 0 < den) (parts_pos : 0 < parts) :
    num * parts ≤ other * den ↔ (num : ℚ) / den ≤ (other : ℚ) / parts := by
  rw [div_le_div_iff₀ (by exact_mod_cast den_pos) (by exact_mod_cast parts_pos)]
  exact_mod_cast Iff.rfl

theorem cross_lt_iff (num den other parts : Nat) (den_pos : 0 < den) (parts_pos : 0 < parts) :
    num * parts < other * den ↔ (num : ℚ) / den < (other : ℚ) / parts := by
  rw [div_lt_div_iff₀ (by exact_mod_cast den_pos) (by exact_mod_cast parts_pos)]
  exact_mod_cast Iff.rfl

theorem two_zpow_pos (exponent : Int) : (0 : ℚ) < 2 ^ exponent := zpow_pos (by norm_num) exponent

theorem two_zpow_succ (exponent : Int) : (2 : ℚ) ^ (exponent + 1) = 2 * 2 ^ exponent := by
  rw [zpow_add_one₀ (by norm_num)]
  ring

theorem two_zpow_le {small large : Int} (le : small ≤ large) : (2 : ℚ) ^ small ≤ 2 ^ large :=
  zpow_le_zpow_right₀ (by norm_num) le

/-! ### The exponent -/

theorem log2_bounds (num den : Nat) (num_pos : 0 < num) (den_pos : 0 < den) :
    (2 : ℚ) ^ ((num.log2 : Int) - den.log2 - 1) < (num : ℚ) / den ∧
      (num : ℚ) / den < 2 ^ ((num.log2 : Int) - den.log2 + 1) := by
  have den_pos' : (0 : ℚ) < den := by exact_mod_cast den_pos
  have num_low : (2 : ℚ) ^ num.log2 ≤ num := by
    exact_mod_cast Nat.log2_self_le num_pos.ne'
  have num_high : (num : ℚ) < 2 ^ (num.log2 + 1) := by
    exact_mod_cast Nat.lt_log2_self
  have den_low : (2 : ℚ) ^ den.log2 ≤ den := by
    exact_mod_cast Nat.log2_self_le den_pos.ne'
  have den_high : (den : ℚ) < 2 ^ (den.log2 + 1) := by
    exact_mod_cast Nat.lt_log2_self
  constructor
  · rw [lt_div_iff₀ den_pos']
    calc (2 : ℚ) ^ ((num.log2 : Int) - den.log2 - 1) * den
        < 2 ^ ((num.log2 : Int) - den.log2 - 1) * 2 ^ (den.log2 + 1) :=
          mul_lt_mul_of_pos_left den_high (two_zpow_pos _)
      _ = 2 ^ num.log2 := by
          rw [← zpow_natCast, ← zpow_add₀ (by norm_num), ← zpow_natCast]
          congr 1
          push_cast
          ring
      _ ≤ num := num_low
  · rw [div_lt_iff₀ den_pos']
    calc (num : ℚ) < 2 ^ (num.log2 + 1) := num_high
      _ = 2 ^ ((num.log2 : Int) - den.log2 + 1) * 2 ^ den.log2 := by
          rw [← zpow_natCast, ← zpow_natCast, ← zpow_add₀ (by norm_num)]
          congr 1
          push_cast
          ring
      _ ≤ 2 ^ ((num.log2 : Int) - den.log2 + 1) * den :=
          mul_le_mul_of_nonneg_left den_low (two_zpow_pos _).le

/-- The exponent suits a number: its mantissa is below `2 ^ 53`, and has all of its 53 bits unless the
exponent is the least one. -/
def Suits (q : ℚ) (exponent : Int) : Prop :=
  leastExponent ≤ exponent ∧ q < 2 ^ 53 * 2 ^ exponent ∧
    (exponent = leastExponent ∨ 2 ^ 52 * 2 ^ exponent ≤ q)

theorem Suits.unique {q : ℚ} {first second : Int} (one : Suits q first) (other : Suits q second) :
    first = second := by
  -- Of two exponents, the larger one's least mantissa is beyond the smaller one's greatest.
  have no_larger (small large : Int) (s : Suits q small) (l : Suits q large) : ¬ small < large := by
    intro less
    rcases l.2.2 with least | full
    · have := s.1
      omega
    · have step : (2 : ℚ) * 2 ^ small ≤ 2 ^ large := by
        rw [← two_zpow_succ]
        exact two_zpow_le less
      have := s.2.1
      linarith
  rcases lt_trichotomy first second with less | same | more
  · exact absurd less (no_larger _ _ one other)
  · exact same
  · exact absurd more (no_larger _ _ other one)

theorem suits_exponentOf (num den : Nat) (num_pos : 0 < num) (den_pos : 0 < den) :
    Suits ((num : ℚ) / den) (exponentOf num den) := by
  obtain ⟨low, high⟩ := log2_bounds num den num_pos den_pos
  unfold exponentOf
  generalize guessed : (num.log2 : Int) - (den.log2 : Int) - 52 = guess
  have low : 2 ^ 51 * (2 : ℚ) ^ guess < (num : ℚ) / den := by
    refine lt_of_eq_of_lt ?_ low
    rw [← guessed, ← zpow_natCast, ← zpow_add₀ (by norm_num)]
    congr 1
    push_cast
    ring
  have high : (num : ℚ) / den < 2 ^ 53 * 2 ^ guess := by
    refine lt_of_lt_of_eq high ?_
    rw [← guessed, ← zpow_natCast, ← zpow_add₀ (by norm_num)]
    congr 1
    push_cast
    ring
  have tested := cross_lt_iff num den (Nat.pow 2 52 * (scale 1 guess).1) (scale 1 guess).2
    den_pos (scale_snd_pos 1 guess)
  rw [Nat.cast_mul, mul_div_assoc, scale_fst_div_snd, Nat.mul_assoc, Nat.mul_comm _ den] at tested
  -- Before the least exponent is imposed, the mantissa has exactly 53 bits.
  have full (exponent : Int) (above : 2 ^ 52 * (2 : ℚ) ^ exponent ≤ (num : ℚ) / den)
      (below : (num : ℚ) / den < 2 ^ 53 * 2 ^ exponent) :
      Suits ((num : ℚ) / den) (max exponent leastExponent) := by
    rcases le_total leastExponent exponent with enough | short
    · rw [max_eq_left enough]
      exact ⟨enough, below, .inr above⟩
    · rw [max_eq_right short]
      refine ⟨le_refl _, lt_of_lt_of_le below ?_, .inl rfl⟩
      exact mul_le_mul_of_nonneg_left (two_zpow_le short) (by norm_num)
  simp only
  split
  · next less =>
      have less := tested.mp less
      have half : (2 : ℚ) ^ guess = 2 * 2 ^ (guess - 1) := by
        rw [← two_zpow_succ]
        congr 1
        ring
      rw [half] at low less
      push_cast at less
      refine full _ ?_ ?_
      · linarith
      · norm_num at less ⊢
        linarith
  · next more =>
      have more := not_lt.mp fun less => more (tested.mpr less)
      push_cast at more
      refine full _ ?_ high
      norm_num at more ⊢
      linarith

/-! ### The mantissa -/

/-- The naturals nearest to a number: one in most places, and the even one of two at a tie. -/
def RoundsTo (q : ℚ) (n : Nat) : Prop :=
  (n : ℚ) - 1 / 2 ≤ q ∧ q ≤ n + 1 / 2 ∧ ((n : ℚ) - 1 / 2 = q ∨ q = n + 1 / 2 → n % 2 = 0)

theorem RoundsTo.unique {q : ℚ} {first second : Nat} (one : RoundsTo q first)
    (other : RoundsTo q second) : first = second := by
  -- Two different naturals would both be at a tie, and one of them is odd.
  have no_larger (small large : Nat) (s : RoundsTo q small) (l : RoundsTo q large) :
      ¬ small < large := by
    intro less
    have step : (small : ℚ) + 1 ≤ large := by exact_mod_cast less
    have next : (large : ℚ) = (small + 1 : Nat) := by
      push_cast
      linarith [s.2.1, l.1]
    have next' : large = small + 1 := by exact_mod_cast next
    push_cast at next
    have small_even := s.2.2 (.inr (by linarith [s.2.1, l.1]))
    have large_even := l.2.2 (.inl (by linarith [s.2.1, l.1]))
    omega
  rcases Nat.lt_trichotomy first second with less | same | more
  · exact absurd less (no_larger _ _ one other)
  · exact same
  · exact absurd more (no_larger _ _ other one)

theorem roundsTo_roundDivEven (num den : Nat) (den_pos : 0 < den) :
    RoundsTo ((num : ℚ) / den) (roundDivEven num den) := by
  have den_pos' : (0 : ℚ) < den := by exact_mod_cast den_pos
  have quotient : (num : ℚ) / den = (num / den : Nat) + ((num % den : Nat) : ℚ) / den := by
    have : (num : ℚ) = den * (num / den : Nat) + (num % den : Nat) := by
      exact_mod_cast (Nat.div_add_mod num den).symm
    rw [div_eq_iff den_pos'.ne', add_mul, div_mul_cancel₀ _ den_pos'.ne', this]
    ring
  have rest_less : ((num % den : Nat) : ℚ) / den < 1 := by
    rw [div_lt_one den_pos']
    exact_mod_cast Nat.mod_lt num den_pos
  have rest_nonneg : 0 ≤ ((num % den : Nat) : ℚ) / den := by positivity
  have below_half : 2 * (num % den) < den ↔ ((num % den : Nat) : ℚ) / den < 1 / 2 := by
    rw [div_lt_div_iff₀ den_pos' (by norm_num), ← Nat.cast_lt (α := ℚ)]
    push_cast
    constructor <;> intro less <;> linarith
  have above_half : den < 2 * (num % den) ↔ 1 / 2 < ((num % den : Nat) : ℚ) / den := by
    rw [div_lt_div_iff₀ (by norm_num) den_pos', ← Nat.cast_lt (α := ℚ)]
    push_cast
    constructor <;> intro less <;> linarith
  rw [quotient]
  unfold roundDivEven
  simp only
  generalize num / den = floor at *
  generalize ((num % den : Nat) : ℚ) / den = part at *
  split
  · next less =>
      have less := below_half.mp less
      exact ⟨by linarith, by linarith, by rintro (tied | tied) <;> linarith⟩
  · next notLess =>
      have atLeast := not_lt.mp fun less => notLess (below_half.mpr less)
      split
      · next more =>
          have more := above_half.mp more
          refine ⟨?_, ?_, ?_⟩ <;> push_cast
          · linarith
          · linarith
          · rintro (tied | tied) <;> linarith
      · next notMore =>
          have half : part = 1 / 2 :=
            le_antisymm (not_lt.mp fun more => notMore (above_half.mpr more)) atLeast
          split
          · next even => exact ⟨by linarith, by linarith, fun _ => even⟩
          · next odd =>
              refine ⟨?_, ?_, fun _ => by omega⟩ <;> push_cast <;> linarith

/-! ### The interval of a double -/

/-- A mantissa and an exponent as doubles have them: the mantissa has 53 bits, or fewer at the least
exponent only. -/
def IsRepresentable (mantissa : Nat) (exponent : Int) : Prop :=
  leastExponent ≤ exponent ∧ exponent ≤ greatestExponent ∧ mantissa < 2 ^ 53 ∧
    (exponent = leastExponent ∨ 2 ^ 52 ≤ mantissa)

/-- How far down the interval of a double reaches, in units of the last place: to the middle between it
and the next smaller double, which is only half a unit away below a power of two. -/
def reachBelow (mantissa : Nat) (exponent : Int) : ℚ :=
  if mantissa = 2 ^ 52 ∧ leastExponent < exponent then 1 / 4 else 1 / 2

/-- The numbers that are rounded to `mantissa * 2 ^ exponent`. Its ends belong to the interval when the
mantissa is even. -/
structure InReach (mantissa : Nat) (exponent : Int) (q : ℚ) : Prop where
  low : (mantissa - reachBelow mantissa exponent) * 2 ^ exponent ≤ q
  high : q ≤ (mantissa + 1 / 2) * 2 ^ exponent
  ends : (mantissa - reachBelow mantissa exponent) * 2 ^ exponent = q ∨
    q = (mantissa + 1 / 2) * 2 ^ exponent → mantissa % 2 = 0

theorem reachBelow_le (mantissa : Nat) (exponent : Int) : reachBelow mantissa exponent ≤ 1 / 2 := by
  unfold reachBelow
  split <;> norm_num

theorem roundsTo_scaled (num den : Nat) (den_pos : 0 < den) (exponent : Int) :
    RoundsTo ((num : ℚ) / den / 2 ^ exponent)
      (roundDivEven (num * (scale 1 exponent).2) (den * (scale 1 exponent).1)) := by
  have spec := roundsTo_roundDivEven (num * (scale 1 exponent).2) (den * (scale 1 exponent).1)
    (Nat.mul_pos den_pos (scale_fst_pos 1 exponent Nat.one_pos))
  have unit := scale_fst_div_snd 1 exponent
  rw [Nat.cast_one, one_mul] at unit
  rw [Nat.cast_mul, Nat.cast_mul, ← div_div_div_eq, unit] at spec
  exact spec

theorem roundDivEven_scaled (num den : Nat) (den_pos : 0 < den) (exponent : Int) (rounded : Nat)
    (rounds : RoundsTo ((num : ℚ) / den / 2 ^ exponent) rounded) :
    roundDivEven (num * (scale 1 exponent).2) (den * (scale 1 exponent).1) = rounded :=
  (roundsTo_scaled num den den_pos exponent).unique rounds

/-- Equal ratios are rounded to the same double. -/
theorem nearest_congr (negative : Bool) (num den other parts : Nat) (num_pos : 0 < num)
    (den_pos : 0 < den) (other_pos : 0 < other) (parts_pos : 0 < parts)
    (same : (num : ℚ) / den = (other : ℚ) / parts) :
    nearest negative num den = nearest negative other parts := by
  have exact : exponentOf num den = exponentOf other parts :=
    (suits_exponentOf num den num_pos den_pos).unique
      (same ▸ suits_exponentOf other parts other_pos parts_pos)
  have mantissa : roundDivEven (num * (scale 1 (exponentOf other parts)).2)
      (den * (scale 1 (exponentOf other parts)).1) =
        roundDivEven (other * (scale 1 (exponentOf other parts)).2)
          (parts * (scale 1 (exponentOf other parts)).1) := by
    apply roundDivEven_scaled num den den_pos
    rw [same]
    exact roundsTo_scaled other parts parts_pos _
  unfold nearest
  simp only [exact, mantissa]
  rw [if_neg num_pos.ne', if_neg other_pos.ne']

theorem nearest_of_lt (negative : Bool) (num den : Nat) (num_pos : 0 < num) (den_pos : 0 < den)
    (exponent : Int) (rounded : Nat) (suits : Suits ((num : ℚ) / den) exponent)
    (rounds : RoundsTo ((num : ℚ) / den / 2 ^ exponent) rounded) (below : rounded < 2 ^ 53)
    (inRange : exponent ≤ greatestExponent) :
    nearest negative num den = finite negative rounded exponent := by
  have exact := (suits_exponentOf num den num_pos den_pos).unique suits
  have mantissa := roundDivEven_scaled num den den_pos exponent rounded rounds
  unfold nearest
  simp only [exact, mantissa]
  rw [if_neg num_pos.ne', if_neg (show rounded ≠ Nat.pow 2 53 from below.ne),
    if_neg (not_lt.mpr inRange)]

/-- A mantissa that is rounded up to `2 ^ 53` is carried into the exponent. -/
theorem nearest_of_carry (negative : Bool) (num den : Nat) (num_pos : 0 < num) (den_pos : 0 < den)
    (exponent : Int) (suits : Suits ((num : ℚ) / den) exponent)
    (rounds : RoundsTo ((num : ℚ) / den / 2 ^ exponent) (2 ^ 53))
    (inRange : exponent + 1 ≤ greatestExponent) :
    nearest negative num den = finite negative (2 ^ 52) (exponent + 1) := by
  have exact := (suits_exponentOf num den num_pos den_pos).unique suits
  have mantissa := roundDivEven_scaled num den den_pos exponent (2 ^ 53) rounds
  unfold nearest
  simp only [exact, mantissa]
  rw [if_neg num_pos.ne', if_pos (show 2 ^ 53 = Nat.pow 2 53 from rfl),
    if_neg (not_lt.mpr inRange)]
  rfl

theorem nearest_of_inReach (negative : Bool) (num den : Nat) (num_pos : 0 < num) (den_pos : 0 < den)
    (mantissa : Nat) (exponent : Int) (representable : IsRepresentable mantissa exponent)
    (reach : InReach mantissa exponent ((num : ℚ) / den)) :
    nearest negative num den = finite negative mantissa exponent := by
  obtain ⟨least, greatest, small, full⟩ := representable
  obtain ⟨low, high, ends⟩ := reach
  have unit := two_zpow_pos exponent
  have below_half := reachBelow_le mantissa exponent
  have below : (num : ℚ) / den < 2 ^ 53 * 2 ^ exponent := by
    have whole : (mantissa : ℚ) + 1 ≤ 2 ^ 53 := by exact_mod_cast small
    exact lt_of_le_of_lt high (mul_lt_mul_of_pos_right (by linarith) unit)
  by_cases suits : Suits ((num : ℚ) / den) exponent
  · refine nearest_of_lt negative num den num_pos den_pos exponent mantissa suits ?_ small greatest
    refine ⟨?_, (div_le_iff₀ unit).mpr high, ?_⟩
    · rw [le_div_iff₀ unit]
      exact le_trans (mul_le_mul_of_nonneg_right (by linarith) unit.le) low
    · rintro (tied | tied)
      · rw [eq_div_iff unit.ne'] at tied
        refine ends (.inl (le_antisymm low ?_))
        rw [← tied]
        exact mul_le_mul_of_nonneg_right (by linarith) unit.le
      · rw [div_eq_iff unit.ne'] at tied
        exact ends (.inr tied)
  · -- Only the half unit below a power of two has a smaller exponent.
    have above_least : leastExponent < exponent := by
      rcases full with same | bits
      · exact absurd ⟨least, below, .inl same⟩ suits
      · refine lt_of_le_of_ne least fun same => suits ⟨least, below, .inl same.symm⟩
    have short : (num : ℚ) / den < 2 ^ 52 * 2 ^ exponent :=
      not_le.mp fun enough => suits ⟨least, below, .inr enough⟩
    have power : mantissa = 2 ^ 52 := by
      have bits : 2 ^ 52 ≤ mantissa := full.resolve_left above_least.ne'
      have under : (mantissa : ℚ) - reachBelow mantissa exponent < 2 ^ 52 :=
        lt_of_mul_lt_mul_right (lt_of_le_of_lt low short) unit.le
      have : (mantissa : ℚ) < (2 ^ 52 + 1 : Nat) := by
        push_cast
        linarith
      have : mantissa < 2 ^ 52 + 1 := by exact_mod_cast this
      omega
    have quarter : reachBelow mantissa exponent = 1 / 4 := if_pos ⟨power, above_least⟩
    have half : (2 : ℚ) ^ exponent = 2 * 2 ^ (exponent - 1) := by
      rw [← two_zpow_succ, sub_add_cancel]
    have unit' := two_zpow_pos (exponent - 1)
    rw [quarter, power, half] at low
    push_cast at low
    rw [power]
    rw [half] at short
    have carried := nearest_of_carry negative num den num_pos den_pos (exponent - 1)
      ⟨by omega, by linarith, .inr (by linarith)⟩
      ⟨by rw [le_div_iff₀ unit']; push_cast; linarith, by rw [div_le_iff₀ unit']; push_cast; linarith,
        fun _ => by norm_num⟩ (by omega)
    rw [carried, sub_add_cancel]

end Double

end ReportCompiler
