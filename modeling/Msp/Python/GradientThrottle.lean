import Msp.Python.GradientGate
import Mathlib.Data.Fintype.Card
import Mathlib.Algebra.Order.Archimedean.Basic

/-!
# How many rows a hot gradient gate leaves

`freeze_ratio` is documented as the fraction of rows that remain active, and
`update_ratio` reports it; the hook keeps every `stride`-th row instead, where
the stride is the rounded reciprocal.  A reciprocal that rounds down keeps more
rows than the fraction allows.
-/

set_option autoImplicit false

namespace Msp.Python.GradientGate

open Msp.Library

section Rows
variable {Temp Value : Type*} [LinearOrder Temp] [Semiring Value]
  {monitor : ThermalMonitor Temp} {temperatureC : Temp}

def unmaskedRows (monitor : ThermalMonitor Temp) (temperatureC : Temp) (rows : ℕ) :
    Finset (Fin rows) :=
  Finset.univ.filter fun row =>
    isThrottling monitor temperatureC = true → mask rows (stride monitor) row = true

theorem hook_row {rows cols : ℕ} (grad : Matrix (Fin rows) (Fin cols) Value) (row : Fin rows) :
    hook monitor temperatureC grad row =
      if row ∈ unmaskedRows monitor temperatureC rows then grad row else 0 := by
  unfold hook unmaskedRows
  funext col
  by_cases hot : isThrottling monitor temperatureC = true
  · by_cases kept : mask rows (stride monitor) row = true
    · simp [hot, kept]
    · simp [hot, kept]
  · simp [hot]

omit [LinearOrder Temp] in
theorem sliceIndices_nodup (length : ℕ) : (sliceIndices length (stride monitor)).Nodup :=
  List.Nodup.map (fun _ _ same => Nat.eq_of_mul_eq_mul_right (stride_pos monitor) same)
    List.nodup_range

theorem card_unmaskedRows (hot : isThrottling monitor temperatureC = true) (rows : ℕ) :
    (unmaskedRows monitor temperatureC rows).card =
      (rows + stride monitor - 1) / stride monitor := by
  have image : (unmaskedRows monitor temperatureC rows).map Fin.valEmbedding =
      (sliceIndices rows (stride monitor)).toFinset := by
    ext index
    simp only [unmaskedRows, hot, mask, Finset.mem_map, Finset.mem_filter, Finset.mem_univ,
      true_and, Fin.valEmbedding_apply, List.mem_toFinset, decide_eq_true_eq, forall_const]
    constructor
    · rintro ⟨row, kept, rfl⟩
      exact kept
    · intro member
      exact ⟨⟨index, ((mem_sliceIndices (stride_pos monitor)).mp member).1⟩, member, rfl⟩
  have counted := congrArg Finset.card image
  rw [Finset.card_map, List.toFinset_card_of_nodup (sliceIndices_nodup rows)] at counted
  rw [counted, sliceIndices, List.length_map, List.length_range]

theorem card_eq_succ (hot : isThrottling monitor temperatureC = true) {rows : ℕ}
    (positive : 0 < rows) :
    (unmaskedRows monitor temperatureC rows).card = (rows - 1) / stride monitor + 1 := by
  have split : rows + stride monitor - 1 = rows - 1 + stride monitor := by omega
  rw [card_unmaskedRows hot, split, Nat.add_div_right _ (stride_pos monitor)]

end Rows

section Fraction
variable {Temp : Type*} [LinearOrder Temp] {monitor : ThermalMonitor Temp} {temperatureC : Temp}

/-- At least one row is updated, and no more than the fraction reported. -/
def WithinFraction (monitor : ThermalMonitor Temp) (temperatureC : Temp) (rows : ℕ) : Prop :=
  1 ≤ (unmaskedRows monitor temperatureC rows).card ∧
    ((unmaskedRows monitor temperatureC rows).card : ℤ) ≤
      ⌈updateRatio monitor temperatureC * rows⌉

theorem withinFraction_iff (hot : isThrottling monitor temperatureC = true) {rows : ℕ}
    (positive : 0 < rows) :
    WithinFraction monitor temperatureC rows ↔
      (((rows - 1) / stride monitor : ℕ) : ℚ) < monitor.freezeRatio * rows := by
  have ratio : updateRatio monitor temperatureC = monitor.freezeRatio := if_pos hot
  rw [WithinFraction, card_eq_succ hot positive, ratio, Nat.cast_succ, Int.add_one_le_iff,
    Int.lt_ceil, Int.cast_natCast]
  exact and_iff_right (Nat.le_add_left 1 _)

omit [LinearOrder Temp] in
theorem one_le_reciprocal (monitor : ThermalMonitor Temp) : 1 ≤ 1 / monitor.freezeRatio := by
  rw [le_div_iff₀ monitor.ratioPositive, one_mul]
  exact monitor.ratioAtMostOne

omit [LinearOrder Temp] in
theorem le_stride (notDown : ¬ RoundsDown (1 / monitor.freezeRatio)) :
    1 / monitor.freezeRatio ≤ stride monitor := by
  have above := le_roundHalfEven notDown
  have rounded : (roundHalfEven (1 / monitor.freezeRatio) : ℚ) ≤ (stride monitor : ℤ) := by
    have atMost : roundHalfEven (1 / monitor.freezeRatio) ≤ (stride monitor : ℤ) := by
      unfold stride
      omega
    exact_mod_cast atMost
  rw [Int.cast_natCast] at rounded
  exact above.trans rounded

omit [LinearOrder Temp] in
theorem stride_of_roundsDown (down : RoundsDown (1 / monitor.freezeRatio)) :
    stride monitor = ⌊1 / monitor.freezeRatio⌋₊ := by
  have atLeastOne : 1 ≤ ⌊1 / monitor.freezeRatio⌋ := by
    rw [Int.le_floor, Int.cast_one]
    exact one_le_reciprocal monitor
  rw [stride, roundHalfEven_of_roundsDown down, max_eq_right atLeastOne, Int.floor_toNat]

/-- A stride of at least the reciprocal leaves at most the fraction. -/
theorem withinFraction_of_le_stride (hot : isThrottling monitor temperatureC = true) {rows : ℕ}
    (positive : 0 < rows) (wide : 1 / monitor.freezeRatio ≤ stride monitor) :
    WithinFraction monitor temperatureC rows := by
  rw [withinFraction_iff hot positive]
  have ratio := monitor.ratioPositive
  have unit : 1 ≤ monitor.freezeRatio * stride monitor := by
    rw [div_le_iff₀ ratio] at wide
    linarith
  have whole : (rows - 1) / stride monitor * stride monitor < rows := by
    have atMost := Nat.div_mul_le_self (rows - 1) (stride monitor)
    omega
  have wholeRat : (((rows - 1) / stride monitor : ℕ) : ℚ) * stride monitor < rows := by
    exact_mod_cast whole
  calc (((rows - 1) / stride monitor : ℕ) : ℚ)
      ≤ ((rows - 1) / stride monitor : ℕ) * (monitor.freezeRatio * stride monitor) :=
        le_mul_of_one_le_right (Nat.cast_nonneg _) unit
    _ = monitor.freezeRatio * (((rows - 1) / stride monitor : ℕ) * stride monitor) := by ring
    _ < monitor.freezeRatio * rows := mul_lt_mul_of_pos_left wholeRat ratio

/-- With a smaller stride the surplus grows with the matrix. -/
theorem exists_beyond_fraction (hot : isThrottling monitor temperatureC = true)
    (narrow : (stride monitor : ℚ) < 1 / monitor.freezeRatio) :
    ∃ rows, 0 < rows ∧ ¬ WithinFraction monitor temperatureC rows := by
  have ratio := monitor.ratioPositive
  have surplus : 0 < 1 - monitor.freezeRatio * stride monitor := by
    rw [lt_div_iff₀ ratio] at narrow
    linarith
  obtain ⟨count, enough⟩ := exists_nat_ge
    (monitor.freezeRatio / (1 - monitor.freezeRatio * stride monitor))
  rw [div_le_iff₀ surplus] at enough
  refine ⟨count * stride monitor + 1, Nat.succ_pos _, ?_⟩
  rw [withinFraction_iff hot (Nat.succ_pos _), not_lt, Nat.succ_sub_one,
    Nat.mul_div_cancel _ (stride_pos monitor), Nat.cast_succ]
  push_cast
  linarith

end Fraction

/-- The hook keeps within the fraction exactly where the reciprocal of the ratio
does not round down or the matrix has too few rows for it to matter; for all
matrices only where it does not round down. -/
theorem throttled_fraction_iff {Temp Value : Type*} [LinearOrder Temp] [Semiring Value]
    (monitor : ThermalMonitor Temp) (temperatureC : Temp)
    (hot : isThrottling monitor temperatureC = true) :
    (∀ (rows cols : ℕ) (grad : Matrix (Fin rows) (Fin cols) Value) (row : Fin rows),
        hook monitor temperatureC grad row =
          if row ∈ unmaskedRows monitor temperatureC rows then grad row else 0) ∧
      (∀ rows, 0 < rows →
        (WithinFraction monitor temperatureC rows ↔
          ¬ RoundsDown (1 / monitor.freezeRatio) ∨
            (((rows - 1) / ⌊1 / monitor.freezeRatio⌋₊ : ℕ) : ℚ) <
              monitor.freezeRatio * rows)) ∧
      ((∀ rows, 0 < rows → WithinFraction monitor temperatureC rows) ↔
        ¬ RoundsDown (1 / monitor.freezeRatio)) := by
  refine ⟨fun rows cols grad row => hook_row grad row, fun rows positive => ?_, ?_, ?_⟩
  · by_cases down : RoundsDown (1 / monitor.freezeRatio)
    · rw [withinFraction_iff hot positive, stride_of_roundsDown down]
      exact (or_iff_right (not_not_intro down)).symm
    · exact iff_of_true (withinFraction_of_le_stride hot positive (le_stride down)) (Or.inl down)
  · intro within down
    have narrow : (stride monitor : ℚ) < 1 / monitor.freezeRatio := by
      have below := floor_lt_of_roundsDown down
      rw [stride_of_roundsDown down, natCast_floor_eq_intCast_floor]
      · exact below
      · exact zero_le_one.trans (one_le_reciprocal monitor)
    obtain ⟨rows, positive, beyond⟩ := exists_beyond_fraction hot narrow
    exact beyond (within rows positive)
  · intro notDown rows positive
    exact withinFraction_of_le_stride hot positive (le_stride notDown)

theorem oneFifth_positive : 0 < (1 / 5 : ℚ) := by norm_num

theorem oneFifth_atMostOne : (1 / 5 : ℚ) ≤ 1 := by norm_num

def oneFifth : ThermalMonitor ℤ := ⟨75, 1 / 5, oneFifth_positive, oneFifth_atMostOne⟩

def sevenTenths : ThermalMonitor ℤ := ⟨75, 7 / 10, by norm_num, by norm_num⟩

theorem throttled_fraction_iff_oneFifth : WithinFraction oneFifth 80 16 := by
  refine (@throttled_fraction_iff ℤ ℤ _ _ oneFifth 80 (by decide)).2.2.mpr ?_ 16 (by decide)
  have whole : Int.fract (1 / (1 / 5) : ℚ) = 0 := by norm_num
  rintro ⟨above, _⟩
  exact above.ne' whole

/-- All ten rows are updated, where seven are announced. -/
theorem seven_tenths_masks_nothing : ¬ WithinFraction sevenTenths 80 10 := by
  have every : stride sevenTenths = 1 := by decide +kernel
  rw [withinFraction_iff (by decide) (by decide), every]
  norm_num [sevenTenths]

end Msp.Python.GradientGate
