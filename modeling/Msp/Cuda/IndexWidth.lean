import Msp.Cuda.GradientKernel
import Mathlib.Data.BitVec

/-!
# The kernel's indices in 32 bits

The launcher and the kernel again, with every `int` expression evaluated in
32-bit two's complement; `blockIdx`, `blockDim` and `threadIdx` are unsigned and
converted.  A buffer is a function of the signed index.  The dimensions whose
indices all fit are `Fits`; for these the kernel is the one over unbounded
indices.
-/

set_option autoImplicit false

namespace Msp.Cuda.GradientKernel

structure IntLaunch (Temp : Type*) where
  batchSize : BitVec 32
  inFeatures : BitVec 32
  rank : BitVec 32
  currentTempC : Temp
  criticalTempC : Temp
  freezeStride : BitVec 32

def maxGridY : Int := 65535

namespace IntLaunch
variable {Temp Value : Type*} [LinearOrder Temp] [Semiring Value]

structure Accepted (args : IntLaunch Temp) : Prop where
  batchPositive : 0 < args.batchSize.toInt
  featuresPositive : 0 < args.inFeatures.toInt
  rankPositive : 0 < args.rank.toInt
  rankWithinGrid : args.rank.toInt ≤ maxGridY

def unbounded (args : IntLaunch Temp) : Launch Temp where
  batchSize := args.batchSize.toNat
  inFeatures := args.inFeatures.toNat
  rank := args.rank.toNat
  currentTempC := args.currentTempC
  criticalTempC := args.criticalTempC
  freezeStride := args.freezeStride.toInt

def gridX (args : IntLaunch Temp) : BitVec 32 :=
  (args.inFeatures + BitVec.ofNat 32 threadsPerBlock - 1#32).sdiv (BitVec.ofNat 32 threadsPerBlock)

def row (thread : Thread) : BitVec 32 := BitVec.ofNat 32 thread.blockY

def col (thread : Thread) : BitVec 32 :=
  BitVec.ofNat 32 thread.blockX * BitVec.ofNat 32 threadsPerBlock + BitVec.ofNat 32 thread.threadX

def gradUIndex (args : IntLaunch Temp) (thread : Thread) (b : BitVec 32) : BitVec 32 :=
  b * args.rank + row thread

def xIndex (args : IntLaunch Temp) (thread : Thread) (b : BitVec 32) : BitVec 32 :=
  b * args.inFeatures + col thread

def gradAIndex (args : IntLaunch Temp) (thread : Thread) : BitVec 32 :=
  row thread * args.inFeatures + col thread

/-- `throttling && (freeze_stride <= 0 || row % freeze_stride != 0)`. -/
def Frozen (args : IntLaunch Temp) (row : Int) : Prop :=
  args.currentTempC > args.criticalTempC ∧
    (args.freezeStride.toInt ≤ 0 ∨ Int.tmod row args.freezeStride.toInt ≠ 0)

instance (args : IntLaunch Temp) (row : Int) : Decidable (args.Frozen row) :=
  inferInstanceAs (Decidable (_ ∧ _))

/-- The thread gets past both `return`s. -/
def Stores (args : IntLaunch Temp) (thread : Thread) : Prop :=
  ¬ ((row thread).toInt ≥ args.rank.toInt ∨ (col thread).toInt ≥ args.inFeatures.toInt) ∧
    ¬ args.Frozen (row thread).toInt

instance (args : IntLaunch Temp) (thread : Thread) : Decidable (args.Stores thread) :=
  inferInstanceAs (Decidable (_ ∧ _))

def kernel32 (args : IntLaunch Temp) (x gradU : Int → Value) (thread : Thread) :
    Option (Int × Value) :=
  if args.Stores thread then
    some ((args.gradAIndex thread).toInt,
      (List.range args.batchSize.toNat).foldl (fun acc b =>
        acc + gradU (args.gradUIndex thread (BitVec.ofNat 32 b)).toInt *
          x (args.xIndex thread (BitVec.ofNat 32 b)).toInt) 0)
  else none

def Launched (args : IntLaunch Temp) (thread : Thread) : Prop :=
  thread.blockX < args.gridX.toInt ∧ thread.blockY < args.rank.toInt ∧
    thread.threadX < threadsPerBlock

def column (thread : Thread) : ℕ := thread.blockX * threadsPerBlock + thread.threadX

/-- Every `int` expression of the launcher and of each thread has its mathematical
value. -/
structure IndicesExact (args : IntLaunch Temp) : Prop where
  gridX : args.gridX.toInt = (args.inFeatures.toInt + 255) / 256
  col : ∀ thread, args.Launched thread → (col thread).toInt = column thread
  gradU : ∀ thread, args.Launched thread → args.Stores thread → ∀ b < args.batchSize.toNat,
    (args.gradUIndex thread (BitVec.ofNat 32 b)).toInt = b * args.rank.toInt + thread.blockY
  x : ∀ thread, args.Launched thread → args.Stores thread → ∀ b < args.batchSize.toNat,
    (args.xIndex thread (BitVec.ofNat 32 b)).toInt = b * args.inFeatures.toInt + column thread
  gradA : ∀ thread, args.Launched thread → args.Stores thread →
    (args.gradAIndex thread).toInt = thread.blockY * args.inFeatures.toInt + column thread

/-- The dimensions whose largest indices are below `2 ^ 31`; those of a row only count
where the row is not frozen. -/
structure Fits (args : IntLaunch Temp) : Prop where
  gridX : args.inFeatures.toInt + 255 < 2 ^ 31
  rows : ∀ row : ℕ, row < args.rank.toInt → ¬ args.Frozen row →
    (args.batchSize.toInt - 1) * args.rank.toInt + row < 2 ^ 31 ∧
      args.batchSize.toInt * args.inFeatures.toInt ≤ 2 ^ 31 ∧
      (row + 1) * args.inFeatures.toInt ≤ 2 ^ 31

/-! ## Words that hold a natural number -/

theorem toInt_ofNat_iff (value : ℕ) :
    (BitVec.ofNat 32 value).toInt = value ↔ value < 2 ^ 31 := by
  have word : (BitVec.ofNat 32 value).toInt = (value : Int).bmod (2 ^ 32) := by
    rw [BitVec.toInt_eq_toNat_bmod, BitVec.toNat_ofNat, Int.natCast_mod, Int.emod_bmod]
  rw [word]
  constructor
  · intro same
    have below := @Int.bmod_lt value (2 ^ 32) (by decide)
    rw [same] at below
    omega
  · intro below
    exact Int.bmod_eq_of_le (by omega) (by omega)

theorem toInt_eq_toNat {word : BitVec 32} (positive : 0 < word.toInt) :
    word.toInt = word.toNat := by
  have cases := BitVec.toInt_eq_toNat_cond word
  have bounded := word.isLt
  split at cases
  · exact cases
  · omega

theorem col_eq (thread : Thread) : col thread = BitVec.ofNat 32 (column thread) := by
  rw [col, column, BitVec.ofNat_add, BitVec.ofNat_mul]

theorem product_eq (first : ℕ) (second : BitVec 32) (last : ℕ) :
    BitVec.ofNat 32 first * second + BitVec.ofNat 32 last =
      BitVec.ofNat 32 (first * second.toNat + last) := by
  rw [BitVec.ofNat_add, BitVec.ofNat_mul, BitVec.ofNat_toNat, BitVec.setWidth_eq]

/-- An index that is a product and a sum of natural numbers is exact exactly when it
is below `2 ^ 31`. -/
theorem index_exact_iff (first : ℕ) {second : BitVec 32} (positive : 0 < second.toInt)
    (last : ℕ) :
    (BitVec.ofNat 32 first * second + BitVec.ofNat 32 last).toInt =
        first * second.toInt + last ↔
      first * second.toInt + last < 2 ^ 31 := by
  have exact := toInt_ofNat_iff (first * second.toNat + last)
  rw [product_eq, toInt_eq_toNat positive]
  push_cast at exact
  rw [exact]
  norm_cast

section Launcher
variable {args : IntLaunch Temp}

omit [LinearOrder Temp] in
theorem gridX_exact_iff (positive : 0 < args.inFeatures.toInt) :
    args.gridX.toInt = (args.inFeatures.toInt + 255) / 256 ↔
      args.inFeatures.toInt + 255 < 2 ^ 31 := by
  have bounded : args.inFeatures.toInt < 2 ^ 31 := BitVec.toInt_lt
  have sum : (args.inFeatures + BitVec.ofNat 32 threadsPerBlock - 1#32).toInt =
      (args.inFeatures.toInt + 255).bmod (2 ^ 32) := by
    have constants : args.inFeatures + BitVec.ofNat 32 threadsPerBlock - 1#32 =
        args.inFeatures + 255#32 := add_sub_assoc _ _ _
    rw [constants, BitVec.toInt_add]
    rfl
  have divisor : (BitVec.ofNat 32 threadsPerBlock).toInt = 256 := by decide
  rw [gridX, BitVec.toInt_sdiv, sum, divisor]
  by_cases fits : args.inFeatures.toInt + 255 < 2 ^ 31
  · have exact : (args.inFeatures.toInt + 255).bmod (2 ^ 32) = args.inFeatures.toInt + 255 :=
      Int.bmod_eq_of_le (by omega) (by omega)
    rw [exact, Int.tdiv_eq_ediv_of_nonneg (by omega)]
    exact iff_of_true (Int.bmod_eq_of_le (by omega) (by omega)) fits
  · -- the sum wraps to a negative number, and so does the quotient
    have wrapped : (args.inFeatures.toInt + 255).bmod (2 ^ 32) =
        args.inFeatures.toInt + 255 - 2 ^ 32 := by
      rw [← Int.sub_bmod_right]
      exact Int.bmod_eq_of_le (by omega) (by omega)
    have negative : Int.tdiv (args.inFeatures.toInt + 255 - 2 ^ 32) 256 =
        -((2 ^ 32 - 255 - args.inFeatures.toInt) / 256) := by
      rw [show args.inFeatures.toInt + 255 - 2 ^ 32 = -(2 ^ 32 - 255 - args.inFeatures.toInt) by
        ring, Int.neg_tdiv, Int.tdiv_eq_ediv_of_nonneg (by omega)]
    rw [wrapped, negative, Int.bmod_eq_of_le (by omega) (by omega)]
    omega

omit [LinearOrder Temp] in
theorem col_exact (fits : args.inFeatures.toInt + 255 < 2 ^ 31)
    (positive : 0 < args.inFeatures.toInt) {thread : Thread} (launched : args.Launched thread) :
    (col thread).toInt = column thread := by
  obtain ⟨inGrid, _, inBlock⟩ := launched
  rw [(gridX_exact_iff positive).mpr fits] at inGrid
  rw [col_eq, toInt_ofNat_iff, column]
  simp only [threadsPerBlock] at inBlock ⊢
  omega

omit [LinearOrder Temp] in
theorem row_exact (accepted : args.Accepted) {thread : Thread}
    (below : thread.blockY < args.rank.toInt) : (row thread).toInt = thread.blockY := by
  have withinGrid := accepted.rankWithinGrid
  rw [row, toInt_ofNat_iff]
  rw [maxGridY] at withinGrid
  omega

theorem stores_iff (accepted : args.Accepted) {thread : Thread} (launched : args.Launched thread)
    (exact : (col thread).toInt = column thread) :
    args.Stores thread ↔
      (column thread : Int) < args.inFeatures.toInt ∧ ¬ args.Frozen thread.blockY := by
  have below := launched.2.1
  rw [Stores, row_exact accepted below, exact]
  refine and_congr_left fun _ => ?_
  omega

omit [LinearOrder Temp] in
theorem column_threadFor (row col : ℕ) : column (threadFor row col) = col :=
  Nat.div_add_mod' col threadsPerBlock

omit [LinearOrder Temp] in
theorem launched_threadFor (positive : 0 < args.inFeatures.toInt)
    (fits : args.inFeatures.toInt + 255 < 2 ^ 31) {row col : ℕ} (rowBelow : row < args.rank.toInt)
    (colBelow : col < args.inFeatures.toInt) : args.Launched (threadFor row col) := by
  refine ⟨?_, rowBelow, Nat.mod_lt _ (by decide)⟩
  rw [(gridX_exact_iff positive).mpr fits]
  simp only [threadFor, threadsPerBlock]
  omega

theorem rows_fit_of_exact (accepted : args.Accepted) (exact : args.IndicesExact)
    (fits : args.inFeatures.toInt + 255 < 2 ^ 31) {row : ℕ} (rowBelow : row < args.rank.toInt)
    (evaluated : ¬ args.Frozen row) :
    (args.batchSize.toInt - 1) * args.rank.toInt + row < 2 ^ 31 ∧
      args.batchSize.toInt * args.inFeatures.toInt ≤ 2 ^ 31 ∧
      (row + 1) * args.inFeatures.toInt ≤ 2 ^ 31 := by
  -- the last column of the row, at the last element of the batch
  have positive := accepted.featuresPositive
  obtain ⟨last, isLast⟩ : ∃ last : ℕ, (last : Int) = args.inFeatures.toInt - 1 :=
    Int.eq_ofNat_of_zero_le (by omega) |>.imp fun _ => Eq.symm
  obtain ⟨lastB, isLastB⟩ : ∃ lastB : ℕ, (lastB : Int) = args.batchSize.toInt - 1 :=
    Int.eq_ofNat_of_zero_le (by have := accepted.batchPositive; omega) |>.imp fun _ => Eq.symm
  have inBatch : lastB < args.batchSize.toNat := by
    have batch := toInt_eq_toNat accepted.batchPositive
    omega
  have launched := launched_threadFor positive fits rowBelow
    (show (last : Int) < args.inFeatures.toInt by omega)
  have itsColumn : column (threadFor row last) = last := column_threadFor row last
  have stores : args.Stores (threadFor row last) := by
    rw [stores_iff accepted launched (exact.col _ launched), itsColumn]
    exact ⟨by omega, evaluated⟩
  have gradU := exact.gradU _ launched stores lastB inBatch
  have x := exact.x _ launched stores lastB inBatch
  have gradA := exact.gradA _ launched stores
  rw [gradUIndex, IntLaunch.row, index_exact_iff _ accepted.rankPositive, isLastB] at gradU
  rw [xIndex, col_eq, index_exact_iff _ positive, itsColumn, isLastB, isLast] at x
  rw [gradAIndex, col_eq, IntLaunch.row, index_exact_iff _ positive, itsColumn, isLast] at gradA
  refine ⟨gradU, ?_, ?_⟩
  · linarith
  · simp only [threadFor] at gradA
    linarith

theorem exact_of_fits (accepted : args.Accepted) (fits : args.Fits) : args.IndicesExact := by
  have positive := accepted.featuresPositive
  have batch := toInt_eq_toNat accepted.batchPositive
  have cols : ∀ thread, args.Launched thread → (col thread).toInt = column thread :=
    fun thread launched => col_exact fits.gridX positive launched
  have rows := fun thread (launched : args.Launched thread) (stores : args.Stores thread) =>
    fits.rows thread.blockY launched.2.1
      ((stores_iff accepted launched (cols thread launched)).mp stores).2
  have columns := fun thread (launched : args.Launched thread) (stores : args.Stores thread) =>
    ((stores_iff accepted launched (cols thread launched)).mp stores).1
  refine ⟨(gridX_exact_iff positive).mpr fits.gridX, cols, ?_, ?_, ?_⟩
  · intro thread launched stores b inBatch
    rw [gradUIndex, row, index_exact_iff _ accepted.rankPositive]
    have bound := (rows thread launched stores).1
    have product : (b : Int) * args.rank.toInt ≤ (args.batchSize.toInt - 1) * args.rank.toInt :=
      mul_le_mul_of_nonneg_right (by omega) accepted.rankPositive.le
    omega
  · intro thread launched stores b inBatch
    rw [xIndex, col_eq, index_exact_iff _ positive]
    have bound := (rows thread launched stores).2.1
    have below := columns thread launched stores
    have product : ((b : Int) + 1) * args.inFeatures.toInt ≤
        args.batchSize.toInt * args.inFeatures.toInt :=
      mul_le_mul_of_nonneg_right (by omega) positive.le
    linarith
  · intro thread launched stores
    rw [gradAIndex, col_eq, row, index_exact_iff _ positive]
    have bound := (rows thread launched stores).2.2
    have below := columns thread launched stores
    linarith

theorem exact_iff_fits (accepted : args.Accepted) : args.IndicesExact ↔ args.Fits := by
  constructor
  · intro exact
    have fits := (gridX_exact_iff accepted.featuresPositive).mp exact.gridX
    exact ⟨fits, fun row below evaluated => rows_fit_of_exact accepted exact fits below evaluated⟩
  · exact exact_of_fits accepted

/-- The kernel over unbounded indices stores in the same threads. -/
theorem kernel_unbounded (accepted : args.Accepted) {thread : Thread}
    (launched : args.Launched thread) (exact : (col thread).toInt = column thread)
    (x gradU : ℕ → Value) :
    kernel args.unbounded x gradU thread =
      if args.Stores thread then
        some (thread.blockY * args.inFeatures.toNat + column thread,
          accumulate args.unbounded x gradU thread.blockY (column thread))
      else none := by
  have features := toInt_eq_toNat accepted.featuresPositive
  have ranks := toInt_eq_toNat accepted.rankPositive
  have rowBelow := launched.2.1
  have isColumn : column thread = thread.blockX * threadsPerBlock + thread.threadX := rfl
  have storesIff := stores_iff accepted launched exact
  by_cases outside : thread.blockY ≥ args.unbounded.rank ∨
      thread.blockX * threadsPerBlock + thread.threadX ≥ args.unbounded.inFeatures
  · have stops : ¬ args.Stores thread := by
      rw [storesIff]
      simp only [unbounded] at outside
      omega
    exact (if_pos outside).trans (if_neg stops).symm
  · have inside : (column thread : Int) < args.inFeatures.toInt := by
      simp only [unbounded] at outside
      omega
    refine (if_neg outside).trans ?_
    by_cases frozen : args.Frozen thread.blockY
    · exact (if_pos frozen).trans (if_neg fun stores => (storesIff.mp stores).2 frozen).symm
    · exact (if_neg frozen).trans (if_pos (storesIff.mpr ⟨inside, frozen⟩)).symm

theorem accumulate32_eq (accepted : args.Accepted) (exact : args.IndicesExact)
    (x gradU : Int → Value) {thread : Thread} (launched : args.Launched thread)
    (stores : args.Stores thread) :
    (List.range args.batchSize.toNat).foldl (fun acc b =>
        acc + gradU (args.gradUIndex thread (BitVec.ofNat 32 b)).toInt *
          x (args.xIndex thread (BitVec.ofNat 32 b)).toInt) 0 =
      accumulate args.unbounded (fun index => x index) (fun index => gradU index)
        thread.blockY (column thread) := by
  refine List.foldl_ext _ _ _ fun acc b member => ?_
  have inBatch := List.mem_range.mp member
  rw [exact.gradU thread launched stores b inBatch, exact.x thread launched stores b inBatch,
    toInt_eq_toNat accepted.featuresPositive, toInt_eq_toNat accepted.rankPositive]
  push_cast [unbounded]
  rfl

/-- With exact indices every load and the store hit the intended element. -/
theorem kernel32_eq (accepted : args.Accepted) (exact : args.IndicesExact)
    (x gradU : Int → Value) {thread : Thread} (launched : args.Launched thread) :
    args.kernel32 x gradU thread =
      (kernel args.unbounded (fun index => x index) (fun index => gradU index) thread).map
        fun store => ((store.1 : Int), store.2) := by
  rw [kernel_unbounded accepted launched (exact.col thread launched)]
  by_cases stores : args.Stores thread
  · have address := exact.gradA thread launched stores
    have summed := accumulate32_eq accepted exact x gradU launched stores
    rw [kernel32, if_pos stores, if_pos stores, address, summed,
      toInt_eq_toNat accepted.featuresPositive]
    rfl
  · rw [kernel32, if_neg stores, if_neg stores]
    rfl

end Launcher

end IntLaunch

/-- For every accepted launch, all index arithmetic is exact exactly when its largest
values are below `2 ^ 31`; then the kernel loads and stores what the kernel over
unbounded indices does. -/
theorem indices_exact_iff {Temp Value : Type*} [LinearOrder Temp] [Semiring Value]
    (args : IntLaunch Temp) (accepted : args.Accepted) :
    (args.IndicesExact ↔
      args.inFeatures.toInt + 255 < 2 ^ 31 ∧
        ∀ row : ℕ, row < args.rank.toInt → ¬ args.Frozen row →
          (args.batchSize.toInt - 1) * args.rank.toInt + row < 2 ^ 31 ∧
            args.batchSize.toInt * args.inFeatures.toInt ≤ 2 ^ 31 ∧
            (row + 1) * args.inFeatures.toInt ≤ 2 ^ 31) ∧
      (args.IndicesExact → ∀ (x gradU : Int → Value) (thread : Thread), args.Launched thread →
        args.kernel32 x gradU thread =
          (kernel args.unbounded (fun index => x index) (fun index => gradU index) thread).map
            fun store => ((store.1 : Int), store.2)) := by
  refine ⟨(IntLaunch.exact_iff_fits accepted).trans ?_, ?_⟩
  · exact ⟨fun fits => ⟨fits.gridX, fits.rows⟩, fun both => ⟨both.1, both.2⟩⟩
  · intro exact x gradU thread launched
    exact IntLaunch.kernel32_eq accepted exact x gradU launched

def validatedLaunch : IntLaunch ℤ := ⟨4, 16, 8, 25, 75, 5⟩

def largeBatch : IntLaunch ℤ := ⟨131072, 32768, 8, 25, 75, 5⟩

theorem accepted_largeBatch : largeBatch.Accepted :=
  ⟨by decide, by decide, by decide, by decide⟩

theorem indices_exact_iff_validated : validatedLaunch.IndicesExact := by
  refine (@indices_exact_iff ℤ ℤ _ _ validatedLaunch
    ⟨by decide, by decide, by decide, by decide⟩).1.mpr ⟨by decide, fun row below _ => ?_⟩
  have batch : validatedLaunch.batchSize.toInt = 4 := by decide
  have features : validatedLaunch.inFeatures.toInt = 16 := by decide
  have ranks : validatedLaunch.rank.toInt = 8 := by decide
  rw [ranks] at below
  rw [batch, features, ranks]
  omega

theorem largeBatch_overflows : ¬ largeBatch.IndicesExact := by
  intro exact
  have fits := (IntLaunch.exact_iff_fits accepted_largeBatch).mp exact
  have bounded := (fits.rows 0 (by decide) (by decide)).2.1
  revert bounded
  decide

end Msp.Cuda.GradientKernel
