import Msp.Library.ParallelWrites
import Msp.Python.GradientGate
import Mathlib.Data.Matrix.Mul
import Mathlib.Data.List.ProdSigma
import Mathlib.Algebra.BigOperators.Fin

/-!
# The thermal-gated gradient kernel

`src/cuda/fused_msp_backward_kernel.cu`, with the matrices as flat buffers over
a semiring and indices without a width.  `x` and `grad_u` are only read and no
buffer aliases another (`__restrict__`), so what a thread does is its one
store, and the threads of a launch run in any order.

Rounding of `float`, the launch's error codes and how CUDA schedules blocks are
not here.
-/

set_option autoImplicit false

namespace Msp.Cuda.GradientKernel

open Msp.Library.ParallelWrites Msp.Python.GradientGate
open scoped Matrix

/-- What of `blockIdx` and `threadIdx` is not zero in every thread. -/
structure Thread where
  blockX : Nat
  blockY : Nat
  threadX : Nat
  deriving DecidableEq

def threadsPerBlock : Nat := 256

structure Launch (Temp : Type*) where
  batchSize : Nat
  inFeatures : Nat
  rank : Nat
  currentTempC : Temp
  criticalTempC : Temp
  freezeStride : Int

section Kernel
variable {Temp Value : Type*} [LinearOrder Temp] [Semiring Value]

/-- The serial loop over the batch. -/
def accumulate (launch : Launch Temp) (x gradU : Nat → Value) (row col : Nat) : Value :=
  (List.range launch.batchSize).foldl
    (fun acc b => acc + gradU (b * launch.rank + row) * x (b * launch.inFeatures + col)) 0

/-- `msp_gradient_A_thermal_gated_kernel`: the store the thread makes into
`grad_A`, if it does not return before it. -/
def kernel (launch : Launch Temp) (x gradU : Nat → Value) (thread : Thread) :
    Option (Nat × Value) :=
  let row := thread.blockY
  let col := thread.blockX * threadsPerBlock + thread.threadX
  if row ≥ launch.rank ∨ col ≥ launch.inFeatures then none
  else
    let throttling := launch.currentTempC > launch.criticalTempC
    if throttling ∧ (launch.freezeStride ≤ 0 ∨ Int.tmod row launch.freezeStride ≠ 0) then none
    else some (row * launch.inFeatures + col, accumulate launch x gradU row col)

/-- `dim3 grid((in_features + threads_per_block - 1) / threads_per_block, rank, 1)`
of blocks of `threads_per_block`. -/
def grid {Temp : Type*} (launch : Launch Temp) : List Thread :=
  ((List.range ((launch.inFeatures + threadsPerBlock - 1) / threadsPerBlock)).product
    ((List.range launch.rank).product (List.range threadsPerBlock))).map
      fun (blockX, blockY, threadX) => ⟨blockX, blockY, threadX⟩

/-- `msp_launch_gradient_A_kernel`, when its threads run in the order of
`schedule`: `grad_A` afterwards. -/
def launchKernel (launch : Launch Temp) (x gradU : Nat → Value) (schedule : List Thread)
    (gradA : Nat → Value) : Nat → Value :=
  performAll (kernel launch x gradU) schedule gradA

def view (rows cols : Nat) (buffer : Nat → Value) : Matrix (Fin rows) (Fin cols) Value :=
  fun row col => buffer (row * cols + col)

def Active (launch : Launch Temp) (row : Nat) : Prop :=
  launch.currentTempC ≤ launch.criticalTempC ∨ (row : Int) % launch.freezeStride = 0

instance (launch : Launch Temp) (row : Nat) : Decidable (Active launch row) :=
  inferInstanceAs (Decidable (_ ∨ _))

variable {launch : Launch Temp} {x gradU : Nat → Value}

omit [LinearOrder Temp] [Semiring Value] in
theorem mem_grid {thread : Thread} :
    thread ∈ grid launch ↔
      thread.blockX < (launch.inFeatures + threadsPerBlock - 1) / threadsPerBlock ∧
        thread.blockY < launch.rank ∧ thread.threadX < threadsPerBlock := by
  obtain ⟨blockX, blockY, threadX⟩ := thread
  simp [grid]

omit [LinearOrder Temp] in
theorem nodup_grid (launch : Launch Temp) : (grid launch).Nodup := by
  refine List.Nodup.map ?_ (List.nodup_range.product (List.nodup_range.product List.nodup_range))
  rintro ⟨_, _, _⟩ ⟨_, _, _⟩ same
  simpa using same

def threadFor (row col : Nat) : Thread :=
  ⟨col / threadsPerBlock, row, col % threadsPerBlock⟩

omit [LinearOrder Temp] in
/-- The ceiling division leaves no column without a thread. -/
theorem threadFor_mem_grid {row col : Nat} (rowBelow : row < launch.rank)
    (colBelow : col < launch.inFeatures) : threadFor row col ∈ grid launch := by
  rw [mem_grid]
  simp only [threadFor, threadsPerBlock]
  omega

theorem flat_inj {cols row col row' col' : Nat} (below : col < cols) (below' : col' < cols)
    (same : row * cols + col = row' * cols + col') : row = row' ∧ col = col' := by
  have positive : 0 < cols := Nat.zero_lt_of_lt below
  have rows : row = row' := by
    have quotients := congrArg (· / cols) same
    simpa [Nat.mul_comm _ cols, Nat.mul_add_div positive, Nat.div_eq_of_lt below,
      Nat.div_eq_of_lt below'] using quotients
  subst rows
  exact ⟨rfl, Nat.add_left_cancel same⟩

theorem flat_lt {rows cols row col : Nat} (rowBelow : row < rows) (colBelow : col < cols) :
    row * cols + col < rows * cols :=
  calc row * cols + col < row * cols + cols := Nat.add_lt_add_left colBelow _
    _ = (row + 1) * cols := (Nat.succ_mul row cols).symm
    _ ≤ rows * cols := Nat.mul_le_mul_right cols rowBelow

omit [LinearOrder Temp] in
theorem accumulate_eq (row : Fin launch.rank) (col : Fin launch.inFeatures) :
    accumulate launch x gradU row col =
      ((view launch.batchSize launch.rank gradU)ᵀ *
        view launch.batchSize launch.inFeatures x) row col := by
  have serial : ∀ (term : Nat → Value) (count : Nat),
      (List.range count).foldl (fun acc b => acc + term b) 0 =
        ∑ b ∈ Finset.range count, term b := by
    intro term count
    induction count with
    | zero => rfl
    | succ count ih => rw [List.range_succ, List.foldl_append, ih, Finset.sum_range_succ]; rfl
  rw [Matrix.mul_apply, accumulate, serial, ← Fin.sum_univ_eq_sum_range]
  rfl

theorem kernel_eq_some {thread : Thread} {address : Nat} {value : Value}
    (positive : 1 ≤ launch.freezeStride) :
    kernel launch x gradU thread = some (address, value) ↔
      thread.blockY < launch.rank ∧
        thread.blockX * threadsPerBlock + thread.threadX < launch.inFeatures ∧
        Active launch thread.blockY ∧
        address = thread.blockY * launch.inFeatures +
          (thread.blockX * threadsPerBlock + thread.threadX) ∧
        value = accumulate launch x gradU thread.blockY
          (thread.blockX * threadsPerBlock + thread.threadX) := by
  have remainder : Int.tmod thread.blockY launch.freezeStride =
      (thread.blockY : Int) % launch.freezeStride :=
    Int.tmod_eq_emod_of_nonneg (Int.natCast_nonneg _)
  have notNegative : ¬ launch.freezeStride ≤ 0 := by omega
  simp only [kernel, remainder, notNegative, false_or, Active]
  split
  · rename_i outside
    simp only [reduceCtorEq, false_iff]
    omega
  · rename_i inside
    split
    · rename_i frozen
      have notActive : ¬ (launch.currentTempC ≤ launch.criticalTempC ∨
          (thread.blockY : Int) % launch.freezeStride = 0) := by
        rintro (cool | multiple)
        · exact absurd frozen.1 (not_lt.mpr cool)
        · exact frozen.2 multiple
      constructor
      · intro returned
        cases returned
      · rintro ⟨-, -, active, -⟩
        exact absurd active notActive
    · rename_i active
      have isActive : launch.currentTempC ≤ launch.criticalTempC ∨
          (thread.blockY : Int) % launch.freezeStride = 0 := by
        by_contra frozen
        obtain ⟨hot, other⟩ := not_or.mp frozen
        exact active ⟨not_le.mp hot, other⟩
      simp only [Option.some.injEq, Prod.mk.injEq]
      constructor
      · rintro ⟨rfl, rfl⟩
        exact ⟨by omega, by omega, isActive, rfl, rfl⟩
      · rintro ⟨-, -, -, rfl, rfl⟩
        exact ⟨rfl, rfl⟩

theorem kernel_injective {first second : Thread} {address : Nat} {value other : Value}
    (positive : 1 ≤ launch.freezeStride) (inGrid : first ∈ grid launch)
    (inGrid' : second ∈ grid launch)
    (stores : kernel launch x gradU first = some (address, value))
    (stores' : kernel launch x gradU second = some (address, other)) : first = second := by
  obtain ⟨-, below, -, position, -⟩ := (kernel_eq_some positive).mp stores
  obtain ⟨-, below', -, position', -⟩ := (kernel_eq_some positive).mp stores'
  obtain ⟨-, -, threadBelow⟩ := mem_grid.mp inGrid
  obtain ⟨-, -, threadBelow'⟩ := mem_grid.mp inGrid'
  obtain ⟨rows, columns⟩ := flat_inj below below' (position.symm.trans position')
  obtain ⟨blockX, blockY, threadX⟩ := first
  obtain ⟨blockX', blockY', threadX'⟩ := second
  simp only [threadsPerBlock] at rows columns threadBelow threadBelow'
  rw [Thread.mk.injEq]
  omega

theorem kernel_address_lt {thread : Thread} {address : Nat} {value : Value}
    (positive : 1 ≤ launch.freezeStride)
    (stores : kernel launch x gradU thread = some (address, value)) :
    address < launch.rank * launch.inFeatures := by
  obtain ⟨rowBelow, colBelow, -, rfl, -⟩ := (kernel_eq_some positive).mp stores
  exact flat_lt rowBelow colBelow

theorem pairwise_apart_of_schedule {schedule : List Thread} (positive : 1 ≤ launch.freezeStride)
    (anyOrder : schedule.Perm (grid launch)) :
    schedule.Pairwise (Apart (kernel launch x gradU)) := by
  refine pairwise_apart_of_perm (nodup_grid launch) ?_ anyOrder
  intro first inGrid second inGrid' different address value other stores stores'
  exact different (kernel_injective positive inGrid inGrid' stores stores')

theorem launchKernel_of_active {schedule : List Thread} {gradA : Nat → Value}
    (positive : 1 ≤ launch.freezeStride) (anyOrder : schedule.Perm (grid launch))
    (row : Fin launch.rank) (col : Fin launch.inFeatures) (active : Active launch row) :
    launchKernel launch x gradU schedule gradA (row * launch.inFeatures + col) =
      accumulate launch x gradU row col := by
  have own : col / threadsPerBlock * threadsPerBlock + col % threadsPerBlock = (col : Nat) :=
    Nat.div_add_mod' _ _
  have stores : kernel launch x gradU (threadFor row col) =
      some (row * launch.inFeatures + col, accumulate launch x gradU row col) := by
    rw [kernel_eq_some positive]
    simp only [threadFor, own]
    exact ⟨row.isLt, col.isLt, active, trivial, trivial⟩
  exact performAll_of_written schedule gradA (pairwise_apart_of_schedule positive anyOrder)
    (anyOrder.mem_iff.mpr (threadFor_mem_grid row.isLt col.isLt)) stores

theorem launchKernel_of_frozen {schedule : List Thread} {gradA : Nat → Value}
    (positive : 1 ≤ launch.freezeStride) (row : Fin launch.rank) (col : Fin launch.inFeatures)
    (frozen : ¬ Active launch row) :
    launchKernel launch x gradU schedule gradA (row * launch.inFeatures + col) =
      gradA (row * launch.inFeatures + col) := by
  refine performAll_of_untouched schedule gradA fun thread _ value stores => ?_
  obtain ⟨-, below, active, position, -⟩ := (kernel_eq_some positive).mp stores
  obtain ⟨rows, -⟩ := flat_inj col.isLt below position
  exact frozen (rows ▸ active)

theorem view_launchKernel {schedule : List Thread} {gradA : Nat → Value}
    (positive : 1 ≤ launch.freezeStride) (anyOrder : schedule.Perm (grid launch))
    (row : Fin launch.rank) (col : Fin launch.inFeatures) :
    view launch.rank launch.inFeatures (launchKernel launch x gradU schedule gradA) row col =
      if Active launch row then
        ((view launch.batchSize launch.rank gradU)ᵀ *
          view launch.batchSize launch.inFeatures x) row col
      else view launch.rank launch.inFeatures gradA row col := by
  by_cases active : Active launch row
  · rw [if_pos active, ← accumulate_eq]
    exact launchKernel_of_active positive anyOrder row col active
  · rw [if_neg active]
    exact launchKernel_of_frozen positive row col active

theorem active_iff {monitor : ThermalMonitor Temp} {row : Nat} (below : row < launch.rank)
    (sameStride : launch.freezeStride = stride monitor)
    (sameThreshold : launch.criticalTempC = monitor.freezeThresholdC) :
    Active launch row ↔
      isThrottling monitor launch.currentTempC = true →
        mask launch.rank (stride monitor) row = true := by
  rw [mask_iff (stride_pos monitor) below, isThrottling, decide_eq_true_eq, ← sameThreshold,
    Active, sameStride, ← not_lt, ← imp_iff_not_or]
  norm_cast

/-- The kernel and the hooks agree: whatever the order of the threads, `grad_A`
ends with the rows of `grad_uᵀ x` that the gate lets through and keeps
everything else; no two threads store to one place; and into a zeroed `grad_A`
the launch puts what the hook makes of the gradient. -/
theorem launchKernel_refines_hook (launch : Launch Temp) (x gradU gradA : Nat → Value)
    (schedule : List Thread) (positive : 1 ≤ launch.freezeStride)
    (anyOrder : schedule.Perm (grid launch)) :
    (∀ (row : Fin launch.rank) (col : Fin launch.inFeatures),
      view launch.rank launch.inFeatures (launchKernel launch x gradU schedule gradA) row col =
        if launch.currentTempC ≤ launch.criticalTempC ∨ (row : Int) % launch.freezeStride = 0 then
          ((view launch.batchSize launch.rank gradU)ᵀ *
            view launch.batchSize launch.inFeatures x) row col
        else view launch.rank launch.inFeatures gradA row col) ∧
    (∀ address, launch.rank * launch.inFeatures ≤ address →
      launchKernel launch x gradU schedule gradA address = gradA address) ∧
    (∀ thread address value, kernel launch x gradU thread = some (address, value) →
      address < launch.rank * launch.inFeatures) ∧
    (∀ first ∈ grid launch, ∀ second ∈ grid launch, ∀ address value other,
      kernel launch x gradU first = some (address, value) →
        kernel launch x gradU second = some (address, other) → first = second) ∧
    (∀ monitor : ThermalMonitor Temp, view launch.rank launch.inFeatures gradA = 0 →
      launch.freezeStride = stride monitor → launch.criticalTempC = monitor.freezeThresholdC →
        view launch.rank launch.inFeatures (launchKernel launch x gradU schedule gradA) =
          hook monitor launch.currentTempC
            ((view launch.batchSize launch.rank gradU)ᵀ *
              view launch.batchSize launch.inFeatures x)) := by
  refine ⟨view_launchKernel positive anyOrder, ?_, ?_, ?_, ?_⟩
  · intro address outside
    refine performAll_of_untouched schedule gradA fun thread _ value stores => ?_
    exact absurd (kernel_address_lt positive stores) (not_lt.mpr outside)
  · intro thread address value stores
    exact kernel_address_lt positive stores
  · intro first inGrid second inGrid' address value other stores stores'
    exact kernel_injective positive inGrid inGrid' stores stores'
  · intro monitor zeroed sameStride sameThreshold
    ext row col
    rw [view_launchKernel positive anyOrder, zeroed, hook]
    have gate := active_iff row.isLt sameStride sameThreshold
    by_cases throttling : isThrottling monitor launch.currentTempC = true
    · by_cases kept : mask launch.rank (stride monitor) row = true
      · simp [gate, throttling, kept]
      · simp [gate, throttling, kept]
    · simp [gate, throttling]

end Kernel

def hotLaunch : Launch Int := ⟨2, 3, 2, 80, 75, 2⟩

def halfMonitor : ThermalMonitor Int := ⟨75, 1 / 2, by norm_num, by norm_num⟩

theorem stride_halfMonitor : stride halfMonitor = 2 := by
  decide +kernel

theorem launchKernel_refines_hook_hotLaunch :
    view 2 3 (launchKernel hotLaunch (fun n : Nat => (n : Int)) (fun n : Nat => (n : Int) + 1)
      (grid hotLaunch).reverse fun _ => 0) =
        hook halfMonitor 80
          ((view 2 2 fun n : Nat => (n : Int) + 1)ᵀ * view 2 3 fun n : Nat => (n : Int)) :=
  (launchKernel_refines_hook hotLaunch _ _ _ _ (by decide) (grid hotLaunch).reverse_perm).2.2.2.2
    halfMonitor rfl (by rw [stride_halfMonitor]; rfl) rfl

end Msp.Cuda.GradientKernel
