import Msp.Library.Streams

/-!
# `forward_async` on a stream of its own

`StructuralPluginLayer.forward` and `_forward_sync`
(`src/python/msp/plugin_layer.py`).  Tensors are opaque and what `torch` computes
from them is a parameter.  On CUDA every operation of `forward` is one kernel on
the new stream; a view (`.t()`) and a conversion to the dtype a tensor has launch
none.  The caller's stream still holds operations on the memory that `forward`
reads; the tensors `forward` makes are new.

Autograd, the allocator and the executor's thread are not here.
-/

set_option autoImplicit false

namespace Msp.Python.ForwardStream

open Msp.Library Msp.Library.Streams

structure Torch (DType Tensor Scalar : Type) where
  linear : Tensor → Tensor → Option Tensor → Tensor
  toDtype : DType → Tensor → Tensor
  t : Tensor → Tensor
  matmul : Tensor → Tensor → Tensor
  mul : Tensor → Scalar → Tensor
  add : Tensor → Tensor → Tensor

structure Layer (DType Scalar : Type) where
  hasBias : Bool
  adapterDtype : DType
  scaling : Scalar
  routingGateEnabled : Bool

structure Tensors (Tensor Rest : Type) where
  x : Tensor
  weight : Tensor
  bias : Tensor
  pluginMatrixA : Tensor
  pluginMatrixB : Tensor
  rest : Rest

inductive Name where
  | baseOut
  | pluginIn
  | hidden
  | product
  | adapterOut
  | converted
  | sum
  deriving DecidableEq, Repr

inductive Device where
  | cuda
  | other
  deriving DecidableEq, Repr

inductive Stream where
  | caller
  | own
  deriving DecidableEq, Repr

section Forward
variable {DType Tensor Scalar Rest : Type} [DecidableEq DType]
  (torch : Torch DType Tensor Scalar) (layer : Layer DType Scalar) (inputDtype : DType)

def converted (source target : DType) (tensor : Tensor) : Tensor :=
  if source = target then tensor else torch.toDtype target tensor

def baseLayer (x weight bias : Tensor) : Tensor :=
  torch.linear x weight (if layer.hasBias then some bias else none)

/-- `forward` on values; `base_out` has the dtype of `x`. -/
def forward (tensors : Tensors Tensor Rest) : Tensor :=
  let baseOut := baseLayer torch layer tensors.x tensors.weight tensors.bias
  if layer.routingGateEnabled then
    let pluginIn := converted torch inputDtype layer.adapterDtype tensors.x
    let adapterOut := torch.mul
      (torch.matmul (torch.matmul pluginIn (torch.t tensors.pluginMatrixA))
        (torch.t tensors.pluginMatrixB)) layer.scaling
    torch.add baseOut (converted torch layer.adapterDtype inputDtype adapterOut)
  else baseOut

abbrev Kernel (Tensor Rest : Type) := Tensors Tensor Rest → (Name → Tensor) → Name → Tensor

def assign (name : Name) (compute : Tensors Tensor Rest → (Name → Tensor) → Tensor) :
    Kernel Tensor Rest :=
  fun tensors own => Function.update own name (compute tensors own)

def forwardKernels : List (Kernel Tensor Rest) :=
  let base := assign .baseOut fun tensors _ =>
    baseLayer torch layer tensors.x tensors.weight tensors.bias
  if layer.routingGateEnabled then
    if inputDtype = layer.adapterDtype then
      [base,
        assign .hidden fun tensors _ => torch.matmul tensors.x (torch.t tensors.pluginMatrixA),
        assign .product fun tensors own =>
          torch.matmul (own .hidden) (torch.t tensors.pluginMatrixB),
        assign .adapterOut fun _ own => torch.mul (own .product) layer.scaling,
        assign .sum fun _ own => torch.add (own .baseOut) (own .adapterOut)]
    else
      [base,
        assign .pluginIn fun tensors _ => torch.toDtype layer.adapterDtype tensors.x,
        assign .hidden fun tensors own =>
          torch.matmul (own .pluginIn) (torch.t tensors.pluginMatrixA),
        assign .product fun tensors own =>
          torch.matmul (own .hidden) (torch.t tensors.pluginMatrixB),
        assign .adapterOut fun _ own => torch.mul (own .product) layer.scaling,
        assign .converted fun _ own => torch.toDtype inputDtype (own .adapterOut),
        assign .sum fun _ own => torch.add (own .baseOut) (own .converted)]
  else [base]

def returned : Name := if layer.routingGateEnabled then .sum else .baseOut

/-- `_forward_sync`: on CUDA the kernels go to a new stream, which the host waits for. -/
def forwardSync (device : Device) :
    List (Instruction Stream (Tensors Tensor Rest × (Name → Tensor))) :=
  match device with
  | .cuda => launchAll .own (forwardKernels torch layer inputDtype)
  | .other => (forwardKernels torch layer inputDtype).map fun kernel => .perform (onLocal kernel)

/-- The call on CUDA: the new stream is empty, the caller's is not. -/
def called (pending : List (Tensors Tensor Rest → Tensors Tensor Rest))
    (tensors : Tensors Tensor Rest) (uninitialized : Name → Tensor) :
    System Stream (Tensors Tensor Rest × (Name → Tensor)) where
  program := forwardSync torch layer inputDtype .cuda
  queue
    | .caller => pending.map onShared
    | .own => []
  memory := (tensors, uninitialized)

/-- The call comes to its end, and what it returns is `forward` of the values that
the caller's stream leads to. -/
def ComputesForward (pending : List (Tensors Tensor Rest → Tensors Tensor Rest))
    (tensors : Tensors Tensor Rest) : Prop :=
  ∀ uninitialized events reached,
    Machine.run step events (called torch layer inputDtype pending tensors uninitialized) =
        some reached →
      (∃ more final, Machine.run step more reached = some final ∧ final.program = []) ∧
        (reached.program = [] → reached.memory.2 (returned layer) =
          forward torch layer inputDtype (after pending tensors pending.length))

structure SameReadings (first second : Tensors Tensor Rest) : Prop where
  x : first.x = second.x
  weight : first.weight = second.weight
  bias : layer.hasBias = true → first.bias = second.bias
  pluginMatrixA : layer.routingGateEnabled = true → first.pluginMatrixA = second.pluginMatrixA
  pluginMatrixB : layer.routingGateEnabled = true → first.pluginMatrixB = second.pluginMatrixB

/-! ## Readings at different moments -/

/-- `forward` when the base layer reads one memory, the conversion of `x` another, and
the two products two more. -/
def forwardAcross (base input productA productB : Tensors Tensor Rest) : Tensor :=
  let baseOut := baseLayer torch layer base.x base.weight base.bias
  if layer.routingGateEnabled then
    let pluginIn :=
      if inputDtype = layer.adapterDtype then productA.x
      else torch.toDtype layer.adapterDtype input.x
    let adapterOut := torch.mul
      (torch.matmul (torch.matmul pluginIn (torch.t productA.pluginMatrixA))
        (torch.t productB.pluginMatrixB)) layer.scaling
    torch.add baseOut (converted torch layer.adapterDtype inputDtype adapterOut)
  else baseOut

theorem forwardAcross_same (tensors : Tensors Tensor Rest) :
    forwardAcross torch layer inputDtype tensors tensors tensors tensors =
      forward torch layer inputDtype tensors := rfl

variable {torch layer inputDtype}

section Readings
variable (memories : ℕ → Tensors Tensor Rest)
  {pending : List (Tensors Tensor Rest → Tensors Tensor Rest)}

theorem readings_of_schedule {moments : List ℕ}
    (schedule : IsSchedule (forwardKernels torch layer inputDtype) pending moments)
    (uninitialized : Name → Tensor) :
    ∃ base input productA productB, base ≤ input ∧ input ≤ productA ∧ productA ≤ productB ∧
      productB ≤ pending.length ∧
        readAt memories moments (forwardKernels torch layer inputDtype) uninitialized
            (returned layer) =
          forwardAcross torch layer inputDtype (memories base) (memories input)
            (memories productA) (memories productB) := by
  obtain ⟨each, ordered, inside⟩ := schedule
  unfold forwardKernels returned forwardAcross converted at *
  cases gate : layer.routingGateEnabled with
  | false =>
      simp only [gate] at each ⊢
      match moments, each with
      | [base], _ =>
          refine ⟨base, base, base, base, Nat.le_refl base, Nat.le_refl base, Nat.le_refl base,
            inside base List.mem_cons_self, ?_⟩
          simp [readAt, assign]
  | true =>
      simp only [gate] at each ⊢
      by_cases same : inputDtype = layer.adapterDtype
      · simp only [same] at each ⊢
        match moments, each with
        | [base, productA, productB, scaled, sum], _ =>
            simp only [List.pairwise_cons, List.mem_cons, forall_eq_or_imp] at ordered inside
            refine ⟨base, base, productA, productB, Nat.le_refl base, by omega, by omega, by omega,
              ?_⟩
            simp [readAt, assign]
      · simp only [same] at each ⊢
        match moments, each with
        | [base, input, productA, productB, scaled, turned, sum], _ =>
            simp only [List.pairwise_cons, List.mem_cons, forall_eq_or_imp] at ordered inside
            refine ⟨base, input, productA, productB, by omega, by omega, by omega, by omega, ?_⟩
            simp [readAt, assign, Ne.symm same]

variable (torch layer inputDtype) in
theorem schedule_of_readings {base input productA productB : ℕ} (first : base ≤ input)
    (second : input ≤ productA) (third : productA ≤ productB) (fits : productB ≤ pending.length)
    (uninitialized : Name → Tensor) :
    ∃ moments, IsSchedule (forwardKernels torch layer inputDtype) pending moments ∧
      readAt memories moments (forwardKernels torch layer inputDtype) uninitialized
          (returned layer) =
        forwardAcross torch layer inputDtype (memories base) (memories input)
          (memories productA) (memories productB) := by
  unfold forwardKernels returned forwardAcross converted
  cases gate : layer.routingGateEnabled with
  | false =>
      refine ⟨[base], ⟨rfl, List.pairwise_singleton _ _, ?_⟩, ?_⟩
      · simp only [List.mem_singleton, forall_eq]
        omega
      · simp [readAt, assign]
  | true =>
      by_cases same : inputDtype = layer.adapterDtype
      · have ordered : [base, productA, productB, productB, productB].Pairwise (· ≤ ·) := by
          simp
          omega
        have inside : ∀ moment ∈ [base, productA, productB, productB, productB],
            moment ≤ pending.length := by
          simp
          omega
        refine ⟨_, ⟨?_, ordered, inside⟩, ?_⟩
        · simp [same]
        · simp [readAt, assign, same]
      · have ordered : [base, input, productA, productB, productB, productB,
            productB].Pairwise (· ≤ ·) := by
          simp
          omega
        have inside : ∀ moment ∈ [base, input, productA, productB, productB, productB, productB],
            moment ≤ pending.length := by
          simp
          omega
        refine ⟨_, ⟨?_, ordered, inside⟩, ?_⟩
        · simp [same]
        · simp [readAt, assign, same, Ne.symm same]

end Readings

section Calls
variable {pending : List (Tensors Tensor Rest → Tensors Tensor Rest)}
  {tensors : Tensors Tensor Rest}

variable (torch layer inputDtype pending tensors) in
theorem standing_called (uninitialized : Name → Tensor) :
    Standing Stream.caller Stream.own [] (forwardKernels torch layer inputDtype) pending
      (called torch layer inputDtype pending tensors uninitialized) where
  program := Or.inl rfl
  onOwn := rfl
  onOther := rfl
  idle stream notOwn notCaller := by
    cases stream with
    | caller => exact absurd rfl notCaller
    | own => exact absurd rfl notOwn

theorem forwardSync_other {system final : System Stream (Tensors Tensor Rest × (Name → Tensor))}
    (program : system.program = forwardSync torch layer inputDtype .other)
    (idle : ∀ stream, system.queue stream = []) {events : List (Event Stream)}
    (ran : Machine.run step events system = some final) (finished : final.program = []) :
    final.memory.2 (returned layer) = forward torch layer inputDtype system.memory.1 := by
  have isMap : system.program =
      ((forwardKernels torch layer inputDtype).map onLocal).map .perform := by
    rw [program, List.map_map]
    rfl
  have performed := memory_of_performed events isMap idle ran finished
  have schedule : IsSchedule (forwardKernels torch layer inputDtype)
      ([] : List (Tensors Tensor Rest → Tensors Tensor Rest))
      (List.replicate (forwardKernels torch layer inputDtype : List (Kernel Tensor Rest)).length
        0) := by
    refine ⟨List.length_replicate, List.pairwise_replicate.mpr (Or.inr (Nat.le_refl 0)), ?_⟩
    intro moment member
    exact Nat.le_of_eq (List.eq_of_mem_replicate member)
  obtain ⟨base, input, productA, productB, _, _, _, _, read⟩ :=
    readings_of_schedule (fun _ => system.memory.1) schedule system.memory.2
  have folded := foldl_onLocal system.memory.1 (forwardKernels torch layer inputDtype)
    system.memory.2
  rw [performed]
  exact (congrFun (congrArg Prod.snd folded) (returned layer)).trans read

theorem computesForward_iff :
    ComputesForward torch layer inputDtype pending tensors ↔
      ∀ base input productA productB, base ≤ input → input ≤ productA → productA ≤ productB →
        productB ≤ pending.length →
          forwardAcross torch layer inputDtype (after pending tensors base)
              (after pending tensors input) (after pending tensors productA)
              (after pending tensors productB) =
            forward torch layer inputDtype (after pending tensors pending.length) := by
  have distinct : Stream.own ≠ Stream.caller := nofun
  constructor
  · intro computes base input productA productB first second third fits
    have uninitialized : Name → Tensor := fun _ => tensors.x
    obtain ⟨moments, schedule, read⟩ :=
      schedule_of_readings torch layer inputDtype (after pending tensors) first second
        third fits uninitialized
    have standing := standing_called torch layer inputDtype pending tensors uninitialized
    obtain ⟨events, final, ran, finished, isResult⟩ :=
      (exists_run_iff distinct standing).mpr (observes_iff.mpr ⟨moments, schedule, rfl⟩)
    have result := (computes uninitialized events final ran).2 finished
    rw [isResult] at result
    exact read.symm.trans result
  · intro agree uninitialized events reached ran
    have standing := standing_called torch layer inputDtype pending tensors uninitialized
    refine ⟨exists_finish distinct ⟨_, _, _, standing⟩ ran, fun finished => ?_⟩
    obtain ⟨moments, schedule, isResult⟩ :=
      observes_iff.mp (observes_of_run distinct events standing ran finished)
    obtain ⟨base, input, productA, productB, first, second, third, fits, read⟩ :=
      readings_of_schedule (after pending tensors) schedule uninitialized
    rw [← isResult]
    exact read.trans (agree base input productA productB first second third fits)

theorem exists_telling {first second : Tensor} (differ : first ≠ second) (x last : Tensor) :
    ∃ matmul : Tensor → Tensor → Tensor,
      matmul (matmul x first) last ≠ matmul (matmul x second) last := by
  classical
  obtain ⟨other, isOther⟩ : ∃ other, other ≠ x := by
    by_cases isFirst : first = x
    · exact ⟨second, fun isSecond => differ (isFirst.trans isSecond.symm)⟩
    · exact ⟨first, isFirst⟩
  by_cases atFirst : first = last
  · refine ⟨fun left right => if right = last then left else other, ?_⟩
    have atSecond : second ≠ last := fun same => differ (atFirst.trans same.symm)
    simp [atFirst, atSecond, isOther.symm]
  by_cases atSecond : second = last
  · refine ⟨fun left right => if right = last then left else other, ?_⟩
    simp [atFirst, atSecond, isOther]
  · refine ⟨fun left right => if right = last then left else right, ?_⟩
    simpa [atFirst, atSecond] using differ

/-- What `forward` reads from a memory it reads at the end of the queue is all that
matters. -/
theorem forwardAcross_eq {final base input productA productB : Tensors Tensor Rest}
    (atBase : SameReadings layer base final) (atInput : SameReadings layer input final)
    (atA : SameReadings layer productA final) (atB : SameReadings layer productB final) :
    forwardAcross torch layer inputDtype base input productA productB =
      forward torch layer inputDtype final := by
  have baseOut : baseLayer torch layer base.x base.weight base.bias =
      baseLayer torch layer final.x final.weight final.bias := by
    unfold baseLayer
    cases hasBias : layer.hasBias with
    | true => rw [atBase.x, atBase.weight, atBase.bias hasBias]
    | false => rw [atBase.x, atBase.weight]; rfl
  unfold forwardAcross forward converted
  cases gate : layer.routingGateEnabled with
  | false => exact baseOut
  | true =>
      simp only [baseOut, atInput.x, atA.x, atA.pluginMatrixA gate, atB.pluginMatrixB gate]

def Torch.ofLinear (linear : Tensor → Tensor → Option Tensor → Tensor) :
    Torch DType Tensor Scalar where
  linear := linear
  toDtype _ tensor := tensor
  t tensor := tensor
  matmul left _ := left
  mul tensor _ := tensor
  add baseOut _ := baseOut

def Torch.ofMatmul (matmul : Tensor → Tensor → Tensor) : Torch DType Tensor Scalar where
  linear x _ _ := x
  toDtype _ tensor := tensor
  t tensor := tensor
  matmul := matmul
  mul tensor _ := tensor
  add _ adapterOut := adapterOut

theorem forwardAcross_ofLinear (linear : Tensor → Tensor → Option Tensor → Tensor)
    (base input productA productB : Tensors Tensor Rest) :
    forwardAcross (Torch.ofLinear linear) layer inputDtype base input productA productB =
      linear base.x base.weight (if layer.hasBias then some base.bias else none) := by
  unfold forwardAcross
  split <;> rfl

theorem forwardAcross_ofMatmul (gate : layer.routingGateEnabled = true)
    (matmul : Tensor → Tensor → Tensor) (base input productA productB : Tensors Tensor Rest) :
    forwardAcross (Torch.ofMatmul matmul) layer inputDtype base input productA productB =
      matmul (matmul (if inputDtype = layer.adapterDtype then productA.x else input.x)
        productA.pluginMatrixA) productB.pluginMatrixB := by
  unfold forwardAcross converted
  rw [if_pos gate]
  simp [Torch.ofMatmul]

theorem sameReadings_of_computes
    (computes : ∀ torch : Torch DType Tensor Scalar,
      ComputesForward torch layer inputDtype pending tensors)
    {count : ℕ} (inside : count ≤ pending.length) :
    SameReadings layer (after pending tensors count)
      (after pending tensors pending.length) := by
  have linears : ∀ linear : Tensor → Tensor → Option Tensor → Tensor, _ := fun linear =>
    computesForward_iff.mp (computes (Torch.ofLinear linear)) count count count count
      (Nat.le_refl count) (Nat.le_refl count) (Nat.le_refl count) inside
  simp only [← forwardAcross_same, forwardAcross_ofLinear] at linears
  have sameX := linears fun x _ _ => x
  have sameWeight := linears fun _ weight _ => weight
  have sameBias : layer.hasBias = true →
      (after pending tensors count).bias = (after pending tensors pending.length).bias := by
    intro hasBias
    simpa [hasBias] using linears fun x _ bias => bias.getD x
  have products : layer.routingGateEnabled = true → ∀ matmul productB, count ≤ productB →
      productB ≤ pending.length → _ := fun gate matmul productB later fits =>
    computesForward_iff.mp (computes (Torch.ofMatmul matmul)) count count count productB
      (Nat.le_refl count) (Nat.le_refl count) later fits
  simp only [← forwardAcross_same] at products
  refine ⟨sameX, sameWeight, sameBias, fun gate => ?_, fun gate => ?_⟩
  · by_contra differ
    obtain ⟨matmul, tells⟩ := exists_telling differ
      (after pending tensors pending.length).x
      (after pending tensors pending.length).pluginMatrixB
    have equal := products gate matmul pending.length inside (Nat.le_refl _)
    rw [forwardAcross_ofMatmul gate, forwardAcross_ofMatmul gate, sameX] at equal
    simp only [ite_self] at equal
    exact tells equal
  · have equal := products gate (fun _ right => right) count (Nat.le_refl count) inside
    rw [forwardAcross_ofMatmul gate, forwardAcross_ofMatmul gate] at equal
    exact equal

theorem computesForward_all_iff :
    (∀ torch : Torch DType Tensor Scalar,
        ComputesForward torch layer inputDtype pending tensors) ↔
      ∀ count ≤ pending.length, SameReadings layer (after pending tensors count)
        (after pending tensors pending.length) := by
  constructor
  · exact fun computes count inside => sameReadings_of_computes computes inside
  · intro untouched torch
    refine computesForward_iff.mpr fun base input productA productB first second third fits => ?_
    exact forwardAcross_eq (untouched base (by omega)) (untouched input (by omega))
      (untouched productA (by omega)) (untouched productB fits)

end Calls

end Forward

/-- `_forward_sync` computes `forward` of the values that the caller's stream leads to
exactly when reading them at different points of that stream gives the same; whatever
torch's kernels compute, exactly when no pending operation touches what `forward` reads. -/
theorem forward_async_computes_forward_iff {DType Tensor Scalar Rest : Type} [DecidableEq DType]
    (layer : Layer DType Scalar) (inputDtype : DType)
    (pending : List (Tensors Tensor Rest → Tensors Tensor Rest))
    (tensors : Tensors Tensor Rest) :
    (∀ torch : Torch DType Tensor Scalar,
      (ComputesForward torch layer inputDtype pending tensors ↔
        ∀ base input productA productB, base ≤ input → input ≤ productA → productA ≤ productB →
          productB ≤ pending.length →
            forwardAcross torch layer inputDtype (after pending tensors base)
                (after pending tensors input) (after pending tensors productA)
                (after pending tensors productB) =
              forward torch layer inputDtype (after pending tensors pending.length))) ∧
    ((∀ torch : Torch DType Tensor Scalar,
        ComputesForward torch layer inputDtype pending tensors) ↔
      ∀ count ≤ pending.length, SameReadings layer (after pending tensors count)
        (after pending tensors pending.length)) :=
  ⟨fun _ => computesForward_iff, computesForward_all_iff⟩

def integers : Torch Unit Int Int where
  linear x weight bias := x * weight + bias.getD 0
  toDtype _ tensor := tensor
  t tensor := tensor
  matmul left right := left * right
  mul tensor scalar := tensor * scalar
  add left right := left + right

/-- The new stream is through before the caller's stream has written `x`. -/
theorem stale_input_read :
    let layer : Layer Unit Int := ⟨false, (), 2, true⟩
    let writeX : Tensors Int Unit → Tensors Int Unit := fun tensors => { tensors with x := 5 }
    ¬ ComputesForward integers layer () [writeX] ⟨1, 1, 0, 1, 1, ()⟩ := by
  intro layer writeX computes
  have result := (computes (fun _ => 0)
    (List.replicate 5 .host ++ List.replicate 5 (.execute .own) ++ [.host]) _ rfl).2 rfl
  exact absurd result (by decide)

end Msp.Python.ForwardStream
