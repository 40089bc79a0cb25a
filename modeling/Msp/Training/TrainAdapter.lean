import Msp.Python.GradientThrottle
import Msp.Python.PersistenceScale
import Msp.Training.AdapterObjects

/-!
# `train_adapter`

The training loop (`examples/e2e_training.py`) over the objects of a model.  What
`torch` draws, differentiates and optimises with is a parameter, and so is what a
monitor reads, each reading leaving the world it was taken in changed; any of
these may raise, `backward()` between two parameters and `optimizer.step()` with
some of the numbers moved.  The hooks run inside `backward()`, so an exception of
a reader leaves the loop from there.

A token is an index into the embedding, and `vocab_size` is the base's own.
-/

set_option autoImplicit false

namespace Msp.Training

open Msp.Library Msp.Python.PluginLayer Msp.Python.GradientGate Msp.Python.Persistence

section Train
variable {DType R : Type} [Field R] {torch : Torch DType R R} {base : Base DType R}
  {Temp : Type} [LinearOrder Temp] {World Generator Loss Optimizer Error : Type}

def shifted {vocabSize : ℕ} (shift : ℤ) (token : Fin vocabSize) : Fin vocabSize :=
  ⟨((token + shift) % vocabSize).toNat, by
    have positive : (0 : ℤ) < vocabSize := by exact_mod_cast token.pos
    have below := Int.emod_lt_of_pos (token + shift) positive
    have nonneg := Int.emod_nonneg (token + shift) positive.ne'
    omega⟩

/-- The layers that are plugged in, with their references: what `backward()` sees. -/
def Model.plugged (model : Model torch base Temp) (key : Key base.nLayers) :
    Option (ℕ × StructuralPluginLayer torch) :=
  (model.slots key).bind fun ref => (model.objects[ref]?).map fun object => (ref, object.layer)

abbrev Graded (torch : Torch DType R R) : Type :=
  Σ layer : StructuralPluginLayer torch, (pluginMatrix : PluginMatrix) →
    Option (Values layer pluginMatrix)

def LayerObject.graded (object : LayerObject torch base Temp) : Graded torch :=
  ⟨object.layer, object.grad⟩

/-- `optimizer.step()` raises, and some numbers have been moved by then. -/
structure StepFailure (Error : Type) where
  error : Error
  moved : ℕ → PluginMatrix → ℕ → ℕ → Bool

structure Trainer (torch : Torch DType R R) (base : Base DType R) (Temp World Generator Loss
    Optimizer Error β τ : Type) where
  functions : Functions R
  shift : ℤ
  steps : ℕ
  randint : Generator → Except Error (β → τ → Fin base.vocabSize) × Generator
  crossEntropy : Matrix (β × τ) (Fin base.vocabSize) R → (β → τ → Fin base.vocabSize) →
    Except Error Loss
  /-- The parameters that get a gradient, in the order in which their hooks are called. -/
  backwardOrder : (Key base.nLayers → Option (ℕ × StructuralPluginLayer torch)) →
    (β → τ → Fin base.vocabSize) → (β → τ → Fin base.vocabSize) → List (ℕ × PluginMatrix)
  gradient : (Key base.nLayers → Option (ℕ × StructuralPluginLayer torch)) →
    (β → τ → Fin base.vocabSize) → (β → τ → Fin base.vocabSize) →
      ℕ → (layer : StructuralPluginLayer torch) → (pluginMatrix : PluginMatrix) →
        Except Error (Values layer pluginMatrix)
  adam : List (ℕ × PluginMatrix) → Option Error
  initial : Optimizer
  update : Optimizer → R → R → R × Optimizer
  stepFails : (ℕ → PluginMatrix → ℕ → ℕ → Optimizer) → List (Graded torch) →
    Option (StepFailure Error)
  read : ThermalMonitor Temp → World → Except Error Temp × World

def runHooks (read : ThermalMonitor Temp → World → Except Error Temp × World) {rows cols : ℕ} :
    List (ℕ × ThermalMonitor Temp) → Matrix (Fin rows) (Fin cols) R → World →
      Except Error (Matrix (Fin rows) (Fin cols) R) × World
  | [], grad, world => (.ok grad, world)
  | (_, monitor) :: rest, grad, world =>
      match read monitor world with
      | (.error error, world) => (.error error, world)
      | (.ok temperatureC, world) => runHooks read rest (hook monitor temperatureC grad) world

namespace LayerObject

def accumulate (object : LayerObject torch base Temp) (pluginMatrix : PluginMatrix)
    (grad : Values object.layer pluginMatrix) : LayerObject torch base Temp :=
  { object with
    grad := Function.update object.grad pluginMatrix
      (some ((object.grad pluginMatrix).elim grad fun before => before + grad)) }

def zeroGrad (object : LayerObject torch base Temp) : LayerObject torch base Temp :=
  { object with grad := fun _ => none }

def optimize (update : Optimizer → R → R → R × Optimizer) (moved : PluginMatrix → ℕ → ℕ → Bool)
    (optimizer : PluginMatrix → ℕ → ℕ → Optimizer) (object : LayerObject torch base Temp) :
    LayerObject torch base Temp :=
  { object with
    layer := withValues object.layer fun pluginMatrix row col =>
      (object.grad pluginMatrix).elim (values object.layer pluginMatrix row col) fun grad =>
        if moved pluginMatrix row col then
          (update (optimizer pluginMatrix row col) (values object.layer pluginMatrix row col)
            (grad row col)).1
        else values object.layer pluginMatrix row col }

def optimizer (update : Optimizer → R → R → R × Optimizer)
    (before : PluginMatrix → ℕ → ℕ → Optimizer) (object : LayerObject torch base Temp)
    (pluginMatrix : PluginMatrix) (row col : ℕ) : Optimizer :=
  (object.grad pluginMatrix).elim (before pluginMatrix row col) fun grad =>
    if inside : row < rows object.layer pluginMatrix ∧ col < cols object.layer pluginMatrix then
      (update (before pluginMatrix row col)
        (values object.layer pluginMatrix ⟨row, inside.1⟩ ⟨col, inside.2⟩)
          (grad ⟨row, inside.1⟩ ⟨col, inside.2⟩)).2
    else before pluginMatrix row col

end LayerObject

/-- `for layer in adapter_layers.values()`; a dictionary lists no object twice. -/
def Model.onLayers (model : Model torch base Temp) (layers : Layers base)
    (change : ℕ → LayerObject torch base Temp → LayerObject torch base Temp) :
    Model torch base Temp :=
  { model with
    objects := model.objects.mapIdx fun ref object =>
      if ref ∈ layers.values then change ref object else object }

structure TrainState (torch : Torch DType R R) (base : Base DType R) (Temp World Generator Loss
    Optimizer : Type) where
  model : Model torch base Temp
  optimizer : ℕ → PluginMatrix → ℕ → ℕ → Optimizer
  generator : Generator
  world : World
  losses : List Loss

variable {β τ : Type} [Fintype τ]
  (trainer : Trainer torch base Temp World Generator Loss Optimizer Error β τ)

/-- `loss.backward()`: the exception that leaves it, if any. -/
def backward (gradient : ℕ → (layer : StructuralPluginLayer torch) →
      (pluginMatrix : PluginMatrix) → Except Error (Values layer pluginMatrix))
    (read : ThermalMonitor Temp → World → Except Error Temp × World) :
    List (ℕ × PluginMatrix) → List (LayerObject torch base Temp) → World →
      Option Error × List (LayerObject torch base Temp) × World
  | [], objects, world => (none, objects, world)
  | (ref, pluginMatrix) :: rest, objects, world =>
      match objects[ref]? with
      | none => backward gradient read rest objects world
      | some object =>
          match gradient ref object.layer pluginMatrix with
          | .error error => (some error, objects, world)
          | .ok grad =>
              match runHooks read (object.gate.hooks pluginMatrix) grad world with
              | (.error error, world) => (some error, objects, world)
              | (.ok grad, world) =>
                  backward gradient read rest
                    (objects.set ref (object.accumulate pluginMatrix grad)) world

def targets (shift : ℤ) (tokens : β → τ → Fin base.vocabSize) : β → τ → Fin base.vocabSize :=
  fun sequence position => shifted shift (tokens sequence position)

def zeroAndBackward (layers : Layers base) (model : Model torch base Temp) (world : World)
    (tokens : β → τ → Fin base.vocabSize) :
    Option Error × List (LayerObject torch base Temp) × World :=
  let zeroed := model.onLayers layers fun _ => LayerObject.zeroGrad
  let plugged := zeroed.plugged
  backward (trainer.gradient plugged tokens (targets trainer.shift tokens)) trainer.read
    (trainer.backwardOrder plugged tokens (targets trainer.shift tokens)) zeroed.objects world

def moveNumbers (layers : Layers base)
    (state : TrainState torch base Temp World Generator Loss Optimizer)
    (objects : List (LayerObject torch base Temp)) (moved : ℕ → PluginMatrix → ℕ → ℕ → Bool) :
    Model torch base Temp :=
  { state.model with objects := objects }.onLayers layers fun ref =>
    LayerObject.optimize trainer.update (moved ref) (state.optimizer ref)

/-- `optimizer.step()`, on objects with their gradients: the exception that leaves it, if any. -/
def optimizerStep (layers : Layers base)
    (state : TrainState torch base Temp World Generator Loss Optimizer)
    (objects : List (LayerObject torch base Temp)) :
    Option Error × TrainState torch base Temp World Generator Loss Optimizer :=
  match trainer.stepFails state.optimizer (objects.map LayerObject.graded) with
  | some failure =>
      (some failure.error,
        { state with model := moveNumbers trainer layers state objects failure.moved })
  | none =>
      (none,
        { state with
          model := moveNumbers trainer layers state objects fun _ _ _ _ => true
          optimizer := fun ref =>
            match objects[ref]? with
            | none => state.optimizer ref
            | some object =>
                if ref ∈ layers.values then object.optimizer trainer.update (state.optimizer ref)
                else state.optimizer ref })

def iteration (layers : Layers base)
    (state : TrainState torch base Temp World Generator Loss Optimizer) :
    Option Error × TrainState torch base Temp World Generator Loss Optimizer :=
  match trainer.randint state.generator with
  | (.error error, generator) => (some error, { state with generator := generator })
  | (.ok tokens, generator) =>
      let logits := state.model.forward trainer.functions tokens
      match trainer.crossEntropy logits (targets trainer.shift tokens) with
      | .error error => (some error, { state with generator := generator })
      | .ok loss =>
          match zeroAndBackward trainer layers state.model state.world tokens with
          | (some error, objects, world) =>
              (some error,
                { state with
                  model := { state.model with objects := objects }
                  generator := generator
                  world := world })
          | (none, objects, world) =>
              match optimizerStep trainer layers
                  { state with
                    generator := generator
                    world := world } objects with
              | (some error, stepped) => (some error, stepped)
              | (none, stepped) => (none, { stepped with losses := stepped.losses ++ [loss] })

def loop (layers : Layers base) : ℕ → TrainState torch base Temp World Generator Loss Optimizer →
    Option Error × TrainState torch base Temp World Generator Loss Optimizer
  | 0, state => (none, state)
  | steps + 1, state =>
      match iteration trainer layers state with
      | (some error, state) => (some error, state)
      | (none, state) => loop layers steps state

structure Trained (torch : Torch DType R R) (base : Base DType R) (Temp World Generator Loss
    Error : Type) where
  result : Except Error (List Loss)
  model : Model torch base Temp
  generator : Generator
  world : World

def parameters (layers : Layers base) : List (ℕ × PluginMatrix) :=
  layers.values.flatMap fun ref => [(ref, .A), (ref, .B)]

def gateLayers (layers : Layers base) (monitor : Option (ThermalMonitor Temp))
    (model : Model torch base Temp) : Model torch base Temp :=
  match monitor with
  | none => model
  | some monitor => model.onLayers layers fun _ object =>
      { object with gate := object.gate.gateGradients monitor }

def clearLayers (layers : Layers base) (monitor : Option (ThermalMonitor Temp))
    (model : Model torch base Temp) : Model torch base Temp :=
  match monitor with
  | none => model
  | some _ => model.onLayers layers fun _ object =>
      { object with gate := object.gate.clearGradientGate }

def trainAdapter (layers : Layers base) (monitor : Option (ThermalMonitor Temp))
    (model : Model torch base Temp) (generator : Generator) (world : World) :
    Trained torch base Temp World Generator Loss Error :=
  let gated := gateLayers layers monitor model
  match trainer.adam (parameters layers) with
  | some error => ⟨.error error, gated, generator, world⟩
  | none =>
      match loop trainer layers trainer.steps
          ⟨gated, fun _ _ _ _ => trainer.initial, generator, world, []⟩ with
      | (some error, state) =>
          ⟨.error error, clearLayers layers monitor state.model, state.generator, state.world⟩
      | (none, state) =>
          ⟨.ok state.losses, clearLayers layers monitor state.model, state.generator, state.world⟩

end Train

/-- The documented step of `torch.optim.Adam` with its default betas and epsilon, on one
number: the state is the number of steps and the two averages. -/
def adamUpdate (sqrt : ℚ → ℚ) (lr : ℚ) (state : ℕ × ℚ × ℚ) (value grad : ℚ) : ℚ × ℕ × ℚ × ℚ :=
  let step := state.1 + 1
  let expAvg := 9 / 10 * state.2.1 + 1 / 10 * grad
  let expAvgSq := 999 / 1000 * state.2.2 + 1 / 1000 * grad ^ 2
  let unbiased := expAvg / (1 - (9 / 10) ^ step)
  let unbiasedSq := expAvgSq / (1 - (999 / 1000) ^ step)
  (value - lr * unbiased / (sqrt unbiasedSq + 1 / 10 ^ 8), step, expAvg, expAvgSq)

def exactTorch : Torch Unit ℚ ℚ where
  trainable _ := true
  cast _ _ element := element
  cast_self _ _ := rfl
  zero := 0
  kaimingUniform _ _ _ _ := 1
  divide := divideFloat
  multiply := multiplyFloat

def zeroNorm : LayerNorm ℚ 1 := ⟨0, 0, 1⟩

def zeroBase : Base Unit ℚ where
  config := ⟨1, 1, 1, 1, rfl⟩
  dtype := ()
  vocabSize := 2
  nLayers := 1
  embed := fun _ _ => 0
  blocks := fun _ => ⟨zeroNorm, ⟨0, none⟩, ⟨0, none⟩, ⟨0, none⟩, zeroNorm, fun _ => ⟨0, none⟩⟩
  head := ⟨0, none⟩

def fc1Key : Key 1 := ⟨0, .fc1⟩

def rankTwo : LayerObject exactTorch zeroBase ℤ where
  key := fc1Key
  layer := ⟨⟨1, 1, ()⟩, 2, Nat.zero_lt_two, (), rfl, fun row _ => (row.val : ℚ) + 2, fun _ _ => 0, 1, true⟩
  wraps := rfl
  gate := LayerGate.fresh
  grad := fun _ => none

def onFc1 : Layers zeroBase := ⟨[(fc1Key, 0)], List.nodup_singleton _⟩

def rankTwoModel : Model exactTorch zeroBase ℤ :=
  ⟨[rankTwo], fun key => if key.name = .fc1 then some 0 else none⟩

/-- Gradients of one everywhere; on the numbers that come up, the functions are `exp`,
`sqrt` and GELU. -/
def constantTrainer (temperatureC : ℤ) :
    Trainer exactTorch zeroBase ℤ ℕ Unit Unit (ℕ × ℚ × ℚ) Unit (Fin 1) (Fin 1) where
  functions := ⟨fun _ => 1, fun _ => 1, fun _ => 0⟩
  shift := 1
  steps := 3
  randint _ := (.ok fun _ _ => ⟨0, Nat.zero_lt_two⟩, ())
  crossEntropy _ _ := .ok ()
  backwardOrder _ _ _ := [(0, .B), (0, .A)]
  gradient _ _ _ _ _ _ := .ok fun _ _ => 1
  adam _ := none
  initial := (0, 0, 0)
  update := adamUpdate id (1 / 100)
  stepFails _ _ := none
  read _ calls := (.ok temperatureC, calls + 1)

end Msp.Training
