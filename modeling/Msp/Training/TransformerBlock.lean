import Msp.Python.PluginForward
import Mathlib.Logic.Equiv.Fin.Basic
import Mathlib.Algebra.Field.Defs

/-!
# The model of the training example

`TinyTransformerBlock` and `forward` (`examples/e2e_training.py`) with exact
arithmetic over a field.  What `torch` and `math` compute on one number is a
parameter; a batch of sequences is a matrix with a row for each position, and
both index types are arbitrary.

A block calls whatever its attributes `out_proj`, `fc1` and `fc2` hold: the
`nn.Linear` it was built with, or a plugin layer that wraps this `nn.Linear`.
-/

set_option autoImplicit false

namespace Msp.Training

open Msp.Python.PluginLayer
open scoped Matrix

structure Config where
  dModel : ℕ
  nHeads : ℕ
  headDim : ℕ
  ffnDim : ℕ
  divides : nHeads * headDim = dModel

/-- `ADAPTED_SUBLAYERS`. -/
inductive Sublayer where
  | outProj
  | fc1
  | fc2
  deriving DecidableEq, Repr

def adaptedSublayers : List Sublayer := [.outProj, .fc1, .fc2]

/-- The shape of the `nn.Linear` that a block is built with there. -/
def Config.sublayer {DType : Type} (config : Config) (dtype : DType) : Sublayer → Linear DType
  | .outProj => ⟨config.dModel, config.dModel, dtype⟩
  | .fc1 => ⟨config.ffnDim, config.dModel, dtype⟩
  | .fc2 => ⟨config.dModel, config.ffnDim, dtype⟩

structure Functions (R : Type) where
  exp : R → R
  sqrt : R → R
  gelu : R → R

structure LayerNorm (R : Type) (size : ℕ) where
  weight : Fin size → R
  bias : Fin size → R
  eps : R

structure BlockParameters {DType : Type} (R : Type) (config : Config) (dtype : DType) where
  ln1 : LayerNorm R config.dModel
  qProj : Parameters R (⟨config.dModel, config.dModel, dtype⟩ : Linear DType)
  kProj : Parameters R (⟨config.dModel, config.dModel, dtype⟩ : Linear DType)
  vProj : Parameters R (⟨config.dModel, config.dModel, dtype⟩ : Linear DType)
  ln2 : LayerNorm R config.dModel
  sublayer : (name : Sublayer) → Parameters R (config.sublayer dtype name)

inductive Slot {DType Elem Scalar : Type} (torch : Torch DType Elem Scalar) (base : Linear DType)
    where
  | bare
  | plugged (layer : StructuralPluginLayer torch) (wraps : layer.base = base)

section Block
variable {DType R : Type} [Field R] {torch : Torch DType R R} (functions : Functions R)
  {config : Config} {dtype : DType} {ι κ : Type*}

def LayerNorm.forward {size : ℕ} (norm : LayerNorm R size) (x : Matrix ι (Fin size) R) :
    Matrix ι (Fin size) R :=
  fun row col =>
    let mean := (∑ other, x row other) / size
    let variance := (∑ other, (x row other - mean) ^ 2) / size
    (x row col - mean) / functions.sqrt (variance + norm.eps) * norm.weight col + norm.bias col

def softmax [Fintype κ] (scores : Matrix ι κ R) : Matrix ι κ R :=
  fun row col => functions.exp (scores row col) / ∑ other, functions.exp (scores row other)

def activation (x : Matrix ι κ R) : Matrix ι κ R := x.map functions.gelu

def Slot.forward : {base : Linear DType} → Slot torch base → Parameters R base →
    Matrix ι (Fin base.inFeatures) R → Matrix ι (Fin base.outFeatures) R
  | _, .bare, parameters, x => linear parameters x
  | _, .plugged layer rfl, parameters, x => layer.forward parameters x

abbrev Slots (torch : Torch DType R R) (config : Config) (dtype : DType) : Type :=
  (name : Sublayer) → Slot torch (config.sublayer dtype name)

/-- `view(batch, seq_len, n_heads, head_dim).transpose(1, 2)`: one head of one sequence. -/
def splitHead {β τ : Type*} (config : Config) (x : Matrix (β × τ) (Fin config.dModel) R)
    (sequence : β) (head : Fin config.nHeads) : Matrix τ (Fin config.headDim) R :=
  fun position col =>
    x (sequence, position) ((finProdFinEquiv (head, col)).cast config.divides)

/-- `transpose(1, 2).contiguous().view(batch, seq_len, d_model)`. -/
def joinHeads {β τ : Type*} (config : Config)
    (heads : β → Fin config.nHeads → Matrix τ (Fin config.headDim) R) :
    Matrix (β × τ) (Fin config.dModel) R :=
  fun row col =>
    let place := finProdFinEquiv.symm (col.cast config.divides.symm)
    heads row.1 place.1 row.2 place.2

namespace BlockParameters
variable {β τ : Type*} [Fintype τ]

def attend (config : Config) (q k v : Matrix τ (Fin config.headDim) R) :
    Matrix τ (Fin config.headDim) R :=
  let scores : Matrix τ τ R := (q * kᵀ).map (· / functions.sqrt config.headDim)
  softmax functions scores * v

/-- `attn_out`, from the three projections. -/
def attended (config : Config) (q k v : Matrix (β × τ) (Fin config.dModel) R) :
    Matrix (β × τ) (Fin config.dModel) R :=
  joinHeads config fun sequence head =>
    attend functions config (splitHead config q sequence head) (splitHead config k sequence head)
      (splitHead config v sequence head)

/-- `_self_attention`, where the attribute `out_proj` computes this. -/
def selfAttention (block : BlockParameters R config dtype)
    (outProj : Matrix (β × τ) (Fin config.dModel) R → Matrix (β × τ) (Fin config.dModel) R)
    (x : Matrix (β × τ) (Fin config.dModel) R) : Matrix (β × τ) (Fin config.dModel) R :=
  let q : Matrix (β × τ) (Fin config.dModel) R := linear block.qProj x
  let k : Matrix (β × τ) (Fin config.dModel) R := linear block.kProj x
  let v : Matrix (β × τ) (Fin config.dModel) R := linear block.vProj x
  outProj (attended functions config q k v)

/-- `forward`, where the three attributes compute these. -/
def forwardWith (block : BlockParameters R config dtype)
    (outProj : Matrix (β × τ) (Fin config.dModel) R → Matrix (β × τ) (Fin config.dModel) R)
    (fc1 : Matrix (β × τ) (Fin config.dModel) R → Matrix (β × τ) (Fin config.ffnDim) R)
    (fc2 : Matrix (β × τ) (Fin config.ffnDim) R → Matrix (β × τ) (Fin config.dModel) R)
    (x : Matrix (β × τ) (Fin config.dModel) R) : Matrix (β × τ) (Fin config.dModel) R :=
  let residual := x + selfAttention functions block outProj (block.ln1.forward functions x)
  let hidden := block.ln2.forward functions residual
  residual + fc2 (activation functions (fc1 hidden))

def forward (block : BlockParameters R config dtype) (slots : Slots torch config dtype) :
    Matrix (β × τ) (Fin config.dModel) R → Matrix (β × τ) (Fin config.dModel) R :=
  forwardWith functions block ((slots .outProj).forward (block.sublayer .outProj))
    ((slots .fc1).forward (block.sublayer .fc1)) ((slots .fc2).forward (block.sublayer .fc2))

end BlockParameters

end Block

structure Base (DType R : Type) where
  config : Config
  dtype : DType
  vocabSize : ℕ
  nLayers : ℕ
  embed : Fin vocabSize → Fin config.dModel → R
  blocks : Fin nLayers → BlockParameters R config dtype
  head : Parameters R (⟨vocabSize, config.dModel, dtype⟩ : Linear DType)

namespace Base
variable {DType R : Type} [Field R] {torch : Torch DType R R} {β τ : Type*} [Fintype τ]

def forward (functions : Functions R) (base : Base DType R)
    (slots : Fin base.nLayers → Slots torch base.config base.dtype)
    (tokens : β → τ → Fin base.vocabSize) : Matrix (β × τ) (Fin base.vocabSize) R :=
  let embedded : Matrix (β × τ) (Fin base.config.dModel) R := fun row =>
    base.embed (tokens row.1 row.2)
  linear base.head
    ((List.finRange base.nLayers).foldl
      (fun x index => (base.blocks index).forward functions (slots index) x) embedded)

end Base

section Merge
variable {DType R : Type} [Field R] {torch : Torch DType R R}

/-- The parameters of the `nn.Linear` that computes what the slot computes. -/
def Slot.merged : {base : Linear DType} → Slot torch base → Parameters R base → Parameters R base
  | _, .bare, parameters => parameters
  | _, .plugged layer rfl, parameters => layer.merged parameters

def Slot.SameDtype {base : Linear DType} : Slot torch base → Prop
  | .bare => True
  | .plugged layer _ => layer.adapterDtype = layer.base.weightDtype

theorem Slot.forward_eq_merged {ι : Type*} {base : Linear DType} {slot : Slot torch base}
    (sameDtype : slot.SameDtype) (parameters : Parameters R base)
    (x : Matrix ι (Fin base.inFeatures) R) :
    slot.forward parameters x = linear (slot.merged parameters) x := by
  cases slot with
  | bare => rfl
  | plugged layer wraps =>
      cases wraps
      exact StructuralPluginLayer.forward_eq_merged parameters x sameDtype

def BlockParameters.merged {config : Config} {dtype : DType}
    (block : BlockParameters R config dtype) (slots : Slots torch config dtype) :
    BlockParameters R config dtype :=
  { block with sublayer := fun name => (slots name).merged (block.sublayer name) }

theorem BlockParameters.forward_eq_merged {β τ : Type*} [Fintype τ] (functions : Functions R)
    {config : Config} {dtype : DType} (block : BlockParameters R config dtype)
    {slots : Slots torch config dtype} (sameDtypes : ∀ name, (slots name).SameDtype) :
    (block.forward functions slots : Matrix (β × τ) _ R → _) =
      (block.merged slots).forward functions (fun _ => (.bare : Slot torch _)) := by
  have computes : ∀ name,
      ((slots name).forward (block.sublayer name) : Matrix (β × τ) _ R → _) =
        linear ((slots name).merged (block.sublayer name)) := by
    intro name
    funext x
    exact Slot.forward_eq_merged (sameDtypes name) _ x
  unfold BlockParameters.forward
  rw [computes, computes, computes]
  rfl

def Base.merged (base : Base DType R)
    (slots : Fin base.nLayers → Slots torch base.config base.dtype) : Base DType R :=
  { base with blocks := fun index => (base.blocks index).merged (slots index) }

theorem Base.forward_eq_merged {β τ : Type*} [Fintype τ] (functions : Functions R)
    (base : Base DType R) {slots : Fin base.nLayers → Slots torch base.config base.dtype}
    (sameDtypes : ∀ index name, (slots index name).SameDtype)
    (tokens : β → τ → Fin base.vocabSize) :
    base.forward functions slots tokens =
      (base.merged slots).forward functions (fun _ _ => (.bare : Slot torch _)) tokens := by
  have blocks : (fun (x : Matrix (β × τ) (Fin base.config.dModel) R) index =>
      (base.blocks index).forward functions (slots index) x) = fun x index =>
        ((base.blocks index).merged (slots index)).forward functions
          (fun _ => (.bare : Slot torch _)) x := by
    funext x index
    rw [BlockParameters.forward_eq_merged functions _ (sameDtypes index)]
  unfold Base.forward
  rw [blocks]
  rfl

end Merge

/-! ## Rows, sequences and positions -/

section Regroup
variable {DType R : Type} [Field R] {torch : Torch DType R R} (functions : Functions R)
  {ι ι' κ : Type*}

theorem linear_submatrix {base : Linear DType} (parameters : Parameters R base)
    (x : Matrix ι (Fin base.inFeatures) R) (pick : ι' → ι) :
    linear parameters (x.submatrix pick id) = (linear parameters x).submatrix pick id := by
  unfold linear
  cases parameters.bias with
  | none => rfl
  | some bias => rfl

theorem layerNorm_submatrix {size : ℕ} (norm : LayerNorm R size) (x : Matrix ι (Fin size) R)
    (pick : ι' → ι) :
    norm.forward functions (x.submatrix pick id) =
      (norm.forward functions x).submatrix pick id := rfl

theorem slot_submatrix {base : Linear DType} (slot : Slot torch base)
    (parameters : Parameters R base) (x : Matrix ι (Fin base.inFeatures) R) (pick : ι' → ι) :
    slot.forward parameters (x.submatrix pick id) =
      (slot.forward parameters x).submatrix pick id := by
  cases slot with
  | bare => exact linear_submatrix parameters x pick
  | plugged layer wraps =>
      cases wraps
      simp only [Slot.forward, StructuralPluginLayer.forward, linear_submatrix]
      split <;> rfl

section Positions
variable {τ τ' β β' : Type*} [Fintype τ] [Fintype τ'] (order : τ' ≃ τ) (choose : β' → β)

/-- Reordering the keys reorders the sum of the exponentials. -/
theorem softmax_submatrix (scores : Matrix τ τ R) :
    softmax functions (scores.submatrix order order) =
      (softmax functions scores).submatrix order order := by
  ext row col
  have sums : ∑ other, functions.exp (scores (order row) (order other)) =
      ∑ other, functions.exp (scores (order row) other) :=
    Equiv.sum_comp order fun other => functions.exp (scores (order row) other)
  simp only [softmax, Matrix.submatrix_apply, sums]

theorem attend_submatrix (config : Config) (q k v : Matrix τ (Fin config.headDim) R) :
    BlockParameters.attend functions config (q.submatrix order id) (k.submatrix order id)
        (v.submatrix order id) =
      (BlockParameters.attend functions config q k v).submatrix order id := by
  have scores : ((q.submatrix order id) * (k.submatrix order id)ᵀ).map
      (· / functions.sqrt config.headDim) =
        ((q * kᵀ).map (· / functions.sqrt config.headDim)).submatrix order order := rfl
  simp only [BlockParameters.attend]
  rw [scores, softmax_submatrix, Matrix.submatrix_mul_equiv]

theorem attended_submatrix (config : Config) (q k v : Matrix (β × τ) (Fin config.dModel) R) :
    BlockParameters.attended functions config (q.submatrix (Prod.map choose order) id)
        (k.submatrix (Prod.map choose order) id) (v.submatrix (Prod.map choose order) id) =
      (BlockParameters.attended functions config q k v).submatrix (Prod.map choose order) id := by
  ext row col
  have head := attend_submatrix functions order config
    (splitHead config q (choose row.1) (finProdFinEquiv.symm (col.cast config.divides.symm)).1)
    (splitHead config k (choose row.1) (finProdFinEquiv.symm (col.cast config.divides.symm)).1)
    (splitHead config v (choose row.1) (finProdFinEquiv.symm (col.cast config.divides.symm)).1)
  exact congrFun (congrFun head row.2) _

section Block
variable {config : Config} {dtype : DType} (block : BlockParameters R config dtype)
  {outProj : Matrix (β × τ) (Fin config.dModel) R → Matrix (β × τ) (Fin config.dModel) R}
  {outProj' : Matrix (β' × τ') (Fin config.dModel) R → Matrix (β' × τ') (Fin config.dModel) R}
  {fc1 : Matrix (β × τ) (Fin config.dModel) R → Matrix (β × τ) (Fin config.ffnDim) R}
  {fc1' : Matrix (β' × τ') (Fin config.dModel) R → Matrix (β' × τ') (Fin config.ffnDim) R}
  {fc2 : Matrix (β × τ) (Fin config.ffnDim) R → Matrix (β × τ) (Fin config.dModel) R}
  {fc2' : Matrix (β' × τ') (Fin config.ffnDim) R → Matrix (β' × τ') (Fin config.dModel) R}

theorem selfAttention_submatrix
    (outProjs : ∀ x, outProj' (x.submatrix (Prod.map choose order) id) =
      (outProj x).submatrix (Prod.map choose order) id)
    (x : Matrix (β × τ) (Fin config.dModel) R) :
    block.selfAttention functions outProj' (x.submatrix (Prod.map choose order) id) =
      (block.selfAttention functions outProj x).submatrix (Prod.map choose order) id := by
  unfold BlockParameters.selfAttention
  dsimp only
  rw [← outProjs, ← attended_submatrix]
  congr 2
  · exact linear_submatrix block.qProj x _
  · exact linear_submatrix block.kProj x _
  · exact linear_submatrix block.vProj x _

theorem forwardWith_submatrix
    (outProjs : ∀ x, outProj' (x.submatrix (Prod.map choose order) id) =
      (outProj x).submatrix (Prod.map choose order) id)
    (fc1s : ∀ x, fc1' (x.submatrix (Prod.map choose order) id) =
      (fc1 x).submatrix (Prod.map choose order) id)
    (fc2s : ∀ x, fc2' (x.submatrix (Prod.map choose order) id) =
      (fc2 x).submatrix (Prod.map choose order) id)
    (x : Matrix (β × τ) (Fin config.dModel) R) :
    block.forwardWith functions outProj' fc1' fc2' (x.submatrix (Prod.map choose order) id) =
      (block.forwardWith functions outProj fc1 fc2 x).submatrix (Prod.map choose order) id := by
  have residual : x.submatrix (Prod.map choose order) id +
      block.selfAttention functions outProj'
        (block.ln1.forward functions (x.submatrix (Prod.map choose order) id)) =
      (x + block.selfAttention functions outProj (block.ln1.forward functions x)).submatrix
        (Prod.map choose order) id := by
    rw [layerNorm_submatrix, selfAttention_submatrix functions order choose block outProjs]
    rfl
  unfold BlockParameters.forwardWith
  rw [residual]
  dsimp only
  rw [layerNorm_submatrix, fc1s]
  have inner : ∀ y : Matrix (β × τ) (Fin config.ffnDim) R,
      activation functions (y.submatrix (Prod.map choose order) id) =
        (activation functions y).submatrix (Prod.map choose order) id := fun _ => rfl
  rw [inner, fc2s]
  rfl

end Block

/-- Sequences are computed apart, so that any of them can be picked in any order,
and reordering the positions of the tokens reorders the logits. -/
theorem Base.forward_submatrix (base : Base DType R)
    (slots : Fin base.nLayers → Slots torch base.config base.dtype)
    (tokens : β → τ → Fin base.vocabSize) :
    base.forward functions slots (fun sequence position => tokens (choose sequence) (order position)) =
      (base.forward functions slots tokens).submatrix (Prod.map choose order) id := by
  have blocks : ∀ (indices : List (Fin base.nLayers))
      (x : Matrix (β × τ) (Fin base.config.dModel) R),
      indices.foldl (fun x index => (base.blocks index).forward functions (slots index) x)
          (x.submatrix (Prod.map choose order) id) =
        (indices.foldl (fun x index => (base.blocks index).forward functions (slots index) x)
          x).submatrix (Prod.map choose order) id := by
    intro indices
    induction indices with
    | nil => intro x; rfl
    | cons index rest ih =>
        intro x
        have here : (base.blocks index).forward functions (slots index)
            (x.submatrix (Prod.map choose order) id) =
              ((base.blocks index).forward functions (slots index) x).submatrix
                (Prod.map choose order) id :=
          forwardWith_submatrix functions order choose (base.blocks index)
            (fun y => slot_submatrix (slots index .outProj) _ y _)
            (fun y => slot_submatrix (slots index .fc1) _ y _)
            (fun y => slot_submatrix (slots index .fc2) _ y _) x
        rw [List.foldl_cons, here, ih, List.foldl_cons]
  have stacked := blocks (List.finRange base.nLayers) fun row =>
    base.embed (tokens row.1 row.2)
  exact (congrArg (linear base.head) stacked).trans (linear_submatrix base.head _ _)

end Positions

end Regroup

end Msp.Training
