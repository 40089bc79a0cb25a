import Msp.Training.TrainAdapter

/-!
# What a training run leaves alone

A run of `train_adapter`, however it ends, moves numbers in the matrices of its
own adapter and nothing else of any layer; `Frame` is what one iteration keeps.
The hooks are gone afterwards, unless the optimizer could not be built: it is
built after the hooks are registered and before the `try`.
-/

set_option autoImplicit false

namespace Msp.Training

open Msp.Library Msp.Python.PluginLayer Msp.Python.GradientGate

/-- What of a layer is not in its two matrices. -/
structure Settings (DType Scalar : Type) where
  base : Linear DType
  rank : ℕ
  adapterDtype : DType
  scaling : Scalar
  routingGateEnabled : Bool

def settings {DType Elem Scalar : Type} {torch : Torch DType Elem Scalar}
    (layer : StructuralPluginLayer torch) : Settings DType Scalar :=
  ⟨layer.base, layer.rank, layer.adapterDtype, layer.scaling, layer.routingGateEnabled⟩

section Frame
variable {DType R : Type} [Field R] {torch : Torch DType R R} {base : Base DType R}
  {Temp : Type} [LinearOrder Temp] {World Generator Loss Optimizer Error : Type}

/-- The object is the same but for its gradients and the numbers in its matrices, which
stay too if it is not in training. -/
structure SameBut (inTraining : Prop) (before after : LayerObject torch base Temp) : Prop where
  key : after.key = before.key
  gate : after.gate = before.gate
  settings : settings after.layer = settings before.layer
  layer : ¬ inTraining → after.layer = before.layer

omit [Field R] [LinearOrder Temp] in
theorem SameBut.refl (inTraining : Prop) (object : LayerObject torch base Temp) :
    SameBut inTraining object object := ⟨rfl, rfl, rfl, fun _ => rfl⟩

omit [Field R] [LinearOrder Temp] in
theorem SameBut.trans {inTraining : Prop} {first second third : LayerObject torch base Temp}
    (one : SameBut inTraining first second) (two : SameBut inTraining second third) :
    SameBut inTraining first third :=
  ⟨two.key.trans one.key, two.gate.trans one.gate, two.settings.trans one.settings,
    fun outside => (two.layer outside).trans (one.layer outside)⟩

/-- What training these layers keeps of the objects. -/
structure Frame (layers : Layers base) (before after : List (LayerObject torch base Temp)) :
    Prop where
  length : after.length = before.length
  each : ∀ ref object, before[ref]? = some object →
    ∃ object', after[ref]? = some object' ∧ SameBut (ref ∈ layers.values) object object'

section Lists
variable {layers : Layers base} {first second third : List (LayerObject torch base Temp)}

omit [Field R] [LinearOrder Temp] in
theorem Frame.refl (layers : Layers base) (objects : List (LayerObject torch base Temp)) :
    Frame layers objects objects :=
  ⟨rfl, fun _ object found => ⟨object, found, .refl _ object⟩⟩

omit [Field R] [LinearOrder Temp] in
theorem Frame.trans (one : Frame layers first second) (two : Frame layers second third) :
    Frame layers first third where
  length := two.length.trans one.length
  each ref object found := by
    obtain ⟨middle, there, same⟩ := one.each ref object found
    obtain ⟨last, here, same'⟩ := two.each ref middle there
    exact ⟨last, here, same.trans same'⟩

omit [Field R] [LinearOrder Temp] in
theorem Frame.back (frame : Frame layers first second) {ref : ℕ}
    {object' : LayerObject torch base Temp} (there : second[ref]? = some object') :
    ∃ object, first[ref]? = some object ∧ SameBut (ref ∈ layers.values) object object' := by
  have inside := (List.getElem?_eq_some_iff.mp there).1
  rw [frame.length] at inside
  obtain ⟨object'', here, same⟩ := frame.each ref _ (List.getElem?_eq_getElem inside)
  cases there.symm.trans here
  exact ⟨_, List.getElem?_eq_getElem inside, same⟩

omit [Field R] [LinearOrder Temp] in
/-- A change of some layers, when it keeps what training keeps. -/
theorem Frame.onLayers (changed : Layers base) (model : Model torch base Temp)
    {change : ℕ → LayerObject torch base Temp → LayerObject torch base Temp}
    (keeps : ∀ ref ∈ changed.values, ∀ object,
      SameBut (ref ∈ layers.values) object (change ref object)) :
    Frame layers model.objects (model.onLayers changed change).objects where
  length := List.length_mapIdx
  each ref object found := by
    refine ⟨_, by rw [Model.onLayers, List.getElem?_mapIdx, found]; rfl, ?_⟩
    split
    · rename_i inside
      exact keeps ref inside object
    · exact .refl _ object

omit [Field R] [LinearOrder Temp] in
theorem Frame.set {ref : ℕ} {object changed : LayerObject torch base Temp}
    (found : first[ref]? = some object) (same : SameBut False object changed) :
    Frame layers first (first.set ref changed) where
  length := List.length_set
  each other object' there := by
    have always : ∀ {inTraining : Prop}, SameBut inTraining object changed := fun {_} =>
      ⟨same.key, same.gate, same.settings, fun _ => same.layer id⟩
    by_cases here : ref = other
    · subst here
      cases found.symm.trans there
      have inside := (List.getElem?_eq_some_iff.mp found).1
      exact ⟨changed, List.getElem?_set_self inside, always⟩
    · exact ⟨object', by rw [List.getElem?_set_ne here]; exact there, .refl _ object'⟩

end Lists

section Steps
variable (layers : Layers base) {β τ : Type} [Fintype τ]
  (trainer : Trainer torch base Temp World Generator Loss Optimizer Error β τ)

omit [LinearOrder Temp] in
theorem sameBut_accumulate (object : LayerObject torch base Temp) (pluginMatrix : PluginMatrix)
    (grad : Values object.layer pluginMatrix) :
    SameBut False object (object.accumulate pluginMatrix grad) :=
  ⟨rfl, rfl, rfl, fun _ => rfl⟩

omit [Field R] [LinearOrder Temp] in
theorem sameBut_optimize (update : Optimizer → R → R → R × Optimizer)
    (moved : PluginMatrix → ℕ → ℕ → Bool) (optimizer : PluginMatrix → ℕ → ℕ → Optimizer)
    (object : LayerObject torch base Temp) {inTraining : Prop} (listed : inTraining) :
    SameBut inTraining object (object.optimize update moved optimizer) :=
  ⟨rfl, rfl, rfl, fun outside => absurd listed outside⟩

theorem frame_backward (gradient : ℕ → (layer : StructuralPluginLayer torch) →
      (pluginMatrix : PluginMatrix) → Except Error (Values layer pluginMatrix))
    (read : ThermalMonitor Temp → World → Except Error Temp × World)
    (order : List (ℕ × PluginMatrix)) :
    ∀ (objects : List (LayerObject torch base Temp)) (world : World),
      Frame layers objects (backward gradient read order objects world).2.1 := by
  induction order with
  | nil => intro objects world; exact .refl layers objects
  | cons first rest ih =>
      intro objects world
      obtain ⟨ref, pluginMatrix⟩ := first
      unfold backward
      split
      · exact ih objects world
      · rename_i object found
        split
        · exact .refl layers objects
        · split
          · exact .refl layers objects
          · rename_i grad world' ran
            exact (Frame.set found (sameBut_accumulate object pluginMatrix grad)).trans (ih _ _)

omit [Fintype τ] in
theorem frame_zeroAndBackward (trained : Layers base) (model : Model torch base Temp)
    (world : World) (tokens : β → τ → Fin base.vocabSize) :
    Frame trained model.objects (zeroAndBackward trainer layers model world tokens).2.1 := by
  have zeroed : Frame trained model.objects
      (model.onLayers layers fun _ => LayerObject.zeroGrad).objects :=
    Frame.onLayers layers model fun _ _ _ => ⟨rfl, rfl, rfl, fun _ => rfl⟩
  exact zeroed.trans (frame_backward trained _ _ _ _ _)

omit [Field R] [LinearOrder Temp] [Fintype τ] in
/-- A step of the optimizer, whole or broken off, moves numbers of its layers only. -/
theorem frame_optimizerStep (state : TrainState torch base Temp World Generator Loss Optimizer)
    (objects : List (LayerObject torch base Temp)) :
    (optimizerStep trainer layers state objects).2.model.slots = state.model.slots ∧
      Frame layers objects (optimizerStep trainer layers state objects).2.model.objects := by
  have moves : ∀ moved : ℕ → PluginMatrix → ℕ → ℕ → Bool,
      Frame layers objects (moveNumbers trainer layers state objects moved).objects := fun moved =>
    Frame.onLayers layers { state.model with objects := objects } fun ref listed object =>
      sameBut_optimize trainer.update (moved ref) (state.optimizer ref) object listed
  unfold optimizerStep
  split
  · exact ⟨rfl, moves _⟩
  · exact ⟨rfl, moves _⟩

theorem iteration_keeps (state : TrainState torch base Temp World Generator Loss Optimizer) :
    (iteration trainer layers state).2.model.slots = state.model.slots ∧
      Frame layers state.model.objects (iteration trainer layers state).2.model.objects := by
  unfold iteration
  split
  · exact ⟨rfl, .refl layers _⟩
  · rename_i tokens generator drawn
    dsimp only
    split
    · exact ⟨rfl, .refl layers _⟩
    · have graded := frame_zeroAndBackward layers trainer layers state.model state.world tokens
      split
      · rename_i error objects world ran
        rw [ran] at graded
        exact ⟨rfl, graded⟩
      · rename_i objects world ran
        rw [ran] at graded
        obtain ⟨slots, frame⟩ := frame_optimizerStep layers trainer
          { state with generator := generator, world := world } objects
        split
        · rename_i error stepped done
          rw [done] at slots frame
          exact ⟨slots, graded.trans frame⟩
        · rename_i stepped done
          rw [done] at slots frame
          exact ⟨slots, graded.trans frame⟩

theorem loop_keeps (steps : ℕ) :
    ∀ state : TrainState torch base Temp World Generator Loss Optimizer,
      (loop trainer layers steps state).2.model.slots = state.model.slots ∧
        Frame layers state.model.objects (loop trainer layers steps state).2.model.objects := by
  induction steps with
  | zero => intro state; exact ⟨rfl, .refl layers _⟩
  | succ steps ih =>
      intro state
      obtain ⟨slots, frame⟩ := iteration_keeps layers trainer state
      unfold loop
      split
      · rename_i error next ran
        rw [ran] at slots frame
        exact ⟨slots, frame⟩
      · rename_i next ran
        rw [ran] at slots frame
        exact ⟨(ih next).1.trans slots, frame.trans (ih next).2⟩

end Steps

/-! ## The gates around the loop -/

section Gates
variable (layers : Layers base) {β τ : Type} [Fintype τ]
  (trainer : Trainer torch base Temp World Generator Loss Optimizer Error β τ)

def gateAfter (trainer : Trainer torch base Temp World Generator Loss Optimizer Error β τ)
    (layers : Layers base) (monitor : Option (ThermalMonitor Temp)) (gate : LayerGate Temp) :
    LayerGate Temp :=
  match monitor with
  | none => gate
  | some monitor =>
      if (trainer.adam (parameters layers)).isSome then gate.gateGradients monitor
      else (gate.gateGradients monitor).clearGradientGate

/-- What a call leaves of an object. -/
structure Left (trainer : Trainer torch base Temp World Generator Loss Optimizer Error β τ)
    (layers : Layers base) (monitor : Option (ThermalMonitor Temp)) (ref : ℕ)
    (before after : LayerObject torch base Temp) : Prop where
  key : after.key = before.key
  settings : settings after.layer = settings before.layer
  others : ref ∉ layers.values → after.layer = before.layer ∧ after.gate = before.gate
  gate : ref ∈ layers.values → after.gate = gateAfter trainer layers monitor before.gate

omit [Field R] [LinearOrder Temp] in
theorem gated_get (monitor : Option (ThermalMonitor Temp)) {model : Model torch base Temp}
    {ref : ℕ} {object : LayerObject torch base Temp} (found : model.objects[ref]? = some object) :
    ∃ gate, (gateLayers layers monitor model).objects[ref]? = some { object with gate := gate } ∧
      gate = if ref ∈ layers.values then
        match monitor with
        | none => object.gate
        | some monitor => object.gate.gateGradients monitor
      else object.gate := by
  cases monitor with
  | none => exact ⟨object.gate, found, (ite_self _).symm⟩
  | some monitor =>
      refine ⟨_, ?_, rfl⟩
      simp only [gateLayers, Model.onLayers, List.getElem?_mapIdx, found, Option.map_some]
      split <;> rfl

omit [Field R] [LinearOrder Temp] in
theorem cleared_get (monitor : Option (ThermalMonitor Temp)) {model : Model torch base Temp}
    {ref : ℕ} {object : LayerObject torch base Temp} (found : model.objects[ref]? = some object) :
    ∃ gate, (clearLayers layers monitor model).objects[ref]? = some { object with gate := gate } ∧
      gate = if ref ∈ layers.values then
        match monitor with
        | none => object.gate
        | some _ => object.gate.clearGradientGate
      else object.gate := by
  cases monitor with
  | none => exact ⟨object.gate, found, (ite_self _).symm⟩
  | some monitor =>
      refine ⟨_, ?_, rfl⟩
      simp only [clearLayers, Model.onLayers, List.getElem?_mapIdx, found, Option.map_some]
      split <;> rfl

omit [Field R] [LinearOrder Temp] in
theorem length_gateLayers (monitor : Option (ThermalMonitor Temp)) (model : Model torch base Temp) :
    (gateLayers layers monitor model).objects.length = model.objects.length := by
  cases monitor with
  | none => rfl
  | some monitor => exact List.length_mapIdx

omit [Field R] [LinearOrder Temp] in
theorem length_clearLayers (monitor : Option (ThermalMonitor Temp))
    (model : Model torch base Temp) :
    (clearLayers layers monitor model).objects.length = model.objects.length := by
  cases monitor with
  | none => rfl
  | some monitor => exact List.length_mapIdx

omit [Field R] [LinearOrder Temp] in
theorem slots_gateLayers (monitor : Option (ThermalMonitor Temp)) (model : Model torch base Temp) :
    (gateLayers layers monitor model).slots = model.slots := by
  cases monitor <;> rfl

omit [Field R] [LinearOrder Temp] in
theorem slots_clearLayers (monitor : Option (ThermalMonitor Temp)) (model : Model torch base Temp) :
    (clearLayers layers monitor model).slots = model.slots := by
  cases monitor <;> rfl

/-- The two ways through a call: the optimizer is refused, or the loop is run between the
gating and the clearing. -/
theorem trainAdapter_model (monitor : Option (ThermalMonitor Temp)) (model : Model torch base Temp)
    (generator : Generator) (world : World) :
    ((trainer.adam (parameters layers)).isSome = true ∧
        (trainAdapter trainer layers monitor model generator world).model =
          gateLayers layers monitor model) ∨
      (trainer.adam (parameters layers) = none ∧
        (trainAdapter trainer layers monitor model generator world).model =
          clearLayers layers monitor (loop trainer layers trainer.steps
            ⟨gateLayers layers monitor model, fun _ _ _ _ => trainer.initial, generator, world,
              []⟩).2.model) := by
  unfold trainAdapter
  dsimp only
  cases built : trainer.adam (parameters layers) with
  | some error => exact Or.inl ⟨rfl, rfl⟩
  | none =>
      refine Or.inr ⟨rfl, ?_⟩
      dsimp only
      split
      · rename_i error state ran
        rw [ran]
      · rename_i state ran
        rw [ran]

theorem trainAdapter_keeps (monitor : Option (ThermalMonitor Temp)) (model : Model torch base Temp)
    (generator : Generator) (world : World) :
    (trainAdapter trainer layers monitor model generator world).model.slots = model.slots ∧
      (trainAdapter trainer layers monitor model generator world).model.objects.length =
        model.objects.length := by
  rcases trainAdapter_model layers trainer monitor model generator world with
    ⟨_, same⟩ | ⟨_, same⟩
  · rw [same]
    exact ⟨slots_gateLayers layers _ model, length_gateLayers layers _ model⟩
  · obtain ⟨slots, frame⟩ := loop_keeps layers trainer trainer.steps
      ⟨gateLayers layers monitor model, fun _ _ _ _ => trainer.initial, generator, world, []⟩
    rw [same, slots_clearLayers, slots, length_clearLayers, frame.length]
    exact ⟨slots_gateLayers layers _ model, length_gateLayers layers _ model⟩

theorem left_of_call (monitor : Option (ThermalMonitor Temp)) (model : Model torch base Temp)
    (generator : Generator) (world : World) {ref : ℕ} {object : LayerObject torch base Temp}
    (found : model.objects[ref]? = some object) :
    ∃ object', (trainAdapter trainer layers monitor model generator world).model.objects[ref]? =
      some object' ∧ Left trainer layers monitor ref object object' := by
  obtain ⟨gate, gated, isGate⟩ := gated_get layers monitor found
  rcases trainAdapter_model layers trainer monitor model generator world with
    ⟨refused, same⟩ | ⟨built, same⟩
  · rw [same]
    refine ⟨{ object with gate := gate }, gated, rfl, rfl, fun outside => ⟨rfl, ?_⟩, fun inside => ?_⟩
    · exact isGate.trans (if_neg outside)
    · refine (isGate.trans (if_pos inside)).trans ?_
      unfold gateAfter
      cases monitor with
      | none => rfl
      | some monitor => exact (if_pos refused).symm
  · rw [same]
    obtain ⟨slots, frame⟩ := loop_keeps layers trainer trainer.steps
      ⟨gateLayers layers monitor model, fun _ _ _ _ => trainer.initial, generator, world, []⟩
    obtain ⟨middle, there, keeps⟩ := frame.each ref _ gated
    obtain ⟨gate', final, isGate'⟩ := cleared_get layers monitor there
    have sameGate : middle.gate = gate := keeps.gate
    refine ⟨{ middle with gate := gate' }, final, keeps.key, keeps.settings,
      fun outside => ⟨keeps.layer outside, ?_⟩, fun inside => ?_⟩
    · exact (isGate'.trans (if_neg outside)).trans (sameGate.trans (isGate.trans (if_neg outside)))
    · rw [if_pos inside] at isGate isGate'
      refine isGate'.trans ?_
      rw [sameGate, isGate]
      cases monitor with
      | none => rfl
      | some monitor => simp only [gateAfter, built, Option.isSome_none, Bool.false_eq_true, if_false]

omit [Field R] [LinearOrder Temp] [Fintype τ] in
theorem Left.armed {trainer : Trainer torch base Temp World Generator Loss Optimizer Error β τ}
    {layers : Layers base} {monitor : ThermalMonitor Temp} {ref : ℕ}
    {before after : LayerObject torch base Temp}
    (left : Left trainer layers (some monitor) ref before after) (inside : ref ∈ layers.values)
    {latest : Option (ThermalMonitor Temp)} (armed : before.gate.Armed latest) :
    after.gate.Armed
      (if (trainer.adam (parameters layers)).isSome then some monitor else none) := by
  rw [left.gate inside, gateAfter]
  split
  · exact armed.gate monitor
  · exact (armed.gate monitor).clear

omit [LinearOrder Temp] in
theorem armed_unique {gate : LayerGate Temp} {monitor : ThermalMonitor Temp}
    (armed : gate.Armed (some monitor)) : ¬ gate.Armed none := by
  obtain ⟨keyA, keyB, handles, -⟩ := armed
  rintro ⟨bare, -⟩
  rw [handles] at bare
  cases bare

end Gates

/-- However a call of `train_adapter` ends: the blocks hold the same objects; a layer
that is not in training keeps its numbers and its hooks; one that is in training keeps
everything but the numbers in its matrices, and its hooks are gone afterwards exactly if
the optimizer could be built. -/
theorem train_adapter_leaves {β τ : Type} [Fintype τ]
    (trainer : Trainer torch base Temp World Generator Loss Optimizer Error β τ)
    (layers : Layers base) (monitor : ThermalMonitor Temp) (model : Model torch base Temp)
    (generator : Generator) (world : World)
    (armed : ∀ object ∈ model.objects, ∃ latest, object.gate.Armed latest) :
    let trained := trainAdapter trainer layers (some monitor) model generator world
    trained.model.slots = model.slots ∧
      trained.model.objects.length = model.objects.length ∧
      ∀ ref object, model.objects[ref]? = some object →
        ∃ object', trained.model.objects[ref]? = some object' ∧ object'.key = object.key ∧
          settings object'.layer = settings object.layer ∧
          (ref ∉ layers.values → object'.layer = object.layer ∧ object'.gate = object.gate) ∧
          (ref ∈ layers.values →
            (object'.gate.Armed none ↔ trainer.adam (parameters layers) = none) ∧
              (object'.gate.Armed (some monitor) ↔
                trainer.adam (parameters layers) ≠ none)) := by
  intro trained
  obtain ⟨slots, length⟩ :=
    trainAdapter_keeps layers trainer (some monitor) model generator world
  refine ⟨slots, length, fun ref object found => ?_⟩
  obtain ⟨object', there, left⟩ :=
    left_of_call layers trainer (some monitor) model generator world found
  refine ⟨object', there, left.key, left.settings, left.others, fun inside => ?_⟩
  obtain ⟨latest, isArmed⟩ := armed object (List.mem_of_getElem? found)
  have after := left.armed inside isArmed
  cases built : trainer.adam (parameters layers) with
  | none =>
      rw [built] at after
      exact ⟨iff_of_true after rfl, iff_of_false (fun hot => armed_unique hot after) (by simp)⟩
  | some error =>
      rw [built] at after
      exact ⟨iff_of_false (armed_unique after) (by simp), iff_of_true after (by simp)⟩

end Frame

theorem armed_rankTwo : ∀ object ∈ rankTwoModel.objects, object.gate.Armed none := by
  intro object member
  cases List.mem_singleton.mp member
  exact LayerGate.armed_fresh

theorem train_adapter_leaves_refused :
    ∃ object', (trainAdapter { constantTrainer 80 with adam := fun _ => some () } onFc1
      (some oneFifth) rankTwoModel () 0).model.objects[0]? = some object' ∧
        object'.gate.Armed (some oneFifth) := by
  obtain ⟨-, -, each⟩ := train_adapter_leaves { constantTrainer 80 with adam := fun _ => some () }
    onFc1 oneFifth rankTwoModel () 0 fun object member => ⟨none, armed_rankTwo object member⟩
  obtain ⟨object', there, -, -, -, gates⟩ := each 0 rankTwo rfl
  exact ⟨object', there, (gates List.mem_cons_self).2.mpr (by simp)⟩

end Msp.Training
