import Msp.Training.TrainingFrame

/-!
# Training under a thermal monitor

Two runs of `train_adapter`.  Where every reading of the monitor throttles, the
rows that the stride passes over come back as they were, however long the run
is: their gradients are zero in every iteration, and an optimizer that has only
seen zeros for a number leaves it.  Where no reading throttles, the run computes
what it computes without a monitor.
-/

set_option autoImplicit false

namespace Msp.Training

open Msp.Library Msp.Python.PluginLayer Msp.Python.GradientGate

section Thermal
variable {DType R : Type} [Field R] {torch : Torch DType R R} {base : Base DType R}
  {Temp : Type} [LinearOrder Temp] {World Generator Loss Optimizer Error : Type}

def entry {rows cols : ℕ} (matrix : Matrix (Fin rows) (Fin cols) R) (row col : ℕ) : Option R :=
  if inside : row < rows ∧ col < cols then some (matrix ⟨row, inside.1⟩ ⟨col, inside.2⟩) else none

def numberAt (object : LayerObject torch base Temp) (pluginMatrix : PluginMatrix) (row col : ℕ) :
    Option R :=
  entry (values object.layer pluginMatrix) row col

/-- An optimizer that has seen zeros only, and in this state leaves the number. -/
structure KeepsStill (update : Optimizer → R → R → R × Optimizer) (idle : Optimizer → Prop) :
    Prop where
  value : ∀ state value, idle state → (update state value 0).1 = value
  stays : ∀ state value, idle state → idle (update state value 0).2

/-! ## Frozen rows -/

/-- The gradients of the object are zero in the rows that the stride passes over. -/
def ZeroOff (stride : ℕ) (object : LayerObject torch base Temp) : Prop :=
  ∀ pluginMatrix grad, object.grad pluginMatrix = some grad →
    ∀ row col, row.val % stride ≠ 0 → grad row col = 0

theorem hook_frozen {monitor : ThermalMonitor Temp} {temperatureC : Temp}
    (throttling : isThrottling monitor temperatureC = true) {rows cols : ℕ}
    (grad : Matrix (Fin rows) (Fin cols) R) {row : Fin rows} (col : Fin cols)
    (off : row.val % stride monitor ≠ 0) : hook monitor temperatureC grad row col = 0 := by
  have masked : ¬ mask rows (stride monitor) row = true := by
    rw [mask_iff (stride_pos monitor) row.isLt]
    exact off
  simp [hook, throttling, masked]

section Hot
variable {read : ThermalMonitor Temp → World → Except Error Temp × World}
  {monitor : ThermalMonitor Temp}

def AlwaysHot (read : ThermalMonitor Temp → World → Except Error Temp × World)
    (monitor : ThermalMonitor Temp) : Prop :=
  ∀ world temperatureC world', read monitor world = (.ok temperatureC, world') →
    isThrottling monitor temperatureC = true

theorem runHooks_frozen (hot : AlwaysHot read monitor) {gate : LayerGate Temp}
    (armed : gate.Armed (some monitor)) (pluginMatrix : PluginMatrix) {rows cols : ℕ}
    {grad result : Matrix (Fin rows) (Fin cols) R} {world world' : World}
    (ran : runHooks read (gate.hooks pluginMatrix) grad world = (.ok result, world'))
    {row : Fin rows} (col : Fin cols) (off : row.val % stride monitor ≠ 0) :
    result row col = 0 := by
  have one : ∃ key, gate.hooks pluginMatrix = [(key, monitor)] := by
    obtain ⟨keyA, keyB, -, atA, atB⟩ := armed
    cases pluginMatrix with
    | A => exact ⟨keyA, atA⟩
    | B => exact ⟨keyB, atB⟩
  obtain ⟨key, hooks⟩ := one
  rw [hooks] at ran
  unfold runHooks at ran
  split at ran
  · cases ran
  · rename_i temperatureC after reads
    cases ran
    exact hook_frozen (hot world temperatureC _ reads) grad col off

/-- What holds of the objects in training while the gradients come in. -/
structure Gated (layers : Layers base) (monitor : ThermalMonitor Temp)
    (objects : List (LayerObject torch base Temp)) : Prop where
  armed : ∀ ref ∈ layers.values, ∀ object, objects[ref]? = some object →
    object.gate.Armed (some monitor)
  zeroOff : ∀ ref ∈ layers.values, ∀ object, objects[ref]? = some object →
    ZeroOff (stride monitor) object

variable {layers : Layers base}

omit [LinearOrder Temp] in
theorem Gated.set {objects : List (LayerObject torch base Temp)}
    (gated : Gated layers monitor objects) {ref : ℕ} {object changed : LayerObject torch base Temp}
    (found : objects[ref]? = some object) (sameGate : changed.gate = object.gate)
    (zeroOff : ref ∈ layers.values → ZeroOff (stride monitor) changed) :
    Gated layers monitor (objects.set ref changed) := by
  have inside := (List.getElem?_eq_some_iff.mp found).1
  refine ⟨fun other listed object' there => ?_, fun other listed object' there => ?_⟩
  · by_cases same : ref = other
    · subst same
      cases (List.getElem?_set_self inside).symm.trans there
      rw [sameGate]
      exact gated.armed ref listed object found
    · rw [List.getElem?_set_ne same] at there
      exact gated.armed other listed object' there
  · by_cases same : ref = other
    · subst same
      cases (List.getElem?_set_self inside).symm.trans there
      exact zeroOff listed
    · rw [List.getElem?_set_ne same] at there
      exact gated.zeroOff other listed object' there

omit [LinearOrder Temp] in
theorem zeroOff_accumulate {object : LayerObject torch base Temp}
    (zeroOff : ZeroOff (stride monitor) object) {pluginMatrix : PluginMatrix}
    {grad : Values object.layer pluginMatrix}
    (frozen : ∀ row col, row.val % stride monitor ≠ 0 → grad row col = 0) :
    ZeroOff (stride monitor) (object.accumulate pluginMatrix grad) := by
  intro other total found row col off
  by_cases same : other = pluginMatrix
  · subst same
    have isTotal : (object.accumulate other grad).grad other = _ := Function.update_self _ _ _
    rw [isTotal] at found
    cases before : object.grad other with
    | none =>
        rw [before] at found
        cases found
        exact frozen row col off
    | some earlier =>
        rw [before] at found
        cases found
        have zero : earlier row col = 0 := zeroOff other earlier before row col off
        exact (congrArg₂ (· + ·) zero (frozen row col off)).trans (add_zero 0)
  · have isOther : (object.accumulate pluginMatrix grad).grad other = object.grad other :=
      Function.update_of_ne same _ _
    rw [isOther] at found
    exact zeroOff other total found row col off

theorem gated_backward (hot : AlwaysHot read monitor)
    (gradient : ℕ → (layer : StructuralPluginLayer torch) →
      (pluginMatrix : PluginMatrix) → Except Error (Values layer pluginMatrix))
    (order : List (ℕ × PluginMatrix)) :
    ∀ (objects : List (LayerObject torch base Temp)) (world : World),
      Gated layers monitor objects →
        Gated layers monitor (backward gradient read order objects world).2.1 := by
  induction order with
  | nil => intro objects world gated; exact gated
  | cons first rest ih =>
      intro objects world gated
      obtain ⟨ref, pluginMatrix⟩ := first
      unfold backward
      split
      · exact ih objects world gated
      · rename_i object found
        split
        · exact gated
        · split
          · exact gated
          · rename_i grad world' ran
            refine ih _ _ (gated.set found rfl fun listed => ?_)
            apply zeroOff_accumulate (gated.zeroOff ref listed object found)
            intro row col off
            exact runHooks_frozen hot (gated.armed ref listed object found) pluginMatrix ran col off

end Hot

section Optimizer
variable {update : Optimizer → R → R → R × Optimizer} {idle : Optimizer → Prop} {stride : ℕ}
  {object : LayerObject torch base Temp} {optimizer : PluginMatrix → ℕ → ℕ → Optimizer}
  {pluginMatrix : PluginMatrix} {row col : ℕ}

omit [LinearOrder Temp] in
theorem numberAt_optimize (still : KeepsStill update idle) (zeroOff : ZeroOff stride object)
    (moved : PluginMatrix → ℕ → ℕ → Bool) (off : row % stride ≠ 0)
    (isIdle : idle (optimizer pluginMatrix row col)) :
    numberAt (object.optimize update moved optimizer) pluginMatrix row col =
      numberAt object pluginMatrix row col := by
  have stepped : numberAt (object.optimize update moved optimizer) pluginMatrix row col =
      entry (fun (row : Fin (rows object.layer pluginMatrix))
          (col : Fin (cols object.layer pluginMatrix)) =>
        (object.grad pluginMatrix).elim (values object.layer pluginMatrix row col) fun grad =>
          if moved pluginMatrix row col then
            (update (optimizer pluginMatrix row col) (values object.layer pluginMatrix row col)
              (grad row col)).1
          else values object.layer pluginMatrix row col) row col := by
    cases pluginMatrix <;> rfl
  rw [stepped, numberAt]
  unfold entry
  split
  · rename_i inside
    cases found : object.grad pluginMatrix with
    | none => rfl
    | some grad =>
        have zero := zeroOff pluginMatrix grad found ⟨row, inside.1⟩ ⟨col, inside.2⟩ off
        simp only [Option.elim_some, zero, still.value _ _ isIdle, ite_self]
  · rfl

omit [LinearOrder Temp] in
theorem idle_optimizer (still : KeepsStill update idle) (zeroOff : ZeroOff stride object)
    (off : row % stride ≠ 0) (isIdle : idle (optimizer pluginMatrix row col)) :
    idle (object.optimizer update optimizer pluginMatrix row col) := by
  unfold LayerObject.optimizer
  cases found : object.grad pluginMatrix with
  | none => exact isIdle
  | some grad =>
      rw [Option.elim_some]
      split
      · rename_i inside
        have zero := zeroOff pluginMatrix grad found ⟨row, inside.1⟩ ⟨col, inside.2⟩ off
        rw [zero]
        exact still.stays _ _ isIdle
      · exact isIdle

end Optimizer

section Runs
variable {layers : Layers base} {monitor : ThermalMonitor Temp} {β τ : Type} [Fintype τ]
  {trainer : Trainer torch base Temp World Generator Loss Optimizer Error β τ}
  {idle : Optimizer → Prop}

/-- The invariant of the loop: in the rows that the stride passes over, the numbers are
those of `start` and the optimizer has seen nothing. -/
structure Frozen (layers : Layers base) (monitor : ThermalMonitor Temp) (idle : Optimizer → Prop)
    (start : List (LayerObject torch base Temp))
    (state : TrainState torch base Temp World Generator Loss Optimizer) : Prop where
  frame : Frame layers start state.model.objects
  armed : ∀ ref ∈ layers.values, ∀ object, start[ref]? = some object →
    object.gate.Armed (some monitor)
  numbers : ∀ ref ∈ layers.values, ∀ object object', start[ref]? = some object →
    state.model.objects[ref]? = some object' → ∀ pluginMatrix row col,
      row % stride monitor ≠ 0 →
        numberAt object' pluginMatrix row col = numberAt object pluginMatrix row col
  idle : ∀ ref ∈ layers.values, ∀ pluginMatrix row col, row % stride monitor ≠ 0 →
    idle (state.optimizer ref pluginMatrix row col)

omit [Field R] [LinearOrder Temp] in
theorem onLayers_get {model : Model torch base Temp}
    {change : ℕ → LayerObject torch base Temp → LayerObject torch base Temp} {ref : ℕ}
    {object' : LayerObject torch base Temp} (listed : ref ∈ layers.values)
    (there : (model.onLayers layers change).objects[ref]? = some object') :
    ∃ object, model.objects[ref]? = some object ∧ object' = change ref object := by
  rw [Model.onLayers, List.getElem?_mapIdx, Option.map_eq_some_iff] at there
  obtain ⟨object, found, isChanged⟩ := there
  rw [if_pos listed] at isChanged
  exact ⟨object, found, isChanged.symm⟩

section Step
variable {start : List (LayerObject torch base Temp)}
  {state : TrainState torch base Temp World Generator Loss Optimizer}

omit [Fintype τ] in
theorem Frozen.gated (frozen : Frozen layers monitor idle start state)
    (hot : AlwaysHot trainer.read monitor) (tokens : β → τ → Fin base.vocabSize) :
    Gated layers monitor
      (zeroAndBackward trainer layers state.model state.world tokens).2.1 := by
  apply gated_backward hot
  refine ⟨fun ref listed object there => ?_, fun ref listed object there => ?_⟩
  · obtain ⟨before, found, rfl⟩ := onLayers_get listed there
    obtain ⟨first, atStart, same⟩ := frozen.frame.back found
    have gate : before.zeroGrad.gate = first.gate := same.gate
    rw [gate]
    exact frozen.armed ref listed first atStart
  · obtain ⟨before, found, rfl⟩ := onLayers_get listed there
    intro pluginMatrix grad isGrad
    cases isGrad

omit [Fintype τ] in
theorem layer_zeroAndBackward {model : Model torch base Temp} {world : World}
    {tokens : β → τ → Fin base.vocabSize} {ref : ℕ} {object' : LayerObject torch base Temp}
    (there : (zeroAndBackward trainer layers model world tokens).2.1[ref]? = some object') :
    ∃ object, model.objects[ref]? = some object ∧ object'.layer = object.layer := by
  obtain ⟨object, found, same⟩ :=
    (frame_zeroAndBackward layers trainer Dict.empty model world tokens).back there
  exact ⟨object, found, same.layer List.not_mem_nil⟩

omit [Field R] [LinearOrder Temp] in
theorem Frozen.numbers_of_layers (frozen : Frozen layers monitor idle start state)
    {objects : List (LayerObject torch base Temp)}
    (kept : ∀ (ref : ℕ) object', objects[ref]? = some object' →
      ∃ object, state.model.objects[ref]? = some object ∧ object'.layer = object.layer) :
    ∀ ref ∈ layers.values, ∀ object object', start[ref]? = some object →
      objects[ref]? = some object' → ∀ pluginMatrix row col, row % stride monitor ≠ 0 →
        numberAt object' pluginMatrix row col = numberAt object pluginMatrix row col := by
  intro ref listed object object' atStart there pluginMatrix row col off
  obtain ⟨middle, found, sameLayer⟩ := kept ref object' there
  rw [← frozen.numbers ref listed object middle atStart found pluginMatrix row col off, numberAt,
    numberAt, sameLayer]

omit [LinearOrder Temp] [Fintype τ] in
theorem Frozen.optimizerStep (frozen : Frozen layers monitor idle start state)
    (still : KeepsStill trainer.update idle) {objects : List (LayerObject torch base Temp)}
    (frame : Frame layers state.model.objects objects)
    (kept : ∀ (ref : ℕ) object', objects[ref]? = some object' →
      ∃ object, state.model.objects[ref]? = some object ∧ object'.layer = object.layer)
    (gated : Gated layers monitor objects) :
    Frozen layers monitor idle start (optimizerStep trainer layers state objects).2 := by
  have frame := frozen.frame.trans
    (frame.trans (frame_optimizerStep layers trainer state objects).2)
  have numbers : ∀ moved : ℕ → PluginMatrix → ℕ → ℕ → Bool, ∀ ref ∈ layers.values,
      ∀ object object', start[ref]? = some object →
        (moveNumbers trainer layers state objects moved).objects[ref]? = some object' →
          ∀ pluginMatrix row col, row % stride monitor ≠ 0 →
            numberAt object' pluginMatrix row col = numberAt object pluginMatrix row col := by
    intro moved ref listed object object' atStart there pluginMatrix row col off
    obtain ⟨graded, found, rfl⟩ := onLayers_get listed there
    rw [numberAt_optimize still (gated.zeroOff ref listed graded found) (moved ref) off
      (frozen.idle ref listed pluginMatrix row col off)]
    exact frozen.numbers_of_layers kept ref listed object graded atStart found pluginMatrix row col
      off
  unfold Training.optimizerStep at frame ⊢
  split at frame
  · exact ⟨frame, frozen.armed, numbers _, frozen.idle⟩
  · refine ⟨frame, frozen.armed, numbers _, ?_⟩
    intro ref listed pluginMatrix row col off
    have before := frozen.idle ref listed pluginMatrix row col off
    cases found : objects[ref]? with
    | none => simpa only [found] using before
    | some graded =>
        simpa only [found, if_pos listed] using
          idle_optimizer still (gated.zeroOff ref listed graded found) off before

theorem Frozen.iteration (frozen : Frozen layers monitor idle start state)
    (hot : AlwaysHot trainer.read monitor) (still : KeepsStill trainer.update idle) :
    Frozen layers monitor idle start (iteration trainer layers state).2 := by
  unfold Training.iteration
  split
  · exact ⟨frozen.frame, frozen.armed, frozen.numbers, frozen.idle⟩
  · rename_i tokens generator drawn
    dsimp only
    split
    · exact ⟨frozen.frame, frozen.armed, frozen.numbers, frozen.idle⟩
    · have frame := frame_zeroAndBackward layers trainer layers state.model state.world tokens
      have kept := fun ref object' => @layer_zeroAndBackward _ _ _ _ _ _ _ _ _ _ _ _ layers _ _
        trainer state.model state.world tokens ref object'
      have gated := frozen.gated hot tokens
      split
      · rename_i error objects world ran
        rw [ran] at frame kept
        exact ⟨frozen.frame.trans frame, frozen.armed, frozen.numbers_of_layers kept, frozen.idle⟩
      · rename_i objects world ran
        rw [ran] at frame kept gated
        have now : Frozen layers monitor idle start
            { state with generator := generator, world := world } :=
          ⟨frozen.frame, frozen.armed, frozen.numbers, frozen.idle⟩
        have next := now.optimizerStep still frame kept gated
        split
        · rename_i error stepped done
          rw [done] at next
          exact next
        · rename_i stepped done
          rw [done] at next
          exact ⟨next.frame, next.armed, next.numbers, next.idle⟩

theorem Frozen.loop (hot : AlwaysHot trainer.read monitor) (still : KeepsStill trainer.update idle)
    (steps : ℕ) : ∀ state : TrainState torch base Temp World Generator Loss Optimizer,
      Frozen layers monitor idle start state →
        Frozen layers monitor idle start (loop trainer layers steps state).2 := by
  induction steps with
  | zero => intro state frozen; exact frozen
  | succ steps ih =>
      intro state frozen
      have next := frozen.iteration hot still
      unfold Training.loop
      split
      · rename_i error after ran
        rw [ran] at next
        exact next
      · rename_i after ran
        rw [ran] at next
        exact ih after next

end Step

end Runs

def ungated (object : LayerObject torch base Temp) : LayerObject torch base Temp :=
  { object with gate := LayerGate.fresh }

/-- The same objects up to their hooks. -/
def SameNumbers (first second : List (LayerObject torch base Temp)) : Prop :=
  first.map ungated = second.map ungated

section Same
variable {layers : Layers base} {first second : List (LayerObject torch base Temp)}
  {model model' : Model torch base Temp}

omit [Field R] [LinearOrder Temp] in
theorem SameNumbers.get (same : SameNumbers first second) (ref : ℕ) :
    (first[ref]?).map ungated = (second[ref]?).map ungated := by
  rw [← List.getElem?_map, ← List.getElem?_map, same]

omit [Field R] [LinearOrder Temp] in
theorem SameNumbers.object (same : SameNumbers first second) {ref : ℕ}
    {object : LayerObject torch base Temp} (found : first[ref]? = some object) :
    ∃ gate, second[ref]? = some { object with gate := gate } := by
  have here := same.get ref
  rw [found, Option.map_some, eq_comm, Option.map_eq_some_iff] at here
  obtain ⟨object', found', sameObject⟩ := here
  obtain ⟨key, layer, wraps, gate, grad⟩ := object
  obtain ⟨key', layer', wraps', gate', grad'⟩ := object'
  cases sameObject
  exact ⟨gate', found'⟩

omit [Field R] [LinearOrder Temp] in
theorem SameNumbers.graded (same : SameNumbers first second) :
    first.map LayerObject.graded = second.map LayerObject.graded := by
  have graded := congrArg (List.map LayerObject.graded) same
  rw [List.map_map, List.map_map] at graded
  exact graded

omit [Field R] [LinearOrder Temp] in
theorem SameNumbers.onLayers {change : ℕ → LayerObject torch base Temp →
      LayerObject torch base Temp}
    (same : SameNumbers model.objects model'.objects)
    (apart : ∀ ref object, ungated (change ref object) = ungated (change ref (ungated object))) :
    SameNumbers (model.onLayers layers change).objects (model'.onLayers layers change).objects := by
  have commutes : ∀ objects : List (LayerObject torch base Temp),
      (objects.mapIdx fun ref object => if ref ∈ layers.values then change ref object else object).map
          ungated =
        ((objects.map ungated).mapIdx fun ref object =>
          if ref ∈ layers.values then change ref object else object).map ungated := by
    intro objects
    apply List.ext_getElem?
    intro ref
    simp only [List.getElem?_map, List.getElem?_mapIdx, Option.map_map]
    congr 1
    funext object
    simp only [Function.comp_apply]
    split
    · exact apart ref object
    · rfl
  unfold SameNumbers at same ⊢
  unfold Model.onLayers
  rw [commutes model.objects, commutes model'.objects, same]

omit [Field R] [LinearOrder Temp] in
theorem SameNumbers.slotAt (same : SameNumbers model.objects model'.objects)
    (slots : model.slots = model'.slots) (key : Key base.nLayers) :
    model.slotAt key = model'.slotAt key := by
  have reads : ∀ which : Model torch base Temp, which.slotAt key =
      slotOf key ((which.slots key).bind fun ref => (which.objects.map ungated)[ref]?) := by
    intro which
    unfold Model.slotAt
    cases which.slots key with
    | none => rfl
    | some ref =>
        rw [Option.bind_some, Option.bind_some, List.getElem?_map]
        cases which.objects[ref]? <;> rfl
  unfold SameNumbers at same
  rw [reads model, reads model', same, slots]

omit [Field R] [LinearOrder Temp] in
theorem SameNumbers.plugged (same : SameNumbers model.objects model'.objects)
    (slots : model.slots = model'.slots) : model.plugged = model'.plugged := by
  funext key
  unfold Model.plugged
  rw [slots]
  congr 1
  funext ref
  have here := congrArg (Option.map fun object : LayerObject torch base Temp => (ref, object.layer))
    (same.get ref)
  rw [Option.map_map, Option.map_map] at here
  exact here

end Same

/-- Every reading succeeds and none throttles. -/
def AlwaysCool (read : ThermalMonitor Temp → World → Except Error Temp × World)
    (monitor : ThermalMonitor Temp) : Prop :=
  ∀ world, ∃ temperatureC world', read monitor world = (.ok temperatureC, world') ∧
    isThrottling monitor temperatureC = false

def AllGates (holds : LayerGate Temp → Prop) (objects : List (LayerObject torch base Temp)) :
    Prop :=
  ∀ object ∈ objects, holds object.gate

def OnlyHooks (monitor : ThermalMonitor Temp) (gate : LayerGate Temp) : Prop :=
  ∀ pluginMatrix, ∀ hook ∈ gate.hooks pluginMatrix, hook.2 = monitor

def NoHooks (gate : LayerGate Temp) : Prop := ∀ pluginMatrix, gate.hooks pluginMatrix = []

section Cool
variable {read : ThermalMonitor Temp → World → Except Error Temp × World}
  {monitor : ThermalMonitor Temp}

theorem runHooks_cool (cool : AlwaysCool read monitor) {rows cols : ℕ}
    (grad : Matrix (Fin rows) (Fin cols) R) (hooks : List (ℕ × ThermalMonitor Temp)) :
    (∀ hook ∈ hooks, hook.2 = monitor) → ∀ world, ∃ world',
      runHooks read hooks grad world = (.ok grad, world') := by
  induction hooks with
  | nil => intro _ world; exact ⟨world, rfl⟩
  | cons first rest ih =>
      intro only world
      obtain ⟨key, other⟩ := first
      have isMonitor : other = monitor := only _ List.mem_cons_self
      subst isMonitor
      obtain ⟨temperatureC, world', reads, notThrottling⟩ := cool world
      have passes : hook other temperatureC grad = grad := by
        simp [hook, notThrottling]
      unfold runHooks
      rw [reads]
      simp only [passes]
      exact ih (fun hook member => only hook (List.mem_cons_of_mem _ member)) world'

/-- The backward pass of a cool run beside the one without hooks. -/
theorem backward_cool (cool : AlwaysCool read monitor)
    (gradient : ℕ → (layer : StructuralPluginLayer torch) →
      (pluginMatrix : PluginMatrix) → Except Error (Values layer pluginMatrix))
    (order : List (ℕ × PluginMatrix)) :
    ∀ (objects bare : List (LayerObject torch base Temp)) (world world' : World),
      SameNumbers objects bare → AllGates (OnlyHooks monitor) objects → AllGates NoHooks bare →
        ∃ outcome after afterBare reached,
          backward gradient read order objects world = (outcome, after, reached) ∧
          backward gradient read order bare world' = (outcome, afterBare, world') ∧
          SameNumbers after afterBare ∧ AllGates (OnlyHooks monitor) after ∧ AllGates NoHooks afterBare := by
  induction order with
  | nil =>
      intro objects bare world world' same only none'
      exact ⟨none, objects, bare, world, rfl, rfl, same, only, none'⟩
  | cons first rest ih =>
      intro objects bare world world' same only none'
      obtain ⟨ref, pluginMatrix⟩ := first
      cases found : objects[ref]? with
      | none =>
          have foundBare : bare[ref]? = none := by
            have here := same.get ref
            rw [found] at here
            exact Option.map_eq_none_iff.mp here.symm
          obtain ⟨outcome, after, afterBare, reached, ran, ranBare, rest'⟩ :=
            ih objects bare world world' same only none'
          refine ⟨outcome, after, afterBare, reached, ?_, ?_, rest'⟩
          · simp only [backward, found, ran]
          · simp only [backward, foundBare, ranBare]
      | some object =>
          obtain ⟨gate, foundBare⟩ := same.object found
          have member := List.mem_of_getElem? found
          have memberBare := List.mem_of_getElem? foundBare
          cases graded : gradient ref object.layer pluginMatrix with
          | error error =>
              refine ⟨some error, objects, bare, world, ?_, ?_, same, only, none'⟩
              · simp only [backward, found, graded]
              · simp only [backward, foundBare, graded]
          | ok grad =>
              obtain ⟨next, ran⟩ := runHooks_cool cool grad (object.gate.hooks pluginMatrix)
                (only object member pluginMatrix) world
              have noHooks : gate.hooks pluginMatrix = [] := none' _ memberBare pluginMatrix
              have here : SameNumbers (objects.set ref (object.accumulate pluginMatrix grad))
                  (bare.set ref
                    (LayerObject.accumulate { object with gate := gate } pluginMatrix grad)) := by
                unfold SameNumbers at same ⊢
                rw [List.map_set, List.map_set, same]
                rfl
              obtain ⟨outcome, after, afterBare, reached, later, laterBare, rest'⟩ :=
                ih _ _ next world' here
                  (fun other listed => by
                    rcases List.mem_or_eq_of_mem_set listed with old | new
                    · exact only other old
                    · exact new ▸ only object member)
                  (fun other listed => by
                    rcases List.mem_or_eq_of_mem_set listed with old | new
                    · exact none' other old
                    · have bareGate : NoHooks gate := none' _ memberBare
                      exact new ▸ bareGate)
              refine ⟨outcome, after, afterBare, reached, ?_, ?_, rest'⟩
              · simp only [backward, found, graded, ran, later]
              · simp only [backward, foundBare, graded, noHooks, runHooks, laterBare]

end Cool

section CoolRun
variable {layers : Layers base} {monitor : ThermalMonitor Temp} {β τ : Type} [Fintype τ]
  {trainer : Trainer torch base Temp World Generator Loss Optimizer Error β τ}

/-- A cool run and the run without hooks, side by side. -/
structure SameRun (monitor : ThermalMonitor Temp)
    (gated bare : TrainState torch base Temp World Generator Loss Optimizer) : Prop where
  slots : gated.model.slots = bare.model.slots
  objects : SameNumbers gated.model.objects bare.model.objects
  optimizer : gated.optimizer = bare.optimizer
  generator : gated.generator = bare.generator
  losses : gated.losses = bare.losses
  only : AllGates (OnlyHooks monitor) gated.model.objects
  none : AllGates NoHooks bare.model.objects

omit [Field R] [LinearOrder Temp] in
theorem hooks_onLayers (layers : Layers base) {model : Model torch base Temp}
    (change : ℕ → LayerObject torch base Temp → LayerObject torch base Temp)
    (keeps : ∀ ref object, (change ref object).gate = object.gate) {holds : LayerGate Temp → Prop}
    (before : AllGates holds model.objects) :
    AllGates holds (model.onLayers layers change).objects := by
  intro object' member
  obtain ⟨ref, there⟩ := List.getElem?_of_mem member
  rw [Model.onLayers, List.getElem?_mapIdx, Option.map_eq_some_iff] at there
  obtain ⟨object, found, rfl⟩ := there
  have held := before object (List.mem_of_getElem? found)
  split
  · rw [keeps]
    exact held
  · exact held

omit [LinearOrder Temp] in
theorem SameRun.forward {gated bare : TrainState torch base Temp World Generator Loss Optimizer}
    (same : SameRun monitor gated bare) (functions : Functions R)
    (tokens : β → τ → Fin base.vocabSize) :
    gated.model.forward functions tokens = bare.model.forward functions tokens := by
  unfold Model.forward
  congr 1
  funext index name
  exact same.objects.slotAt same.slots ⟨index, name⟩

omit [Fintype τ] in
theorem SameRun.zeroAndBackward
    {gated bare : TrainState torch base Temp World Generator Loss Optimizer}
    (same : SameRun monitor gated bare) (layers : Layers base) (cool : AlwaysCool trainer.read monitor)
    (tokens : β → τ → Fin base.vocabSize) :
    ∃ outcome after afterBare reached,
      Training.zeroAndBackward trainer layers gated.model gated.world tokens =
          (outcome, after, reached) ∧
        Training.zeroAndBackward trainer layers bare.model bare.world tokens =
          (outcome, afterBare, bare.world) ∧
        SameNumbers after afterBare ∧ AllGates (OnlyHooks monitor) after ∧ AllGates NoHooks afterBare := by
  have zeroed : SameNumbers
      (gated.model.onLayers layers fun _ => LayerObject.zeroGrad).objects
      (bare.model.onLayers layers fun _ => LayerObject.zeroGrad).objects :=
    SameNumbers.onLayers same.objects fun _ _ => rfl
  have plugged := zeroed.plugged same.slots
  unfold Training.zeroAndBackward
  dsimp only
  rw [plugged]
  exact backward_cool cool _ _ _ _ _ _ zeroed
    (hooks_onLayers layers (fun _ => LayerObject.zeroGrad) (fun _ _ => rfl) same.only)
    (hooks_onLayers layers (fun _ => LayerObject.zeroGrad) (fun _ _ => rfl) same.none)

omit [Field R] [LinearOrder Temp] [Fintype τ] in
/-- The optimizer does not see the hooks, and fails in both runs or in none. -/
theorem SameRun.optimizerStep
    (trainer : Trainer torch base Temp World Generator Loss Optimizer Error β τ)
    (layers : Layers base) {gated bare : TrainState torch base Temp World Generator Loss Optimizer}
    (same : SameRun monitor gated bare) {objects afterBare : List (LayerObject torch base Temp)}
    (numbers : SameNumbers objects afterBare) (only : AllGates (OnlyHooks monitor) objects)
    (none : AllGates NoHooks afterBare) :
    (Training.optimizerStep trainer layers gated objects).1 =
        (Training.optimizerStep trainer layers bare afterBare).1 ∧
      SameRun monitor (Training.optimizerStep trainer layers gated objects).2
        (Training.optimizerStep trainer layers bare afterBare).2 := by
  have moved : ∀ moved : ℕ → PluginMatrix → ℕ → ℕ → Bool,
      SameNumbers (moveNumbers trainer layers gated objects moved).objects
        (moveNumbers trainer layers bare afterBare moved).objects := by
    intro moved
    unfold moveNumbers
    rw [same.optimizer]
    exact SameNumbers.onLayers numbers fun _ _ => rfl
  have movedOnly : ∀ moved : ℕ → PluginMatrix → ℕ → ℕ → Bool,
      AllGates (OnlyHooks monitor) (moveNumbers trainer layers gated objects moved).objects :=
    fun moved => hooks_onLayers layers (fun ref =>
      LayerObject.optimize trainer.update (moved ref) (gated.optimizer ref)) (fun _ _ => rfl) only
  have movedNone : ∀ moved : ℕ → PluginMatrix → ℕ → ℕ → Bool,
      AllGates NoHooks (moveNumbers trainer layers bare afterBare moved).objects :=
    fun moved => hooks_onLayers layers (fun ref =>
      LayerObject.optimize trainer.update (moved ref) (bare.optimizer ref)) (fun _ _ => rfl) none
  unfold Training.optimizerStep
  rw [numbers.graded, same.optimizer]
  split
  · exact ⟨rfl, same.slots, moved _, rfl, same.generator, same.losses, movedOnly _, movedNone _⟩
  · refine ⟨rfl, same.slots, moved _, ?_, same.generator, same.losses, movedOnly _, movedNone _⟩
    funext ref
    dsimp only
    cases found : objects[ref]? with
    | none =>
        have here := numbers.get ref
        rw [found] at here
        rw [Option.map_eq_none_iff.mp here.symm]
    | some object =>
        obtain ⟨gate, foundBare⟩ := numbers.object found
        rw [foundBare]
        rfl

theorem SameRun.iteration
    {gated bare : TrainState torch base Temp World Generator Loss Optimizer}
    (same : SameRun monitor gated bare) (layers : Layers base) (cool : AlwaysCool trainer.read monitor) :
    (Training.iteration trainer layers gated).1 = (Training.iteration trainer layers bare).1 ∧
      SameRun monitor (Training.iteration trainer layers gated).2
        (Training.iteration trainer layers bare).2 := by
  have forward := fun tokens : β → τ → Fin base.vocabSize => same.forward trainer.functions tokens
  unfold Training.iteration
  rw [same.generator]
  split
  · exact ⟨rfl, same.slots, same.objects, same.optimizer, rfl, same.losses, same.only, same.none⟩
  · rename_i tokens generator drawn
    dsimp only
    rw [forward tokens]
    split
    · exact ⟨rfl, same.slots, same.objects, same.optimizer, rfl, same.losses, same.only, same.none⟩
    · rename_i loss computed
      obtain ⟨outcome, after, afterBare, reached, ran, ranBare, numbers, only, none'⟩ :=
        same.zeroAndBackward layers cool tokens
      rw [ran, ranBare]
      cases outcome with
      | some error =>
          exact ⟨rfl, same.slots, numbers, same.optimizer, rfl, same.losses, only, none'⟩
      | none =>
          have now : SameRun monitor { gated with generator := generator, world := reached }
              { bare with generator := generator } :=
            ⟨same.slots, same.objects, same.optimizer, rfl, same.losses, same.only, same.none⟩
          obtain ⟨outcomes, next⟩ := SameRun.optimizerStep trainer layers now numbers only none'
          dsimp only
          cases stepped : Training.optimizerStep trainer layers
              { gated with generator := generator, world := reached } after with
          | mk outcome final =>
              cases steppedBare : Training.optimizerStep trainer layers
                  { bare with generator := generator } afterBare with
              | mk outcomeBare finalBare =>
                  rw [stepped, steppedBare] at outcomes next
                  cases outcomes
                  cases outcome with
                  | some error => exact ⟨rfl, next⟩
                  | none =>
                      exact ⟨rfl, next.slots, next.objects, next.optimizer, next.generator,
                        congrArg (· ++ [loss]) next.losses, next.only, next.none⟩

theorem SameRun.loop (layers : Layers base) (cool : AlwaysCool trainer.read monitor) (steps : ℕ) :
    ∀ gated bare : TrainState torch base Temp World Generator Loss Optimizer,
      SameRun monitor gated bare →
        (Training.loop trainer layers steps gated).1 = (Training.loop trainer layers steps bare).1 ∧
          SameRun monitor (Training.loop trainer layers steps gated).2
            (Training.loop trainer layers steps bare).2 := by
  induction steps with
  | zero => intro gated bare same; exact ⟨rfl, same⟩
  | succ steps ih =>
      intro gated bare same
      have next := same.iteration layers cool
      unfold Training.loop
      cases ran : Training.iteration trainer layers gated with
      | mk outcome state =>
          cases ranBare : Training.iteration trainer layers bare with
          | mk outcomeBare stateBare =>
              rw [ran, ranBare] at next
              obtain ⟨rfl, sameNext⟩ := next
              cases outcome with
              | none => exact ih state stateBare sameNext
              | some error => exact ⟨rfl, sameNext⟩

omit [Field R] [LinearOrder Temp] in
theorem sameNumbers_gates (layers : Layers base) (model : Model torch base Temp)
    (gateOf : LayerGate Temp → LayerGate Temp) :
    SameNumbers
      (model.onLayers layers fun _ object => { object with gate := gateOf object.gate }).objects
      model.objects := by
  unfold SameNumbers Model.onLayers
  apply List.ext_getElem?
  intro ref
  simp only [List.getElem?_map, List.getElem?_mapIdx, Option.map_map]
  congr 1
  funext object
  simp only [Function.comp_apply]
  split <;> rfl

omit [Field R] [LinearOrder Temp] in
theorem onlyHooks_gateLayers (layers : Layers base) (monitor : ThermalMonitor Temp)
    {model : Model torch base Temp} (bare : ∀ object ∈ model.objects, object.gate.Armed none) :
    AllGates (OnlyHooks monitor) (gateLayers layers (some monitor) model).objects := by
  intro object' member pluginMatrix hook listed
  obtain ⟨ref, there⟩ := List.getElem?_of_mem member
  rw [gateLayers, Model.onLayers, List.getElem?_mapIdx, Option.map_eq_some_iff] at there
  obtain ⟨object, found, rfl⟩ := there
  have unarmed := bare object (List.mem_of_getElem? found)
  split at listed
  · obtain ⟨keyA, keyB, -, atA, atB⟩ := unarmed.gate monitor
    cases pluginMatrix with
    | A => rw [atA] at listed; cases List.mem_singleton.mp listed; rfl
    | B => rw [atB] at listed; cases List.mem_singleton.mp listed; rfl
  · rw [unarmed.2 pluginMatrix] at listed
    cases listed

end CoolRun

/-- A run in which no reading throttles returns or raises what the run without a monitor
returns or raises, and leaves the same numbers in every layer. -/
theorem cool_run_same {β τ : Type} [Fintype τ]
    (trainer : Trainer torch base Temp World Generator Loss Optimizer Error β τ)
    (layers : Layers base) (monitor : ThermalMonitor Temp) (model : Model torch base Temp)
    (generator : Generator) (world : World) (cool : AlwaysCool trainer.read monitor)
    (bare : ∀ object ∈ model.objects, object.gate.Armed none) :
    let gated := trainAdapter trainer layers (some monitor) model generator world
    let ungatedRun := trainAdapter trainer layers none model generator world
    gated.result = ungatedRun.result ∧ gated.generator = ungatedRun.generator ∧
      gated.model.slots = ungatedRun.model.slots ∧
      gated.model.objects.map LayerObject.layer = ungatedRun.model.objects.map LayerObject.layer := by
  have start : SameRun monitor
      (⟨gateLayers layers (some monitor) model, fun _ _ _ _ => trainer.initial, generator, world,
        []⟩ : TrainState torch base Temp World Generator Loss Optimizer)
      ⟨model, fun _ _ _ _ => trainer.initial, generator, world, []⟩ :=
    ⟨rfl, sameNumbers_gates layers model (·.gateGradients monitor), rfl, rfl, rfl,
      onlyHooks_gateLayers layers monitor bare, fun object member => (bare object member).2⟩
  obtain ⟨outcomes, sameRun⟩ := SameRun.loop layers cool trainer.steps _ _ start
  have numbers : ∀ {first second : List (LayerObject torch base Temp)}, SameNumbers first second →
      first.map LayerObject.layer = second.map LayerObject.layer := by
    intro first second same
    have layersOf := congrArg (List.map LayerObject.layer) same
    rw [List.map_map, List.map_map] at layersOf
    exact layersOf
  intro gated ungatedRun
  unfold gated ungatedRun trainAdapter
  dsimp only
  cases built : trainer.adam (parameters layers) with
  | some error => exact ⟨rfl, rfl, rfl, numbers start.objects⟩
  | none =>
      have ungatedStart : gateLayers layers none model = model := rfl
      have cleared := fun which : Model torch base Temp =>
        sameNumbers_gates layers which LayerGate.clearGradientGate
      rw [ungatedStart]
      dsimp only
      cases ran : loop trainer layers trainer.steps
          (⟨gateLayers layers (some monitor) model, fun _ _ _ _ => trainer.initial, generator, world,
            []⟩ : TrainState torch base Temp World Generator Loss Optimizer) with
      | mk outcome state =>
          cases ranBare : loop trainer layers trainer.steps
              (⟨model, fun _ _ _ _ => trainer.initial, generator, world, []⟩ :
                TrainState torch base Temp World Generator Loss Optimizer) with
          | mk outcomeBare stateBare =>
              rw [ran, ranBare] at outcomes sameRun
              have same := (cleared state.model).trans sameRun.objects
              cases outcomes
              cases outcome with
              | some error => exact ⟨rfl, sameRun.generator, sameRun.slots, numbers same⟩
              | none =>
                  exact ⟨congrArg Except.ok sameRun.losses, sameRun.generator, sameRun.slots,
                    numbers same⟩

end Thermal

/-- Adam leaves a number that has only had zero gradients. -/
theorem adam_keepsStill (sqrt : ℚ → ℚ) (lr : ℚ) :
    KeepsStill (adamUpdate sqrt lr) fun state => state.2 = (0, 0) where
  value state value idle := by
    obtain ⟨step, averages⟩ := state
    cases idle
    simp [adamUpdate]
  stays state value idle := by
    obtain ⟨step, averages⟩ := state
    cases idle
    simp [adamUpdate]

theorem cool_run_same_rankTwo :
    (trainAdapter (constantTrainer 25) onFc1 (some oneFifth) rankTwoModel () 0).model.objects.map
        LayerObject.layer =
      (trainAdapter (constantTrainer 25) onFc1 none rankTwoModel () 0).model.objects.map
        LayerObject.layer := by
  have cool : AlwaysCool (constantTrainer 25).read oneFifth := fun world =>
    ⟨25, world + 1, rfl, by decide⟩
  exact (cool_run_same (constantTrainer 25) onFc1 oneFifth rankTwoModel () 0 cool
    armed_rankTwo).2.2.2

end Msp.Training
