import Msp.Library.Machine
import Msp.Training.TrainingFrame

/-!
# Sessions over one frozen base

The calls that a program makes on the blocks and on the files it saves to
(`examples/e2e_training.py`): collecting the base layers, attaching adapters,
plugging them in, training one of them, switching a layer's routing, saving and
loading.  A call that raises leaves the session as it was.  Another program may
write to the files at any time.

A dictionary of layers is one that `attach_adapters` or `load_adapter` returned,
or a part of one: it lists every layer object under its own key.
-/

set_option autoImplicit false

namespace Msp.Training

open Msp.Library Msp.Python.PluginLayer Msp.Python.GradientGate Msp.Python.Persistence

section Session
variable {DType R : Type} {torch : Torch DType R R} {base : Base DType R} {Temp : Type}

namespace Model

def named (model : Model torch base Temp) (layers : Layers base) :
    Dict String (StructuralPluginLayer torch) :=
  Dict.empty.update (layers.entries.filterMap fun item =>
    (model.objects[item.2]?).map fun object => (item.1.text, object.layer))

def lists (model : Model torch base Temp) (layers : Layers base) : Bool :=
  layers.entries.all fun item => (model.objects[item.2]?).any fun object =>
    decide (object.key = item.1)

def route (model : Model torch base Temp) (ref : ℕ) (enabled : Bool) : Model torch base Temp :=
  { model with
    objects := model.objects.modify ref fun object =>
      { object with layer := { object.layer with routingGateEnabled := enabled } } }

end Model

/-- `base_linears`, or a part of it. -/
def bases (base : Base DType R) (chosen : List (Key base.nLayers)) : Dict String (Linear DType) :=
  Dict.empty.update (chosen.map fun key => (key.text, base.config.sublayer base.dtype key.name))

def loadedObjects [DecidableEq DType] (loaded : Dict String (StructuralPluginLayer torch))
    (chosen : List (Key base.nLayers)) : List (LayerObject torch base Temp) :=
  chosen.filterMap fun key => (loaded.get? key.text).bind fun layer =>
    if wraps : layer.base = base.config.sublayer base.dtype key.name then
      some ⟨key, layer, wraps, LayerGate.fresh, fun _ => none⟩
    else none

structure Session (torch : Torch DType R R) (base : Base DType R) (Temp : Type) where
  model : Model torch base Temp
  baseLinears : List (Key base.nLayers)
  files : String → Option (SafetensorsFile DType R)

inductive Call (torch : Torch DType R R) (base : Base DType R)
    (Temp World Generator Loss Optimizer Error β τ : Type) where
  | collect
  | attach (chosen : List (Key base.nLayers)) (rank : Int) (alpha : R)
  | plugIn (layers : Layers base)
  | train (trainer : Trainer torch base Temp World Generator Loss Optimizer Error β τ)
      (layers : Layers base) (monitor : Option (ThermalMonitor Temp)) (generator : Generator)
      (world : World)
  | route (ref : ℕ) (enabled : Bool)
  | save (path : String) (layers : Layers base)
  | load (path : String) (chosen : List (Key base.nLayers))
  | write (path : String) (file : Option (SafetensorsFile DType R))

namespace Session

def fresh (files : String → Option (SafetensorsFile DType R)) : Session torch base Temp :=
  ⟨⟨[], fun _ => none⟩, [], files⟩

def saveAdapter (codec : JsonCodec R) (path : String) (layers : Layers base)
    (session : Session torch base Temp) : Except PyError (Session torch base Temp) :=
  (Msp.Python.Persistence.saveAdapter codec (session.model.named layers)).map fun file =>
    { session with files := Function.update session.files path (some file) }

def loadAdapter [DecidableEq DType] (codec : JsonCodec R) (path : String)
    (chosen : List (Key base.nLayers)) (session : Session torch base Temp) :
    Except PyError (Layers base × Session torch base Temp) :=
  (Msp.Python.Persistence.loadAdapter torch codec path (session.files path)
      (bases base chosen)).map fun loaded =>
    let adopted := session.model.adopt (loadedObjects loaded chosen)
    (adopted.1, { session with model := adopted.2 })

end Session

variable [Field R] [LinearOrder Temp] [DecidableEq DType]
  {World Generator Loss Optimizer Error β τ : Type} [Fintype τ]

/-- One call; a call on layers that do not exist is refused. -/
def step (codec : JsonCodec R) (session : Session torch base Temp) :
    Call torch base Temp World Generator Loss Optimizer Error β τ →
      Option (Session torch base Temp)
  | .collect =>
      match session.model.collectBaseSublayers with
      | .error _ => some session
      | .ok collected => some { session with baseLinears := collected }
  | .attach chosen rank alpha =>
      if ∀ key ∈ chosen, key ∈ session.baseLinears then
        match session.model.attachAdapters chosen rank alpha with
        | .error _ => some session
        | .ok (_, model) => some { session with model := model }
      else none
  | .plugIn layers =>
      if session.model.lists layers then
        some { session with model := session.model.plugIn layers }
      else none
  | .train trainer layers monitor generator world =>
      if session.model.lists layers then
        some { session with
          model := (trainAdapter trainer layers monitor session.model generator world).model }
      else none
  | .route ref enabled => some { session with model := session.model.route ref enabled }
  | .save path layers =>
      if session.model.lists layers then
        match session.saveAdapter codec path layers with
        | .error _ => some session
        | .ok saved => some saved
      else none
  | .load path chosen =>
      if ∀ key ∈ chosen, key ∈ session.baseLinears then
        match session.loadAdapter codec path chosen with
        | .error _ => some session
        | .ok (_, loaded) => some loaded
      else none
  | .write path file => some { session with files := Function.update session.files path file }

/-! ## What a call does to the layer objects -/

structure WellMade (object : LayerObject torch base Temp) : Prop where
  sameDtype : object.layer.adapterDtype = object.layer.base.weightDtype
  scaled : ∃ alpha, object.layer.scaling = torch.divide alpha object.layer.rank
  armed : ∃ latest, object.gate.Armed latest

omit [Field R] [LinearOrder Temp] [DecidableEq DType] in
theorem WellMade.of_settings {object object' : LayerObject torch base Temp}
    (made : WellMade object) (same : settings object'.layer = settings object.layer)
    (armed : ∃ latest, object'.gate.Armed latest) : WellMade object' := by
  have sameBase : object'.layer.base = object.layer.base := congrArg Settings.base same
  have sameRank : object'.layer.rank = object.layer.rank := congrArg Settings.rank same
  have sameScaling : object'.layer.scaling = object.layer.scaling :=
    congrArg Settings.scaling same
  have sameDtype : object'.layer.adapterDtype = object.layer.adapterDtype :=
    congrArg Settings.adapterDtype same
  obtain ⟨alpha, scaling⟩ := made.scaled
  exact ⟨by rw [sameDtype, sameBase, made.sameDtype],
    ⟨alpha, by rw [sameScaling, sameRank, scaling]⟩, armed⟩

omit [Field R] [DecidableEq DType] in
theorem scaling_of_construct {linear : Linear DType} {rank : Int} {alpha : R}
    {layer : StructuralPluginLayer torch}
    (constructed : StructuralPluginLayer.construct torch linear rank alpha none = .ok layer) :
    layer.scaling = torch.divide alpha layer.rank := by
  unfold StructuralPluginLayer.construct at constructed
  split at constructed
  · split at constructed
    · cases constructed
      rfl
    · cases constructed
  · cases constructed

omit [Field R] [LinearOrder Temp] [DecidableEq DType] in
theorem Model.construct_each {rank : Int} {alpha : R} (chosen : List (Key base.nLayers)) :
    ∀ created : List (LayerObject torch base Temp),
      Model.construct torch base Temp rank alpha chosen = .ok created →
        created.map LayerObject.key = chosen ∧
          ∀ object ∈ created, object.gate = LayerGate.fresh ∧
            StructuralPluginLayer.construct torch object.layer.base rank alpha none =
              .ok object.layer := by
  induction chosen with
  | nil =>
      intro created done
      cases done
      exact ⟨rfl, fun object member => by cases member⟩
  | cons key rest ih =>
      intro created done
      unfold Model.construct at done
      split at done
      · cases done
      · rename_i layer built
        cases others : Model.construct torch base Temp rank alpha rest with
        | error error =>
            rw [others] at done
            cases done
        | ok later =>
            rw [others] at done
            cases done
            obtain ⟨keys, each⟩ := ih later others
            refine ⟨by rw [List.map_cons, keys], fun object member => ?_⟩
            rcases List.mem_cons.mp member with here | there
            · have isBase := (base_of_construct built).1
              rw [here]
              exact ⟨rfl, by rw [isBase]; exact built⟩
            · exact each object there

omit [Field R] [LinearOrder Temp] [DecidableEq DType] in
theorem Model.construct_wellMade {rank : Int} {alpha : R} {chosen : List (Key base.nLayers)}
    {created : List (LayerObject torch base Temp)}
    (done : Model.construct torch base Temp rank alpha chosen = .ok created) :
    ∀ object ∈ created, WellMade object := by
  intro object member
  obtain ⟨isFresh, built⟩ := (Model.construct_each chosen created done).2 object member
  exact ⟨adapterDtype_of_construct built, ⟨alpha, scaling_of_construct built⟩, none,
    isFresh ▸ LayerGate.armed_fresh⟩

omit [Field R] [DecidableEq DType] in
theorem layer_of_loadLayer {tensors : Dict String (Tensor DType R)}
    {perLayerMetadata : Dict String (LayerMetadata R)} {layerName : String}
    {linear : Linear DType} {layer : StructuralPluginLayer torch}
    (done : loadLayer torch tensors perLayerMetadata layerName linear = .ok layer) :
    layer.base = linear ∧ layer.adapterDtype = layer.base.weightDtype ∧
      ∃ alpha, layer.scaling = torch.divide alpha layer.rank := by
  have sameDtype := adapterDtype_of_loadLayer done
  obtain ⟨saved, built, _, _, _, _, _, constructed, _, _, _, _, rfl⟩ := loadLayer_eq_ok done
  have isBase : built.base = linear := (base_of_construct constructed).1
  have scaling : built.scaling = torch.divide saved.alpha built.rank :=
    scaling_of_construct constructed
  exact ⟨isBase, sameDtype.trans (congrArg Linear.weightDtype isBase.symm), saved.alpha, scaling⟩

omit [Field R] [DecidableEq DType] in
theorem loaded_layer {codec : JsonCodec R} {path : String}
    {file : Option (SafetensorsFile DType R)} {baseLayers : Dict String (Linear DType)}
    {loaded : Dict String (StructuralPluginLayer torch)}
    (done : Msp.Python.Persistence.loadAdapter torch codec path file baseLayers = .ok loaded)
    {layerName : String} {layer : StructuralPluginLayer torch}
    (found : loaded.get? layerName = some layer) :
    baseLayers.get? layerName = some layer.base ∧
      layer.adapterDtype = layer.base.weightDtype ∧
        ∃ alpha, layer.scaling = torch.divide alpha layer.rank := by
  unfold Msp.Python.Persistence.loadAdapter at done
  split at done
  · cases done
  · rename_i file
    split at done
    · cases done
    · split at done
      · cases done
      · rename_i perLayerMetadata _
        dsimp only at done
        split at done
        · cases done
        · cases listed : loadLayers torch file.tensors perLayerMetadata baseLayers.entries with
          | error error =>
              rw [listed] at done
              cases done
          | ok items =>
              rw [listed] at done
              cases done
              rcases Dict.mem_of_get?_update items Dict.empty layerName layer found with
                member | absent
              · obtain ⟨itsBase, known, here⟩ := (loadLayers_eq_ok _ _ listed).2 _ member
                obtain ⟨rfl, rest⟩ := layer_of_loadLayer here
                exact ⟨Dict.get?_eq_some.mpr known, rest⟩
              · cases absent

omit [Field R] [LinearOrder Temp] in
theorem loadedObjects_wellMade {codec : JsonCodec R} {path : String}
    {file : Option (SafetensorsFile DType R)} {chosen : List (Key base.nLayers)}
    {loaded : Dict String (StructuralPluginLayer torch)}
    (done : Msp.Python.Persistence.loadAdapter torch codec path file (bases base chosen) =
      .ok loaded) :
    ∀ object ∈ (loadedObjects loaded chosen : List (LayerObject torch base Temp)),
      WellMade object := by
  intro object member
  obtain ⟨key, -, found⟩ := List.mem_filterMap.mp member
  obtain ⟨layer, there, built⟩ := Option.bind_eq_some_iff.mp found
  split at built
  · cases built
    obtain ⟨-, sameDtype, scaled⟩ := loaded_layer done there
    exact ⟨sameDtype, scaled, none, LayerGate.armed_fresh⟩
  · cases built

/-- A call leaves the model alone, adds objects to it, plugs in, trains, or routes. -/
theorem step_model {codec : JsonCodec R} {session next : Session torch base Temp}
    {call : Call torch base Temp World Generator Loss Optimizer Error β τ}
    (stepped : step codec session call = some next) :
    next.model = session.model ∨
      (∃ created, (∀ object ∈ created, WellMade object) ∧
        next.model = (session.model.adopt created).2) ∨
      (∃ layers, session.model.lists layers = true ∧
        next.model = session.model.plugIn layers) ∨
      (∃ trainer layers monitor generator world,
        call = .train trainer layers monitor generator world ∧
          next.model = (trainAdapter trainer layers monitor session.model generator world).model) ∨
      ∃ ref enabled, call = .route ref enabled ∧ next.model = session.model.route ref enabled := by
  cases call with
  | collect =>
      simp only [step] at stepped
      refine Or.inl ?_
      split at stepped <;> cases stepped <;> rfl
  | attach chosen rank alpha =>
      simp only [step] at stepped
      split at stepped
      · unfold Model.attachAdapters at stepped
        cases built : Model.construct torch base Temp rank alpha chosen with
        | error error =>
            rw [built] at stepped
            cases stepped
            exact Or.inl rfl
        | ok created =>
            rw [built] at stepped
            cases stepped
            exact Or.inr (Or.inl
              ⟨created, Model.construct_wellMade built, rfl⟩)
      · cases stepped
  | plugIn layers =>
      simp only [step] at stepped
      split at stepped
      · rename_i listed
        cases stepped
        exact Or.inr (Or.inr (Or.inl ⟨layers, listed, rfl⟩))
      · cases stepped
  | train trainer layers monitor generator world =>
      simp only [step] at stepped
      split at stepped
      · cases stepped
        exact Or.inr (Or.inr (Or.inr (Or.inl
          ⟨trainer, layers, monitor, generator, world, rfl, rfl⟩)))
      · cases stepped
  | route ref enabled =>
      cases stepped
      exact Or.inr (Or.inr (Or.inr (Or.inr ⟨ref, enabled, rfl, rfl⟩)))
  | save path layers =>
      simp only [step] at stepped
      refine Or.inl ?_
      split at stepped
      · unfold Session.saveAdapter at stepped
        cases written : Msp.Python.Persistence.saveAdapter codec (session.model.named layers) with
        | error error =>
            rw [written] at stepped
            cases stepped
            rfl
        | ok file =>
            rw [written] at stepped
            cases stepped
            rfl
      · cases stepped
  | load path chosen =>
      simp only [step] at stepped
      split at stepped
      · unfold Session.loadAdapter at stepped
        cases read : Msp.Python.Persistence.loadAdapter torch codec path (session.files path)
            (bases base chosen) with
        | error error =>
            rw [read] at stepped
            cases stepped
            exact Or.inl rfl
        | ok loaded =>
            rw [read] at stepped
            cases stepped
            exact Or.inr (Or.inl ⟨_, loadedObjects_wellMade read, rfl⟩)
      · cases stepped
  | write path file =>
      cases stepped
      exact Or.inl rfl

def Call.Spares (call : Call torch base Temp World Generator Loss Optimizer Error β τ) (ref : ℕ) :
    Prop :=
  match call with
  | .train _ layers _ _ _ => ref ∉ layers.values
  | .route routed _ => routed ≠ ref
  | _ => True

section Objects
variable {codec : JsonCodec R} {session next : Session torch base Temp}
  {call : Call torch base Temp World Generator Loss Optimizer Error β τ}

omit [Field R] [LinearOrder Temp] [DecidableEq DType] in
theorem route_getElem? (model : Model torch base Temp) (routed ref : ℕ) (enabled : Bool) :
    (model.route routed enabled).objects[ref]? =
      if routed = ref then
        model.objects[ref]?.map fun object =>
          { object with layer := { object.layer with routingGateEnabled := enabled } }
      else model.objects[ref]? := by
  rw [Model.route, List.getElem?_modify]
  split
  · rfl
  · simp

/-- An object stays where it is and keeps its key, and its layer too if it is spared. -/
theorem step_keeps (stepped : step codec session call = some next) {ref : ℕ}
    {object : LayerObject torch base Temp} (found : session.model.objects[ref]? = some object) :
    ∃ object', next.model.objects[ref]? = some object' ∧ object'.key = object.key ∧
      (call.Spares ref → object'.layer = object.layer) := by
  have inside := (List.getElem?_eq_some_iff.mp found).1
  rcases step_model stepped with same | ⟨created, -, same⟩ | ⟨layers, -, same⟩ |
    ⟨trainer, layers, monitor, generator, world, rfl, same⟩ | ⟨routed, enabled, rfl, same⟩
  · rw [same]
    exact ⟨object, found, rfl, fun _ => rfl⟩
  · rw [same]
    exact ⟨object, (List.getElem?_append_left inside).trans found, rfl, fun _ => rfl⟩
  · rw [same]
    exact ⟨object, found, rfl, fun _ => rfl⟩
  · obtain ⟨object', there, left⟩ :=
      left_of_call layers trainer monitor session.model generator world found
    rw [same]
    exact ⟨object', there, left.key, fun spared => (left.others spared).1⟩
  · rw [same, route_getElem?]
    split
    · rename_i isRouted
      rw [found]
      exact ⟨_, rfl, rfl, fun spared => absurd isRouted spared⟩
    · exact ⟨object, found, rfl, fun _ => rfl⟩

/-- What is there afterwards was there before, or was made by the call. -/
theorem step_wellMade (stepped : step codec session call = some next)
    (before : ∀ object ∈ session.model.objects, WellMade object) :
    ∀ object ∈ next.model.objects, WellMade object := by
  intro object member
  rcases step_model stepped with same | ⟨created, made, same⟩ | ⟨layers, -, same⟩ |
    ⟨trainer, layers, monitor, generator, world, rfl, same⟩ | ⟨routed, enabled, rfl, same⟩
  · rw [same] at member
    exact before object member
  · rw [same] at member
    rcases List.mem_append.mp member with old | new
    · exact before object old
    · exact made object new
  · rw [same] at member
    exact before object member
  · rw [same] at member
    obtain ⟨ref, inside, isObject⟩ := List.mem_iff_getElem.mp member
    have there := List.getElem?_eq_some_iff.mpr ⟨inside, isObject⟩
    rw [(trainAdapter_keeps layers trainer monitor session.model generator world).2] at inside
    have found := List.getElem?_eq_getElem inside
    obtain ⟨object', here, left⟩ :=
      left_of_call layers trainer monitor session.model generator world found
    cases here.symm.trans there
    have wellMade := before _ (List.getElem_mem inside)
    refine wellMade.of_settings left.settings ?_
    obtain ⟨latest, armed⟩ := wellMade.armed
    by_cases listed : ref ∈ layers.values
    · cases monitor with
      | none => exact ⟨latest, by rw [left.gate listed]; exact armed⟩
      | some monitor => exact ⟨_, left.armed listed armed⟩
    · exact ⟨latest, by rw [(left.others listed).2]; exact armed⟩
  · obtain ⟨ref, there⟩ := List.mem_iff_getElem?.mp member
    rw [same, route_getElem?] at there
    split at there
    · obtain ⟨old, found, rfl⟩ := Option.map_eq_some_iff.mp there
      obtain ⟨sameDtype, scaled, armed⟩ := before old (List.mem_of_getElem? found)
      exact ⟨sameDtype, scaled, armed⟩
    · exact before object (List.mem_of_getElem? there)

end Objects

/-! ## Every session -/

omit [Field R] [LinearOrder Temp] [DecidableEq DType] in
theorem fits_of_lists {model : Model torch base Temp} {layers : Layers base}
    (listed : model.lists layers = true) : model.Fits layers := by
  intro key ref found
  have each := List.all_eq_true.mp listed _ (Dict.get?_eq_some.mp found)
  cases there : model.objects[ref]? with
  | none => simp [there] at each
  | some object => exact ⟨object, there, by simpa [there] using each⟩

structure Session.Sound (session : Session torch base Temp) : Prop where
  plugged : ∀ key ref, session.model.slots key = some ref → session.model.Refers key ref
  wellMade : ∀ object ∈ session.model.objects, WellMade object

namespace Session
variable {codec : JsonCodec R} {session final : Session torch base Temp}

omit [Field R] [LinearOrder Temp] [DecidableEq DType] in
theorem sound_fresh (files : String → Option (SafetensorsFile DType R)) :
    (fresh files : Session torch base Temp).Sound where
  plugged _ _ plugged := by cases plugged
  wellMade _ member := by cases member

omit [Field R] [LinearOrder Temp] [DecidableEq DType] in
theorem Sound.valid (sound : session.Sound) : session.model.Valid where
  plugged := sound.plugged
  sameDtype object member := (sound.wellMade object member).sameDtype

theorem Sound.step {next : Session torch base Temp}
    {call : Call torch base Temp World Generator Loss Optimizer Error β τ}
    (sound : session.Sound) (stepped : step codec session call = some next) : next.Sound where
  wellMade := step_wellMade stepped sound.wellMade
  plugged key ref plugged := by
    have stays : ∀ {key ref}, session.model.Refers key ref → next.model.Refers key ref := by
      rintro key ref ⟨object, found, rfl⟩
      obtain ⟨object', there, sameKey, -⟩ := step_keeps stepped found
      exact ⟨object', there, sameKey⟩
    rcases step_model stepped with same | ⟨created, -, same⟩ | ⟨layers, listed, same⟩ |
      ⟨trainer, layers, monitor, generator, world, -, same⟩ | ⟨routed, enabled, -, same⟩
    · rw [same] at plugged
      exact stays (sound.plugged key ref plugged)
    · rw [same] at plugged
      exact stays (sound.plugged key ref plugged)
    · rw [same, Model.plugIn_slots, Option.or_eq_some_iff] at plugged
      rcases plugged with inDict | ⟨-, before⟩
      · exact stays (fits_of_lists listed key ref inDict)
      · exact stays (sound.plugged key ref before)
    · rw [same, (trainAdapter_keeps layers trainer monitor session.model generator world).1]
        at plugged
      exact stays (sound.plugged key ref plugged)
    · rw [same] at plugged
      exact stays (sound.plugged key ref plugged)

theorem Sound.run {calls : List (Call torch base Temp World Generator Loss Optimizer Error β τ)}
    (sound : session.Sound) (ran : Machine.run (Training.step codec) calls session = some final) :
    final.Sound :=
  Machine.run_preserves (fun _ _ _ holds stepped => holds.step stepped) calls session final sound ran

end Session

theorem step_plugged {codec : JsonCodec R} {session next : Session torch base Temp}
    {call : Call torch base Temp World Generator Loss Optimizer Error β τ}
    (stepped : step codec session call = some next) {key : Key base.nLayers}
    (plugged : session.model.slots key ≠ none) : next.model.slots key ≠ none := by
  rcases step_model stepped with same | ⟨created, -, same⟩ | ⟨layers, -, same⟩ |
    ⟨trainer, layers, monitor, generator, world, -, same⟩ | ⟨routed, enabled, -, same⟩
  · rwa [same]
  · rwa [same]
  · rw [same, Model.plugIn_slots]
    intro empty
    exact plugged (Option.or_eq_none_iff.mp empty).2
  · rwa [same, (trainAdapter_keeps layers trainer monitor session.model generator world).1]
  · rwa [same]

/-- Nothing is ever unplugged: base layers that were not collected in time never are. -/
theorem collect_after_plug {codec : JsonCodec R} {session final : Session torch base Temp}
    {calls : List (Call torch base Temp World Generator Loss Optimizer Error β τ)}
    (ran : Machine.run (step codec) calls session = some final) {key : Key base.nLayers}
    (plugged : session.model.slots key ≠ none) :
    ∃ message, final.model.collectBaseSublayers = .error message := by
  have still : final.model.slots key ≠ none :=
    Machine.run_preserves (fun _ _ _ before stepped => step_plugged stepped before) calls session
      final plugged ran
  cases collected : final.model.collectBaseSublayers with
  | error message => exact ⟨message, rfl⟩
  | ok found => exact absurd ((Model.collect_eq_ok_iff.mp collected).2 key (mem_keys key)) still

end Session

end Msp.Training
