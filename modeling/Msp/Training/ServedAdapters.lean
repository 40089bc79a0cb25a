import Msp.Training.AdapterSession

/-!
# What a session serves

A set of adapters serves what the blocks compute with it plugged in.  It depends
on its own layers only: on nothing that is done to others, so that adapters over
one base can be swapped, and not on the way through a file, when the base layers
are the same and `alpha / rank` survives the division.
-/

set_option autoImplicit false

namespace Msp.Training

open Msp.Library Msp.Python.PluginLayer Msp.Python.GradientGate Msp.Python.Persistence

section Session
variable {DType R : Type} {torch : Torch DType R R} {base : Base DType R} {Temp : Type}
  [Field R] [LinearOrder Temp] [DecidableEq DType]
  {World Generator Loss Optimizer Error β τ : Type} [Fintype τ]

section Serves
variable {model : Model torch base Temp} {layers : Layers base} {key : Key base.nLayers} {ref : ℕ}
  {object : LayerObject torch base Temp}

omit [Field R] [LinearOrder Temp] [DecidableEq DType] in
theorem slotAt_plugIn (listed : layers.get? key = some ref)
    (found : model.objects[ref]? = some object) (isKey : object.key = key) :
    ∃ wraps, (model.plugIn layers).slotAt key = .plugged object.layer wraps := by
  subst isKey
  refine ⟨object.wraps, Model.slotAt_of_some ?_ found⟩
  rw [Model.plugIn_slots, listed]
  rfl

omit [Field R] [LinearOrder Temp] [DecidableEq DType] in
theorem slotAt_eq {other : Model torch base Temp} {others : Layers base} {otherRef : ℕ}
    {otherObject : LayerObject torch base Temp} (listed : layers.get? key = some ref)
    (found : model.objects[ref]? = some object) (isKey : object.key = key)
    (otherListed : others.get? key = some otherRef)
    (otherFound : other.objects[otherRef]? = some otherObject) (otherKey : otherObject.key = key)
    (same : otherObject.layer = object.layer) :
    (other.plugIn others).slotAt key = (model.plugIn layers).slotAt key := by
  obtain ⟨wraps, slot⟩ := slotAt_plugIn listed found isKey
  obtain ⟨otherWraps, otherSlot⟩ := slotAt_plugIn otherListed otherFound otherKey
  rw [slot, otherSlot]
  congr 1

omit [LinearOrder Temp] [DecidableEq DType] in
theorem forward_of_slots {β τ : Type} [Fintype τ] {model other : Model torch base Temp}
    (same : ∀ key, other.slotAt key = model.slotAt key) (functions : Functions R)
    (tokens : β → τ → Fin base.vocabSize) :
    other.forward functions tokens = model.forward functions tokens := by
  unfold Model.forward
  simp only [same]

end Serves

/-- A run keeps every object and its key, and the layers that all its calls spare. -/
theorem run_keeps {codec : JsonCodec R} {ref : ℕ}
    (calls : List (Call torch base Temp World Generator Loss Optimizer Error β τ)) :
    ∀ (session final : Session torch base Temp) (object : LayerObject torch base Temp),
      Machine.run (step codec) calls session = some final →
        session.model.objects[ref]? = some object →
          ∃ object', final.model.objects[ref]? = some object' ∧ object'.key = object.key ∧
            ((∀ call ∈ calls, call.Spares ref) → object'.layer = object.layer) := by
  induction calls with
  | nil =>
      intro session final object ran found
      cases ran
      exact ⟨object, found, rfl, fun _ => rfl⟩
  | cons call rest ih =>
      intro session final object ran found
      obtain ⟨next, stepped, restRan⟩ := Machine.run_cons_eq_some.mp ran
      obtain ⟨middle, there, sameKey, spared⟩ := step_keeps stepped found
      obtain ⟨last, here, sameKey', spared'⟩ := ih next final middle restRan there
      refine ⟨last, here, sameKey'.trans sameKey, fun each => ?_⟩
      rw [spared' fun other member => each other (List.mem_cons_of_mem call member)]
      exact spared (each call List.mem_cons_self)

omit [LinearOrder Temp] [DecidableEq DType] in
theorem forward_eq_base {β τ : Type} [Fintype τ] {model : Model torch base Temp}
    (sameDtypes : ∀ key, (model.slotAt key).SameDtype)
    (same : ∀ key parameters, (model.slotAt key).merged parameters = parameters)
    (functions : Functions R) (tokens : β → τ → Fin base.vocabSize) :
    model.forward functions tokens =
      base.forward functions (fun _ _ => (.bare : Slot torch _)) tokens := by
  have unchanged : ∀ index, (base.blocks index).merged
      (fun name => model.slotAt ⟨index, name⟩) = base.blocks index := by
    intro index
    simp only [BlockParameters.merged, same ⟨index, _⟩]
  refine (base.forward_eq_merged functions (fun index name => sameDtypes ⟨index, name⟩)
    tokens).trans ?_
  unfold Base.forward Base.merged
  simp only [unchanged]

omit [LinearOrder Temp] [DecidableEq DType] in
theorem merged_of_zero {linear : Linear DType} {layer : StructuralPluginLayer torch}
    (wraps : layer.base = linear) (nothing : layer.deltaWeight = 0)
    (parameters : Parameters R linear) :
    (Slot.plugged layer wraps).merged parameters = parameters := by
  cases wraps
  change layer.merged parameters = parameters
  rw [StructuralPluginLayer.merged, nothing, add_zero]

omit [LinearOrder Temp] [DecidableEq DType] in
theorem exists_delta {linear : Linear DType} (layer : StructuralPluginLayer torch)
    (wraps : layer.base = linear) (parameters : Parameters R linear) :
    ∃ delta, ((Slot.plugged layer wraps).merged parameters).weight = parameters.weight + delta ∧
      delta.rank ≤ layer.rank := by
  cases wraps
  exact ⟨layer.deltaWeight, rfl, layer.rank_deltaWeight_le⟩

/-! ## Saving and loading -/

section Names
variable {model : Model torch base Temp} {layers : Layers base} {key : Key base.nLayers} {ref : ℕ}
  {object : LayerObject torch base Temp}

omit [Field R] [LinearOrder Temp] [DecidableEq DType] in
theorem mem_named {name : String} {layer : StructuralPluginLayer torch}
    (member : (name, layer) ∈ layers.entries.filterMap fun item =>
      (model.objects[item.2]?).map fun object => (item.1.text, object.layer)) :
    ∃ key ref object, layers.get? key = some ref ∧ model.objects[ref]? = some object ∧
      name = key.text ∧ layer = object.layer := by
  obtain ⟨⟨key, ref⟩, inside, mapped⟩ := List.mem_filterMap.mp member
  obtain ⟨object, found, same⟩ := Option.map_eq_some_iff.mp mapped
  cases same
  exact ⟨key, ref, object, Dict.get?_eq_some.mpr inside, found, rfl, rfl⟩

omit [Field R] [LinearOrder Temp] [DecidableEq DType] in
theorem named_get? (listed : layers.get? key = some ref)
    (found : model.objects[ref]? = some object) :
    (model.named layers).get? key.text = some object.layer := by
  apply Dict.get?_update_of_mem
  · refine List.mem_filterMap.mpr ⟨(key, ref), Dict.get?_eq_some.mp listed, ?_⟩
    simp [found]
  · intro other member
    obtain ⟨otherKey, otherRef, otherObject, otherListed, otherFound, sameText, isOther⟩ :=
      mem_named member
    cases Key.text_injective sameText
    cases listed.symm.trans otherListed
    cases found.symm.trans otherFound
    exact isOther

omit [Field R] [LinearOrder Temp] [DecidableEq DType] in
theorem exists_of_named {name : String} {layer : StructuralPluginLayer torch}
    (found : (model.named layers).get? name = some layer) :
    ∃ key ref object, layers.get? key = some ref ∧ model.objects[ref]? = some object ∧
      name = key.text ∧ layer = object.layer := by
  rcases Dict.mem_of_get?_update _ _ _ _ found with member | absent
  · exact mem_named member
  · cases absent

omit [Field R] [DecidableEq DType] in
theorem exists_of_bases {chosen : List (Key base.nLayers)} {name : String} {linear : Linear DType}
    (found : (bases base chosen).get? name = some linear) :
    ∃ key ∈ chosen, name = key.text ∧
      linear = base.config.sublayer base.dtype key.name := by
  rcases Dict.mem_of_get?_update _ _ _ _ found with member | absent
  · obtain ⟨key, inside, same⟩ := List.mem_map.mp member
    cases same
    exact ⟨key, inside, rfl, rfl⟩
  · cases absent

omit [Field R] [DecidableEq DType] in
theorem bases_get? {chosen : List (Key base.nLayers)} (inside : key ∈ chosen) :
    (bases base chosen).get? key.text = some (base.config.sublayer base.dtype key.name) := by
  apply Dict.get?_update_of_mem
  · exact List.mem_map.mpr ⟨key, inside, rfl⟩
  · intro other member
    obtain ⟨otherKey, -, same⟩ := List.mem_map.mp member
    have sameKey := Key.text_injective (congrArg Prod.fst same)
    have isOther := congrArg Prod.snd same
    rw [sameKey] at isOther
    exact isOther.symm

end Names

/-- The scales of these layers come back of themselves through a file. -/
def StableScales (model : Model torch base Temp) (layers : Layers base) : Prop :=
  ∀ key ref object, layers.get? key = some ref → model.objects[ref]? = some object →
    torch.divide (torch.multiply object.layer.scaling object.layer.rank) object.layer.rank =
      object.layer.scaling

omit [Field R] [DecidableEq DType] in
theorem loadedOver_self {layer : StructuralPluginLayer torch} {linear : Linear DType}
    (isBase : layer.base = linear) (sameDtype : layer.adapterDtype = layer.base.weightDtype)
    (stable : torch.divide (torch.multiply layer.scaling layer.rank) layer.rank = layer.scaling)
    (accepts : Accepts layer linear) : loadedOver layer linear accepts = layer := by
  subst isBase
  obtain ⟨itsBase, rank, positive, adapterDtype, trainable, entriesA, entriesB, scaling, gate⟩ :=
    layer
  simp only at sameDtype stable
  subst sameDtype
  simp only [loadedOver, torch.cast_self, broadcastIndex_same, stable]
  rfl

omit [LinearOrder Temp] [DecidableEq DType] [Field R] in
theorem accepts_of_wellMade {object : LayerObject torch base Temp} (made : WellMade object) :
    Accepts object.layer (base.config.sublayer base.dtype object.key.name) := by
  rw [← object.wraps]
  exact ⟨made.sameDtype ▸ object.layer.trainable, Or.inl rfl, Or.inl rfl⟩

section Adopt
variable {model : Model torch base Temp} {created : List (LayerObject torch base Temp)}

omit [Field R] [LinearOrder Temp] [DecidableEq DType] in
theorem adopt_get? {key : Key base.nLayers} {ref : ℕ}
    (listed : (model.adopt created).1.get? key = some ref) :
    ∃ object ∈ created, (model.adopt created).2.objects[ref]? = some object ∧
      object.key = key := by
  rcases Dict.mem_of_get?_update _ _ _ _ listed with member | absent
  · obtain ⟨⟨object, index⟩, inside, same⟩ := List.mem_map.mp member
    cases same
    have there : created[index]? = some object := List.mem_zipIdx_iff_getElem?.mp inside
    have last : (model.objects ++ created)[model.objects.length + index]? = created[index]? := by
      rw [List.getElem?_append_right (Nat.le_add_right _ _), Nat.add_sub_cancel_left]
    exact ⟨object, List.mem_of_getElem? there, last.trans there, rfl⟩
  · cases absent

omit [Field R] [LinearOrder Temp] [DecidableEq DType] in
theorem exists_adopt_get? {object : LayerObject torch base Temp} (member : object ∈ created) :
    ∃ ref, (model.adopt created).1.get? object.key = some ref := by
  refine Dict.mem_keys.mp ((Dict.mem_keys_update _ _ _).mpr (Or.inl ?_))
  obtain ⟨index, there⟩ := List.mem_iff_getElem?.mp member
  refine List.mem_map.mpr ⟨(object.key, model.objects.length + index), ?_, rfl⟩
  exact List.mem_map.mpr ⟨(object, index), List.mem_zipIdx_iff_getElem?.mpr there, rfl⟩

omit [Field R] [LinearOrder Temp] [DecidableEq DType] in
theorem lists_adopt : (model.adopt created).2.lists (model.adopt created).1 = true := by
  refine List.all_eq_true.mpr ?_
  rintro ⟨key, ref⟩ member
  obtain ⟨object, -, there, isKey⟩ := adopt_get? (Dict.get?_eq_some.mpr member)
  simp [there, isKey]

end Adopt

section Reload
variable {codec : JsonCodec R} {path : String} {layers : Layers base}
  {chosen : List (Key base.nLayers)} {before : Session torch base Temp}
  {file : SafetensorsFile DType R}

omit [Field R] [LinearOrder Temp] [DecidableEq DType] in
theorem exists_object (listed : before.model.lists layers = true) {key : Key base.nLayers} {ref : ℕ}
    (there : layers.get? key = some ref) :
    ∃ object, before.model.objects[ref]? = some object ∧ object.key = key :=
  fits_of_lists listed key ref there

omit [Field R] [LinearOrder Temp] [DecidableEq DType] in
theorem loadsOver_bases (sound : before.Sound) (listed : before.model.lists layers = true)
    (sameKeys : ∀ key, key ∈ chosen ↔ ∃ ref, layers.get? key = some ref) :
    LoadsOver (before.model.named layers) (bases base chosen) := by
  refine ⟨fun name => ?_, fun name layer linear found known => ?_⟩
  · rw [Dict.mem_keys, Dict.mem_keys]
    constructor
    · rintro ⟨linear, known⟩
      obtain ⟨key, inside, rfl, -⟩ := exists_of_bases known
      obtain ⟨ref, there⟩ := (sameKeys key).mp inside
      obtain ⟨object, found, -⟩ := exists_object listed there
      exact ⟨object.layer, named_get? there found⟩
    · rintro ⟨layer, found⟩
      obtain ⟨key, ref, object, there, -, rfl, -⟩ := exists_of_named found
      exact ⟨_, bases_get? ((sameKeys key).mpr ⟨ref, there⟩)⟩
  · obtain ⟨key, ref, object, there, isObject, rfl, rfl⟩ := exists_of_named found
    obtain ⟨otherKey, -, sameText, rfl⟩ := exists_of_bases known
    cases Key.text_injective sameText
    obtain ⟨same, here, rfl⟩ := exists_object listed there
    cases here.symm.trans isObject
    exact accepts_of_wellMade (sound.wellMade _ (List.mem_of_getElem? here))

omit [Field R] [LinearOrder Temp] [DecidableEq DType] in
theorem loaded_get? (stable : StableScales before.model layers) (sound : before.Sound)
    (written : Msp.Python.Persistence.saveAdapter codec (before.model.named layers) = .ok file)
    (json : codec.loads (codec.dumps (savedMetadata (before.model.named layers))) =
      some (savedMetadata (before.model.named layers)))
    {loaded : Dict String (StructuralPluginLayer torch)}
    (done : Msp.Python.Persistence.loadAdapter torch codec path (some file) (bases base chosen) =
      .ok loaded)
    {object : LayerObject torch base Temp} {ref : ℕ} (inside : object.key ∈ chosen)
    (there : layers.get? object.key = some ref)
    (found : before.model.objects[ref]? = some object) :
    loaded.get? object.key.text = some object.layer := by
  obtain ⟨-, -, each⟩ := loaded_over written json done
  obtain ⟨accepts, back⟩ := each _ _ _ (named_get? there found) (bases_get? inside)
  have made := sound.wellMade object (List.mem_of_getElem? found)
  rw [back, loadedOver_self object.wraps made.sameDtype (stable _ _ _ there found) accepts]

end Reload

section Load
variable {codec : JsonCodec R} {path : String} {layers : Layers base}
  {chosen : List (Key base.nLayers)} {before final : Session torch base Temp}
  {file : SafetensorsFile DType R}

omit [Field R] [LinearOrder Temp] in
/-- Loading what was saved succeeds, and gives objects with the layers that were saved. -/
theorem loadAdapter_saved (stable : StableScales before.model layers) (sound : before.Sound)
    (listed : before.model.lists layers = true)
    (written : Msp.Python.Persistence.saveAdapter codec (before.model.named layers) = .ok file)
    (json : codec.loads (codec.dumps (savedMetadata (before.model.named layers))) =
      some (savedMetadata (before.model.named layers)))
    (sameKeys : ∀ key, key ∈ chosen ↔ ∃ ref, layers.get? key = some ref)
    (kept : final.files path = some file) :
    ∃ loaded after, final.loadAdapter codec path chosen = .ok (loaded, after) ∧
      after.model.lists loaded = true ∧
      ∀ key ∈ chosen, ∃ ref object ref' object', layers.get? key = some ref ∧
        before.model.objects[ref]? = some object ∧ object.key = key ∧
        loaded.get? key = some ref' ∧ after.model.objects[ref']? = some object' ∧
        object'.key = key ∧ object'.layer = object.layer := by
  obtain ⟨loaded, done⟩ :=
    loads_of_accepted path written json (loadsOver_bases sound listed sameKeys)
  refine ⟨_, _, by rw [Session.loadAdapter, kept, done]; rfl, lists_adopt, fun key inside => ?_⟩
  obtain ⟨ref, there⟩ := (sameKeys key).mp inside
  obtain ⟨object, found, rfl⟩ := exists_object listed there
  have back := loaded_get? stable sound written json done inside there found
  have made : ∃ new ∈ (loadedObjects loaded chosen : List (LayerObject torch base Temp)),
      new.key = object.key := by
    refine ⟨⟨object.key, object.layer, object.wraps, LayerGate.fresh, fun _ => none⟩, ?_, rfl⟩
    refine List.mem_filterMap.mpr ⟨object.key, inside, ?_⟩
    rw [back, Option.bind_some, dif_pos object.wraps]
  obtain ⟨new, member, newKey⟩ := made
  obtain ⟨ref', there'⟩ : ∃ ref, (final.model.adopt (loadedObjects loaded chosen)).1.get?
      new.key = some ref := exists_adopt_get? member
  rw [newKey] at there'
  obtain ⟨object', member', found', isKey⟩ := adopt_get? there'
  refine ⟨ref, object, ref', object', there, found, rfl, there', found', isKey, ?_⟩
  obtain ⟨otherKey, -, fromLoaded⟩ := List.mem_filterMap.mp member'
  obtain ⟨layer, isLoaded, built⟩ := Option.bind_eq_some_iff.mp fromLoaded
  split at built
  · cases built
    dsimp only at isKey
    rw [isKey] at isLoaded
    exact Option.some.inj (isLoaded.symm.trans back)
  · cases built

end Load

def Call.Leaves (call : Call torch base Temp World Generator Loss Optimizer Error β τ)
    (path : String) : Prop :=
  match call with
  | .save other _ => other ≠ path
  | .write other _ => other ≠ path
  | _ => True

theorem step_files {codec : JsonCodec R} {session next : Session torch base Temp}
    {call : Call torch base Temp World Generator Loss Optimizer Error β τ} {path : String}
    (stepped : step codec session call = some next) (leaves : call.Leaves path) :
    next.files path = session.files path := by
  cases call with
  | collect =>
      simp only [step] at stepped
      split at stepped <;> cases stepped <;> rfl
  | attach chosen rank alpha =>
      simp only [step] at stepped
      split at stepped
      · split at stepped <;> cases stepped <;> rfl
      · cases stepped
  | plugIn layers =>
      simp only [step] at stepped
      split at stepped <;> cases stepped
      rfl
  | train trainer layers monitor generator world =>
      simp only [step] at stepped
      split at stepped <;> cases stepped
      rfl
  | route ref enabled =>
      cases stepped
      rfl
  | save other layers =>
      have differ : path ≠ other := Ne.symm leaves
      simp only [step, Session.saveAdapter] at stepped
      split at stepped
      · cases written : Msp.Python.Persistence.saveAdapter codec (session.model.named layers) with
        | error error =>
            rw [written] at stepped
            cases stepped
            rfl
        | ok file =>
            rw [written] at stepped
            cases stepped
            exact Function.update_of_ne differ _ _
      · cases stepped
  | load other chosen =>
      simp only [step, Session.loadAdapter] at stepped
      split at stepped
      · cases read : Msp.Python.Persistence.loadAdapter torch codec other (session.files other)
            (bases base chosen) with
        | error error =>
            rw [read] at stepped
            cases stepped
            rfl
        | ok loaded =>
            rw [read] at stepped
            cases stepped
            rfl
      · cases stepped
  | write other file =>
      have differ : path ≠ other := Ne.symm leaves
      cases stepped
      exact Function.update_of_ne differ _ _

theorem run_files {codec : JsonCodec R} {path : String}
    (calls : List (Call torch base Temp World Generator Loss Optimizer Error β τ)) :
    ∀ session final : Session torch base Temp,
      Machine.run (step codec) calls session = some final →
        (∀ call ∈ calls, call.Leaves path) → final.files path = session.files path := by
  induction calls with
  | nil =>
      intro session final ran _
      cases ran
      rfl
  | cons call rest ih =>
      intro session final ran leave
      obtain ⟨next, stepped, restRan⟩ := Machine.run_cons_eq_some.mp ran
      rw [ih next final restRan fun other member => leave other (List.mem_cons_of_mem call member)]
      exact step_files stepped (leave call List.mem_cons_self)

/-! ## Sessions -/

def attachedObject : LayerObject exactTorch zeroBase ℤ where
  key := fc1Key
  layer := ⟨⟨1, 1, ()⟩, 2, Nat.zero_lt_two, (), rankTwo.layer.trainable,
    exactTorch.kaimingUniform 2 1, fun _ _ => exactTorch.zero, exactTorch.divide (1 : ℚ) 2, true⟩
  wraps := rankTwo.wraps
  gate := LayerGate.fresh
  grad := fun _ => none

def attachedSession : Session exactTorch zeroBase ℤ :=
  ⟨⟨[attachedObject], fun _ => none⟩, keys 1, fun _ => none⟩

def attachedText : String :=
  "\x7b\"block0.fc1\": \x7b\"rank\": 2, \"alpha\": 1.0, \"routing_gate_enabled\": true\x7d\x7d"

def attachedCodec : JsonCodec ℚ where
  dumps _ := attachedText
  loads text :=
    if text = attachedText then some (savedMetadata (attachedSession.model.named onFc1)) else none

def sampleTokens : Fin 1 → Fin 1 → Fin zeroBase.vocabSize := fun _ _ => ⟨0, Nat.zero_lt_two⟩

abbrev SampleCall : Type :=
  Call exactTorch zeroBase ℤ ℕ Unit Unit (ℕ × ℚ × ℚ) Unit (Fin 1) (Fin 1)

def attachFc1 : List SampleCall := [.collect, .attach [fc1Key] 2 1]

theorem run_attachFc1 :
    Machine.run (step attachedCodec) attachFc1 (Session.fresh fun _ => none) =
      some attachedSession := by
  rfl

/-- After every session, whatever the files hold, the blocks compute what the base
computes with other weights in the adapted layers; each differs from the base's own by a
matrix whose rank is at most that of the adapter that is plugged in. -/
theorem session_serves_merged (codec : JsonCodec R)
    (files : String → Option (SafetensorsFile DType R))
    (calls : List (Call torch base Temp World Generator Loss Optimizer Error β τ))
    (session : Session torch base Temp)
    (ran : Machine.run (step codec) calls (Session.fresh files) = some session)
    (functions : Functions R) (tokens : β → τ → Fin base.vocabSize) :
    session.model.forward functions tokens =
        (base.merged fun index name => session.model.slotAt ⟨index, name⟩).forward functions
          (fun _ _ => (.bare : Slot torch _)) tokens ∧
      ∀ key, ∃ delta, ((session.model.slotAt key).merged
            ((base.blocks key.index).sublayer key.name)).weight =
          ((base.blocks key.index).sublayer key.name).weight + delta ∧
        (session.model.slots key = none → delta = 0) ∧
        ∀ ref object, session.model.slots key = some ref →
          session.model.objects[ref]? = some object → delta.rank ≤ object.layer.rank := by
  have sound := (Session.sound_fresh files).run ran
  refine ⟨sound.valid.forward_eq_merged functions tokens, fun key => ?_⟩
  cases plugged : session.model.slots key with
  | none =>
      refine ⟨0, ?_, fun _ => rfl, nofun⟩
      rw [Model.slotAt_of_none plugged, add_zero]
      rfl
  | some ref =>
      obtain ⟨object, found, rfl⟩ := sound.plugged key ref plugged
      rw [Model.slotAt_of_some plugged found]
      obtain ⟨key, layer, wraps, gate, grad⟩ := object
      obtain ⟨delta, merged, low⟩ := exists_delta layer wraps
        ((base.blocks key.index).sublayer key.name)
      refine ⟨delta, merged, nofun, fun ref' object' same there => ?_⟩
      cases same
      cases found.symm.trans there
      exact low

theorem session_serves_merged_fc1 :
    attachedSession.model.forward (constantTrainer 25).functions sampleTokens =
      (zeroBase.merged fun index name => attachedSession.model.slotAt ⟨index, name⟩).forward
        (constantTrainer 25).functions (fun _ _ => (.bare : Slot exactTorch _)) sampleTokens :=
  (session_serves_merged attachedCodec (fun _ => none) attachFc1 attachedSession run_attachFc1
    (constantTrainer 25).functions sampleTokens).1

/-- Whatever is done in between, plugging an adapter in again serves what it served
before, as long as its own layers are neither trained nor routed. -/
theorem hot_swap_serves_same (codec : JsonCodec R) (before after : Session torch base Temp)
    (later : List (Call torch base Temp World Generator Loss Optimizer Error β τ))
    (ran : Machine.run (step codec) later before = some after)
    (layers : Layers base) (listed : before.model.lists layers = true)
    (spared : ∀ call ∈ later, ∀ ref ∈ layers.values, call.Spares ref) :
    (∀ key ref, layers.get? key = some ref →
        (after.model.plugIn layers).slotAt key = (before.model.plugIn layers).slotAt key) ∧
      ((∀ key, ∃ ref, layers.get? key = some ref) →
        ∀ (functions : Functions R) (tokens : β → τ → Fin base.vocabSize),
          (after.model.plugIn layers).forward functions tokens =
            (before.model.plugIn layers).forward functions tokens) := by
  have slots : ∀ key ref, layers.get? key = some ref →
      (after.model.plugIn layers).slotAt key = (before.model.plugIn layers).slotAt key := by
    intro key ref there
    obtain ⟨object, found, isKey⟩ := exists_object listed there
    obtain ⟨object', found', sameKey, same⟩ := run_keeps later before after object ran found
    have mine : ref ∈ layers.values := Dict.mem_values.mpr ⟨key, there⟩
    exact slotAt_eq there found isKey there found' (sameKey.trans isKey)
      (same fun call member => spared call member ref mine)
  refine ⟨slots, fun covers functions tokens => forward_of_slots (fun key => ?_) functions tokens⟩
  obtain ⟨ref, there⟩ := covers key
  exact slots key ref there

def twoAdapters : Session exactTorch zeroBase ℤ :=
  ⟨⟨[rankTwo, rankTwo], fun _ => none⟩, keys 1, fun _ => none⟩

def onSecond : Layers zeroBase := ⟨[(fc1Key, 1)], List.nodup_singleton _⟩

def trainSecond : List SampleCall :=
  [.plugIn onSecond, .train (constantTrainer 25) onSecond none () 0, .route 1 false]

theorem hot_swap_serves_same_two :
    ∃ after, Machine.run (step attachedCodec) trainSecond twoAdapters = some after ∧
      (after.model.plugIn onFc1).slotAt fc1Key =
        (twoAdapters.model.plugIn onFc1).slotAt fc1Key := by
  refine ⟨_, rfl, ?_⟩
  refine (hot_swap_serves_same attachedCodec twoAdapters _ trainSecond rfl onFc1 rfl ?_).1
    fc1Key 0 rfl
  have apart : ∀ ref ∈ onFc1.values, ref ∉ onSecond.values ∧ 1 ≠ ref := by decide
  intro call member ref mine
  obtain ⟨notSecond, notOne⟩ := apart ref mine
  simp only [trainSecond, List.mem_cons, List.not_mem_nil, or_false] at member
  rcases member with rfl | rfl | rfl
  · trivial
  · exact notSecond
  · exact notOne

/-- An adapter that was only attached serves what the base serves, whatever else is done. -/
theorem new_adapter_serves_base (zero : torch.zero = 0) (codec : JsonCodec R)
    (before after : Session torch base Temp) (chosen : List (Key base.nLayers)) (rank : Int)
    (alpha : R) (layers : Layers base) (model : Model torch base Temp)
    (attached : before.model.attachAdapters chosen rank alpha = .ok (layers, model))
    (later : List (Call torch base Temp World Generator Loss Optimizer Error β τ))
    (ran : Machine.run (step codec) later { before with model := model } = some after)
    (spared : ∀ call ∈ later, ∀ ref ∈ layers.values, call.Spares ref)
    (covers : ∀ key, key ∈ chosen) (functions : Functions R) (tokens : β → τ → Fin base.vocabSize) :
    (after.model.plugIn layers).forward functions tokens =
      base.forward functions (fun _ _ => (.bare : Slot torch _)) tokens := by
  cases built : Model.construct torch base Temp rank alpha chosen with
  | error error =>
      rw [Model.attachAdapters, built] at attached
      cases attached
  | ok created =>
      rw [Model.attachAdapters, built] at attached
      have adopted : before.model.adopt created = (layers, model) := Except.ok.inj attached
      obtain ⟨rfl, rfl⟩ : (before.model.adopt created).1 = layers ∧
          (before.model.adopt created).2 = model := by rw [adopted]; exact ⟨rfl, rfl⟩
      obtain ⟨sameKeys, each⟩ := Model.construct_each chosen created built
      have serves : ∀ key, ∃ layer wraps, layer.deltaWeight = 0 ∧
          layer.adapterDtype = layer.base.weightDtype ∧
            (after.model.plugIn (before.model.adopt created).1).slotAt key =
              .plugged layer wraps := by
        intro key
        obtain ⟨new, member, rfl⟩ := List.mem_map.mp (sameKeys ▸ covers key)
        obtain ⟨ref, listed⟩ : ∃ ref, (before.model.adopt created).1.get? new.key = some ref :=
          exists_adopt_get? member
        obtain ⟨object, isNew, found, isKey⟩ := adopt_get? listed
        obtain ⟨object', found', sameKey, same⟩ := run_keeps later _ after object ran found
        have mine : ref ∈ (before.model.adopt created).1.values :=
          Dict.mem_values.mpr ⟨_, listed⟩
        obtain ⟨wraps, slot⟩ := slotAt_plugIn listed found' (sameKey.trans isKey)
        have layer := same fun call inside => spared call inside ref mine
        have made := (each object isNew).2
        exact ⟨object'.layer, wraps,
          by rw [layer]; exact StructuralPluginLayer.deltaWeight_of_construct zero made,
          by rw [layer]; exact adapterDtype_of_construct made, slot⟩
      refine forward_eq_base (fun key => ?_) (fun key parameters => ?_) functions tokens
      · obtain ⟨layer, wraps, -, sameDtype, slot⟩ := serves key
        rw [slot]
        exact sameDtype
      · obtain ⟨layer, wraps, nothing, -, slot⟩ := serves key
        rw [slot]
        exact merged_of_zero wraps nothing parameters

def bareSession : Session exactTorch zeroBase ℤ := ⟨⟨[], fun _ => none⟩, keys 1, fun _ => none⟩

theorem new_adapter_serves_base_keys :
    ∃ layers model, bareSession.model.attachAdapters (keys 1) 2 1 = .ok (layers, model) ∧
      (model.plugIn layers).forward (constantTrainer 25).functions sampleTokens =
        zeroBase.forward (constantTrainer 25).functions
          (fun _ _ => (.bare : Slot exactTorch _)) sampleTokens := by
  refine ⟨_, _, rfl, ?_⟩
  exact new_adapter_serves_base rfl attachedCodec bareSession _ (keys 1) 2 1 _ _ rfl
    ([] : List SampleCall) rfl (fun _ member => nomatch member) mem_keys _ sampleTokens

/-- An adapter that was saved serves after loading, over the same base layers, what it
served when it was saved; whatever was done in between, even to that adapter, as long as
the file was not written. -/
theorem reload_serves_same (codec : JsonCodec R)
    (files : String → Option (SafetensorsFile DType R))
    (earlier later : List (Call torch base Temp World Generator Loss Optimizer Error β τ))
    (before saved final : Session torch base Temp)
    (reached : Machine.run (step codec) earlier (Session.fresh files) = some before)
    (path : String) (layers : Layers base) (listed : before.model.lists layers = true)
    (stable : StableScales before.model layers)
    (written : before.saveAdapter codec path layers = .ok saved)
    (json : codec.loads (codec.dumps (savedMetadata (before.model.named layers))) =
      some (savedMetadata (before.model.named layers)))
    (ran : Machine.run (step codec) later saved = some final)
    (unwritten : ∀ call ∈ later, call.Leaves path)
    (chosen : List (Key base.nLayers))
    (sameKeys : ∀ key, key ∈ chosen ↔ ∃ ref, layers.get? key = some ref) :
    ∃ loaded after, final.loadAdapter codec path chosen = .ok (loaded, after) ∧
      after.model.lists loaded = true ∧
      (∀ key ∈ chosen, (after.model.plugIn loaded).slotAt key =
        (before.model.plugIn layers).slotAt key) ∧
      ((∀ key, key ∈ chosen) →
        ∀ (functions : Functions R) (tokens : β → τ → Fin base.vocabSize),
          (after.model.plugIn loaded).forward functions tokens =
            (before.model.plugIn layers).forward functions tokens) := by
  have sound := (Session.sound_fresh files).run reached
  cases stored : Msp.Python.Persistence.saveAdapter codec (before.model.named layers) with
  | error error =>
      rw [Session.saveAdapter, stored] at written
      cases written
  | ok file =>
      rw [Session.saveAdapter, stored] at written
      cases written
      have kept : final.files path = some file :=
        (run_files later _ final ran unwritten).trans (Function.update_self _ _ _)
      obtain ⟨loaded, after, done, fits, each⟩ :=
        loadAdapter_saved stable sound listed stored json sameKeys kept
      have slots : ∀ key ∈ chosen, (after.model.plugIn loaded).slotAt key =
          (before.model.plugIn layers).slotAt key := by
        intro key inside
        obtain ⟨ref, object, ref', object', there, found, isKey, there', found', isKey', same⟩ :=
          each key inside
        exact slotAt_eq there found isKey there' found' isKey' same
      exact ⟨loaded, after, done, fits, slots, fun covers functions tokens =>
        forward_of_slots (fun key => slots key (covers key)) functions tokens⟩

theorem stableScales_attached : StableScales attachedSession.model onFc1 := by
  intro key ref object there found
  have isRef : ref = 0 := by
    have member := List.mem_singleton.mp (Dict.get?_eq_some.mp there)
    exact congrArg Prod.snd member
  subst isRef
  cases found
  have one : BinaryFloat.Representable significandBits 1 := ⟨1, 0, by decide, by norm_num⟩
  exact savedAndLoaded_fixed one Nat.zero_lt_two (by decide)

theorem reload_serves_same_fc1 :
    ∃ saved final loaded after, attachedSession.saveAdapter attachedCodec "task" onFc1 =
        .ok saved ∧
      Machine.run (step attachedCodec) ([.route 0 false] : List SampleCall) saved = some final ∧
      final.loadAdapter attachedCodec "task" [fc1Key] = .ok (loaded, after) ∧
      (after.model.plugIn loaded).slotAt fc1Key =
        (attachedSession.model.plugIn onFc1).slotAt fc1Key := by
  have sameKeys : ∀ key : Key zeroBase.nLayers,
      key ∈ [fc1Key] ↔ ∃ ref, onFc1.get? key = some ref := fun key =>
    (Dict.mem_keys : key ∈ onFc1.keys ↔ _)
  obtain ⟨saved, written⟩ : ∃ saved, attachedSession.saveAdapter attachedCodec "task" onFc1 =
      .ok saved := ⟨_, rfl⟩
  obtain ⟨final, ran⟩ : ∃ final, Machine.run (step attachedCodec)
      ([.route 0 false] : List SampleCall) saved = some final := ⟨_, rfl⟩
  obtain ⟨loaded, after, done, -, slots, -⟩ :=
    reload_serves_same attachedCodec (fun _ => none) attachFc1 [.route 0 false] attachedSession
      saved final run_attachFc1 "task" onFc1 rfl stableScales_attached written rfl ran
      (by simp [Call.Leaves]) [fc1Key] sameKeys
  exact ⟨saved, final, loaded, after, written, ran, done, slots fc1Key List.mem_cons_self⟩

end Session

end Msp.Training
