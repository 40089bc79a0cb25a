import Msp.Python.Persistence

/-!
# What comes back from a saved adapter

The tensors stay with their layer because the two keys of a name are injective
in it.  A layer comes back as it was when its dtype is the one the base layer
would have given it; the dtype itself is not saved.
-/

set_option autoImplicit false

namespace Msp.Python.Persistence

open Msp.Library Msp.Python.PluginLayer

theorem keyA_injective {first second : String} (same : keyA first = keyA second) :
    first = second := String.append_left_inj _ |>.mp same

theorem keyB_injective {first second : String} (same : keyB first = keyB second) :
    first = second := String.append_left_inj _ |>.mp same

theorem keyA_ne_keyB (first second : String) : keyA first ≠ keyB second := by
  intro same
  have lists := congrArg (fun key : String => key.toList.getLast?) same
  simp [keyA, keyB, String.toList_append] at lists

section RoundTrip
variable {DType Elem Scalar : Type} {torch : Torch DType Elem Scalar}

theorem mem_tensorItems {layers : Dict String (StructuralPluginLayer torch)} {key : String}
    {tensor : Tensor DType Elem} (member : (key, tensor) ∈ layers.entries.flatMap tensorItems) :
    ∃ layerName layer, layers.get? layerName = some layer ∧
      (key = keyA layerName ∧ tensor = layer.pluginMatrixA ∨
        key = keyB layerName ∧ tensor = layer.pluginMatrixB) := by
  obtain ⟨⟨layerName, layer⟩, there, item⟩ := List.mem_flatMap.mp member
  refine ⟨layerName, layer, Dict.get?_eq_some.mpr there, ?_⟩
  rcases List.mem_cons.mp item with first | rest
  · cases first
    exact Or.inl ⟨rfl, rfl⟩
  · cases List.mem_singleton.mp rest
    exact Or.inr ⟨rfl, rfl⟩

theorem savedTensors_get? {layers : Dict String (StructuralPluginLayer torch)}
    {layerName : String} {layer : StructuralPluginLayer torch}
    (found : layers.get? layerName = some layer) :
    (savedTensors layers).get? (keyA layerName) = some layer.pluginMatrixA ∧
      (savedTensors layers).get? (keyB layerName) = some layer.pluginMatrixB := by
  have here := Dict.get?_eq_some.mp found
  constructor
  · apply Dict.get?_update_of_mem
    · exact List.mem_flatMap.mpr ⟨_, here, List.mem_cons_self⟩
    · intro other member
      obtain ⟨otherName, otherLayer, otherFound, isA | isB⟩ := mem_tensorItems member
      · rw [keyA_injective isA.1, otherFound] at found
        rw [isA.2, Option.some.inj found]
      · exact absurd isB.1 (keyA_ne_keyB _ _)
  · apply Dict.get?_update_of_mem
    · exact List.mem_flatMap.mpr ⟨_, here, List.mem_cons_of_mem _ List.mem_cons_self⟩
    · intro other member
      obtain ⟨otherName, otherLayer, otherFound, isA | isB⟩ := mem_tensorItems member
      · exact absurd isA.1.symm (keyA_ne_keyB _ _)
      · rw [keyB_injective isB.1, otherFound] at found
        rw [isB.2, Option.some.inj found]

/-- What a round trip is to preserve: rank, both matrices with shape, dtype and values,
and the routing gate. -/
structure SameAdapter (loaded saved : StructuralPluginLayer torch) : Prop where
  rank : loaded.rank = saved.rank
  matrixA : loaded.pluginMatrixA = saved.pluginMatrixA
  matrixB : loaded.pluginMatrixB = saved.pluginMatrixB
  gate : loaded.routingGateEnabled = saved.routingGateEnabled

theorem construct_natCast (base : Linear DType) (rank : Nat) (alpha : Scalar)
    (positive : 0 < rank) (trainable : torch.trainable base.weightDtype = true) :
    StructuralPluginLayer.construct torch base rank alpha none =
      .ok ⟨base, rank, positive, base.weightDtype, trainable,
        torch.kaimingUniform rank base.inFeatures, fun _ _ => torch.zero,
        torch.divide alpha rank, true⟩ := by
  unfold StructuralPluginLayer.construct
  rw [dif_pos (Int.natCast_pos.mpr positive)]
  exact dif_pos trainable

theorem adapterDtype_of_construct {base : Linear DType} {rank : Int} {alpha : Scalar}
    {layer : StructuralPluginLayer torch}
    (constructed : StructuralPluginLayer.construct torch base rank alpha none = .ok layer) :
    layer.adapterDtype = base.weightDtype := by
  unfold StructuralPluginLayer.construct at constructed
  split at constructed
  · split at constructed
    · cases constructed
      rfl
    · cases constructed
  · cases constructed

theorem tensorAt_of_get? {tensors : Dict String (Tensor DType Elem)} {key : String}
    {tensor : Tensor DType Elem} (found : tensors.get? key = some tensor) :
    tensorAt tensors key = .ok tensor := by
  unfold tensorAt
  rw [found]

theorem savedMetadata_get? {layers : Dict String (StructuralPluginLayer torch)}
    {layerName : String} {layer : StructuralPluginLayer torch}
    (found : layers.get? layerName = some layer) :
    (savedMetadata layers).get? layerName = some (layerMetadata layer) := by
  rw [savedMetadata, Dict.get?_mapValues, found]
  rfl

/-- With the dtype the base layer gives it, a saved layer is loaded as it was. -/
theorem loadLayer_saved {layers : Dict String (StructuralPluginLayer torch)} {layerName : String}
    {layer : StructuralPluginLayer torch} (found : layers.get? layerName = some layer)
    (sameDtype : layer.adapterDtype = layer.base.weightDtype) :
    ∃ loaded, loadLayer torch (savedTensors layers) (savedMetadata layers) layerName layer.base =
      .ok loaded ∧ SameAdapter loaded layer := by
  obtain ⟨atA, atB⟩ := savedTensors_get? found
  obtain ⟨base, rank, positive, adapterDtype, trainable, entriesA, entriesB, scaling, gate⟩ := layer
  simp only at sameDtype
  subst sameDtype
  refine ⟨⟨base, rank, positive, base.weightDtype, trainable, entriesA, entriesB,
    torch.divide (torch.multiply scaling rank) rank, gate⟩, ?_, ⟨rfl, rfl, rfl, rfl⟩⟩
  unfold loadLayer
  rw [savedMetadata_get? found]
  simp only [layerMetadata]
  rw [construct_natCast base rank _ positive trainable, tensorAt_of_get? atA, tensorAt_of_get? atB]
  have copiedA := copyInto_same torch ⟨base.weightDtype, rank, base.inFeatures, entriesA⟩
  have copiedB := copyInto_same torch ⟨base.weightDtype, base.outFeatures, rank, entriesB⟩
  simp only [bind, Except.bind, StructuralPluginLayer.pluginMatrixA,
    StructuralPluginLayer.pluginMatrixB] at copiedA copiedB ⊢
  rw [copiedA]
  simp only
  rw [copiedB]

theorem loadLayer_eq_ok {tensors : Dict String (Tensor DType Elem)}
    {perLayerMetadata : Dict String (LayerMetadata Scalar)} {layerName : String}
    {base : Linear DType} {loaded : StructuralPluginLayer torch}
    (done : loadLayer torch tensors perLayerMetadata layerName base = .ok loaded) :
    ∃ saved layer sourceA entriesA sourceB entriesB,
      perLayerMetadata.get? layerName = some saved ∧
      StructuralPluginLayer.construct torch base saved.rank saved.alpha none = .ok layer ∧
      tensorAt tensors (keyA layerName) = .ok sourceA ∧
      copyInto torch layer.adapterDtype layer.rank layer.base.inFeatures sourceA = .ok entriesA ∧
      tensorAt tensors (keyB layerName) = .ok sourceB ∧
      copyInto torch layer.adapterDtype layer.base.outFeatures layer.rank sourceB = .ok entriesB ∧
      loaded = { layer with
        entriesA := entriesA
        entriesB := entriesB
        routingGateEnabled := saved.routingGateEnabled } := by
  unfold loadLayer at done
  split at done
  · cases done
  · rename_i saved known
    simp only [bind, Except.bind] at done
    split at done
    · cases done
    · rename_i layer constructed
      split at done
      · cases done
      · rename_i sourceA atA
        split at done
        · cases done
        · rename_i entriesA copiedA
          split at done
          · cases done
          · rename_i sourceB atB
            split at done
            · cases done
            · rename_i entriesB copiedB
              cases done
              exact ⟨saved, layer, sourceA, entriesA, sourceB, entriesB, known, constructed, atA,
                copiedA, atB, copiedB, rfl⟩

theorem adapterDtype_of_loadLayer {tensors : Dict String (Tensor DType Elem)}
    {perLayerMetadata : Dict String (LayerMetadata Scalar)} {layerName : String}
    {base : Linear DType} {loaded : StructuralPluginLayer torch}
    (done : loadLayer torch tensors perLayerMetadata layerName base = .ok loaded) :
    loaded.adapterDtype = base.weightDtype := by
  obtain ⟨saved, layer, _, _, _, _, _, constructed, _, _, _, _, rfl⟩ := loadLayer_eq_ok done
  have sameDtype := adapterDtype_of_construct constructed
  exact sameDtype

/-! ## All layers -/

theorem loadLayers_eq_ok {tensors : Dict String (Tensor DType Elem)}
    {perLayerMetadata : Dict String (LayerMetadata Scalar)} :
    ∀ (items : List (String × Linear DType))
      (loaded : List (String × StructuralPluginLayer torch)),
      loadLayers torch tensors perLayerMetadata items = .ok loaded →
        loaded.map Prod.fst = items.map Prod.fst ∧
          ∀ item ∈ loaded, ∃ base, (item.1, base) ∈ items ∧
            loadLayer torch tensors perLayerMetadata item.1 base = .ok item.2 := by
  intro items
  induction items with
  | nil =>
      intro loaded done
      cases done
      exact ⟨rfl, fun _ member => nomatch member⟩
  | cons item rest ih =>
      intro loaded done
      obtain ⟨layerName, base⟩ := item
      simp only [loadLayers, bind, Except.bind] at done
      split at done
      · cases done
      · rename_i layer first
        split at done
        · cases done
        · rename_i others later
          cases done
          obtain ⟨names, each⟩ := ih others later
          refine ⟨by rw [List.map_cons, List.map_cons, names], fun other member => ?_⟩
          rcases List.mem_cons.mp member with here | there
          · rw [here]
            exact ⟨base, List.mem_cons_self, first⟩
          · obtain ⟨otherBase, known, done⟩ := each other there
            exact ⟨otherBase, List.mem_cons_of_mem _ known, done⟩

theorem mem_keys_of_loadLayers {tensors : Dict String (Tensor DType Elem)}
    {perLayerMetadata : Dict String (LayerMetadata Scalar)}
    {baseLayers : Dict String (Linear DType)} {items : List (String × StructuralPluginLayer torch)}
    (listed : loadLayers torch tensors perLayerMetadata baseLayers.entries = .ok items)
    (layerName : String) :
    layerName ∈ (Dict.empty.update items).keys ↔ layerName ∈ baseLayers.keys := by
  obtain ⟨names, _⟩ := loadLayers_eq_ok _ _ listed
  rw [Dict.mem_keys_update, names, Dict.keys_empty]
  simp only [List.not_mem_nil, or_false]
  rfl

theorem get?_of_loadLayers {tensors : Dict String (Tensor DType Elem)}
    {perLayerMetadata : Dict String (LayerMetadata Scalar)}
    {baseLayers : Dict String (Linear DType)} {items : List (String × StructuralPluginLayer torch)}
    (listed : loadLayers torch tensors perLayerMetadata baseLayers.entries = .ok items)
    {layerName : String} {base : Linear DType} (known : baseLayers.get? layerName = some base) :
    ∃ layer, (Dict.empty.update items).get? layerName = some layer ∧
      loadLayer torch tensors perLayerMetadata layerName base = .ok layer := by
  obtain ⟨names, each⟩ := loadLayers_eq_ok _ _ listed
  have listedName : layerName ∈ items.map Prod.fst := by
    rw [names]
    exact Dict.mem_keys.mpr ⟨_, known⟩
  obtain ⟨⟨name, layer⟩, member, sameName⟩ := List.mem_map.mp listedName
  dsimp only at sameName
  rw [sameName] at member
  have ofBase : ∀ other, (layerName, other) ∈ items →
      loadLayer torch tensors perLayerMetadata layerName base = .ok other := by
    intro other otherMember
    obtain ⟨itsBase, known', loadedHere⟩ := each _ otherMember
    cases known.symm.trans (Dict.get?_eq_some.mpr known')
    exact loadedHere
  have here := ofBase layer member
  have onlyThis : ∀ other, (layerName, other) ∈ items → other = layer := by
    intro other otherMember
    exact Except.ok.inj ((ofBase other otherMember).symm.trans here)
  exact ⟨layer, Dict.get?_update_of_mem items _ _ layer member onlyThis, here⟩

theorem loadLayers_total {tensors : Dict String (Tensor DType Elem)}
    {perLayerMetadata : Dict String (LayerMetadata Scalar)} :
    ∀ items : List (String × Linear DType),
      (∀ item ∈ items, ∃ layer,
        loadLayer torch tensors perLayerMetadata item.1 item.2 = .ok layer) →
      ∃ loaded, loadLayers torch tensors perLayerMetadata items = .ok loaded := by
  intro items
  induction items with
  | nil => intro _; exact ⟨[], rfl⟩
  | cons item rest ih =>
      intro each
      obtain ⟨layer, first⟩ := each item List.mem_cons_self
      obtain ⟨others, later⟩ := ih fun other member => each other (List.mem_cons_of_mem _ member)
      refine ⟨(item.1, layer) :: others, ?_⟩
      simp only [loadLayers, first, later, bind, Except.bind]

theorem sortedDifference_eq_nil {left right : List String}
    (covered : ∀ name ∈ left, name ∈ right) : sortedDifference left right = [] := by
  have none : (left.filter fun name => decide (name ∉ right)) = [] :=
    List.filter_eq_nil_iff.mpr fun name member => by simp [covered name member]
  rw [sortedDifference, none, List.mergeSort_nil]

def roundTrip (codec : JsonCodec Scalar) (path : String)
    (layers : Dict String (StructuralPluginLayer torch)) (baseLayers : Dict String (Linear DType)) :
    Except PyError (Dict String (StructuralPluginLayer torch)) := do
  let file ← saveAdapter codec layers
  loadAdapter torch codec path (some file) baseLayers

def SameBases (layers : Dict String (StructuralPluginLayer torch))
    (baseLayers : Dict String (Linear DType)) : Prop :=
  ∀ layerName, baseLayers.get? layerName = (layers.get? layerName).map StructuralPluginLayer.base

theorem mem_keys_iff {layers : Dict String (StructuralPluginLayer torch)}
    {baseLayers : Dict String (Linear DType)} (sameBases : SameBases layers baseLayers)
    (layerName : String) : layerName ∈ baseLayers.keys ↔ layerName ∈ layers.keys := by
  rw [Dict.mem_keys, Dict.mem_keys, sameBases layerName]
  cases layers.get? layerName <;> simp

/-- What is left of `load_adapter` on a file `save_adapter` wrote. -/
theorem roundTrip_eq {codec : JsonCodec Scalar} (path : String)
    {layers : Dict String (StructuralPluginLayer torch)}
    {baseLayers : Dict String (Linear DType)} (nonempty : layers.entries ≠ [])
    (sameBases : SameBases layers baseLayers)
    (json : codec.loads (codec.dumps (savedMetadata layers)) = some (savedMetadata layers)) :
    roundTrip codec path layers baseLayers =
      (loadLayers torch (savedTensors layers) (savedMetadata layers) baseLayers.entries).map
        Dict.empty.update := by
  have sameKeys : (savedMetadata layers).keys = layers.keys := Dict.keys_mapValues _ _
  have noMissing : sortedDifference (savedMetadata layers).keys baseLayers.keys = [] :=
    sortedDifference_eq_nil fun name member =>
      (mem_keys_iff sameBases name).mpr (sameKeys ▸ member)
  have noExtra : sortedDifference baseLayers.keys (savedMetadata layers).keys = [] :=
    sortedDifference_eq_nil fun name member =>
      sameKeys ▸ (mem_keys_iff sameBases name).mp member
  have full : layers.entries.isEmpty = false := by simpa using nonempty
  simp only [roundTrip, saveAdapter, full, bind, Except.bind, loadAdapter]
  simp [json, noMissing, noExtra]

/-- What comes back: for every name the layer itself, up to what is compared. -/
def ComesBack (layers loaded : Dict String (StructuralPluginLayer torch)) : Prop :=
  (∀ layerName, layerName ∈ loaded.keys ↔ layerName ∈ layers.keys) ∧
    ∀ layerName layer, layers.get? layerName = some layer →
      ∃ back, loaded.get? layerName = some back ∧ SameAdapter back layer

theorem sameDtype_of_comesBack {layers : Dict String (StructuralPluginLayer torch)}
    {baseLayers : Dict String (Linear DType)} (sameBases : SameBases layers baseLayers)
    {items : List (String × StructuralPluginLayer torch)}
    (listed : loadLayers torch (savedTensors layers) (savedMetadata layers) baseLayers.entries =
      .ok items)
    (back : ComesBack layers (Dict.empty.update items)) {layerName : String}
    {layer : StructuralPluginLayer torch} (found : layers.get? layerName = some layer) :
    layer.adapterDtype = layer.base.weightDtype := by
  obtain ⟨copy, there, same⟩ := back.2 layerName layer found
  obtain ⟨_, each⟩ := loadLayers_eq_ok _ _ listed
  rcases Dict.mem_of_get?_update items Dict.empty layerName copy there with member | absent
  · obtain ⟨base, known, loadedHere⟩ := each _ member
    have itsBase := sameBases layerName
    rw [found, Dict.get?_eq_some.mpr known] at itsBase
    have sameDtype : copy.adapterDtype = layer.adapterDtype := congrArg Tensor.dtype same.matrixA
    rw [← sameDtype, adapterDtype_of_loadLayer loadedHere, Option.some.inj itsBase]
  · cases absent

theorem loadLayer_of_sameDtypes {layers : Dict String (StructuralPluginLayer torch)}
    {baseLayers : Dict String (Linear DType)} (sameBases : SameBases layers baseLayers)
    (sameDtypes : ∀ layerName layer, layers.get? layerName = some layer →
      layer.adapterDtype = layer.base.weightDtype)
    {layerName : String} {base : Linear DType} (known : baseLayers.get? layerName = some base) :
    ∃ layer loaded, layers.get? layerName = some layer ∧
      loadLayer torch (savedTensors layers) (savedMetadata layers) layerName base = .ok loaded ∧
        SameAdapter loaded layer := by
  have itsBase := sameBases layerName
  rw [known] at itsBase
  obtain ⟨layer, found, rfl⟩ := Option.map_eq_some_iff.mp itsBase.symm
  obtain ⟨loaded, done, same⟩ := loadLayer_saved found (sameDtypes layerName layer found)
  exact ⟨layer, loaded, found, done, same⟩

theorem comesBack_of_sameDtypes {layers : Dict String (StructuralPluginLayer torch)}
    {baseLayers : Dict String (Linear DType)} (sameBases : SameBases layers baseLayers)
    (sameDtypes : ∀ layerName layer, layers.get? layerName = some layer →
      layer.adapterDtype = layer.base.weightDtype) :
    ∃ items, loadLayers torch (savedTensors layers) (savedMetadata layers) baseLayers.entries =
      .ok items ∧ ComesBack layers (Dict.empty.update items) := by
  obtain ⟨items, listed⟩ := loadLayers_total baseLayers.entries fun item member => by
    obtain ⟨_, loaded, _, done, _⟩ :=
      loadLayer_of_sameDtypes sameBases sameDtypes (Dict.get?_eq_some.mpr member)
    exact ⟨loaded, done⟩
  refine ⟨items, listed, fun layerName => ?_, fun layerName layer found => ?_⟩
  · rw [mem_keys_of_loadLayers listed]
    exact mem_keys_iff sameBases layerName
  · have known : baseLayers.get? layerName = some layer.base := by
      rw [sameBases layerName, found]
      rfl
    obtain ⟨_, loaded, otherFound, done, same⟩ :=
      loadLayer_of_sameDtypes sameBases sameDtypes known
    cases found.symm.trans otherFound
    obtain ⟨back, there, doneThere⟩ := get?_of_loadLayers listed known
    cases done.symm.trans doneThere
    exact ⟨loaded, there, same⟩

/-- Saving and loading over the same base layers gives back every layer exactly
when each adapter has the dtype of its base layer's weight. -/
theorem round_trip_iff (codec : JsonCodec Scalar) (path : String)
    (layers : Dict String (StructuralPluginLayer torch)) (baseLayers : Dict String (Linear DType))
    (nonempty : layers.entries ≠ []) (sameBases : SameBases layers baseLayers)
    (json : codec.loads (codec.dumps (savedMetadata layers)) = some (savedMetadata layers)) :
    (∃ loaded, roundTrip codec path layers baseLayers = .ok loaded ∧ ComesBack layers loaded) ↔
      ∀ layerName layer, layers.get? layerName = some layer →
        layer.adapterDtype = layer.base.weightDtype := by
  rw [roundTrip_eq path nonempty sameBases json]
  constructor
  · rintro ⟨loaded, done, back⟩ layerName layer found
    cases listed : loadLayers torch (savedTensors layers) (savedMetadata layers)
        baseLayers.entries with
    | error error =>
        rw [listed] at done
        cases done
    | ok items =>
        rw [listed] at done
        cases done
        exact sameDtype_of_comesBack sameBases listed back found
  · intro sameDtypes
    obtain ⟨items, listed, back⟩ := comesBack_of_sameDtypes sameBases sameDtypes
    exact ⟨Dict.empty.update items, by rw [listed]; rfl, back⟩

end RoundTrip

inductive SampleDType where
  | float16
  | float32
  deriving DecidableEq, Repr

def sampleTorch : Torch SampleDType Int Int where
  trainable _ := true
  cast _ _ element := element
  cast_self _ _ := rfl
  zero := 0
  kaimingUniform _ _ _ _ := 0
  divide alpha rank := alpha / rank
  multiply scaling rank := scaling * rank

def sampleBase : Linear SampleDType := ⟨1, 1, .float32⟩

def sampleLayers (adapterDtype : SampleDType) :
    Dict String (StructuralPluginLayer sampleTorch) where
  entries := [("proj", ⟨sampleBase, 1, Nat.zero_lt_one, adapterDtype, rfl, fun _ _ => 3,
    fun _ _ => 5, 2, true⟩)]
  distinct := List.nodup_singleton _

def sampleBases : Dict String (Linear SampleDType) where
  entries := [("proj", sampleBase)]
  distinct := List.nodup_singleton _

def sampleText : String :=
  "\x7b\"proj\": \x7b\"rank\": 1, \"alpha\": 2.0, \"routing_gate_enabled\": true\x7d\x7d"

def sampleCodec : JsonCodec Int where
  dumps _ := sampleText
  loads text :=
    if text = sampleText then some (savedMetadata (sampleLayers .float32)) else none

theorem sameBases_sample (adapterDtype : SampleDType) :
    SameBases (sampleLayers adapterDtype) sampleBases := by
  intro layerName
  simp only [Dict.get?, sampleBases, sampleLayers, InsertionDict.lookup]
  split <;> rfl

theorem json_sample (adapterDtype : SampleDType) :
    sampleCodec.loads (sampleCodec.dumps (savedMetadata (sampleLayers adapterDtype))) =
      some (savedMetadata (sampleLayers adapterDtype)) := by
  have same : savedMetadata (sampleLayers adapterDtype) =
      savedMetadata (sampleLayers .float32) := rfl
  rw [same]
  simp [sampleCodec]

theorem round_trip_iff_sample :
    ∃ loaded, roundTrip sampleCodec "adapter.safetensors" (sampleLayers .float32) sampleBases =
      .ok loaded ∧ ComesBack (sampleLayers .float32) loaded := by
  apply (round_trip_iff sampleCodec _ (sampleLayers .float32) sampleBases (by simp [sampleLayers])
    (sameBases_sample _) (json_sample _)).mpr
  intro layerName layer found
  cases List.mem_singleton.mp (Dict.get?_eq_some.mp found)
  rfl

theorem half_precision_lost :
    ¬ ∃ loaded, roundTrip sampleCodec "adapter.safetensors" (sampleLayers .float16) sampleBases =
      .ok loaded ∧ ComesBack (sampleLayers .float16) loaded := by
  rw [roundTrip_eq _ (by simp [sampleLayers]) (sameBases_sample _) (json_sample _)]
  rintro ⟨loaded, done, back⟩
  cases done
  have same : SampleDType.float16 = SampleDType.float32 :=
    sameDtype_of_comesBack (sameBases_sample .float16) rfl back
      (show (sampleLayers .float16).get? "proj" = some _ from rfl)
  cases same

end Msp.Python.Persistence
