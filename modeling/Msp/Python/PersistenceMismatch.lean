import Msp.Python.PersistenceRoundTrip

/-!
# Loading a saved adapter over other base layers

`load_adapter` compares the names and leaves the rest to `copy_`, which
broadcasts and converts.  A base layer is accepted when the saved sizes equal
its own or are one; what is then loaded is the saved matrices only if the sizes
are equal and the base layer's dtype holds the saved values.
-/

set_option autoImplicit false

namespace Msp.Python.Persistence

open Msp.Library Msp.Python.PluginLayer

section Mismatch
variable {DType Elem Scalar : Type} {torch : Torch DType Elem Scalar}

/-- The same shape and the same values; the dtype may differ. -/
def SameMatrix (loaded saved : Tensor DType Elem) : Prop :=
  ∃ (rows : loaded.rows = saved.rows) (cols : loaded.cols = saved.cols),
    ∀ row col, loaded.entries row col = saved.entries (row.cast rows) (col.cast cols)

def SameNames (layers : Dict String (StructuralPluginLayer torch))
    (baseLayers : Dict String (Linear DType)) : Prop :=
  ∀ layerName, layerName ∈ baseLayers.keys ↔ layerName ∈ layers.keys

def ShapesDiffer (layer : StructuralPluginLayer torch) (base : Linear DType) : Prop :=
  layer.base.inFeatures ≠ base.inFeatures ∨ layer.base.outFeatures ≠ base.outFeatures

/-- What a load may do: raise, or give back for exactly the saved names the
saved matrices; and raise where names or shapes do not match. -/
structure NeverLoadsOther (torch : Torch DType Elem Scalar) (codec : JsonCodec Scalar)
    (path : String) (file : SafetensorsFile DType Elem)
    (layers : Dict String (StructuralPluginLayer torch))
    (baseLayers : Dict String (Linear DType)) : Prop where
  returned : ∀ loaded, loadAdapter torch codec path (some file) baseLayers = .ok loaded →
    (∀ layerName, layerName ∈ loaded.keys ↔ layerName ∈ layers.keys) ∧
      ∀ layerName layer, layers.get? layerName = some layer →
        ∃ back, loaded.get? layerName = some back ∧
          SameMatrix back.pluginMatrixA layer.pluginMatrixA ∧
          SameMatrix back.pluginMatrixB layer.pluginMatrixB
  namesChecked : ¬ SameNames layers baseLayers →
    ∃ error, loadAdapter torch codec path (some file) baseLayers = .error error
  shapesChecked : (∃ layerName layer base, layers.get? layerName = some layer ∧
      baseLayers.get? layerName = some base ∧ ShapesDiffer layer base) →
    ∃ error, loadAdapter torch codec path (some file) baseLayers = .error error

structure Accepts (layer : StructuralPluginLayer torch) (base : Linear DType) : Prop where
  trainable : torch.trainable base.weightDtype = true
  inFeatures : layer.base.inFeatures = base.inFeatures ∨ layer.base.inFeatures = 1
  outFeatures : layer.base.outFeatures = base.outFeatures ∨ layer.base.outFeatures = 1

/-- The sizes are equal and the conversion to the base layer's dtype changes no
saved value. -/
structure Fits (layer : StructuralPluginLayer torch) (base : Linear DType) : Prop where
  inFeatures : layer.base.inFeatures = base.inFeatures
  outFeatures : layer.base.outFeatures = base.outFeatures
  valuesA : ∀ row col, torch.cast layer.adapterDtype base.weightDtype (layer.entriesA row col) =
    layer.entriesA row col
  valuesB : ∀ row col, torch.cast layer.adapterDtype base.weightDtype (layer.entriesB row col) =
    layer.entriesB row col

def loadedOver (layer : StructuralPluginLayer torch) (base : Linear DType)
    (accepts : Accepts layer base) : StructuralPluginLayer torch where
  base := base
  rank := layer.rank
  rankPositive := layer.rankPositive
  adapterDtype := base.weightDtype
  trainable := accepts.trainable
  entriesA row col := torch.cast layer.adapterDtype base.weightDtype
    (layer.entriesA row (broadcastIndex accepts.inFeatures col))
  entriesB row col := torch.cast layer.adapterDtype base.weightDtype
    (layer.entriesB (broadcastIndex accepts.outFeatures row) col)
  scaling := torch.divide (torch.multiply layer.scaling layer.rank) layer.rank
  routingGateEnabled := layer.routingGateEnabled

theorem broadcastIndex_same {size target : Nat} (fits : size = target ∨ size = 1)
    (same : size = target) (index : Fin target) :
    broadcastIndex fits index = index.cast same.symm := dif_pos same

theorem copyInto_of_rows (dtype target : DType) {rows cols targetCols : Nat}
    (entries : Fin rows → Fin cols → Elem) (fits : cols = targetCols ∨ cols = 1) :
    copyInto torch target rows targetCols ⟨dtype, rows, cols, entries⟩ =
      .ok fun row col => torch.cast dtype target (entries row (broadcastIndex fits col)) := by
  refine (dif_pos ⟨Or.inl rfl, fits⟩).trans (congrArg Except.ok ?_)
  funext row col
  rw [broadcastIndex_same (Or.inl rfl) rfl row]
  rfl

theorem copyInto_of_cols (dtype target : DType) {rows cols targetRows : Nat}
    (entries : Fin rows → Fin cols → Elem) (fits : rows = targetRows ∨ rows = 1) :
    copyInto torch target targetRows cols ⟨dtype, rows, cols, entries⟩ =
      .ok fun row col => torch.cast dtype target (entries (broadcastIndex fits row) col) := by
  refine (dif_pos ⟨fits, Or.inl rfl⟩).trans (congrArg Except.ok ?_)
  funext row col
  rw [broadcastIndex_same (Or.inl rfl) rfl col]
  rfl

theorem fits_of_copyInto {dtype : DType} {rows cols : Nat} {source : Tensor DType Elem}
    {entries : Fin rows → Fin cols → Elem}
    (copied : copyInto torch dtype rows cols source = .ok entries) :
    (source.rows = rows ∨ source.rows = 1) ∧ (source.cols = cols ∨ source.cols = 1) := by
  by_contra refused
  have raised := copied.symm.trans (dif_neg refused)
  cases raised

theorem base_of_construct {rank : Int} {alpha : Scalar} {base : Linear DType}
    {layer : StructuralPluginLayer torch}
    (constructed : StructuralPluginLayer.construct torch base rank alpha none = .ok layer) :
    layer.base = base ∧ torch.trainable base.weightDtype = true := by
  unfold StructuralPluginLayer.construct at constructed
  split at constructed
  · split at constructed
    · rename_i trainable
      cases constructed
      exact ⟨rfl, trainable⟩
    · cases constructed
  · cases constructed

section OneLayer
variable {layers : Dict String (StructuralPluginLayer torch)} {layerName : String}
  {layer : StructuralPluginLayer torch} {base : Linear DType}

theorem loadLayer_accepts (found : layers.get? layerName = some layer)
    (accepts : Accepts layer base) :
    loadLayer torch (savedTensors layers) (savedMetadata layers) layerName base =
      .ok (loadedOver layer base accepts) := by
  obtain ⟨atA, atB⟩ := savedTensors_get? found
  have copiedA : copyInto torch base.weightDtype layer.rank base.inFeatures layer.pluginMatrixA =
      _ := copyInto_of_rows layer.adapterDtype base.weightDtype layer.entriesA accepts.inFeatures
  have copiedB : copyInto torch base.weightDtype base.outFeatures layer.rank layer.pluginMatrixB =
      _ := copyInto_of_cols layer.adapterDtype base.weightDtype layer.entriesB accepts.outFeatures
  unfold loadLayer
  rw [savedMetadata_get? found]
  simp only [layerMetadata]
  rw [construct_natCast base layer.rank _ layer.rankPositive accepts.trainable,
    tensorAt_of_get? atA, tensorAt_of_get? atB]
  simp only [bind, Except.bind]
  rw [copiedA]
  simp only
  rw [copiedB]
  rfl

theorem accepts_of_loadLayer (found : layers.get? layerName = some layer)
    {loaded : StructuralPluginLayer torch}
    (done : loadLayer torch (savedTensors layers) (savedMetadata layers) layerName base =
      .ok loaded) : Accepts layer base := by
  obtain ⟨saved, built, sourceA, _, sourceB, _, known, constructed, atA, copiedA, atB, copiedB, _⟩ :=
    loadLayer_eq_ok done
  cases (savedMetadata_get? found).symm.trans known
  cases atA.symm.trans (tensorAt_of_get? (savedTensors_get? found).1)
  cases atB.symm.trans (tensorAt_of_get? (savedTensors_get? found).2)
  obtain ⟨isBase, trainable⟩ := base_of_construct constructed
  have fitsA := fits_of_copyInto copiedA
  have fitsB := fits_of_copyInto copiedB
  rw [isBase] at fitsA fitsB
  exact ⟨trainable, fitsA.2, fitsB.1⟩

theorem sameMatrices_iff (accepts : Accepts layer base) :
    (SameMatrix (loadedOver layer base accepts).pluginMatrixA layer.pluginMatrixA ∧
      SameMatrix (loadedOver layer base accepts).pluginMatrixB layer.pluginMatrixB) ↔
      Fits layer base := by
  constructor
  · rintro ⟨⟨_, sameIn, sameA⟩, sameOut, _, sameB⟩
    have inEqual : layer.base.inFeatures = base.inFeatures := sameIn.symm
    have outEqual : layer.base.outFeatures = base.outFeatures := sameOut.symm
    refine ⟨inEqual, outEqual, fun row col => ?_, fun row col => ?_⟩
    · have index := broadcastIndex_same accepts.inFeatures inEqual (col.cast inEqual)
      have here : torch.cast layer.adapterDtype base.weightDtype
          (layer.entriesA row (broadcastIndex accepts.inFeatures (col.cast inEqual))) =
            layer.entriesA row col := sameA row (col.cast inEqual)
      rw [index] at here
      exact here
    · have index := broadcastIndex_same accepts.outFeatures outEqual (row.cast outEqual)
      have here : torch.cast layer.adapterDtype base.weightDtype
          (layer.entriesB (broadcastIndex accepts.outFeatures (row.cast outEqual)) col) =
            layer.entriesB row col := sameB (row.cast outEqual) col
      rw [index] at here
      exact here
  · intro fits
    refine ⟨⟨rfl, fits.inFeatures.symm, fun row col => ?_⟩,
      fits.outFeatures.symm, rfl, fun row col => ?_⟩
    · change torch.cast layer.adapterDtype base.weightDtype
        (layer.entriesA row (broadcastIndex accepts.inFeatures col)) = _
      rw [broadcastIndex_same accepts.inFeatures fits.inFeatures col]
      exact fits.valuesA _ _
    · change torch.cast layer.adapterDtype base.weightDtype
        (layer.entriesB (broadcastIndex accepts.outFeatures row) col) = _
      rw [broadcastIndex_same accepts.outFeatures fits.outFeatures row]
      exact fits.valuesB _ _

end OneLayer

/-! ## All layers -/

theorem sortedDifference_eq_nil_iff {left right : List String} :
    sortedDifference left right = [] ↔ ∀ name ∈ left, name ∈ right := by
  refine ⟨fun empty name member => ?_, sortedDifference_eq_nil⟩
  by_contra absent
  have kept : name ∈ sortedDifference left right := by
    unfold sortedDifference
    rw [List.mem_mergeSort, List.mem_filter]
    exact ⟨member, by simpa using absent⟩
  rw [empty] at kept
  cases kept

theorem loadAdapter_saved {codec : JsonCodec Scalar} (path : String)
    {layers : Dict String (StructuralPluginLayer torch)} {file : SafetensorsFile DType Elem}
    (saved : saveAdapter codec layers = .ok file) (baseLayers : Dict String (Linear DType))
    (json : codec.loads (codec.dumps (savedMetadata layers)) = some (savedMetadata layers)) :
    (SameNames layers baseLayers ∧ loadAdapter torch codec path (some file) baseLayers =
      (loadLayers torch (savedTensors layers) (savedMetadata layers) baseLayers.entries).map
        Dict.empty.update) ∨
    (¬ SameNames layers baseLayers ∧ ∃ missing extra,
      loadAdapter torch codec path (some file) baseLayers =
        .error (.layerNamesDiffer missing extra)) := by
  unfold saveAdapter at saved
  split at saved
  · cases saved
  · cases saved
    have sameKeys : (savedMetadata layers).keys = layers.keys := Dict.keys_mapValues _ _
    have sameNames : SameNames layers baseLayers ↔
        sortedDifference (savedMetadata layers).keys baseLayers.keys = [] ∧
          sortedDifference baseLayers.keys (savedMetadata layers).keys = [] := by
      rw [sortedDifference_eq_nil_iff, sortedDifference_eq_nil_iff, sameKeys]
      exact ⟨fun same => ⟨fun name => (same name).mpr, fun name => (same name).mp⟩,
        fun covered name => ⟨covered.2 name, covered.1 name⟩⟩
    by_cases same : SameNames layers baseLayers
    · refine Or.inl ⟨same, ?_⟩
      obtain ⟨noMissing, noExtra⟩ := sameNames.mp same
      simp [loadAdapter, json, noMissing, noExtra]
    · refine Or.inr ⟨same, sortedDifference (savedMetadata layers).keys baseLayers.keys,
        sortedDifference baseLayers.keys (savedMetadata layers).keys, ?_⟩
      have differ := fun both => same (sameNames.mpr both)
      simp only [loadAdapter, Dict.get?_set_self, Option.bind_some, json]
      rw [if_pos]
      by_contra neither
      simp only [not_or, not_not] at neither
      exact differ neither

def LoadsOver (layers : Dict String (StructuralPluginLayer torch))
    (baseLayers : Dict String (Linear DType)) : Prop :=
  SameNames layers baseLayers ∧ ∀ layerName layer base, layers.get? layerName = some layer →
    baseLayers.get? layerName = some base → Accepts layer base

theorem exists_saved_of_known {layers : Dict String (StructuralPluginLayer torch)}
    {baseLayers : Dict String (Linear DType)} (sameNames : SameNames layers baseLayers)
    {layerName : String} {base : Linear DType} (known : baseLayers.get? layerName = some base) :
    ∃ layer, layers.get? layerName = some layer :=
  Dict.mem_keys.mp ((sameNames layerName).mp (Dict.mem_keys.mpr ⟨base, known⟩))

theorem exists_base_of_saved {layers : Dict String (StructuralPluginLayer torch)}
    {baseLayers : Dict String (Linear DType)} (sameNames : SameNames layers baseLayers)
    {layerName : String} {layer : StructuralPluginLayer torch}
    (found : layers.get? layerName = some layer) :
    ∃ base, baseLayers.get? layerName = some base :=
  Dict.mem_keys.mp ((sameNames layerName).mpr (Dict.mem_keys.mpr ⟨layer, found⟩))

section Load
variable {codec : JsonCodec Scalar} {path : String}
  {layers : Dict String (StructuralPluginLayer torch)} {file : SafetensorsFile DType Elem}
  {baseLayers : Dict String (Linear DType)}

/-- A load that returns was accepted by every base layer, and holds what each of
them makes of the saved matrices. -/
theorem loaded_over (saved : saveAdapter codec layers = .ok file)
    (json : codec.loads (codec.dumps (savedMetadata layers)) = some (savedMetadata layers))
    {loaded : Dict String (StructuralPluginLayer torch)}
    (done : loadAdapter torch codec path (some file) baseLayers = .ok loaded) :
    LoadsOver layers baseLayers ∧
      (∀ layerName, layerName ∈ loaded.keys ↔ layerName ∈ layers.keys) ∧
      ∀ layerName layer base, layers.get? layerName = some layer →
        baseLayers.get? layerName = some base →
          ∃ accepts : Accepts layer base,
            loaded.get? layerName = some (loadedOver layer base accepts) := by
  rcases loadAdapter_saved path saved baseLayers json with ⟨same, ran⟩ | ⟨_, _, _, refused⟩
  · rw [ran] at done
    cases listed : loadLayers torch (savedTensors layers) (savedMetadata layers)
        baseLayers.entries with
    | error error =>
        rw [listed] at done
        cases done
    | ok items =>
        rw [listed] at done
        cases done
        have each : ∀ layerName layer base, layers.get? layerName = some layer →
            baseLayers.get? layerName = some base → ∃ accepts : Accepts layer base,
              (Dict.empty.update items).get? layerName =
                some (loadedOver layer base accepts) := by
          intro layerName layer base found known
          obtain ⟨back, there, loadedHere⟩ := get?_of_loadLayers listed known
          have accepts := accepts_of_loadLayer found loadedHere
          cases loadedHere.symm.trans (loadLayer_accepts found accepts)
          exact ⟨accepts, there⟩
        refine ⟨⟨same, ?_⟩, ?_, each⟩
        · intro layerName layer base found known
          exact (each layerName layer base found known).1
        · intro layerName
          rw [mem_keys_of_loadLayers listed]
          exact same layerName
  · rw [refused] at done
    cases done

variable (path) in
theorem loads_of_accepted (saved : saveAdapter codec layers = .ok file)
    (json : codec.loads (codec.dumps (savedMetadata layers)) = some (savedMetadata layers))
    (loadsOver : LoadsOver layers baseLayers) :
    ∃ loaded, loadAdapter torch codec path (some file) baseLayers = .ok loaded := by
  rcases loadAdapter_saved path saved baseLayers json with ⟨same, ran⟩ | ⟨differ, _⟩
  · obtain ⟨items, listed⟩ : ∃ items, loadLayers torch (savedTensors layers)
        (savedMetadata layers) baseLayers.entries = .ok items := by
      apply loadLayers_total
      rintro ⟨layerName, base⟩ member
      have known := Dict.get?_eq_some.mpr member
      obtain ⟨layer, found⟩ := exists_saved_of_known same known
      exact ⟨_, loadLayer_accepts found (loadsOver.2 layerName layer base found known)⟩
    exact ⟨_, by rw [ran, listed]; rfl⟩
  · exact absurd loadsOver.1 differ

end Load

/-- For every saved adapter and every dictionary of base layers: nothing other
than the saved matrices is loaded, exactly when every base layer fits as soon
as all of them accept. -/
theorem never_loads_other_iff (codec : JsonCodec Scalar) (path : String)
    (layers : Dict String (StructuralPluginLayer torch)) (file : SafetensorsFile DType Elem)
    (saved : saveAdapter codec layers = .ok file) (baseLayers : Dict String (Linear DType))
    (json : codec.loads (codec.dumps (savedMetadata layers)) = some (savedMetadata layers)) :
    NeverLoadsOther torch codec path file layers baseLayers ↔
      (LoadsOver layers baseLayers → ∀ layerName layer base,
        layers.get? layerName = some layer → baseLayers.get? layerName = some base →
          Fits layer base) := by
  constructor
  · intro never loadsOver layerName layer base found known
    obtain ⟨loaded, done⟩ := loads_of_accepted path saved json loadsOver
    obtain ⟨_, each⟩ := never.returned loaded done
    obtain ⟨back, there, sameA, sameB⟩ := each layerName layer found
    obtain ⟨_, _, atEach⟩ := loaded_over saved json done
    obtain ⟨accepts, isOver⟩ := atEach layerName layer base found known
    cases there.symm.trans isOver
    exact (sameMatrices_iff accepts).mp ⟨sameA, sameB⟩
  · intro fits
    have raises : ∀ obstacle : ¬ (LoadsOver layers baseLayers ∧ ∀ layerName layer base,
        layers.get? layerName = some layer → baseLayers.get? layerName = some base →
          Fits layer base),
        ∃ error, loadAdapter torch codec path (some file) baseLayers = .error error := by
      intro obstacle
      cases done : loadAdapter torch codec path (some file) baseLayers with
      | error error => exact ⟨error, rfl⟩
      | ok loaded =>
          have loadsOver := (loaded_over saved json done).1
          exact absurd ⟨loadsOver, fits loadsOver⟩ obstacle
    constructor
    case returned =>
      intro loaded done
      obtain ⟨loadsOver, names, atEach⟩ := loaded_over saved json done
      refine ⟨names, fun layerName layer found => ?_⟩
      obtain ⟨base, known⟩ := exists_base_of_saved loadsOver.1 found
      obtain ⟨accepts, there⟩ := atEach layerName layer base found known
      have itFits := fits loadsOver layerName layer base found known
      exact ⟨_, there, (sameMatrices_iff accepts).mpr itFits⟩
    case namesChecked =>
      intro differ
      exact raises fun both => differ both.1.1
    case shapesChecked =>
      rintro ⟨layerName, layer, base, found, known, differ⟩
      refine raises fun both => ?_
      have itFits := both.2 layerName layer base found known
      rcases differ with inDiffers | outDiffers
      · exact inDiffers itFits.inFeatures
      · exact outDiffers itFits.outFeatures

end Mismatch

def sampleFile : SafetensorsFile SampleDType Int where
  tensors := savedTensors (sampleLayers .float32)
  metadata := some (Dict.empty.set metadataKey (sampleCodec.dumps
    (savedMetadata (sampleLayers .float32))))

def widerBases : Dict String (Linear SampleDType) where
  entries := [("proj", ⟨1, 2, .float32⟩)]
  distinct := List.nodup_singleton _

theorem never_loads_other_iff_sample :
    NeverLoadsOther sampleTorch sampleCodec "adapter.safetensors" sampleFile
      (sampleLayers .float32) sampleBases := by
  apply (never_loads_other_iff sampleCodec _ (sampleLayers .float32) sampleFile rfl sampleBases
    (json_sample _)).mpr
  intro _ layerName layer base found known
  cases List.mem_singleton.mp (Dict.get?_eq_some.mp found)
  cases List.mem_singleton.mp (Dict.get?_eq_some.mp known)
  exact ⟨rfl, rfl, fun _ _ => rfl, fun _ _ => rfl⟩

/-- The one saved column is loaded into both. -/
theorem narrow_matrix_widened :
    ¬ NeverLoadsOther sampleTorch sampleCodec "adapter.safetensors" sampleFile
      (sampleLayers .float32) widerBases := by
  intro never
  have loadsOver : LoadsOver (sampleLayers .float32) widerBases := by
    refine ⟨fun layerName => Iff.rfl, fun layerName layer base found known => ?_⟩
    cases List.mem_singleton.mp (Dict.get?_eq_some.mp found)
    cases List.mem_singleton.mp (Dict.get?_eq_some.mp known)
    exact ⟨rfl, Or.inr rfl, Or.inl rfl⟩
  obtain ⟨loaded, done⟩ := loads_of_accepted "adapter.safetensors"
    (show saveAdapter sampleCodec (sampleLayers .float32) = .ok sampleFile from rfl)
    (json_sample _) loadsOver
  obtain ⟨error, raised⟩ := never.shapesChecked
    ⟨"proj", _, _, rfl, rfl, Or.inl (show (1 : Nat) ≠ 2 by decide)⟩
  cases done.symm.trans raised

end Msp.Python.Persistence
