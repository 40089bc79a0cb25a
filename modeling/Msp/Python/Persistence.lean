import Msp.Python.PluginLayer
import Msp.Library.InsertionDict

/-!
# Saving and loading adapters

Model of `src/python/msp/persistence.py`.  A `.safetensors` file is its map of
tensors and its `__metadata__` map; `json` is a parameter.  A path is the file
found there, if any.
-/

set_option autoImplicit false

namespace Msp.Python.Persistence

open Msp.Library Msp.Python.PluginLayer

structure LayerMetadata (Scalar : Type) where
  rank : Int
  alpha : Scalar
  routingGateEnabled : Bool
  deriving DecidableEq, Repr

/-- `json.dumps` and `json.loads` on the metadata; `loads` may raise. -/
structure JsonCodec (Scalar : Type) where
  dumps : Dict String (LayerMetadata Scalar) → String
  loads : String → Option (Dict String (LayerMetadata Scalar))

structure SafetensorsFile (DType Elem : Type) where
  tensors : Dict String (Tensor DType Elem)
  metadata : Option (Dict String String)

section Files
variable {DType Elem Scalar : Type} {torch : Torch DType Elem Scalar}

def metadataKey : String := "__msp_adapter_metadata__"

def keyA (layerName : String) : String := layerName ++ ".plugin_matrix_A"

def keyB (layerName : String) : String := layerName ++ ".plugin_matrix_B"

def layerMetadata (layer : StructuralPluginLayer torch) : LayerMetadata Scalar where
  rank := layer.rank
  alpha := torch.multiply layer.scaling layer.rank
  routingGateEnabled := layer.routingGateEnabled

/-- The two assignments to `tensors` for one layer. -/
def tensorItems (item : String × StructuralPluginLayer torch) :
    List (String × Tensor DType Elem) :=
  [(keyA item.1, item.2.pluginMatrixA), (keyB item.1, item.2.pluginMatrixB)]

def savedTensors (layers : Dict String (StructuralPluginLayer torch)) :
    Dict String (Tensor DType Elem) :=
  Dict.empty.update (layers.entries.flatMap tensorItems)

def savedMetadata (layers : Dict String (StructuralPluginLayer torch)) :
    Dict String (LayerMetadata Scalar) := layers.mapValues layerMetadata

def saveAdapter (codec : JsonCodec Scalar) (layers : Dict String (StructuralPluginLayer torch)) :
    Except PyError (SafetensorsFile DType Elem) :=
  if layers.entries.isEmpty then .error (.valueError "save_adapter: layers must be non-empty")
  else
    .ok
      { tensors := savedTensors layers
        metadata := some (Dict.empty.set metadataKey (codec.dumps (savedMetadata layers))) }

def tensorAt (tensors : Dict String (Tensor DType Elem)) (key : String) :
    Except PyError (Tensor DType Elem) :=
  match tensors.get? key with
  | some tensor => .ok tensor
  | none => .error (.keyError key)

/-- The body of the loop of `load_adapter`. -/
def loadLayer (torch : Torch DType Elem Scalar) (tensors : Dict String (Tensor DType Elem))
    (perLayerMetadata : Dict String (LayerMetadata Scalar)) (layerName : String)
    (base : Linear DType) : Except PyError (StructuralPluginLayer torch) :=
  match perLayerMetadata.get? layerName with
  | none => .error (.keyError layerName)
  | some saved => do
      let layer ← StructuralPluginLayer.construct torch base saved.rank saved.alpha none
      let sourceA ← tensorAt tensors (keyA layerName)
      let entriesA ← copyInto torch layer.adapterDtype layer.rank layer.base.inFeatures sourceA
      let sourceB ← tensorAt tensors (keyB layerName)
      let entriesB ← copyInto torch layer.adapterDtype layer.base.outFeatures layer.rank sourceB
      .ok { layer with
        entriesA := entriesA
        entriesB := entriesB
        routingGateEnabled := saved.routingGateEnabled }

def loadLayers (torch : Torch DType Elem Scalar) (tensors : Dict String (Tensor DType Elem))
    (perLayerMetadata : Dict String (LayerMetadata Scalar)) :
    List (String × Linear DType) →
      Except PyError (List (String × StructuralPluginLayer torch))
  | [] => .ok []
  | (layerName, base) :: rest => do
      let layer ← loadLayer torch tensors perLayerMetadata layerName base
      let others ← loadLayers torch tensors perLayerMetadata rest
      .ok ((layerName, layer) :: others)

def sortedDifference (left right : List String) : List String :=
  (left.filter fun name => decide (name ∉ right)).mergeSort fun first second =>
    decide (first ≤ second)

def loadAdapter (torch : Torch DType Elem Scalar) (codec : JsonCodec Scalar) (path : String)
    (file : Option (SafetensorsFile DType Elem)) (baseLayers : Dict String (Linear DType)) :
    Except PyError (Dict String (StructuralPluginLayer torch)) :=
  match file with
  | none => .error (.fileNotFoundError ("adapter file not found: " ++ path))
  | some file =>
      match file.metadata.bind fun metadata => metadata.get? metadataKey with
      | none =>
          .error (.valueError
            ("'" ++ path ++ "' has no MSP adapter metadata -- was it written by " ++
              "msp.persistence.save_adapter?"))
      | some text =>
          match codec.loads text with
          | none => .error .jsonDecodeError
          | some perLayerMetadata =>
              let missing := sortedDifference perLayerMetadata.keys baseLayers.keys
              let extra := sortedDifference baseLayers.keys perLayerMetadata.keys
              if missing ≠ [] ∨ extra ≠ [] then .error (.layerNamesDiffer missing extra)
              else
                (loadLayers torch file.tensors perLayerMetadata baseLayers.entries).map
                  Dict.empty.update

end Files

end Msp.Python.Persistence
