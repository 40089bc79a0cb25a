import Msp.Library.BinaryFloat
import Msp.Python.PersistenceMismatch

/-!
# The scale of an adapter over many saves and loads

`save_adapter` stores `alpha` as `scaling * rank` and `load_adapter` divides it
by the rank again, both in Python floats, here with an unbounded exponent.  The
stored `alpha` need not be the original one; the scale is.
-/

set_option autoImplicit false

namespace Msp.Python.Persistence

open Msp.Library Msp.Python.PluginLayer

def significandBits : ℕ := 53

def divideFloat (value : ℚ) (rank : ℕ) : ℚ := BinaryFloat.round significandBits (value / rank)

def multiplyFloat (value : ℚ) (rank : ℕ) : ℚ := BinaryFloat.round significandBits (value * rank)

section Scale
variable {DType Elem : Type}

/-- The same tensors, with Python's floats as scalars. -/
def withFloats (torch : Torch DType Elem ℚ) : Torch DType Elem ℚ :=
  { torch with divide := divideFloat, multiply := multiplyFloat }

def savedAndLoaded (rank : ℕ) (scaling : ℚ) : ℚ := divideFloat (multiplyFloat scaling rank) rank

theorem savedAndLoaded_fixed {alpha : ℚ}
    (representable : BinaryFloat.Representable significandBits alpha) {rank : ℕ}
    (positive : 0 < rank) (bounded : rank < 2 ^ significandBits) :
    savedAndLoaded rank (divideFloat alpha rank) = divideFloat alpha rank :=
  BinaryFloat.round_cycle (by decide) representable positive bounded

theorem scaling_loadedOver {torch : Torch DType Elem ℚ}
    {layer : StructuralPluginLayer (withFloats torch)} {base : Linear DType}
    (accepts : Accepts layer base) :
    (loadedOver layer base accepts).scaling = savedAndLoaded layer.rank layer.scaling := rfl

/-- Saved and loaded any number of times, each time to a file of its own and over
base layers of its own; `json` gives back the metadata written. -/
inductive Cycled (torch : Torch DType Elem ℚ) (codec : JsonCodec ℚ)
    (first : Dict String (StructuralPluginLayer torch)) :
    ℕ → Dict String (StructuralPluginLayer torch) → Prop where
  | none : Cycled torch codec first 0 first
  | again {cycles : ℕ} {layers loaded : Dict String (StructuralPluginLayer torch)}
      {file : SafetensorsFile DType Elem} (path : String)
      (baseLayers : Dict String (Linear DType)) :
      Cycled torch codec first cycles layers →
      saveAdapter codec layers = .ok file →
      codec.loads (codec.dumps (savedMetadata layers)) = some (savedMetadata layers) →
      loadAdapter torch codec path (some file) baseLayers = .ok loaded →
      Cycled torch codec first (cycles + 1) loaded

variable {torch : Torch DType Elem ℚ} {codec : JsonCodec ℚ} {path : String}
  {layers loaded : Dict String (StructuralPluginLayer (withFloats torch))}
  {file : SafetensorsFile DType Elem} {baseLayers : Dict String (Linear DType)}

theorem scaling_of_loaded (saved : saveAdapter codec layers = .ok file)
    (json : codec.loads (codec.dumps (savedMetadata layers)) = some (savedMetadata layers))
    (done : loadAdapter (withFloats torch) codec path (some file) baseLayers = .ok loaded)
    {layerName : String} {layer : StructuralPluginLayer (withFloats torch)}
    (found : layers.get? layerName = some layer) :
    ∃ back, loaded.get? layerName = some back ∧ back.rank = layer.rank ∧
      back.scaling = savedAndLoaded layer.rank layer.scaling := by
  obtain ⟨⟨sameNames, _⟩, _, each⟩ := loaded_over saved json done
  obtain ⟨base, known⟩ := exists_base_of_saved sameNames found
  obtain ⟨accepts, there⟩ := each layerName layer base found known
  exact ⟨_, there, rfl, scaling_loadedOver accepts⟩

theorem scaling_of_cycled {first : Dict String (StructuralPluginLayer (withFloats torch))}
    {cycles : ℕ} (cycled : Cycled (withFloats torch) codec first cycles layers)
    {layerName : String} {layer : StructuralPluginLayer (withFloats torch)}
    (found : first.get? layerName = some layer) :
    ∃ back, layers.get? layerName = some back ∧ back.rank = layer.rank ∧
      back.scaling = (savedAndLoaded layer.rank)^[cycles] layer.scaling := by
  induction cycled with
  | none => exact ⟨layer, found, rfl, rfl⟩
  | again path baseLayers before saved json done hypothesis =>
      obtain ⟨middle, there, sameRank, scaling⟩ := hypothesis
      obtain ⟨back, last, lastRank, lastScaling⟩ := scaling_of_loaded saved json done there
      refine ⟨back, last, lastRank.trans sameRank, ?_⟩
      rw [lastScaling, sameRank, scaling, Function.iterate_succ_apply']

end Scale

/-- After any number of cycles the scale is the one the layer was constructed with. -/
theorem scaling_after_cycles {DType Elem : Type} (torch : Torch DType Elem ℚ)
    (codec : JsonCodec ℚ) (alpha : ℚ)
    (representable : BinaryFloat.Representable significandBits alpha) (rank : ℕ)
    (positive : 0 < rank) (bounded : rank < 2 ^ significandBits) (cycles : ℕ) :
    (savedAndLoaded rank)^[cycles] (divideFloat alpha rank) = divideFloat alpha rank ∧
      ∀ first last, Cycled (withFloats torch) codec first cycles last →
        ∀ layerName layer, first.get? layerName = some layer → layer.rank = rank →
          layer.scaling = divideFloat alpha rank →
            ∃ back, last.get? layerName = some back ∧ back.rank = rank ∧
              back.scaling = divideFloat alpha rank := by
  have fixed : (savedAndLoaded rank)^[cycles] (divideFloat alpha rank) = divideFloat alpha rank :=
    Function.iterate_fixed (savedAndLoaded_fixed representable positive bounded) cycles
  refine ⟨fixed, ?_⟩
  intro first last cycled layerName layer found sameRank constructed
  obtain ⟨back, there, backRank, scaling⟩ := scaling_of_cycled cycled found
  refine ⟨back, there, backRank.trans sameRank, ?_⟩
  rw [scaling, sameRank, constructed, fixed]

def floatTorch : Torch SampleDType Int ℚ where
  trainable _ := true
  cast _ _ element := element
  cast_self _ _ := rfl
  zero := 0
  kaimingUniform _ _ _ _ := 0
  divide := divideFloat
  multiply := multiplyFloat

def floatLayers : Dict String (StructuralPluginLayer (withFloats floatTorch)) where
  entries := [("proj", ⟨sampleBase, 49, by decide, .float32, rfl, fun _ _ => 3, fun _ _ => 5,
    divideFloat 1 49, true⟩)]
  distinct := List.nodup_singleton _

def floatText : String :=
  "\x7b\"proj\": \x7b\"rank\": 49, \"alpha\": 0.9999999999999999, " ++
    "\"routing_gate_enabled\": true\x7d\x7d"

def floatCodec : JsonCodec ℚ where
  dumps _ := floatText
  loads text := if text = floatText then some (savedMetadata floatLayers) else none

def floatFile : SafetensorsFile SampleDType Int where
  tensors := savedTensors floatLayers
  metadata := some (Dict.empty.set metadataKey floatText)

example : multiplyFloat (divideFloat 1 49) 49 ≠ 1 := by decide +kernel

theorem floatLayers_cycled :
    ∃ last, Cycled (withFloats floatTorch) floatCodec floatLayers 1 last := by
  have loadsOver : LoadsOver floatLayers sampleBases := by
    refine ⟨fun layerName => Iff.rfl, fun layerName layer base found known => ?_⟩
    cases List.mem_singleton.mp (Dict.get?_eq_some.mp found)
    cases List.mem_singleton.mp (Dict.get?_eq_some.mp known)
    exact ⟨rfl, Or.inl rfl, Or.inl rfl⟩
  have saved : saveAdapter floatCodec floatLayers = .ok floatFile := rfl
  obtain ⟨loaded, done⟩ := loads_of_accepted "adapter.safetensors" saved rfl loadsOver
  exact ⟨loaded, .again "adapter.safetensors" sampleBases .none saved rfl done⟩

theorem scaling_after_cycles_sample :
    (savedAndLoaded 49)^[1000] (divideFloat 1 49) = divideFloat 1 49 ∧
      ∃ last back, Cycled (withFloats floatTorch) floatCodec floatLayers 1 last ∧
        last.get? "proj" = some back ∧ back.scaling = divideFloat 1 49 := by
  have one : BinaryFloat.Representable significandBits 1 := ⟨1, 0, by decide, by norm_num⟩
  refine ⟨(scaling_after_cycles floatTorch floatCodec 1 one 49 (by decide) (by decide) 1000).1, ?_⟩
  obtain ⟨last, cycled⟩ := floatLayers_cycled
  obtain ⟨back, there, _, scaling⟩ :=
    (scaling_after_cycles floatTorch floatCodec 1 one 49 (by decide) (by decide) 1).2
      floatLayers last cycled "proj" _ rfl rfl rfl
  exact ⟨last, back, cycled, there, scaling⟩

end Msp.Python.Persistence
