import Msp.Library.Decimal
import Msp.Library.InsertionDict
import Msp.Training.TransformerBlock
import Msp.Python.PersistenceMismatch

/-!
# Adapter layers as objects, and plugging them in

`collect_base_sublayers`, `attach_adapters` and `plug_in`
(`examples/e2e_training.py`).  A layer object is reached from every dictionary
that lists it and from the block that it is plugged into, so layers live in a
heap and a reference is a place in it.  An object carries the `nn.Linear` that
its `base_layer` is, as the key that `collect_base_sublayers` gave it.
-/

set_option autoImplicit false

namespace Msp.Training

open Msp.Library Msp.Python.PluginLayer Msp.Python.GradientGate

/-- One adapted sublayer of one block. -/
structure Key (nLayers : ℕ) where
  index : Fin nLayers
  name : Sublayer
  deriving DecidableEq, Repr

def Sublayer.text : Sublayer → String
  | .outProj => "out_proj"
  | .fc1 => "fc1"
  | .fc2 => "fc2"

def Key.text {nLayers : ℕ} (key : Key nLayers) : String :=
  "block" ++ toString key.index.val ++ "." ++ key.name.text

def keys (nLayers : ℕ) : List (Key nLayers) :=
  (List.finRange nLayers).flatMap fun index => adaptedSublayers.map fun name => ⟨index, name⟩

section Parameters
variable {DType Elem Scalar : Type} {torch : Torch DType Elem Scalar}

def rows (layer : StructuralPluginLayer torch) : PluginMatrix → ℕ
  | .A => layer.rank
  | .B => layer.base.outFeatures

def cols (layer : StructuralPluginLayer torch) : PluginMatrix → ℕ
  | .A => layer.base.inFeatures
  | .B => layer.rank

abbrev Values (layer : StructuralPluginLayer torch) (pluginMatrix : PluginMatrix) : Type :=
  Matrix (Fin (rows layer pluginMatrix)) (Fin (cols layer pluginMatrix)) Elem

def values (layer : StructuralPluginLayer torch) :
    (pluginMatrix : PluginMatrix) → Values layer pluginMatrix
  | .A => layer.entriesA
  | .B => layer.entriesB

def withValues (layer : StructuralPluginLayer torch)
    (new : (pluginMatrix : PluginMatrix) → Values layer pluginMatrix) :
    StructuralPluginLayer torch :=
  { layer with
    entriesA := new .A
    entriesB := new .B }

theorem withValues_values (layer : StructuralPluginLayer torch) :
    withValues layer (values layer) = layer := rfl

end Parameters

section Objects
variable {DType R : Type}

structure LayerObject (torch : Torch DType R R) (base : Base DType R) (Temp : Type) where
  key : Key base.nLayers
  layer : StructuralPluginLayer torch
  wraps : layer.base = base.config.sublayer base.dtype key.name
  gate : LayerGate Temp
  grad : (pluginMatrix : PluginMatrix) → Option (Values layer pluginMatrix)

/-- The blocks with the layer objects that exist. -/
structure Model (torch : Torch DType R R) (base : Base DType R) (Temp : Type) where
  objects : List (LayerObject torch base Temp)
  slots : Key base.nLayers → Option ℕ

abbrev Layers (base : Base DType R) : Type := Dict (Key base.nLayers) ℕ

variable {torch : Torch DType R R} {base : Base DType R} {Temp : Type}

/-- What a block's attribute is with this object in it, which wraps the block's own
`nn.Linear` in every model that is reached. -/
def slotOf (key : Key base.nLayers) :
    Option (LayerObject torch base Temp) → Slot torch (base.config.sublayer base.dtype key.name)
  | none => .bare
  | some object =>
      if same : object.key = key then .plugged object.layer (same ▸ object.wraps) else .bare

namespace Model

def slotAt (model : Model torch base Temp) (key : Key base.nLayers) :
    Slot torch (base.config.sublayer base.dtype key.name) :=
  slotOf key ((model.slots key).bind fun ref => model.objects[ref]?)

def forward {β τ : Type*} [Field R] [Fintype τ] (functions : Functions R) (model : Model torch base Temp)
    (tokens : β → τ → Fin base.vocabSize) : Matrix (β × τ) (Fin base.vocabSize) R :=
  base.forward functions (fun index name => model.slotAt ⟨index, name⟩) tokens

def alreadyPlugged (key : Key base.nLayers) : String :=
  "blocks[" ++ toString key.index.val ++ "]." ++ key.name.text ++
    " is a StructuralPluginLayer, not nn.Linear -- collect_base_sublayers must be called " ++
      "before any adapter has been plugged in via plug_in()"

/-- The loops of `collect_base_sublayers`; the value at a key is the block's `nn.Linear`. -/
def collect (model : Model torch base Temp) :
    List (Key base.nLayers) → Except String (List (Key base.nLayers))
  | [] => .ok []
  | key :: rest =>
      match model.slots key with
      | none => (collect model rest).map (key :: ·)
      | some _ => .error (alreadyPlugged key)

def collectBaseSublayers (model : Model torch base Temp) :
    Except String (List (Key base.nLayers)) :=
  model.collect (keys base.nLayers)

def construct (torch : Torch DType R R) (base : Base DType R) (Temp : Type) (rank : Int)
    (alpha : R) : List (Key base.nLayers) → Except PyError (List (LayerObject torch base Temp))
  | [] => .ok []
  | key :: rest =>
      match built : StructuralPluginLayer.construct torch
          (base.config.sublayer base.dtype key.name) rank alpha none with
      | .error error => .error error
      | .ok layer =>
          (construct torch base Temp rank alpha rest).map
            ({ key := key
               layer := layer
               wraps := (Msp.Python.Persistence.base_of_construct built).1
               gate := LayerGate.fresh
               grad := fun _ => none } :: ·)

/-- The model with new objects, and the dictionary that lists them. -/
def adopt (model : Model torch base Temp) (created : List (LayerObject torch base Temp)) :
    Layers base × Model torch base Temp :=
  (Dict.empty.update
      (created.zipIdx.map fun item => (item.1.key, model.objects.length + item.2)),
    { model with objects := model.objects ++ created })

/-- `attach_adapters`, for the keys of `base_linears`. -/
def attachAdapters (model : Model torch base Temp) (baseLinears : List (Key base.nLayers))
    (rank : Int) (alpha : R) : Except PyError (Layers base × Model torch base Temp) :=
  (construct torch base Temp rank alpha baseLinears).map model.adopt

def plugIn (model : Model torch base Temp) (layers : Layers base) : Model torch base Temp :=
  { model with
    slots := (keys base.nLayers).foldl
      (fun slots key =>
        match layers.get? key with
        | none => slots
        | some ref => Function.update slots key (some ref))
      model.slots }

end Model

theorem mem_keys {nLayers : ℕ} (key : Key nLayers) : key ∈ keys nLayers := by
  obtain ⟨index, name⟩ := key
  refine List.mem_flatMap.mpr ⟨index, List.mem_finRange index, List.mem_map.mpr ⟨name, ?_, rfl⟩⟩
  cases name <;> simp [adaptedSublayers]

theorem Sublayer.text_injective : Function.Injective Sublayer.text := by
  intro first second same
  cases first <;> cases second <;> first | rfl | exact absurd same (by decide)

theorem dot_notMem_natural (number : ℕ) : '.' ∉ Decimal.natural number := fun member =>
  absurd (Decimal.isDigit_of_mem_natural _ member) (by decide)

theorem Key.text_injective {nLayers : ℕ} : Function.Injective (@Key.text nLayers) := by
  rintro ⟨⟨index, below⟩, name⟩ ⟨⟨index', below'⟩, name'⟩ same
  have chars : "block".toList ++ (Decimal.natural index ++ '.' :: name.text.toList) =
      "block".toList ++ (Decimal.natural index' ++ '.' :: name'.text.toList) := by
    have listed := congrArg String.toList same
    simpa [Key.text, Nat.toList_repr, Decimal.natural] using listed
  have noDot : '.' ∉ name.text.toList := by
    cases name <;> decide
  rw [List.append_cancel_left_eq,
    List.append_cons_inj_of_notMem (dot_notMem_natural index) noDot] at chars
  obtain ⟨digits, -, names⟩ := chars
  have numbers := congrArg (Nat.ofDigitChars 10 · 0) digits
  simp only [Decimal.ofDigitChars_natural] at numbers
  cases numbers
  cases Sublayer.text_injective (String.toList_inj.mp names)
  rfl

namespace Model
variable {model : Model torch base Temp} {layers : Layers base}

theorem foldl_plug (layers : Layers base) (chosen : List (Key base.nLayers)) :
    ∀ (slots : Key base.nLayers → Option ℕ) (key : Key base.nLayers),
      chosen.foldl
          (fun slots key =>
            match layers.get? key with
            | none => slots
            | some ref => Function.update slots key (some ref)) slots key =
        if key ∈ chosen then (layers.get? key).or (slots key) else slots key := by
  induction chosen with
  | nil => intro slots key; rfl
  | cons first rest ih =>
      intro slots key
      rw [List.foldl_cons, ih]
      cases found : layers.get? first with
      | none =>
          by_cases same : key = first
          · subst same
            simp [found]
          · simp [same]
      | some ref =>
          by_cases same : key = first
          · subst same
            simp [found]
          · simp [same]

/-- After `plug_in` a block has the layer of the dictionary, if the dictionary has one. -/
theorem plugIn_slots (model : Model torch base Temp) (layers : Layers base)
    (key : Key base.nLayers) :
    (model.plugIn layers).slots key = (layers.get? key).or (model.slots key) := by
  refine (foldl_plug layers _ _ key).trans ?_
  rw [if_pos (mem_keys key)]

def Refers (model : Model torch base Temp) (key : Key base.nLayers) (ref : ℕ) : Prop :=
  ∃ object, model.objects[ref]? = some object ∧ object.key = key

/-- The dictionary lists each object under its key. -/
def Fits (model : Model torch base Temp) (layers : Layers base) : Prop :=
  ∀ key ref, layers.get? key = some ref → model.Refers key ref

/-- The invariant of the models that are reached: what is plugged into a block wraps the
`nn.Linear` that it replaced, and every adapter has the dtype of its base layer. -/
structure Valid (model : Model torch base Temp) : Prop where
  plugged : ∀ key ref, model.slots key = some ref → model.Refers key ref
  sameDtype : ∀ object ∈ model.objects,
    object.layer.adapterDtype = object.layer.base.weightDtype

theorem slotAt_of_none {key : Key base.nLayers} (empty : model.slots key = none) :
    model.slotAt key = .bare := by
  unfold slotAt
  rw [empty]
  rfl

theorem slotAt_of_some {ref : ℕ} {object : LayerObject torch base Temp}
    (plugged : model.slots object.key = some ref) (found : model.objects[ref]? = some object) :
    model.slotAt object.key = .plugged object.layer object.wraps := by
  rw [slotAt, plugged, Option.bind_some, found]
  exact dif_pos rfl

theorem Valid.slotAt_sameDtype (valid : model.Valid) (key : Key base.nLayers) :
    (model.slotAt key).SameDtype := by
  cases empty : model.slots key with
  | none =>
      rw [slotAt_of_none empty]
      trivial
  | some ref =>
      obtain ⟨object, found, rfl⟩ := valid.plugged key ref empty
      rw [slotAt_of_some empty found]
      exact valid.sameDtype object (List.mem_of_getElem? found)

/-- What a valid model computes is what its base computes with the adapters merged in. -/
theorem Valid.forward_eq_merged {β τ : Type*} [Field R] [Fintype τ] (valid : model.Valid)
    (functions : Functions R) (tokens : β → τ → Fin base.vocabSize) :
    model.forward functions tokens =
      (base.merged fun index name => model.slotAt ⟨index, name⟩).forward functions
        (fun _ _ => (.bare : Slot torch _)) tokens :=
  base.forward_eq_merged functions (fun index name => valid.slotAt_sameDtype ⟨index, name⟩) tokens

theorem collect_eq_ok_iff {chosen collected : List (Key base.nLayers)} :
    model.collect chosen = .ok collected ↔
      collected = chosen ∧ ∀ key ∈ chosen, model.slots key = none := by
  induction chosen generalizing collected with
  | nil => simp [collect, eq_comm]
  | cons first rest ih =>
      unfold collect
      cases empty : model.slots first with
      | some ref => simp [empty]
      | none =>
          cases others : model.collect rest with
          | error message =>
              simp only [Except.map, reduceCtorEq, List.forall_mem_cons, empty, true_and, false_iff]
              rintro ⟨-, bare⟩
              rw [ih.mpr ⟨rfl, bare⟩] at others
              cases others
          | ok found =>
              obtain ⟨rfl, bare⟩ := ih.mp others
              simp only [Except.map, Except.ok.injEq, List.forall_mem_cons, empty, true_and]
              exact ⟨fun same => ⟨same.symm, bare⟩, fun both => both.1.symm⟩

end Model

end Objects

end Msp.Training
