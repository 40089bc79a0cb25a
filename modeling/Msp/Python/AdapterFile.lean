import Msp.Python.PersistenceRoundTrip
import Msp.Library.JsonExtension
import Msp.Library.PythonUnicode
import Mathlib.Data.List.Infix
import Mathlib.Data.Nat.Digits.Defs

/-!
# The adapter file, byte by byte

The rest of `src/python/msp/persistence.py`: the JSON of the metadata, and
`_read_metadata`, which takes it from the header of the file.  The tensors are
written and read by a library, a parameter here, of whose format it is used
where the header stands and what it says.

Reading more bytes than fit in memory, which Python refuses, is not modelled;
nor is a metadata text that is JSON of another shape than `save_adapter`
writes, which raises here at once and there where the shape matters.
-/

set_option autoImplicit false

namespace Msp.Python.AdapterFile

open Msp.Library Msp.Library.Json Msp.Python.PluginLayer Msp.Python.Persistence

section Metadata
variable {Scalar : Type}

def layerJson (saved : LayerMetadata Scalar) : Value Scalar :=
  .object
    [("rank".toList, .int saved.rank), ("alpha".toList, .float saved.alpha),
      ("routing_gate_enabled".toList, .bool saved.routingGateEnabled)]

def perLayerJson (perLayerMetadata : Dict String (LayerMetadata Scalar)) : Value Scalar :=
  .object (perLayerMetadata.entries.map fun item => (item.1.toList, layerJson item.2))

def dictOf {F : Type} (members : List (List Char × F)) : Dict String F :=
  Dict.empty.update (members.map fun member => (String.ofList member.1, member.2))

def layerOf : Value Scalar → Option (LayerMetadata Scalar)
  | .object members =>
      match (dictOf members).get? "rank", (dictOf members).get? "alpha",
        (dictOf members).get? "routing_gate_enabled" with
      | some (.int rank), some (.float alpha), some (.bool enabled) => some ⟨rank, alpha, enabled⟩
      | _, _, _ => none
  | _ => none

def perLayerOf : Value Scalar → Option (Dict String (LayerMetadata Scalar))
  | .object members =>
      ((dictOf members).entries.mapM fun item =>
        (layerOf item.2).map fun saved => (item.1, saved)).map Dict.empty.update
  | _ => none

/-- `json`, on the metadata. -/
def pythonJson (spelling : Spelling Scalar) : JsonCodec Scalar where
  dumps perLayerMetadata := String.ofList (dumps spelling.write (perLayerJson perLayerMetadata))
  loads text := (loads spelling.read text.toList).bind perLayerOf

theorem layerOf_layerJson (saved : LayerMetadata Scalar) :
    layerOf (layerJson saved) = some saved := rfl

theorem dictOf_items {F : Type} (dict : Dict String F) :
    dictOf (dict.entries.map fun item => (item.1.toList, item.2)) = dict := by
  rw [dictOf, List.map_map]
  simp only [Function.comp_def, String.ofList_toList, Prod.mk.eta, List.map_id_fun', id_eq]
  exact Dict.update_entries dict

theorem mapM_layerOf (entries : List (String × LayerMetadata Scalar)) :
    ((entries.map fun item => (item.1, layerJson item.2)).mapM fun item =>
      (layerOf item.2).map fun saved => (item.1, saved)) = some entries := by
  induction entries with
  | nil => rfl
  | cons item rest ih =>
      rw [List.map_cons, List.mapM_cons, ih, layerOf_layerJson]
      rfl

theorem perLayerOf_perLayerJson (perLayerMetadata : Dict String (LayerMetadata Scalar)) :
    perLayerOf (perLayerJson perLayerMetadata) = some perLayerMetadata := by
  have members : (perLayerMetadata.entries.map fun item => (item.1.toList, layerJson item.2)) =
      (perLayerMetadata.mapValues layerJson).entries.map fun item => (item.1.toList, item.2) := by
    rw [Dict.mapValues, List.map_map]
    rfl
  rw [perLayerJson, perLayerOf, members, dictOf_items]
  simp only [Dict.mapValues, mapM_layerOf, Option.map_some, Dict.update_entries]

/-- The metadata of every set of layers, whatever their names, ranks, scales and gates. -/
theorem pythonJson_loads_dumps (spelling : Spelling Scalar)
    (perLayerMetadata : Dict String (LayerMetadata Scalar)) :
    (pythonJson spelling).loads ((pythonJson spelling).dumps perLayerMetadata) =
      some perLayerMetadata := by
  simp only [pythonJson, String.toList_ofList, loads_dumps, Option.bind_some,
    perLayerOf_perLayerJson]

end Metadata

/-! ## The header -/

def fromLittleEndian (bytes : List UInt8) : ℕ := Nat.ofDigits 256 (bytes.map UInt8.toNat)

inductive Encoding where
  | utf8
  | utf8Sig
  | utf16
  | utf16be
  | utf16le
  | utf32
  | utf32be
  | utf32le
  deriving DecidableEq, Repr

def detectEncoding : List UInt8 → Encoding
  | 0x00 :: 0x00 :: 0xfe :: 0xff :: _ => .utf32
  | 0xff :: 0xfe :: 0x00 :: 0x00 :: _ => .utf32
  | 0xfe :: 0xff :: _ => .utf16
  | 0xff :: 0xfe :: _ => .utf16
  | 0xef :: 0xbb :: 0xbf :: _ => .utf8Sig
  | first :: second :: third :: fourth :: _ =>
      if first = 0 then if second ≠ 0 then .utf16be else .utf32be
      else if second = 0 then if third ≠ 0 ∨ fourth ≠ 0 then .utf16le else .utf32le
      else .utf8
  | [first, second] => if first = 0 then .utf16be else if second = 0 then .utf16le else .utf8
  | _ => .utf8

inductive LoadError where
  | safetensorsError
  | overflowError
  | unicodeDecodeError
  | jsonDecodeError
  | attributeError
  | typeError
  | adapter (error : PyError)
  deriving DecidableEq, Repr

section Files
variable {DType Elem Scalar : Type}

section Header
variable (spelling : Spelling Scalar) (wide : Encoding → List UInt8 → Option (List Char))

/-- `decode` in the encoding that was detected; `wide` is that of the longer encodings. -/
def decodeHeader (bytes : List UInt8) : Option (List Char) :=
  match detectEncoding bytes with
  | .utf8 => (PythonUnicode.decodeUtf8 bytes).toOption
  | .utf8Sig => (PythonUnicode.decodeUtf8 (bytes.drop 3)).toOption
  | other => wide other bytes

/-- The format: eight bytes that count those of the header, the header, and the tensors.
The header is JSON, so that no NUL stands in it, and begins with a brace. -/
structure Layout where
  headerLen : List UInt8
  text : List Char
  data : List UInt8
  eight : headerLen.length = 8
  counted : fromLittleEndian headerLen = (text.flatMap String.utf8EncodeChar).length
  small : fromLittleEndian headerLen < 2 ^ 63
  opens : ∃ rest, text = '{' :: rest
  noNul : Char.ofNat 0 ∉ text

def Layout.header (layout : Layout) : List UInt8 := layout.text.flatMap String.utf8EncodeChar

def Layout.file (layout : Layout) : List UInt8 :=
  layout.headerLen ++ (layout.header ++ layout.data)

/-- `json.loads(header_json).get("__metadata__")`, which may be any JSON. -/
def headerMetadata (text : List Char) : Except LoadError (Option (Value Scalar)) :=
  match loads spelling.read text with
  | none => .error .jsonDecodeError
  | some (.object members) => .ok ((dictOf members).get? "__metadata__")
  | some _ => .error .attributeError

def readMetadata (file : List UInt8) : Except LoadError (Option (Value Scalar)) :=
  let headerLenBytes := file.take 8
  if headerLenBytes.length < 8 then .ok none
  else
    let headerLen := fromLittleEndian headerLenBytes
    if 2 ^ 63 ≤ headerLen then .error .overflowError
    else
      match decodeHeader wide ((file.drop 8).take headerLen) with
      | none => .error .unicodeDecodeError
      | some text => headerMetadata spelling text

theorem ofNat_ne_zero {number : ℕ} (positive : 0 < number) (small : number < 256) :
    UInt8.ofNat number ≠ 0 := by
  intro zero
  have same := congrArg UInt8.toNat zero
  simp only [UInt8.toNat_ofNat', UInt8.toNat_zero] at same
  omega

theorem exists_first_byte {character : Char} (notNul : character ≠ Char.ofNat 0) :
    ∃ first rest, String.utf8EncodeChar character = first :: rest ∧ first ≠ 0 := by
  have positive : character.val.toNat ≠ 0 := by
    intro zero
    apply notNul
    apply Char.ext
    apply UInt32.toNat_inj.mp
    simpa using zero
  unfold String.utf8EncodeChar
  dsimp only
  split
  · exact ⟨_, _, rfl, ofNat_ne_zero (by omega) (by omega)⟩
  · split
    · exact ⟨_, _, rfl, ofNat_ne_zero (by omega) (by omega)⟩
    · split
      · exact ⟨_, _, rfl, ofNat_ne_zero (by omega) (by omega)⟩
      · exact ⟨_, _, rfl, ofNat_ne_zero (by omega) (by omega)⟩

theorem detectEncoding_opens {second : UInt8} (notZero : second ≠ 0) (rest : List UInt8) :
    detectEncoding (0x7b :: second :: rest) = .utf8 := by
  have notFirst : ¬ (0x7b : UInt8) = 0 := by decide
  rcases rest with _ | ⟨third, _ | ⟨fourth, rest⟩⟩
  · change (if (0x7b : UInt8) = 0 then Encoding.utf16be
      else if second = 0 then Encoding.utf16le else Encoding.utf8) = .utf8
    rw [if_neg notFirst, if_neg notZero]
  · rfl
  · change (if (0x7b : UInt8) = 0 then if second ≠ 0 then Encoding.utf16be else Encoding.utf32be
      else if second = 0 then if third ≠ 0 ∨ fourth ≠ 0 then Encoding.utf16le else Encoding.utf32le
      else Encoding.utf8) = .utf8
    rw [if_neg notFirst, if_neg notZero]

theorem Layout.encoding (layout : Layout) (count : ℕ) :
    detectEncoding (layout.header.take count) = .utf8 := by
  obtain ⟨rest, opens⟩ := layout.opens
  have noNul := layout.noNul
  rw [opens] at noNul
  have header : layout.header = 0x7b :: rest.flatMap String.utf8EncodeChar := by
    rw [Layout.header, opens]
    rfl
  rw [header]
  cases count with
  | zero => rfl
  | succ count =>
      rw [List.take_succ_cons]
      cases rest with
      | nil =>
          rw [List.flatMap_nil, List.take_nil]
          rfl
      | cons character rest =>
          have notNul : character ≠ Char.ofNat 0 := by
            intro same
            exact noNul (same ▸ List.mem_cons_of_mem _ List.mem_cons_self)
          obtain ⟨second, others, bytes, notZero⟩ := exists_first_byte notNul
          rw [List.flatMap_cons, bytes, List.cons_append]
          cases count with
          | zero => rfl
          | succ count =>
              rw [List.take_succ_cons]
              exact detectEncoding_opens notZero _

theorem Layout.take_eight (layout : Layout) : layout.file.take 8 = layout.headerLen := by
  rw [Layout.file, ← layout.eight, List.take_left]

theorem Layout.drop_eight (layout : Layout) : layout.file.drop 8 = layout.header ++ layout.data := by
  rw [Layout.file, ← layout.eight, List.drop_left]

/-- What is read of the first `count` bytes, if these are at least eight. -/
theorem readMetadata_take (layout : Layout) {count : ℕ} (enough : 8 ≤ count) :
    readMetadata spelling wide (layout.file.take count) =
      match (PythonUnicode.decodeUtf8 (layout.header.take (count - 8))).toOption with
      | none => .error .unicodeDecodeError
      | some text => headerMetadata spelling text := by
  have eight : (layout.file.take count).take 8 = layout.headerLen := by
    rw [List.take_take, min_eq_left enough, layout.take_eight]
  have body : ((layout.file.take count).drop 8).take (fromLittleEndian layout.headerLen) =
      layout.header.take (count - 8) := by
    have counted : fromLittleEndian layout.headerLen = layout.header.length := layout.counted
    rw [List.drop_take, layout.drop_eight, counted, List.take_take,
      List.take_append_of_le_length (min_le_left _ _), min_comm, ← List.take_take, List.take_length]
  have small := layout.small
  simp only [readMetadata, eight, layout.eight]
  rw [if_neg (by omega), if_neg (by omega), body, decodeHeader, layout.encoding]

theorem readMetadata_file (layout : Layout) :
    readMetadata spelling wide layout.file = headerMetadata spelling layout.text := by
  have enough : 8 ≤ layout.file.length := by
    rw [Layout.file, List.length_append, layout.eight]
    omega
  have all : layout.header.take (layout.file.length - 8) = layout.header := by
    apply List.take_of_length_le
    rw [Layout.file, List.length_append, List.length_append, layout.eight]
    omega
  have decoded : PythonUnicode.decodeUtf8 layout.header = .ok layout.text :=
    PythonUnicode.decodeUtf8_ok_iff.mpr rfl
  have read := readMetadata_take spelling wide layout enough
  rw [List.take_length, all, decoded] at read
  exact read

/-- The front of a text that has metadata has the same or is refused. -/
theorem headerMetadata_front {front more : List Char} {metadata : Option (Value Scalar)}
    (opens : ∃ rest, front ++ more = '{' :: rest)
    (whole : headerMetadata spelling (front ++ more) = .ok metadata) :
    headerMetadata spelling front = .ok metadata ∨
      headerMetadata spelling front = .error .jsonDecodeError := by
  unfold headerMetadata at whole ⊢
  cases read : loads spelling.read front with
  | none => exact Or.inr rfl
  | some value =>
      obtain ⟨rest, opens⟩ := opens
      cases front with
      | nil => cases read
      | cons first body =>
          have brace : first = '{' := (List.cons.inj opens).1
          subst brace
          obtain ⟨members, rfl⟩ := object_of_loads read
          cases full : loads spelling.read ('{' :: body ++ more) with
          | none =>
              rw [full] at whole
              cases whole
          | some value =>
              rw [full, loads_front more read full] at whole
              exact Or.inl whole

/-- The front of a text in UTF-8 is the front of its characters, where it decodes. -/
theorem isPrefix_of_decode {text front : List Char} {count : ℕ}
    (decoded : PythonUnicode.decodeUtf8 ((text.flatMap String.utf8EncodeChar).take count) =
      .ok front) : front <+: text := by
  have same := PythonUnicode.decodeUtf8_ok_iff.mp decoded
  apply List.isPrefix_of_utf8Encode_append_eq_utf8Encode
    ((text.flatMap String.utf8EncodeChar).drop count).toByteArray
  rw [List.utf8Encode, List.utf8Encode, ← same, ← List.toByteArray_append, List.take_append_drop]

def storedText : Option (Value Scalar) → Except LoadError (Option String)
  | none => .ok none
  | some .null => .ok none
  | some (.object members) =>
      match (dictOf members).get? metadataKey with
      | none => .ok none
      | some (.string text) => .ok (some (String.ofList text))
      | some _ => .error .typeError
  | some (.string text) =>
      if metadataKey.toList <:+: text then .error .typeError else .ok none
  | some (.array elements) =>
      if elements.any fun
          | .string text => text == metadataKey.toList
          | _ => false
      then .error .typeError else .ok none
  | some _ => .error .typeError

end Header

/-! ## Files -/

/-- `save_file` and `load_file`. -/
structure Safetensors (DType Elem : Type) where
  saveFile : Dict String (Tensor DType Elem) → Dict String String → List UInt8
  loadFile : List UInt8 → Option (Dict String (Tensor DType Elem))

/-- A file that was written, in its format: it is laid out as `Layout` says, its header has
the metadata as strings under `__metadata__`, and the tensors are read back under their names. -/
structure Safetensors.Written (library : Safetensors DType Elem) (read : List Char → Scalar)
    (tensors : Dict String (Tensor DType Elem)) (metadata : Dict String String) where
  layout : Layout
  file : library.saveFile tensors metadata = layout.file
  members : List (List Char × Value Scalar)
  parsed : loads read layout.text = some (.object members)
  stored : List (List Char × Value Scalar)
  found : (dictOf members).get? "__metadata__" = some (.object stored)
  texts : ∀ key, (dictOf stored).get? key =
    (metadata.get? key).map fun text => .string text.toList
  loaded : Dict String (Tensor DType Elem)
  load : library.loadFile layout.file = some loaded
  same : ∀ key, loaded.get? key = tensors.get? key

variable {torch : Torch DType Elem Scalar} (library : Safetensors DType Elem)
  (spelling : Spelling Scalar) (wide : Encoding → List UInt8 → Option (List Char))

def saveAdapter (layers : Dict String (StructuralPluginLayer torch)) :
    Except PyError (List UInt8) :=
  (Persistence.saveAdapter (pythonJson spelling) layers).map fun file =>
    library.saveFile file.tensors (file.metadata.getD Dict.empty)

/-- Behind the metadata, `load_adapter` goes on as it does on a file that was taken apart. -/
def loadAdapter (torch : Torch DType Elem Scalar) (path : String) (file : Option (List UInt8))
    (baseLayers : Dict String (Linear DType)) :
    Except LoadError (Dict String (StructuralPluginLayer torch)) :=
  match file with
  | none => .error (.adapter (.fileNotFoundError ("adapter file not found: " ++ path)))
  | some bytes =>
      match library.loadFile bytes with
      | none => .error .safetensorsError
      | some tensors => do
          let metadata ← readMetadata spelling wide bytes
          let text ← storedText metadata
          (Persistence.loadAdapter torch (pythonJson spelling) path
            (some ⟨tensors, text.map fun text => Dict.empty.set metadataKey text⟩)
            baseLayers).mapError .adapter

theorem loadLayers_congr {loaded tensors : Dict String (Tensor DType Elem)}
    (same : ∀ key, loaded.get? key = tensors.get? key)
    (perLayerMetadata : Dict String (LayerMetadata Scalar)) (items : List (String × Linear DType)) :
    loadLayers torch loaded perLayerMetadata items =
      loadLayers torch tensors perLayerMetadata items := by
  have sameAt : tensorAt loaded = tensorAt tensors := by
    funext key
    rw [tensorAt, tensorAt, same key]
  have sameLayer : loadLayer torch loaded = loadLayer torch tensors := by
    funext perLayerMetadata layerName base
    rw [loadLayer, loadLayer, sameAt]
  induction items with
  | nil => rfl
  | cons item rest ih => rw [loadLayers, loadLayers, sameLayer, ih]

theorem loadAdapter_congr (codec : JsonCodec Scalar) (path : String)
    {loaded tensors : Dict String (Tensor DType Elem)}
    (same : ∀ key, loaded.get? key = tensors.get? key) (metadata : Option (Dict String String))
    (baseLayers : Dict String (Linear DType)) :
    Persistence.loadAdapter torch codec path (some ⟨loaded, metadata⟩) baseLayers =
      Persistence.loadAdapter torch codec path (some ⟨tensors, metadata⟩) baseLayers := by
  simp only [Persistence.loadAdapter, loadLayers_congr same]

theorem storedText_written {library : Safetensors DType Elem} {spelling : Spelling Scalar}
    {tensors : Dict String (Tensor DType Elem)} {text : String}
    (written : library.Written spelling.read tensors (Dict.empty.set metadataKey text)) :
    (readMetadata spelling wide written.layout.file).bind storedText = .ok (some text) := by
  have stored := written.texts metadataKey
  rw [Dict.get?_set_self, Option.map_some] at stored
  rw [readMetadata_file, headerMetadata, written.parsed]
  simp only [written.found, Except.bind, storedText, stored, String.ofList_toList]

theorem loadAdapter_file {layers : Dict String (StructuralPluginLayer torch)} {bytes : List UInt8}
    (saved : saveAdapter library spelling layers = .ok bytes)
    (written : library.Written spelling.read (savedTensors layers)
      (Dict.empty.set metadataKey ((pythonJson spelling).dumps (savedMetadata layers))))
    (path : String) (baseLayers : Dict String (Linear DType)) :
    ∃ file, Persistence.saveAdapter (pythonJson spelling) layers = .ok file ∧
      loadAdapter library spelling wide torch path (some bytes) baseLayers =
        (Persistence.loadAdapter torch (pythonJson spelling) path (some file)
          baseLayers).mapError .adapter := by
  unfold saveAdapter Persistence.saveAdapter at saved
  unfold Persistence.saveAdapter
  split at saved
  · cases saved
  · rename_i full
    have isFile : bytes = written.layout.file := by
      rw [← written.file]
      exact (Except.ok.inj saved).symm
    rw [if_neg full]
    refine ⟨_, rfl, ?_⟩
    have text := storedText_written wide written
    simp only [loadAdapter, isFile, written.load]
    cases read : readMetadata spelling wide written.layout.file with
    | error error =>
        rw [read] at text
        cases text
    | ok metadata =>
        rw [read] at text
        have text : storedText metadata = .ok _ := text
        simp only [bind, Except.bind, text, Option.map_some]
        rw [loadAdapter_congr _ _ written.same]

/-- Through the bytes of the file: what is loaded is what the saved maps give, and over
the base layers of the saved layers, in their dtypes, every layer comes back. -/
theorem file_round_trip {layers : Dict String (StructuralPluginLayer torch)} {bytes : List UInt8}
    (saved : saveAdapter library spelling layers = .ok bytes)
    (written : library.Written spelling.read (savedTensors layers)
      (Dict.empty.set metadataKey ((pythonJson spelling).dumps (savedMetadata layers))))
    (path : String) (baseLayers : Dict String (Linear DType)) :
    (∃ file, Persistence.saveAdapter (pythonJson spelling) layers = .ok file ∧
      loadAdapter library spelling wide torch path (some bytes) baseLayers =
        (Persistence.loadAdapter torch (pythonJson spelling) path (some file)
          baseLayers).mapError .adapter) ∧
      (SameBases layers baseLayers →
        (∀ layerName layer, layers.get? layerName = some layer →
          layer.adapterDtype = layer.base.weightDtype) →
        ∃ loaded, loadAdapter library spelling wide torch path (some bytes) baseLayers =
          .ok loaded ∧ ComesBack layers loaded) := by
  have refines := loadAdapter_file library spelling wide saved written path baseLayers
  refine ⟨refines, fun sameBases sameDtypes => ?_⟩
  obtain ⟨file, stored, same⟩ := refines
  obtain ⟨items, listed, back⟩ := comesBack_of_sameDtypes sameBases sameDtypes
  have nonempty : layers.entries ≠ [] := by
    intro empty
    rw [Persistence.saveAdapter, empty] at stored
    cases stored
  have whole := roundTrip_eq path nonempty sameBases
    (pythonJson_loads_dumps spelling (savedMetadata layers))
  rw [roundTrip, stored, listed] at whole
  refine ⟨Dict.empty.update items, ?_, back⟩
  rw [same]
  exact congrArg (Except.mapError LoadError.adapter) whole

end Files

def wholeFloat (value : Int) : List Char := intText value ++ ['.', '0']

def sampleSpelling : Spelling Int where
  write := wholeFloat
  read text := intOf text.dropLast.dropLast
  isFloat value :=
    .number (isInteger_intText value) (.present (List.cons_ne_nil '0' []) (by simp)) .absent
      (List.cons_ne_nil '.' ['0'])
  read_write value := by simp [wholeFloat, intOf_intText]

def littleEndian (number : ℕ) : List UInt8 :=
  (List.range 8).map fun place => UInt8.ofNat (number / 256 ^ place)

theorem fromLittleEndian_littleEndian {number : ℕ} (small : number < 2 ^ 64) :
    fromLittleEndian (littleEndian number) = number := by
  simp [fromLittleEndian, littleEndian, List.range_succ, Nat.ofDigits_cons]
  omega

def sampleMetadata : Dict String String :=
  Dict.empty.set metadataKey
    ((pythonJson sampleSpelling).dumps (savedMetadata (sampleLayers .float32)))

def sampleStored : Dict String (Value Int) :=
  sampleMetadata.mapValues fun text => .string text.toList

def itemsJson (dict : Dict String (Value Int)) : List (List Char × Value Int) :=
  dict.entries.map fun item => (item.1.toList, item.2)

def tensorJson (first last : Int) : Value Int :=
  .object
    [("dtype".toList, .string "F32".toList), ("shape".toList, .array [.int 1, .int 1]),
      ("data_offsets".toList, .array [.int first, .int last])]

def sampleMembers : Dict String (Value Int) where
  entries :=
    [("__metadata__", .object (itemsJson sampleStored)), (keyA "proj", tensorJson 0 4),
      (keyB "proj", tensorJson 4 8)]
  distinct := by decide

def sampleHeader : List Char := dumps wholeFloat (.object (itemsJson sampleMembers))

set_option maxRecDepth 4000 in
theorem sampleHeader_short : (sampleHeader.flatMap String.utf8EncodeChar).length < 2 ^ 63 := by
  decide

set_option maxRecDepth 4000 in
theorem sampleHeader_noNul : Char.ofNat 0 ∉ sampleHeader := by
  decide

def sampleLayout : Layout where
  headerLen := littleEndian (sampleHeader.flatMap String.utf8EncodeChar).length
  text := sampleHeader
  data := [0, 0, 0x40, 0x40, 0, 0, 0xa0, 0x40]
  eight := rfl
  counted := fromLittleEndian_littleEndian (sampleHeader_short.trans (by decide))
  small := by
    rw [fromLittleEndian_littleEndian (sampleHeader_short.trans (by decide))]
    exact sampleHeader_short
  opens := ⟨_, rfl⟩
  noNul := sampleHeader_noNul

def sampleLibrary : Safetensors SampleDType Int where
  saveFile _ _ := sampleLayout.file
  loadFile bytes :=
    if bytes = sampleLayout.file then some (savedTensors (sampleLayers .float32)) else none

def sampleWritten : sampleLibrary.Written sampleSpelling.read
    (savedTensors (sampleLayers .float32)) sampleMetadata where
  layout := sampleLayout
  file := rfl
  members := itemsJson sampleMembers
  parsed := loads_dumps sampleSpelling (.object (itemsJson sampleMembers))
  stored := itemsJson sampleStored
  found := by
    rw [itemsJson, dictOf_items]
    exact Dict.get?_eq_some.mpr List.mem_cons_self
  texts key := by
    rw [itemsJson, dictOf_items]
    exact Dict.get?_mapValues _ _ key
  loaded := savedTensors (sampleLayers .float32)
  load := by simp only [sampleLibrary, if_pos]
  same _ := rfl

theorem readMetadata_sample :
    readMetadata sampleSpelling (fun _ _ => none) sampleLayout.file =
      .ok (some (.object (itemsJson sampleStored))) := by
  have parsed : loads sampleSpelling.read sampleLayout.text =
      some (.object (itemsJson sampleMembers)) := sampleWritten.parsed
  have found : (dictOf (itemsJson sampleMembers)).get? "__metadata__" =
      some (.object (itemsJson sampleStored)) := sampleWritten.found
  rw [readMetadata_file, headerMetadata, parsed]
  exact congrArg Except.ok found

theorem file_round_trip_sample :
    ∃ loaded, loadAdapter sampleLibrary sampleSpelling (fun _ _ => none) sampleTorch
        "adapter.safetensors" (some sampleLayout.file) sampleBases = .ok loaded ∧
      ComesBack (sampleLayers .float32) loaded := by
  apply (file_round_trip sampleLibrary sampleSpelling _ rfl sampleWritten _ sampleBases).2
    (sameBases_sample _)
  intro layerName layer found
  cases List.mem_singleton.mp (Dict.get?_eq_some.mp found)
  rfl

end Msp.Python.AdapterFile
