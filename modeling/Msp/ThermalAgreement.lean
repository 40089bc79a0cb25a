import Msp.Daemon.ThermalReader
import Msp.Python.ThermalZones

/-!
# Two readers of one thermal tree

Over files as a kernel writes them, with unreadable and garbled ones among
them, the daemon's reader and Python's report the same temperature, or both
report none.  The zones are paired by what each of them yields; neither the
order of a listing nor the time at which a zone is given up matters.
-/

set_option autoImplicit false

namespace Msp.ThermalAgreement

open Msp.Library Msp.Library.NumberText Msp.ThermalTree
open Msp.Daemon.ThermalReader Msp.Python.ThermalZones

/-! ## Kernel-format trees -/

def IsPrintable (character : Char) : Prop := 32 ≤ character.toNat ∧ character.toNat ≤ 126

structure IsTypeLine (line : List Char) : Prop where
  nonempty : line ≠ []
  short : line.length < typeFilterMax
  printable : ∀ character ∈ line, IsPrintable character
  first : ∀ character ∈ line.head?, character ≠ ' '
  last : ∀ character ∈ line.getLast?, character ≠ ' '

inductive TypeFormat : File → Prop where
  | missing : TypeFormat .missing
  | unreadable : TypeFormat .unreadable
  | line {bytes : List UInt8} {line newline : List Char} (isLine : IsTypeLine line)
      (isNewline : newline = [] ∨ newline = ['\n'])
      (content : charsOf bytes = line ++ newline) : TypeFormat (.contents bytes)

def IsPadding (text : List Char) : Prop := ∀ character ∈ text, character = ' ' ∨ character = '\n'

/-- A decimal integer in the range of `long`, with spaces and newlines around it. -/
structure IsReading (text lead mark digits trail : List Char) : Prop where
  content : text = lead ++ mark ++ digits ++ trail
  before : IsPadding lead
  isSign : IsSign mark
  nonempty : digits ≠ []
  allDigits : ∀ character ∈ digits, character.isDigit = true
  short : digits.length ≤ PythonText.maxStrDigits
  lower : CText.longMin ≤ signed mark digits
  upper : signed mark digits ≤ CText.longMax
  behind : IsPadding trail

/-- `blank` says what may stand in front of a number. -/
inductive TempFormat (blank : Char → Bool) : File → Prop where
  | missing : TempFormat blank .missing
  | unreadable : TempFormat blank .unreadable
  | garbled {bytes : List UInt8} (ascii : ∀ character ∈ charsOf bytes, character.toNat < 128)
      (noNumber : ¬ BeginsWithNumber blank (charsOf bytes)) : TempFormat blank (.contents bytes)
  | reading {bytes : List UInt8} {lead mark digits trail : List Char}
      (isReading : IsReading (charsOf bytes) lead mark digits trail) :
      TempFormat blank (.contents bytes)

structure KernelZone (blank : Char → Bool) (basePath : List Char) (entry : Entry) : Prop where
  name : ∃ digits, entry.name = thermalZone ++ digits ∧ digits ≠ [] ∧
    ∀ character ∈ digits, character.isDigit = true
  path : (basePath ++ '/' :: entry.name).length < zoneDirSize
  typeFile : TypeFormat entry.typeFile
  tempFile : TempFormat blank entry.tempFile

/-- What else the directory holds has other names. -/
structure KernelFormat (blank : Char → Bool) (basePath : List Char) (entries : List Entry) :
    Prop where
  distinct : (entries.map Entry.name).Nodup
  zones : ∀ entry ∈ entries, thermalZone.isPrefixOf entry.name = true →
    KernelZone blank basePath entry

structure TypeFilter where
  text : List Char
  short : text.length < typeFilterMax
  printable : ∀ character ∈ text, IsPrintable character

/-- The result -1 beside a `RuntimeError`, or the same temperature. -/
structure Agree (fromC : Option FloatValue) (fromPython : Except PyError ℚ) : Prop where
  fails : fromC = none ↔ ∃ message, fromPython = .error (.runtimeError message)
  yields : fromC ≠ none → ∃ celsius, fromC = some (.finite celsius) ∧ fromPython = .ok celsius

theorem startsWithCi_iff : ∀ haystack needle : List Char,
    startsWithCi haystack needle = true ↔ lower needle <+: lower haystack := by
  intro haystack
  induction haystack with
  | nil =>
      intro needle
      cases needle with
      | nil => exact iff_of_true rfl List.nil_prefix
      | cons other needle => simp [startsWithCi, lower]
  | cons character haystack ih =>
      intro needle
      cases needle with
      | nil => exact iff_of_true rfl List.nil_prefix
      | cons other needle =>
          rw [startsWithCi, Bool.and_eq_true, decide_eq_true_eq, ih]
          simp only [lower, CText.tolower, List.map_cons, List.cons_prefix_cons]
          rw [eq_comm]

theorem lower_drop (count : Nat) (text : List Char) :
    lower (text.drop count) = (lower text).drop count := List.map_drop

theorem containsCi_iff (haystack needle : List Char) :
    containsCi haystack needle = true ↔ lower needle <:+: lower haystack := by
  have lengths : (lower needle).length = needle.length ∧ (lower haystack).length = haystack.length :=
    ⟨List.length_map _, List.length_map _⟩
  unfold containsCi
  split
  · rename_i empty
    rw [empty]
    exact iff_of_true rfl List.nil_infix
  · split
    · rename_i longer
      refine iff_of_false (by simp) fun isInfix => ?_
      have bound := isInfix.length_le
      omega
    · rename_i fits
      rw [List.any_eq_true]
      simp only [startsWithCi_iff, List.mem_range]
      constructor
      · rintro ⟨index, _, starts⟩
        rw [lower_drop] at starts
        exact starts.isInfix.trans (List.drop_suffix index _).isInfix
      · rintro ⟨before, behind, split⟩
        have count : before.length + (lower needle).length + behind.length =
            (lower haystack).length := by
          rw [← split, List.length_append, List.length_append]
        refine ⟨before.length, by omega, ?_⟩
        rw [lower_drop, ← split, List.append_assoc, List.drop_left]
        exact List.prefix_append _ _

theorem isWanted_eq (filter : Option TypeFilter) (zoneType : List Char) :
    isWanted (filter.map TypeFilter.text) zoneType =
      containsCi zoneType ((filter.map TypeFilter.text).getD []) := by
  cases filter with
  | none => rfl
  | some filter =>
      rw [Bool.eq_iff_iff, Option.map_some, Option.getD_some, containsCi_iff, isWanted,
        decide_eq_true_eq]

theorem readText_of_ascii {bytes : List UInt8}
    (ascii : ∀ character ∈ charsOf bytes, character.toNat < 128) :
    readText (.contents bytes) = .ok (PythonText.universalNewlines (charsOf bytes)) := by
  have small : ∀ byte ∈ bytes, byte.toNat < 128 := by
    intro byte member
    have here := ascii _ (List.mem_map_of_mem member)
    rwa [PythonText.toNat_ofNat_byte] at here
  rw [readText, PythonText.decodeAscii_ascii small]
  rfl

theorem readText_plain {bytes : List UInt8} (plain : ∀ character ∈ charsOf bytes,
    character.toNat < 128 ∧ character ≠ '\r') : readText (.contents bytes) = .ok (charsOf bytes) := by
  rw [readText_of_ascii fun character member => (plain character member).1,
    PythonText.universalNewlines_eq_self _ fun member => (plain _ member).2 rfl]

section TypeLine
variable {line : List Char} (isLine : IsTypeLine line)
include isLine

theorem IsTypeLine.isSpace_of_ne {character : Char} (member : character ∈ line)
    (notBlank : character ≠ ' ') : PythonText.isSpace character = false := by
  have printable := isLine.printable character member
  unfold IsPrintable at printable
  have notSpace : character.toNat ≠ 32 := fun same => notBlank (Char.toNat_inj.mp same)
  simp only [PythonText.isSpace, Bool.or_eq_false_iff, decide_eq_false_iff_not]
  omega

theorem IsTypeLine.not_mem {character : Char} (control : character.toNat < 32) :
    character ∉ line := by
  intro member
  have printable := isLine.printable character member
  unfold IsPrintable at printable
  omega

theorem IsTypeLine.strip_eq {newline : List Char} (isNewline : newline = [] ∨ newline = ['\n']) :
    PythonText.strip (line ++ newline) = line := by
  have stripped := @PythonText.strip_surrounded [] line newline (by simp)
    (fun character head =>
      isLine.isSpace_of_ne (List.mem_of_mem_head? head) (isLine.first character head))
    (fun character ends =>
      isLine.isSpace_of_ne (List.mem_of_getLast? ends) (isLine.last character ends))
    (by rcases isNewline with rfl | rfl <;> simp [PythonText.isSpace])
  exact stripped

theorem IsTypeLine.fgets_eq {newline : List Char} (isNewline : newline = [] ∨ newline = ['\n']) :
    (CText.fgets typeFilterMax (line ++ newline)).map
    (fun read => (CText.cString read).rdropWhile isLineEnd) = some line := by
  have bare : line.rdropWhile isLineEnd = line := by
    rw [List.rdropWhile_eq_self_iff]
    intro nonempty ends
    have member := List.getLast_mem nonempty
    rcases of_decide_eq_true ends with isNewline | isReturn
    · exact isLine.not_mem (by decide) (isNewline ▸ member)
    · exact isLine.not_mem (by decide) (isReturn ▸ member)
  have whole : ∀ read : List Char, (∀ character ∈ read, character ∈ line ∨ character = '\n') →
      CText.cString read = read := by
    intro read inRead
    rw [CText.cString, List.takeWhile_eq_self_iff]
    intro character member
    apply decide_eq_true
    rintro rfl
    rcases inRead _ member with inLine | newline
    · exact isLine.not_mem (by decide) inLine
    · cases newline
  rcases CText.fgets_line isLine.nonempty isLine.short isNewline (isLine.not_mem (by decide))
    with read | read
  · rw [read, Option.map_some, whole line fun character member => Or.inl member, bare]
  · rw [read, Option.map_some, whole _ (by simp), List.rdropWhile_concat_pos _ _ _ (by decide), bare]

end TypeLine

theorem zoneType_agrees {file : File} (format : TypeFormat file) {zoneDir : List Char}
    (short : zoneDir.length < zoneDirSize) :
    zoneTypeOf file = .ok ((readZoneType zoneDir file typeFilterMax).getD unknown) := by
  rw [readZoneType_eq short]
  cases format with
  | missing => rfl
  | unreadable => rfl
  | @line bytes line newline isLine isNewline content =>
      have plain : ∀ character ∈ charsOf bytes, character.toNat < 128 ∧ character ≠ '\r' := by
        intro character member
        rw [content] at member
        rcases List.mem_append.mp member with inLine | inNewline
        · have printable := isLine.printable character inLine
          unfold IsPrintable at printable
          refine ⟨by omega, ?_⟩
          rintro rfl
          exact isLine.not_mem (by decide) inLine
        · rcases isNewline with rfl | rfl
          · cases inNewline
          · rw [List.mem_singleton.mp inNewline]
            decide
      have shown : zoneTypeOf (.contents bytes) = .ok (PythonText.strip (charsOf bytes)) := by
        unfold zoneTypeOf
        dsimp only
        rw [readText_plain plain]
      rw [shown, content, isLine.strip_eq isNewline, fopen, content, Option.bind_some,
        isLine.fgets_eq isNewline]
      rfl

theorem IsPadding.blank {text : List Char} (padding : IsPadding text) (character : Char)
    (member : character ∈ text) : CText.isspace character = true := by
  rcases padding character member with rfl | rfl <;> decide

/-- A number is read to its end by both. -/
theorem IsReading.values {text lead mark digits trail : List Char}
    (isReading : IsReading text lead mark digits trail) :
    PythonText.int (PythonText.strip text) = some (signed mark digits) ∧
      CText.scanLong text = some (signed mark digits) := by
  have before := isReading.before.blank
  have behind := isReading.behind.blank
  rw [isReading.content]
  constructor
  · exact int_of_number (fun character member => CText.isSpace_of_isspace (before character member))
      isReading.isSign isReading.nonempty isReading.allDigits isReading.short
      fun character member => CText.isSpace_of_isspace (behind character member)
  · refine CText.scanLong_of_number before isReading.isSign isReading.nonempty isReading.allDigits
      (fun character head => ?_) isReading.lower isReading.upper
    rcases isReading.behind character (List.mem_of_mem_head? head) with rfl | rfl <;> decide

theorem IsReading.plain {text lead mark digits trail : List Char}
    (isReading : IsReading text lead mark digits trail) :
    ∀ character ∈ text, character.toNat < 128 ∧ character ≠ '\r' := by
  have padded : ∀ padding, IsPadding padding → ∀ character ∈ padding,
      character.toNat < 128 ∧ character ≠ '\r' := by
    intro padding isPadding character member
    rcases isPadding character member with rfl | rfl <;> decide
  intro character member
  rw [isReading.content] at member
  simp only [List.mem_append] at member
  rcases member with ((inLead | inMark) | inDigits) | inTrail
  · exact padded lead isReading.before character inLead
  · rcases isReading.isSign with rfl | rfl | rfl
    · cases inMark
    · rw [List.mem_singleton.mp inMark]
      decide
    · rw [List.mem_singleton.mp inMark]
      decide
  · have isDigit := isReading.allDigits character inDigits
    refine ⟨?_, ?_⟩
    · simp only [Char.isDigit, Bool.and_eq_true, decide_eq_true_eq] at isDigit
      have upper : character.toNat ≤ 57 := isDigit.2
      omega
    · rintro rfl
      cases isDigit
  · exact padded trail isReading.behind character inTrail

theorem millidegrees_agree {file : File} (format : TempFormat PythonText.isSpace file) :
    readMillidegrees file = (fopen file).bind CText.scanLong := by
  cases format with
  | missing => rfl
  | unreadable => rfl
  | @garbled bytes ascii noNumber =>
      have noScan : CText.scanLong (charsOf bytes) = none := by
        rw [CText.scanLong_eq_none_iff]
        exact fun begins => noNumber (begins.mono fun _ => CText.isSpace_of_isspace)
      have noInt : PythonText.int (PythonText.strip
          (PythonText.universalNewlines (charsOf bytes))) = none := by
        by_contra read
        obtain ⟨value, isValue⟩ := Option.ne_none_iff_exists'.mp read
        exact noNumber (begins_of_universalNewlines _ (begins_of_strip (begins_of_int isValue)))
      rw [readMillidegrees, readText_of_ascii ascii, fopen, Option.bind_some, noScan]
      exact noInt
  | reading isReading =>
      obtain ⟨asInt, asLong⟩ := isReading.values
      rw [readMillidegrees, readText_plain isReading.plain, fopen, Option.bind_some, asLong]
      exact asInt

/-! ## One zone -/

def configOf (basePath : List Char) (filter : Option TypeFilter) (aggregate : Aggregate) : Config where
  basePath := basePath
  zoneTypeFilter := (filter.map TypeFilter.text).getD []
  aggregate := aggregate

def shownType (basePath : List Char) (entry : Entry) : List Char :=
  (readZoneType (basePath ++ '/' :: entry.name) entry.typeFile typeFilterMax).getD unknown

section Zone
variable {basePath : List Char} {entry : Entry}

/-- What the daemon makes of a zone, in the words of the other reader. -/
theorem zoneValue_of_kernel (filter : Option TypeFilter) (aggregate : Aggregate)
    (named : thermalZone.isPrefixOf entry.name = true)
    (kernel : KernelZone PythonText.isSpace basePath entry) :
    zoneValue (configOf basePath filter aggregate) entry =
      if isWanted (filter.map TypeFilter.text) (shownType basePath entry) = true ∧
          entry.tempFile ≠ .missing then
        readMillidegrees entry.tempFile
      else none := by
  have fits : snprintf zoneDirSize (basePath ++ '/' :: entry.name) =
      some (basePath ++ '/' :: entry.name) := if_pos kernel.path
  have zone : matchingZone (configOf basePath filter aggregate) entry =
      if isWanted (filter.map TypeFilter.text) (shownType basePath entry) = true then
        some (basePath ++ '/' :: entry.name) else none := by
    rw [matchingZone, if_pos named, configOf, fits, Option.filter_some, isWanted_eq]
    rfl
  rw [zoneValue, zone]
  by_cases wanted : isWanted (filter.map TypeFilter.text) (shownType basePath entry) = true
  · rw [if_pos wanted, Option.bind_some, readZoneMillidegrees_eq kernel.path,
      ← millidegrees_agree kernel.tempFile]
    by_cases missing : entry.tempFile = .missing
    · rw [if_neg fun both => both.2 missing, missing]
      rfl
    · rw [if_pos ⟨wanted, missing⟩]
  · rw [if_neg wanted, if_neg fun both => wanted both.1]
    rfl

theorem index_of_kernel (kernel : KernelZone PythonText.isSpace basePath entry) :
    (PythonText.int (removeThermalZone entry.name)).isSome = true := by
  obtain ⟨digits, name, nonempty, allDigits⟩ := kernel.name
  have removed : removeThermalZone entry.name = digits := by
    rw [removeThermalZone, name, if_pos (by simp), List.drop_left]
  have short : digits.length ≤ PythonText.maxStrDigits := by
    have sizes : zoneDirSize = 300 ∧ PythonText.maxStrDigits = 4300 := ⟨rfl, rfl⟩
    have fits := kernel.path
    rw [name, List.length_append, List.length_cons, List.length_append] at fits
    omega
  rw [removed, PythonText.int_digits nonempty allDigits short]
  rfl

end Zone

section Trees
variable {basePath : List Char} {entries : List Entry}

theorem mem_sortedZones {entry : Entry} (member : entry ∈ sortedZones entries) :
    entry ∈ entries ∧ thermalZone.isPrefixOf entry.name = true := by
  rw [(sortedZones_perm entries).mem_iff, List.mem_filter] at member
  exact member

theorem KernelFormat.perm {others : List Entry} (samely : others.Perm entries)
    (kernel : KernelFormat PythonText.isSpace basePath entries) :
    KernelFormat PythonText.isSpace basePath others where
  distinct := (samely.map Entry.name).nodup_iff.mpr kernel.distinct
  zones entry member := kernel.zones entry (samely.mem_iff.mp member)

section Readers
variable (filter : Option TypeFilter) (aggregate : Aggregate)

def sortedCelsius (basePath : List Char) (entries : List Entry) : List ℚ :=
  ((sortedZones entries).filterMap (zoneValue (configOf basePath filter aggregate))).map
    fun millideg : Int => (millideg : ℚ) / 1000

theorem temperatures_perm {listed : List Entry} (samely : listed.Perm entries) :
    (temperatures (configOf basePath filter aggregate) (some listed)).Perm
      (sortedCelsius filter aggregate basePath entries) := by
  have zonesOnly : (listed.filter fun entry => thermalZone.isPrefixOf entry.name).filterMap
      (zoneValue (configOf basePath filter aggregate)) =
        listed.filterMap (zoneValue (configOf basePath filter aggregate)) := by
    rw [List.filterMap_filter]
    apply List.filterMap_congr
    intro entry _
    split
    · rfl
    · rename_i notNamed
      rw [zoneValue, matchingZone, if_neg notNamed]
      rfl
  rw [temperatures, Option.getD_some, ← zonesOnly, sortedCelsius]
  exact (((samely.filter _).trans (sortedZones_perm entries).symm).filterMap _).map _

theorem kernelZone_of_sorted (kernel : KernelFormat PythonText.isSpace basePath entries) :
    ∀ entry ∈ sortedZones entries, KernelZone PythonText.isSpace basePath entry := by
  intro entry member
  obtain ⟨inTree, named⟩ := mem_sortedZones member
  exact kernel.zones entry inTree named

def isConsidered (basePath : List Char) (entry : Entry) : Bool :=
  isWanted (filter.map TypeFilter.text) (shownType basePath entry) &&
    decide (entry.tempFile ≠ .missing)

def consideredPaths (basePath : List Char) (entries : List Entry) : List Path :=
  ((sortedZones entries).filter (isConsidered filter basePath)).map fun entry =>
    tempPath basePath entry.name

theorem construct_of_kernel (kernel : KernelFormat PythonText.isSpace basePath entries) :
    LinuxThermalZoneReader.construct (filter.map TypeFilter.text) (aggregateText aggregate)
      basePath (some entries) =
        if consideredPaths filter basePath entries = [] then
          .error (.runtimeError (noZonesMessage basePath (filter.map TypeFilter.text)))
        else .ok ⟨consideredPaths filter basePath entries, aggregateText aggregate⟩ := by
  have kernelZone := kernelZone_of_sorted kernel
  obtain ⟨index, collected⟩ := collectZones_eq basePath (shownType basePath) (sortedZones entries)
    (fun entry member => index_of_kernel (kernelZone entry member))
    fun entry member =>
      zoneType_agrees (kernelZone entry member).typeFile (kernelZone entry member).path
  have known : ¬ (aggregateText aggregate ≠ "max" ∧ aggregateText aggregate ≠ "mean") := by
    cases aggregate <;> decide
  rw [LinuxThermalZoneReader.construct, if_neg known, listThermalZones, collected]
  simp only [bind, Except.bind, List.filter_map, List.filter_filter, List.map_map,
    List.map_eq_nil_iff, consideredPaths]
  rfl

/-- Behind the paths that are kept stand the values of all zones. -/
theorem celsius_of_kernel (kernel : KernelFormat PythonText.isSpace basePath entries) :
    celsiusUnder (filesOf basePath (some entries)) (consideredPaths filter basePath entries) =
      sortedCelsius filter aggregate basePath entries := by
  rw [celsiusUnder, consideredPaths, sortedCelsius, List.filterMap_map, List.filterMap_filter]
  congr 1
  apply List.filterMap_congr
  intro entry member
  obtain ⟨inTree, named⟩ := mem_sortedZones member
  rw [zoneValue_of_kernel filter aggregate named (kernelZone_of_sorted kernel entry member),
    Function.comp_apply, filesOf_tempPath kernel.distinct inTree]
  simp only [isConsidered, Bool.and_eq_true, decide_eq_true_eq]

end Readers

theorem aggregated_perm (aggregate : Aggregate) {values others : List ℚ}
    (samely : values.Perm others) : aggregated aggregate values = aggregated aggregate others := by
  have empty : values = [] ↔ others = [] :=
    ⟨fun nothing => List.nil_perm.mp (nothing ▸ samely),
      fun nothing => List.perm_nil.mp (nothing ▸ samely)⟩
  unfold aggregated
  rw [samely.sum_eq, samely.length_eq, Maximum.maximum_perm samely, if_congr empty rfl rfl]

theorem aggregated_cons (aggregate : Aggregate) (first : ℚ) (rest : List ℚ) :
    aggregated aggregate (first :: rest) =
      some (.finite (if aggregateText aggregate = "max" then rest.foldl max first
        else (first :: rest).sum / (first :: rest).length)) := by
  unfold aggregated
  rw [if_neg (List.cons_ne_nil _ _)]
  cases aggregate with
  | max => exact congrArg some (Maximum.maximum_cons first rest)
  | mean => rfl

/-- The tree listed in any order by each of the two, for every filter and both
aggregates. -/
theorem thermal_readers_agree (basePath : List Char) (entries listed globbed : List Entry)
    (kernel : KernelFormat PythonText.isSpace basePath entries)
    (listedOrder : listed.Perm entries) (globbedOrder : globbed.Perm entries)
    (filter : Option TypeFilter) (aggregate : Aggregate) :
    Agree (thermalReaderRead (configOf basePath filter aggregate) (some listed))
      (constructAndCall (filter.map TypeFilter.text) (aggregateText aggregate) basePath
        (some globbed)) := by
  have kernelGlobbed := kernel.perm globbedOrder
  have fromC : thermalReaderRead (configOf basePath filter aggregate) (some listed) =
      aggregated aggregate (sortedCelsius filter aggregate basePath globbed) := by
    rw [thermalReaderRead_eq]
    exact aggregated_perm aggregate
      (temperatures_perm filter aggregate (listedOrder.trans globbedOrder.symm))
  have celsius := celsius_of_kernel filter aggregate kernelGlobbed
  have fromPython : constructAndCall (filter.map TypeFilter.text) (aggregateText aggregate) basePath
      (some globbed) = if consideredPaths filter basePath globbed = [] then
        .error (.runtimeError (noZonesMessage basePath (filter.map TypeFilter.text)))
      else LinuxThermalZoneReader.call
        ⟨consideredPaths filter basePath globbed, aggregateText aggregate⟩
        (filesOf basePath (some globbed)) := by
    rw [constructAndCall, construct_of_kernel filter aggregate kernelGlobbed]
    split <;> rfl
  rw [fromC, fromPython]
  cases values : sortedCelsius filter aggregate basePath globbed with
  | nil =>
      rw [values] at celsius
      obtain ⟨message, failed⟩ := @call_of_nothing
        ⟨consideredPaths filter basePath globbed, aggregateText aggregate⟩ _ celsius
      refine ⟨iff_of_true rfl ?_, fun some => absurd rfl some⟩
      split
      · exact ⟨_, rfl⟩
      · exact ⟨message, failed⟩
  | cons first rest =>
      rw [values] at celsius
      have nonempty : consideredPaths filter basePath globbed ≠ [] := by
        intro nothing
        rw [nothing] at celsius
        cases celsius
      have called := @call_of_readings
        ⟨consideredPaths filter basePath globbed, aggregateText aggregate⟩ _ _ _ celsius
      rw [aggregated_cons, if_neg nonempty, called]
      refine ⟨iff_of_false (by simp) ?_, fun _ => ⟨_, rfl, rfl⟩⟩
      rintro ⟨message, failed⟩
      cases failed

end Trees

def sysPath : List Char :=
  ['/', 's', 'y', 's', '/', 'c', 'l', 'a', 's', 's', '/', 't', 'h', 'e', 'r', 'm', 'a', 'l']

def cpuZone : Entry where
  name := thermalZone ++ ['0']
  typeFile := .contents [99, 112, 117, 10]
  tempFile := .contents [52, 53, 48, 48, 48, 10]

def emptyZone : Entry where
  name := thermalZone ++ ['1']
  typeFile := .missing
  tempFile := .contents [110, 47, 97, 10]

def separatorZone : Entry where
  name := thermalZone ++ ['0']
  typeFile := .contents [99, 112, 117, 10]
  tempFile := .contents [28, 52, 50, 10]

theorem typeFormat_cpu : TypeFormat (.contents [99, 112, 117, 10]) :=
  @TypeFormat.line _ ['c', 'p', 'u'] ['\n']
    ⟨List.cons_ne_nil _ _, by simp [typeFilterMax], by simp [IsPrintable], by simp, by simp⟩
    (Or.inr rfl) rfl

def cpuFilter : TypeFilter where
  text := ['C', 'P', 'U']
  short := by simp [typeFilterMax]
  printable := by simp [IsPrintable]

theorem kernelFormat_sample : KernelFormat PythonText.isSpace sysPath [cpuZone, emptyZone] where
  distinct := by simp [cpuZone, emptyZone]
  zones := by
    intro entry member _
    rcases List.mem_cons.mp member with rfl | later
    · refine ⟨⟨['0'], rfl, List.cons_ne_nil _ _, by simp⟩, by decide +kernel, typeFormat_cpu, ?_⟩
      exact @TempFormat.reading _ _ [] [] ['4', '5', '0', '0', '0'] ['\n']
        ⟨rfl, by simp [IsPadding], Or.inl rfl, List.cons_ne_nil _ _, by simp,
          by simp [PythonText.maxStrDigits], by decide +kernel, by decide +kernel,
          by simp [IsPadding]⟩
    · cases List.mem_singleton.mp later
      refine ⟨⟨['1'], rfl, List.cons_ne_nil _ _, by simp⟩, by decide +kernel, .missing,
        .garbled (by simp [charsOf]) ?_⟩
      rw [beginsWithNumber_iff apart_isSpace]
      exact not_not.mpr rfl

theorem thermal_readers_agree_sample :
    Agree (thermalReaderRead (configOf sysPath (some cpuFilter) .mean) (some [emptyZone, cpuZone]))
      (constructAndCall (some ['C', 'P', 'U']) "mean" sysPath (some [cpuZone, emptyZone])) :=
  thermal_readers_agree sysPath [cpuZone, emptyZone] [emptyZone, cpuZone] [cpuZone, emptyZone]
    kernelFormat_sample (List.Perm.swap _ _ _) (List.Perm.refl _) (some cpuFilter) .mean

theorem kernelFormat_separator : KernelFormat CText.isspace sysPath [separatorZone] where
  distinct := by simp [separatorZone]
  zones := by
    intro entry member _
    cases List.mem_singleton.mp member
    refine ⟨⟨['0'], rfl, List.cons_ne_nil _ _, by simp⟩, by decide +kernel, typeFormat_cpu,
      .garbled (by simp [charsOf]) ?_⟩
    rw [beginsWithNumber_iff CText.apart_isspace]
    exact not_not.mpr rfl

/-- White space to Python, but not to C: one reader reports 0.042 degrees, the
other none. -/
theorem separator_skipped_by_one :
    KernelFormat CText.isspace sysPath [separatorZone] ∧
      ¬ Agree (thermalReaderRead (configOf sysPath none .max) (some [separatorZone]))
        (constructAndCall none "max" sysPath (some [separatorZone])) := by
  refine ⟨kernelFormat_separator, fun agree => ?_⟩
  have fromC : thermalReaderRead (configOf sysPath none .max) (some [separatorZone]) = none := by
    decide +kernel
  have fromPython : constructAndCall none "max" sysPath (some [separatorZone]) =
      .ok (42 / 1000) := by
    decide +kernel
  obtain ⟨message, failed⟩ := agree.fails.mp fromC
  rw [fromPython] at failed
  cases failed

end Msp.ThermalAgreement
