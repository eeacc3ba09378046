import RecordStore.Log.Entry
import RecordStore.Settings.Basic
import RecordStore.Settings.Mapping

/-!
Where settings come from. A value given by the caller wins over an environment variable, that one over
the configuration file, and what nobody gives is left to its default. How a file is read, how the
environment file gets into the environment and how values become settings is up to the packages that
do it; so is what objects there are, and what keys of mappings beside texts.
-/

namespace RecordStore.Settings

abbrev Environment := List (Text × Text)

/-- How a package fails: with its own error, which has a report, or with anything else. -/
inductive Fault where
  | own (report : Text)
  | raised (failure : Failure)

structure Packages (κ α : Type) where
  holds : α → Bool
  mapping? : α → Option (Mapping κ α)
  ofText : Text → α
  loadDotenv : Environment → Except Failure Environment
  readText : String → Except Fault α
  /-- The report on a file that is no UTF-8, if the reader refuses what stands in front of the first such
  byte before it comes to that byte. -/
  refusedEarly? : List UInt8 → Option Text
  validate : List (Text × α) → Except Fault Settings

structure ConfigFile where
  path : Text
  content : Option (List UInt8)

structure Sources (κ α : Type) where
  file : Option ConfigFile := none
  environment : Environment := []
  loadsDotenv : Bool := true
  overrides : Mapping κ α

variable {κ α : Type} [DecidableEq κ] (packages : Packages κ α)

def knownVariables (sources : Sources κ α) : Except Failure Environment :=
  if sources.loadsDotenv then packages.loadDotenv sources.environment else .ok sources.environment

def textOfBytes? (data : List UInt8) : Option String := String.fromUTF8? ⟨data.toArray⟩

def fileObject (path : Text) (data : List UInt8) : Except Refusal α :=
  match textOfBytes? data with
  | some text =>
    match packages.readText text with
    | .ok object => .ok object
    | .error (.own report) => .error (.invalidFile path report)
    | .error (.raised failure) => .error (.raised failure)
  | none =>
    match packages.refusedEarly? data with
    | some report => .error (.invalidFile path report)
    | none => .error (.raised (.ofMisuse .notUtf8))

/-- The mapping in a configuration file: all of it, or its section for adapters. -/
def adapterSection (path : Text) (object : α) : Except Refusal (Mapping κ α) :=
  match if packages.holds object then packages.mapping? object else some .empty with
  | none => .error (.notMapping path)
  | some whole =>
    match whole.get? (.name "adapter") with
    | none => .ok whole
    | some part =>
      match packages.mapping? part with
      | some own => .ok own
      | none => .error (.sectionNotMapping path)

def fileValues (file : ConfigFile) : Except Refusal (Mapping κ α) :=
  match file.content with
  | none => .error (.missingFile file.path)
  | some data => fileObject packages file.path data >>= adapterSection packages file.path

def settingVariables : List (String × String) :=
  [("url", "PGADAPTER_URL"), ("primary_key_type", "PGADAPTER_PRIMARY_KEY_TYPE")]

/-- Sets what the variables say; an empty variable says nothing. -/
def withVariables (environment : Environment) (values : Mapping κ α) : Mapping κ α :=
  settingVariables.foldl (fun values (name, source) =>
    match (environment.lookup (source : Text)).filter (!·.isEmpty) with
    | some value => values.set (.name name) (packages.ofText value)
    | none => values) values

/-- The values under names; no other key may be among those of settings. -/
def named? (values : Mapping κ α) : Option (List (Text × α)) :=
  values.entries.mapM fun (key, value) => key.name?.map fun name => (name, value)

def ofMapping (values : Mapping κ α) : Except Refusal Settings :=
  if values.isEmpty then .ok {}
  else match named? values with
    | none => .error (.raised (.ofMisuse (.notText "key")))
    | some named =>
      match packages.validate named with
      | .ok settings => .ok settings
      | .error (.own report) => .error (.unfit report)
      | .error (.raised failure) => .error (.raised failure)

def loadedEntry (file : ConfigFile) : Log.Entry :=
  ⟨.debug, Log.settingsLogger, "Loaded adapter config from " ++ file.path⟩

/-- The settings of all sources, and what is logged while the file is read. -/
def load (sources : Sources κ α) : Except Refusal Settings × List Log.Entry :=
  match knownVariables packages sources with
  | .error failure => (.error (.raised failure), [])
  | .ok environment =>
    match sources.file.mapM (fileValues packages) with
    | .error refusal => (.error refusal, [])
    | .ok values =>
      (ofMapping packages ((withVariables packages environment (values.getD .empty)).update sources.overrides),
        sources.file.toList.map loadedEntry)

end RecordStore.Settings
