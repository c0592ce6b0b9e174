import ByteChannel.Config
import ByteChannel.Yaml.Document
import ByteChannel.Yaml.Found
import ByteChannel.Yaml.Record

/-!
# Reading configurations

A configuration is written as a YAML mapping with the keys `capacity`, `element_size` and,
optionally, `element_align`. `Config.load` is given a reader for such records and checks what it
reads for validity.

The reader that comes with the library, `Config.yaml`, goes through the entries in the order of the
document and reports the first thing it finds wrong: an unknown or repeated key, a value that is no
unsigned integer, and at the end a missing key. Only then does it count that the document breaks
off, or that it is not the only one.

## Main definitions

* `Config.Field`, `Config.schema` — the keys, and configurations as records
* `Config.load` — the configuration that a text describes, according to a reader
* `Config.ReadError` — what can be wrong with a text, with `Config.ReadError.message`
* `Config.yaml`, `Config.ofYaml` — the reader, and loading with it
-/

namespace ByteChannel

namespace Config

/-- The entries of a configuration. -/
inductive Field where
  | capacity
  | elementSize
  | elementAlign
  deriving DecidableEq, Repr

namespace Field

/-- The key of an entry. -/
def name : Field → String
  | capacity => "capacity"
  | elementSize => "element_size"
  | elementAlign => "element_align"

/-- The entry of a key. -/
def ofName? (s : String) : Option Field :=
  [capacity, elementSize, elementAlign].find? (·.name == s)

/-- What a field is if its entry is left out. Elements are then aligned to single bytes. -/
def default? : Field → Option Nat
  | elementAlign => some 1
  | _ => none

end Field

/-- The number in a field. -/
def get (config : Config) : Field → Nat
  | .capacity => config.capacity
  | .elementSize => config.elementSize
  | .elementAlign => config.elementAlign

/-- Configurations as records. -/
def schema : Yaml.Schema Config Field where
  key := Field.name
  key_inj := by
    intro field other
    cases field <;> cases other <;> decide
  default? := Field.default?
  get := get

/-! ### Loading -/

/-- Why a text yields no usable configuration, where `ε` is what can be wrong with a text. -/
inductive Rejection (ε : Type) where
  /-- It describes none. -/
  | unreadable (e : ε)
  /-- It describes an invalid one. -/
  | invalid (e : Invalid)
  deriving DecidableEq, Repr

/-- The valid configuration that a text describes, according to a reader. -/
def load {ε : Type} (reader : Yaml.Reader ε Config Field) (text : String) :
    Except (Rejection ε) Config :=
  match reader.read text with
  | .error e => .error (.unreadable e)
  | .ok config =>
    match config.validate with
    | .error e => .error (.invalid e)
    | .ok _ => .ok config

/-! ### What can be wrong with a text -/

/-- What is wrong at some place of a document. -/
inductive Problem where
  /-- The document is not a mapping. -/
  | notMapping (mismatch : Yaml.Mismatch)
  /-- A key is a sequence or a mapping. -/
  | badKey (found : Yaml.Found)
  /-- A key is none of those known. -/
  | unknownField (key : String)
  /-- A key comes a second time. -/
  | duplicateField (field : Field)
  /-- A key does not come at all. -/
  | missingField (field : Field)
  /-- The value of the key `path` is no unsigned integer. -/
  | badValue (path : String) (mismatch : Yaml.Mismatch)
  deriving DecidableEq, Repr

namespace Problem

/-- The text of a problem, without its place. -/
def message : Problem → String
  | notMapping mismatch => mismatch.message "struct ChannelConfig"
  | badKey found => (Yaml.Mismatch.type found).message "field identifier"
  | unknownField key =>
    s!"unknown field `{key}`, expected one of `capacity`, `element_size`, `element_align`"
  | duplicateField field => s!"duplicate field `{field.name}`"
  | missingField field => s!"missing field `{field.name}`"
  | badValue path mismatch => path ++ ": " ++ mismatch.message "usize"

end Problem

/-- Why a text describes no configuration. -/
inductive ReadError where
  /-- Something is wrong at some place. -/
  | problem (what : Problem) (pos : Yaml.Position)
  /-- The document breaks off. -/
  | failure (cause : Yaml.Failure)
  /-- There is a second document. -/
  | severalDocuments
  deriving DecidableEq, Repr

namespace ReadError

/-- A text with the place it is about, which is left out at the very start of a document. -/
def located (text : String) (pos : Yaml.Position) : String :=
  if pos = .start then text else s!"{text} at {pos.describe}"

/-- What is wrong with the text. -/
def detail : ReadError → String
  | problem what pos => located what.message pos
  | failure (.syntaxError e) => e.message
  | failure (.unknownAnchor pos) => located "unknown anchor" pos
  | severalDocuments =>
    "deserializing from YAML containing more than one document is not supported"

/-- The full text. -/
def message (e : ReadError) : String :=
  s!"Failed to parse channel configuration: {e.detail}"

end ReadError

/-! ### The reader -/

/-- The error when the events end before the mapping does: why the document breaks off. -/
def brokenOff (d : Yaml.Document) : ReadError :=
  .failure (d.failure.getD (.syntaxError .unexpectedToken))

/-- What is wrong with a text after the mapping: the document breaks off, or is not the only one. -/
def later? (d : Yaml.Document) : Option ReadError :=
  match d.failure with
  | some failure => some (.failure failure)
  | none => if d.continued then some .severalDocuments else none

/-- The number that a value stands for. -/
def readValue (path : String) (value : Yaml.Event Nat) : Except ReadError Nat :=
  match value.kind with
  | .scalar _ scalar =>
    match scalar.unsigned? with
    | some n => .ok n
    | none => .error (.problem (.badValue path scalar.mismatch) value.pos)
  | .sequenceStart _ => .error (.problem (.badValue path (.type .sequence)) value.pos)
  | _ => .error (.problem (.badValue path (.type .mapping)) value.pos)

/-- How a message names the key of a bad value: by its text, or by a question mark if it is an
alias. -/
def pathOf (key : Yaml.Event Nat) : String :=
  match key.kind with
  | .scalar _ scalar => scalar.text
  | _ => "?"

/-- An entry with the given key, which must be a scalar. -/
def entryOf (key : Yaml.Event Nat) (value : Except ReadError Nat) (rest : Yaml.Entries ReadError) :
    Yaml.Entries ReadError :=
  match key.kind with
  | .scalar _ scalar => .entry scalar.text key.pos value rest
  | .sequenceStart _ => .broken (.problem (.badKey .sequence) key.pos)
  | _ => .broken (.problem (.badKey .mapping) key.pos)

/-- The entries of a mapping whose start has been read. -/
def entriesOf (d : Yaml.Document) : List (Yaml.Event Nat) → Yaml.Entries ReadError
  | [] => .broken (brokenOff d)
  | [key] =>
    if key.kind = .mappingEnd then .done (later? d)
    else entryOf (d.follow key) (.error (brokenOff d)) (.broken (brokenOff d))
  | key :: value :: rest =>
    if key.kind = .mappingEnd then .done (later? d)
    else entryOf (d.follow key) (readValue (pathOf key) (d.follow value)) (entriesOf d rest)

/-- The mapping that a document consists of. A document without any content is an empty one. -/
def mappingOf (d : Yaml.Document) : Except ReadError (Yaml.Mapping ReadError) :=
  match d.events with
  | [] => .error (brokenOff d)
  | e :: es =>
    match e.kind with
    | .mappingStart _ => .ok ⟨e.pos, entriesOf d es⟩
    | .scalar _ scalar =>
      if scalar.text.isEmpty && scalar.style == .plain then .ok ⟨e.pos, .done (later? d)⟩
      else .error (.problem (.notMapping scalar.mismatch) e.pos)
    | _ => .error (.problem (.notMapping (.type .sequence)) e.pos)

/-- The mapping that a text consists of. -/
def present (text : String) : Except ReadError (Yaml.Mapping ReadError) :=
  mappingOf (Yaml.Document.load text.toList)

/-- The number in a field of a mapping that starts at `start`. -/
def fill (start : Yaml.Position) (given : Yaml.Given Field) (field : Field) :
    Except ReadError Nat :=
  match (given field).or field.default? with
  | some n => .ok n
  | none => .error (.problem (.missingField field) start)

/-- The configuration that a mapping describes. A repeated key is noticed before its value, and
whatever follows the mapping comes last. -/
def collect (start : Yaml.Position) (given : Yaml.Given Field) :
    Yaml.Entries ReadError → Except ReadError Config
  | .done later => do
    let capacity ← fill start given .capacity
    let elementSize ← fill start given .elementSize
    let elementAlign ← fill start given .elementAlign
    match later with
    | some e => .error e
    | none => .ok ⟨capacity, elementSize, elementAlign⟩
  | .broken e => .error e
  | .entry key pos value rest =>
    match Field.ofName? key with
    | none => .error (.problem (.unknownField key) pos)
    | some field =>
      if (given field).isSome then .error (.problem (.duplicateField field) start)
      else do
        let n ← value
        collect start (given.put field n) rest

/-- The reader that comes with the library. -/
def yaml : Yaml.Reader ReadError Config Field where
  present := present
  collect := collect

/-- Why a text yields no usable configuration. -/
abbrev LoadError := Rejection ReadError

/-- The valid configuration that a text describes. -/
def ofYaml (text : String) : Except LoadError Config :=
  load yaml text

end Config

end ByteChannel
