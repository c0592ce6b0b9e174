import ByteChannel.Yaml.Position

/-!
# Records in YAML documents

A record whose fields are numbers is written as a mapping with an entry for each of its fields. A
`Schema` says what kind of record it is: which keys there are, and what a field is if its entry is
left out. Reading is done by a `Reader`, in two steps: a text is presented as a mapping, and the
entries of a mapping are collected into a record.

Readers are parameters here. A program that reads records has a reader supplied to it, and what the
program does with a text can be said of every reader of which enough is known.

## Main definitions

* `Yaml.Entries`, `Yaml.Mapping` — what a text is presented as
* `Yaml.Schema` — a kind of record
* `Yaml.Reader`, `Yaml.Reader.read`
-/

namespace ByteChannel

namespace Yaml

/-- The entries of a mapping, where `ε` is the type of the errors. -/
inductive Entries (ε : Type) where
  /-- There are no more. The text may still have something wrong with it further on. -/
  | done (later : Option ε)
  /-- No further entry can be made out. -/
  | broken (e : ε)
  /-- An entry: the text of its key, where that is, and the number the entry has, if it has one. -/
  | entry (key : String) (pos : Position) (value : Except ε Nat) (rest : Entries ε)

/-- A mapping in a text. -/
structure Mapping (ε : Type) where
  /-- Where it starts. -/
  start : Position
  /-- Its entries, in the order of the text. -/
  entries : Entries ε

/-- A kind of record: values of type `ρ` with a number for each of the fields `F`. -/
structure Schema (ρ F : Type) where
  /-- The key of a field. -/
  key : F → String
  /-- Every field has a key of its own. -/
  key_inj : ∀ field other, key field = key other → field = other
  /-- What a field is if there is no entry for it. Without this it must be there. -/
  default? : F → Option Nat
  /-- The number that a record has in a field. -/
  get : ρ → F → Nat

/-- The numbers that have been found for fields. -/
abbrev Given (F : Type) := F → Option Nat

namespace Given

/-- Nothing has been found. -/
def nothing {F : Type} : Given F := fun _ => none

/-- Add a number. -/
def put {F : Type} [DecidableEq F] (given : Given F) (field : F) (n : Nat) : Given F :=
  fun other => if other = field then some n else given other

end Given

/-- A way of reading records. -/
structure Reader (ε ρ F : Type) where
  /-- Find the mapping that a text consists of. -/
  present : String → Except ε (Mapping ε)
  /-- Make a record of the numbers given so far and of the entries that follow. The mapping starts
  at the given position. -/
  collect : Position → Given F → Entries ε → Except ε ρ

/-- The record that a text describes. -/
def Reader.read {ε ρ F : Type} (reader : Reader ε ρ F) (text : String) : Except ε ρ := do
  let mapping ← reader.present text
  reader.collect mapping.start .nothing mapping.entries

end Yaml

end ByteChannel
