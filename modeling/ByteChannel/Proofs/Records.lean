import ByteChannel.Config
import ByteChannel.Proofs.LineScan
import ByteChannel.Yaml.Record
import Mathlib.Tactic.ByContra

/-!
# Records written line by line

A record can be written with one line for each of its entries. This module says of all documents
that consist of lines with a key and a number which ones a reader takes for a record, and for which:
the keys must be those of the record, each at most once and at least once if it has no default, and
the numbers must have 64 bits. The order of the lines does not matter.

Nothing is said here about how a reader works. Two things are assumed of it. It presents a document
of lines as the mapping that it looks like (`Reader.PresentsLines`), where only a key beyond some
length may make it give up. And it collects entries one at a time (`Reader.Collects`): each law is
about the next entry, or about the end of the mapping, and what has been given up to there.

Collecting stops at the first thing that is wrong, so what has been read counts for what may still
come. `Readable` says that nothing is wrong with the remaining lines, given the numbers so far. It
unfolds one line at a time, as collecting does, and starting from nothing it is a condition on the
lines alone.

## Main definitions

* `Yaml.Entries.AreOf`, `Yaml.Reader.PresentsLines` — what presenting a document of lines is
* `Yaml.Reader.Collects` — what collecting entries is
* `Yaml.Readable` — nothing is wrong with the remaining lines
* `Yaml.Schema.Admits`, `Yaml.Schema.Describes` — the lines that describe a record, and which one

## Main results

* `Yaml.Reader.Collects.collect_of_readable`, `Yaml.Reader.Collects.collect_of_not_readable` — going
  through lines
* `Yaml.Reader.read_of_admits`, `Yaml.Reader.read_of_not_admits` — reading a document of lines
-/

namespace ByteChannel.Yaml

open Config (sizeLimit)

variable {ε ρ F : Type}

/-! ### What is assumed of a reader -/

/-- What is made of a number in decimal: the number itself, if it has 64 bits. -/
structure IsNumber (value : Except ε Nat) (n : Nat) : Prop where
  /-- It is taken for what it is. -/
  small : n < sizeLimit → value = .ok n
  /-- It is refused. -/
  large : sizeLimit ≤ n → ∃ e, value = .error e

/-- The entries are those of the lines, in their order. They may break off at a key that is longer
than `limit`. -/
inductive Entries.AreOf (limit : Nat) : Entries ε → List Line → Prop
  | nil : AreOf limit (.done none) []
  | cons {line : Line} {lines : List Line} {value : Except ε Nat} {rest : Entries ε}
      (pos : Position) (number : IsNumber value line.value) (later : AreOf limit rest lines) :
    AreOf limit (.entry line.key pos value rest) (line :: lines)
  | long {line : Line} {lines : List Line} (e : ε) (long : limit < line.key.length) :
    AreOf limit (.broken e) (line :: lines)

/-- A document of lines is presented as a mapping with their entries. It may be refused if there is
a key longer than `limit`. -/
def Reader.PresentsLines (reader : Reader ε ρ F) (limit : Nat) : Prop :=
  ∀ lines,
    (∃ mapping, reader.present (document lines) = .ok mapping ∧ mapping.entries.AreOf limit lines) ∨
      ((∃ line ∈ lines, limit < line.key.length) ∧
        ∃ e, reader.present (document lines) = .error e)

/-- Entries are collected one at a time into records of the schema. Which of several things that are
wrong is reported, and in what words, is left to the reader. -/
structure Reader.Collects [DecidableEq F] (reader : Reader ε ρ F) (schema : Schema ρ F) :
    Prop where
  /-- The entry of a field that is new adds its number. -/
  put : ∀ start given field pos n rest, given field = none →
    reader.collect start given (.entry (schema.key field) pos (.ok n) rest) =
      reader.collect start (given.put field n) rest
  /-- An unknown key is refused. -/
  unknown : ∀ start given key pos value rest, (∀ field, schema.key field ≠ key) →
    ∃ e, reader.collect start given (.entry key pos value rest) = .error e
  /-- A field is not given twice. -/
  repeated : ∀ start given field pos value rest, given field ≠ none →
    ∃ e, reader.collect start given (.entry (schema.key field) pos value rest) = .error e
  /-- An entry must have a number. -/
  unread : ∀ start given key pos e rest,
    ∃ e', reader.collect start given (.entry key pos (.error e) rest) = .error e'
  /-- The entries must not break off. -/
  broken : ∀ start given e, ∃ e', reader.collect start given (.broken e) = .error e'
  /-- A field that has no default must have been given in the end. -/
  missing : ∀ start given field, given field = none → schema.default? field = none →
    ∃ e, reader.collect start given (.done none) = .error e
  /-- If every field was given or has a default there is a record, with these numbers. -/
  complete : ∀ start given, (∀ field, (given field).or (schema.default? field) ≠ none) →
    ∃ record, reader.collect start given (.done none) = .ok record ∧
      ∀ field, (given field).or (schema.default? field) = some (schema.get record field)

/-- What is read of a document is what is collected of its mapping. -/
theorem Reader.read_of_present {reader : Reader ε ρ F} {text : String} {mapping : Mapping ε}
    (h : reader.present text = .ok mapping) :
    reader.read text = reader.collect mapping.start .nothing mapping.entries := by
  rw [read, h]
  rfl

/-! ### Readable lines -/

/-- Nothing is wrong with the lines that follow after the given numbers. -/
structure Readable (schema : Schema ρ F) (given : Given F) (lines : List Line) : Prop where
  /-- All keys are those of fields that are not there yet. -/
  known : ∀ line ∈ lines, ∃ field, schema.key field = line.key ∧ given field = none
  /-- No key comes twice. -/
  distinct : (lines.map Line.key).Nodup
  /-- All numbers have 64 bits. -/
  small : ∀ line ∈ lines, line.value < sizeLimit

variable {schema : Schema ρ F} {given : Given F} {lines : List Line}

theorem readable_nil (schema : Schema ρ F) (given : Given F) : Readable schema given [] := by
  constructor <;> simp

/-- The keys of readable lines are not longer than those of the schema. -/
theorem Readable.length_le {limit : Nat} (fits : ∀ field, (schema.key field).length ≤ limit)
    (h : Readable schema given lines) : ∀ line ∈ lines, line.key.length ≤ limit := by
  intro line hl
  obtain ⟨field, hfield, -⟩ := h.known line hl
  rw [← hfield]
  exact fits field

/-! ### The numbers of lines -/

/-- The numbers are those of the lines. -/
def Given.AreOf (schema : Schema ρ F) (given : Given F) (lines : List Line) : Prop :=
  ∀ field n, given field = some n ↔ ∃ line ∈ lines, line.key = schema.key field ∧ line.value = n

/-- The record has the numbers of the lines, and the defaults where no line gives one. -/
def Schema.Describes (schema : Schema ρ F) (lines : List Line) (record : ρ) : Prop :=
  ∀ field,
    (∃ line ∈ lines, line.key = schema.key field ∧ line.value = schema.get record field) ∨
      (∀ line ∈ lines, line.key ≠ schema.key field) ∧
        schema.default? field = some (schema.get record field)

theorem Given.AreOf.eq_none_iff (are : Given.AreOf schema given lines) {field : F} :
    given field = none ↔ ∀ line ∈ lines, line.key ≠ schema.key field := by
  rw [Option.eq_none_iff_forall_ne_some]
  constructor
  · intro h line hl hkey
    exact h line.value ((are field line.value).mpr ⟨line, hl, hkey, rfl⟩)
  · intro h n hn
    obtain ⟨line, hl, hkey, -⟩ := (are field n).mp hn
    exact h line hl hkey

/-- A record that is made of the numbers of the lines is the one they describe. -/
theorem Given.AreOf.describes (are : Given.AreOf schema given lines) {record : ρ}
    (made : ∀ field, (given field).or (schema.default? field) = some (schema.get record field)) :
    schema.Describes lines record := by
  intro field
  have hfield := made field
  cases hgiven : given field with
  | some n =>
    rw [hgiven, Option.some_or] at hfield
    exact .inl ((are field _).mp (hgiven.trans hfield))
  | none =>
    rw [hgiven, Option.none_or] at hfield
    exact .inr ⟨are.eq_none_iff.mp hgiven, hfield⟩

/-! ### One line at a time -/

/-- The next line adds a number to the given ones. -/
structure Adds (schema : Schema ρ F) (given : Given F) (line : Line) (field : F) : Prop where
  /-- The line is about this field. -/
  key_eq : schema.key field = line.key
  /-- The field is not there yet. -/
  new : given field = none
  /-- The number has 64 bits. -/
  small : line.value < sizeLimit

variable [DecidableEq F]

/-- Reading lines one at a time: the first adds its number, and the others are readable then. -/
theorem readable_cons {line : Line} :
    Readable schema given (line :: lines) ↔
      ∃ field, Adds schema given line field ∧
        Readable schema (given.put field line.value) lines := by
  constructor
  · rintro ⟨known, distinct, small⟩
    obtain ⟨⟨field, hfield, new⟩, known⟩ := List.forall_mem_cons.mp known
    obtain ⟨fresh, distinct⟩ := List.nodup_cons.mp distinct
    obtain ⟨first, small⟩ := List.forall_mem_cons.mp small
    refine ⟨field, ⟨hfield, new, first⟩, fun l hl => ?_, distinct, small⟩
    obtain ⟨other, hother, vacant⟩ := known l hl
    have ne : other ≠ field := by
      rintro rfl
      exact fresh (List.mem_map.mpr ⟨l, hl, hother.symm.trans hfield⟩)
    exact ⟨other, hother, by rw [Given.put, if_neg ne, vacant]⟩
  · rintro ⟨field, ⟨hfield, new, first⟩, known, distinct, small⟩
    have vacant : ∀ l ∈ lines, ∃ other, schema.key other = l.key ∧ other ≠ field ∧
        given other = none := by
      intro l hl
      obtain ⟨other, hother, hnone⟩ := known l hl
      rw [Given.put] at hnone
      split at hnone
      · cases hnone
      · exact ⟨other, hother, ‹_›, hnone⟩
    refine ⟨List.forall_mem_cons.mpr ⟨⟨field, hfield, new⟩, fun l hl => ?_⟩,
      List.nodup_cons.mpr ⟨fun hmem => ?_, distinct⟩, List.forall_mem_cons.mpr ⟨first, small⟩⟩
    · obtain ⟨other, hother, -, hnone⟩ := vacant l hl
      exact ⟨other, hother, hnone⟩
    · obtain ⟨l, hl, hkey⟩ := List.mem_map.mp hmem
      obtain ⟨other, hother, ne, -⟩ := vacant l hl
      exact ne (schema.key_inj other field (by rw [hother, hkey, hfield]))

/-! ### Collecting the entries of lines -/

namespace Reader.Collects

variable {reader : Reader ε ρ F} (collects : reader.Collects schema) {limit : Nat}
  (start : Position)

include collects

/-- A line that adds nothing is refused. -/
theorem collect_of_not_adds {line : Line} {value : Except ε Nat}
    (number : IsNumber value line.value) (pos : Position) (rest : Entries ε)
    (wrong : ¬ ∃ field, Adds schema given line field) :
    ∃ e, reader.collect start given (.entry line.key pos value rest) = .error e := by
  by_cases known : ∃ field, schema.key field = line.key
  · obtain ⟨field, hfield⟩ := known
    cases new : given field with
    | some n =>
      rw [← hfield]
      exact collects.repeated start given field pos value rest (by simp [new])
    | none =>
      have large : ¬ line.value < sizeLimit := fun small => wrong ⟨field, hfield, new, small⟩
      obtain ⟨e, rfl⟩ := number.large (Nat.not_lt.mp large)
      exact collects.unread start given line.key pos e rest
  · exact collects.unknown start given line.key pos value rest (not_exists.mp known)

/-- **Readable lines are collected**, and the numbers in the end are those given before and those of
the lines. -/
theorem collect_of_readable (fits : ∀ field, (schema.key field).length ≤ limit)
    (h : Readable schema given lines) {entries : Entries ε}
    (entries_are : entries.AreOf limit lines) :
    ∃ final : Given F,
      reader.collect start given entries = reader.collect start final (.done none) ∧
      ∀ field n, final field = some n ↔
        given field = some n ∨ ∃ line ∈ lines, line.key = schema.key field ∧ line.value = n := by
  -- What has been given is left open: each line adds to it before the next is looked at.
  induction entries_are generalizing given with
  | nil => exact ⟨given, rfl, by simp⟩
  | @long line lines e long =>
    exact absurd (h.length_le fits line List.mem_cons_self) (Nat.not_le.mpr long)
  | @cons line lines value rest pos number _ ih =>
    obtain ⟨field, ⟨hfield, new, small⟩, h⟩ := readable_cons.mp h
    obtain ⟨final, hcollect, hfinal⟩ := ih h
    refine ⟨final, ?_, fun other n => ?_⟩
    · rw [number.small small, ← hfield, collects.put start given field pos _ rest new, hcollect]
    · -- The first line is the only one about its field, since the others are readable after it.
      have key : line.key = schema.key other ↔ other = field := by
        rw [← hfield]
        exact ⟨fun same => schema.key_inj other field same.symm, fun same => by rw [same]⟩
      rw [hfinal, Given.put]
      simp only [List.mem_cons, or_and_right, exists_or, exists_eq_left, key]
      by_cases same : other = field
      · simp [same, new]
      · simp [same]

/-- Lines that are not readable are refused. -/
theorem collect_of_not_readable (h : ¬ Readable schema given lines) {entries : Entries ε}
    (entries_are : entries.AreOf limit lines) :
    ∃ e, reader.collect start given entries = .error e := by
  induction entries_are generalizing given with
  | nil => exact absurd (readable_nil schema given) h
  | @long line lines e long => exact collects.broken start given e
  | @cons line lines value rest pos number _ ih =>
    by_cases right : ∃ field, Adds schema given line field
    · obtain ⟨field, adds⟩ := right
      rw [number.small adds.small, ← adds.key_eq,
        collects.put start given field pos _ rest adds.new]
      exact ih fun later => h (readable_cons.mpr ⟨field, adds, later⟩)
    · exact collects.collect_of_not_adds start number pos rest right

end Reader.Collects

/-! ### Documents of lines -/

/-- The lines describe a record: nothing is wrong with them, and no field is missing. -/
structure Schema.Admits (schema : Schema ρ F) (lines : List Line) : Prop where
  /-- Nothing is wrong with the lines. -/
  readable : Readable schema .nothing lines
  /-- Fields without a default are given. -/
  given : ∀ field, schema.default? field = none → ∃ line ∈ lines, line.key = schema.key field

namespace Reader

variable {reader : Reader ε ρ F} {limit : Nat}

/-- If nothing is wrong with the lines the document is read, up to its end, into their numbers. -/
theorem read_of_readable (presents : reader.PresentsLines limit)
    (collects : reader.Collects schema) (fits : ∀ field, (schema.key field).length ≤ limit)
    (h : Readable schema .nothing lines) :
    ∃ (start : Position) (final : Given F), Given.AreOf schema final lines ∧
      reader.read (document lines) = reader.collect start final (.done none) := by
  rcases presents lines with ⟨mapping, hpresent, entries_are⟩ | ⟨⟨line, hl, long⟩, -⟩
  · obtain ⟨final, hcollect, hfinal⟩ :=
      collects.collect_of_readable mapping.start fits h entries_are
    refine ⟨mapping.start, final, fun field n => ?_, ?_⟩
    · rw [hfinal]
      simp [Given.nothing]
    · rw [read_of_present hpresent, hcollect]
  · exact absurd (h.length_le fits line hl) (Nat.not_le.mpr long)

/-- **Lines that describe a record** are read into it. -/
theorem read_of_admits (presents : reader.PresentsLines limit) (collects : reader.Collects schema)
    (fits : ∀ field, (schema.key field).length ≤ limit) (h : schema.Admits lines) :
    ∃ record, schema.Describes lines record ∧ reader.read (document lines) = .ok record := by
  obtain ⟨start, final, are, hread⟩ := read_of_readable presents collects fits h.readable
  have enough : ∀ field, (final field).or (schema.default? field) ≠ none := by
    intro field hnone
    obtain ⟨hfinal, hdefault⟩ := Option.or_eq_none_iff.mp hnone
    obtain ⟨line, hl, hkey⟩ := h.given field hdefault
    exact are.eq_none_iff.mp hfinal line hl hkey
  obtain ⟨record, hcollect, made⟩ := collects.complete start final enough
  exact ⟨record, are.describes made, hread.trans hcollect⟩

/-- **Other lines** are refused. -/
theorem read_of_not_admits (presents : reader.PresentsLines limit)
    (collects : reader.Collects schema) (fits : ∀ field, (schema.key field).length ≤ limit)
    (h : ¬ schema.Admits lines) : ∃ e, reader.read (document lines) = .error e := by
  by_cases readable : Readable schema .nothing lines
  · obtain ⟨field, hdefault, hnone⟩ : ∃ field, schema.default? field = none ∧
        ∀ line ∈ lines, line.key ≠ schema.key field := by
      by_contra none_missing
      refine h ⟨readable, fun field hdefault => ?_⟩
      by_contra absent
      exact none_missing ⟨field, hdefault, fun line hl hkey => absent ⟨line, hl, hkey⟩⟩
    obtain ⟨start, final, are, hread⟩ := read_of_readable presents collects fits readable
    rw [hread]
    exact collects.missing start final field (are.eq_none_iff.mpr hnone) hdefault
  · rcases presents lines with ⟨mapping, hpresent, entries_are⟩ | ⟨-, e, hpresent⟩
    · rw [read_of_present hpresent]
      exact collects.collect_of_not_readable mapping.start readable entries_are
    · exact ⟨e, by rw [read, hpresent]; rfl⟩

end Reader

end ByteChannel.Yaml
