import ByteChannel.Config.Reader
import ByteChannel.Proofs.LineEvents
import ByteChannel.Proofs.Records

/-!
# Configurations written line by line

Which documents of lines describe a configuration, and which one, follows from what is known of
records: the keys are `capacity`, `element_size` and `element_align`, and the last of them may be
left out. What is described is then checked for validity.

This holds with every reader that presents documents of lines and collects entries as a reader
should. The reader of the library does. Its scanner and its parser make a mapping of the lines,
which breaks off at a key that is too long for the scanner, and its numbers are read back digit by
digit.

## Main definitions

* `Config.Flawed`, `Config.Describes` — the lines that describe nothing, and what the others
  describe

## Main results

* `Yaml.unsigned?_toDigits` — reading a number in decimal
* `Config.yaml_presentsLines`, `Config.yaml_collects` — what is known of the reader
* `Config.load_document` — what a document of lines describes
-/

namespace ByteChannel

/-! ### Numbers in decimal -/

namespace Yaml

theorem digit?_of_isDigit {c : Char} (h : c.isDigit = true) :
    digit? 10 c = some (c.toNat - '0'.toNat) := by
  have most : c.toNat ≤ '9'.toNat := by
    simp only [Char.isDigit, Bool.and_eq_true, decide_eq_true_eq] at h
    exact UInt32.le_iff_toNat_le.mp h.2
  have small : c.toNat - '0'.toNat < 10 :=
    Nat.lt_of_le_of_lt (Nat.sub_le_sub_right most _) (by decide)
  simp only [digit?, h, if_true, Option.filter_some, decide_eq_true_eq, small]

theorem digits?_of_isDigit {cs : List Char} (h : ∀ c ∈ cs, c.isDigit = true) (n : Nat) :
    digits? 10 cs n = some (Nat.ofDigitChars 10 cs n) := by
  induction cs generalizing n with
  | nil => rfl
  | cons c cs ih =>
    rw [digits?, digit?_of_isDigit (h c List.mem_cons_self), Nat.ofDigitChars_cons]
    exact ih (fun d hd => h d (List.mem_cons_of_mem c hd)) _

/-- A positive number does not begin with a zero. -/
theorem exists_toDigits_eq_cons {n : Nat} (h : 0 < n) :
    ∃ c cs, Nat.toDigits 10 n = c :: cs ∧ c ≠ '0' := by
  induction n using Nat.strongRecOn with
  | ind n ih =>
    rw [Nat.toDigits_eq_if (by decide)]
    split
    · exact ⟨n.digitChar, [], rfl, by simpa [Nat.digitChar_eq_zero] using Nat.ne_of_gt h⟩
    · obtain ⟨c, cs, hdigits, nonzero⟩ := ih (n / 10) (by omega) (by omega)
      exact ⟨c, cs ++ [(n % 10).digitChar], by rw [hdigits]; rfl, nonzero⟩

/-- A number whose first digit is not a zero is read as a decimal one. -/
theorem unsigned?_of_isDigit {c : Char} {cs : List Char} (h : ∀ d ∈ c :: cs, d.isDigit = true)
    (nonzero : c ≠ '0') : unsigned? (c :: cs) = some (Nat.ofDigitChars 10 (c :: cs) 0) := by
  have plus : c ≠ '+' := by rintro rfl; exact absurd (h '+' List.mem_cons_self) (by decide)
  have minus : c ≠ '-' := by rintro rfl; exact absurd (h '-' List.mem_cons_self) (by decide)
  have leading : hasLeadingZero (c :: cs) = false := by
    unfold hasLeadingZero
    split <;> simp_all
  have base : magnitude? (c :: cs) = natural? 10 (c :: cs) := by
    unfold magnitude?
    split <;> simp_all
  have sign : unsigned? (c :: cs) = magnitude? (c :: cs) := by
    unfold unsigned?
    split <;> simp_all
  rw [sign, base, natural?, digits?_of_isDigit h]
  rfl

/-- **Reading a number in decimal.** -/
theorem unsigned?_toDigits (n : Nat) : unsigned? (Nat.toDigits 10 n) = some n := by
  rcases Nat.eq_zero_or_pos n with rfl | positive
  · rfl
  · obtain ⟨c, cs, hdigits, nonzero⟩ := exists_toDigits_eq_cons positive
    have digits : ∀ d ∈ Nat.toDigits 10 n, d.isDigit = true := fun d hd =>
      Nat.isDigit_of_mem_toDigits (by decide) (by decide) hd
    have value : Nat.ofDigitChars 10 (Nat.toDigits 10 n) 0 = n := Nat.ofDigitChars_ten_toDigits
    rw [hdigits] at digits value ⊢
    rw [unsigned?_of_isDigit digits nonzero, value]

end Yaml

namespace Config

open Yaml

/-! ### The reader: presenting lines -/

/-- A number in decimal is taken if it has 64 bits. -/
theorem unsigned?_toString (n : Nat) :
    Scalar.unsigned? ⟨toString n, .plain, none⟩ = if n < sizeLimit then some n else none := by
  have digits : (toString n).toList = Nat.toDigits 10 n := by
    rw [Nat.toString_eq_repr, Nat.toList_repr]
  have plain : Scalar.mayBeInteger ⟨toString n, .plain, none⟩ = true := rfl
  rw [Scalar.unsigned?, if_pos plain, digits, unsigned?_toDigits, Option.filter_some]
  exact if_congr decide_eq_true_iff rfl rfl

theorem isNumber_readValue (path : String) (n : Nat) (pos : Position) :
    IsNumber (readValue path (.plain (toString n) pos)) n := by
  constructor
  · intro small
    simp only [readValue, Event.plain, unsigned?_toString, if_pos small]
  · intro large
    refine ⟨.problem (.badValue path (Scalar.mismatch ⟨toString n, .plain, none⟩)) pos, ?_⟩
    simp only [readValue, Event.plain, unsigned?_toString, if_neg (Nat.not_lt.mpr large)]

theorem entriesOf_events (d : Document) (line : Line) (number : Nat) (rest : List (Event Nat)) :
    entriesOf d (line.events number ++ rest) =
      .entry line.key (place number 0)
        (readValue line.key (.plain (toString line.value) (place number (line.key.length + 2))))
        (entriesOf d rest) := rfl

/-- The events of lines are those of a mapping with their entries, which goes up to the end or to a
key that is too long. -/
theorem entriesOf_areOf (d : Document) (number : Nat) {lines : List Line}
    (complete : areShort lines = true → later? d = none) :
    (entriesOf d (eventsOf number lines)).AreOf keyLength lines := by
  induction lines generalizing number with
  | nil =>
    have nothing_left : entriesOf d (eventsOf number []) = .done (later? d) := rfl
    rw [nothing_left, complete rfl]
    exact .nil
  | cons line lines ih =>
    rw [eventsOf]
    split
    · rename_i short
      rw [entriesOf_events]
      refine .cons _ (isNumber_readValue _ _ _) (ih (number + 1) fun rest => complete ?_)
      rw [areShort, List.all_cons, decide_eq_true short]
      exact rest
    · rename_i long
      exact .long _ (Nat.not_le.mp long)

theorem mappingOf_of_mapping {d : Document} {pos : Position} {es : List (Event Nat)}
    (h : d.events = ⟨.mappingStart none, pos⟩ :: es) : mappingOf d = .ok ⟨pos, entriesOf d es⟩ := by
  rw [mappingOf, h]

/-- **The library's reader presents documents of lines.** Keys may have `keyLength` characters. -/
theorem yaml_presentsLines : yaml.PresentsLines keyLength := by
  -- Unfolding only the reader here keeps the scanner from being evaluated.
  have present_eq : yaml.present = present := by rw [yaml]
  intro lines
  rw [present_eq, present]
  cases lines with
  | nil =>
    rw [Document.load_nil]
    exact .inl ⟨⟨place 0 0, .done none⟩, rfl, .nil⟩
  | cons line lines =>
    rcases Nat.lt_or_ge keyLength line.key.length with long | short
    · have nonempty : line.key.isEmpty = false := by simpa using line.key_ne_empty
      rw [Document.load_long long]
      refine .inr ⟨⟨line, List.mem_cons_self, long⟩, ?_⟩
      exact ⟨_, by simp only [mappingOf, Event.plain, nonempty, Bool.false_and]; rfl⟩
    · have load := Document.load_lines short lines
      generalize Document.load (document (line :: lines)).toList = d at load ⊢
      have events : d.events = ⟨.mappingStart none, place 0 0⟩ :: eventsOf 0 (line :: lines) := by
        rw [load]
      refine .inl ⟨_, mappingOf_of_mapping events, entriesOf_areOf d 0 fun complete => ?_⟩
      rw [load, if_pos complete]
      rfl

/-! ### The reader: collecting entries -/

namespace Field

theorem ofName?_eq_some_iff {s : String} {field : Field} :
    ofName? s = some field ↔ field.name = s := by
  constructor
  · intro h
    simpa using List.find?_some h
  · rintro rfl
    cases field <;> rfl

theorem ofName?_name (field : Field) : ofName? field.name = some field :=
  ofName?_eq_some_iff.mpr rfl

/-- The keys of configurations are not too long. -/
theorem length_name_le (field : Field) : field.name.length ≤ keyLength := by
  cases field <;> decide

end Field

theorem fill_of_some {start : Position} {given : Given Field} {field : Field} {n : Nat}
    (h : (given field).or field.default? = some n) : fill start given field = .ok n := by
  rw [fill, h]

theorem fill_of_none (start : Position) {given : Given Field} {field : Field}
    (h : (given field).or field.default? = none) : ∃ e, fill start given field = .error e :=
  ⟨_, by rw [fill, h]⟩

/-- The numbers of all fields make a configuration. -/
theorem collect_done {start : Position} {given : Given Field} {config : Config}
    (h : ∀ field, (given field).or field.default? = some (config.get field)) :
    collect start given (.done none) = .ok config := by
  simp only [collect, fill_of_some (h .capacity), fill_of_some (h .elementSize),
    fill_of_some (h .elementAlign), bind, Except.bind, get]

/-- A field that has no number leaves nothing to be made. -/
theorem collect_done_of_none (start : Position) {given : Given Field} {field : Field}
    (h : (given field).or field.default? = none) :
    ∃ e, collect start given (.done none) = .error e := by
  obtain ⟨e, hfield⟩ := fill_of_none start h
  cases field with
  | capacity => exact ⟨e, by simp only [collect, hfield, bind, Except.bind]⟩
  | elementSize =>
    cases hcapacity : fill start given .capacity with
    | error e' => exact ⟨e', by simp only [collect, hcapacity, bind, Except.bind]⟩
    | ok capacity => exact ⟨e, by simp only [collect, hcapacity, hfield, bind, Except.bind]⟩
  | elementAlign => cases (Option.or_eq_none_iff.mp h).2

/-- **The library's reader collects entries** of configurations. -/
theorem yaml_collects : yaml.Collects schema where
  put start given field pos n rest new := by
    show collect start given (.entry field.name pos (.ok n) rest) = _
    simp only [collect, Field.ofName?_name, new, Option.isSome_none, Bool.false_eq_true, if_false,
      bind, Except.bind]
    rfl
  unknown start given key pos value rest h := by
    have unknown : Field.ofName? key = none := by
      rw [Option.eq_none_iff_forall_ne_some]
      exact fun field known => h field (Field.ofName?_eq_some_iff.mp known)
    exact ⟨_, by simp only [yaml, collect, unknown]; rfl⟩
  repeated start given field pos value rest h := by
    have twice : (given field).isSome = true := Option.isSome_iff_ne_none.mpr h
    exact ⟨_, by simp only [yaml, schema, collect, Field.ofName?_name, twice, if_true]; rfl⟩
  unread start given key pos e rest := by
    show ∃ e', collect start given (.entry key pos (.error e) rest) = .error e'
    rw [collect]
    split
    · exact ⟨_, rfl⟩
    · split
      · exact ⟨_, rfl⟩
      · exact ⟨_, rfl⟩
  broken start given e := ⟨e, rfl⟩
  missing start given field hgiven hdefault :=
    collect_done_of_none start (Option.or_eq_none_iff.mpr ⟨hgiven, hdefault⟩)
  complete start given enough := by
    have exists_number (field : Field) : ∃ n, (given field).or field.default? = some n :=
      Option.ne_none_iff_exists'.mp (enough field)
    obtain ⟨capacity, hcapacity⟩ := exists_number .capacity
    obtain ⟨elementSize, helementSize⟩ := exists_number .elementSize
    obtain ⟨elementAlign, helementAlign⟩ := exists_number .elementAlign
    have all (field : Field) : (given field).or field.default? =
        some (get ⟨capacity, elementSize, elementAlign⟩ field) := by
      cases field <;> assumption
    exact ⟨_, collect_done all, all⟩

/-! ### What is described -/

/-- What makes lines describe nothing: a key that is none of a configuration's, a key that comes
twice, one of the first two keys missing, or a number that has more than 64 bits. -/
def Flawed (lines : List Line) : Prop :=
  (∃ line ∈ lines, line.key ∉ ["capacity", "element_size", "element_align"]) ∨
    ¬ (lines.map Line.key).Nodup ∨
    (∀ line ∈ lines, line.key ≠ "capacity") ∨
    (∀ line ∈ lines, line.key ≠ "element_size") ∨
    ∃ line ∈ lines, sizeLimit ≤ line.value

/-- The configuration has the numbers of the lines, and the alignment one if no line gives it. -/
structure Describes (lines : List Line) (config : Config) : Prop where
  /-- Some line gives the capacity. -/
  capacity : ∃ line ∈ lines, line.key = "capacity" ∧ line.value = config.capacity
  /-- Some line gives the size of an element. -/
  elementSize : ∃ line ∈ lines, line.key = "element_size" ∧ line.value = config.elementSize
  /-- Some line gives the alignment, or it is one. -/
  elementAlign : (∃ line ∈ lines, line.key = "element_align" ∧ line.value = config.elementAlign) ∨
    (∀ line ∈ lines, line.key ≠ "element_align") ∧ config.elementAlign = 1

theorem mem_keys_iff {s : String} :
    s ∈ ["capacity", "element_size", "element_align"] ↔ ∃ field, schema.key field = s := by
  simp only [List.mem_cons, List.not_mem_nil, or_false]
  constructor
  · rintro (rfl | rfl | rfl)
    · exact ⟨.capacity, rfl⟩
    · exact ⟨.elementSize, rfl⟩
    · exact ⟨.elementAlign, rfl⟩
  · rintro ⟨field, rfl⟩
    cases field <;> simp [schema, Field.name]

/-- Lines that describe a configuration, said of their keys and numbers. -/
theorem admits_iff {lines : List Line} :
    schema.Admits lines ↔
      (∀ line ∈ lines, line.key ∈ ["capacity", "element_size", "element_align"]) ∧
        (lines.map Line.key).Nodup ∧ (∃ line ∈ lines, line.key = "capacity") ∧
        (∃ line ∈ lines, line.key = "element_size") ∧ ∀ line ∈ lines, line.value < sizeLimit := by
  constructor
  · rintro ⟨⟨known, distinct, small⟩, given⟩
    refine ⟨fun line hl => mem_keys_iff.mpr ?_, distinct, given .capacity rfl,
      given .elementSize rfl, small⟩
    obtain ⟨field, hfield, -⟩ := known line hl
    exact ⟨field, hfield⟩
  · rintro ⟨known, distinct, capacity, elementSize, small⟩
    refine ⟨⟨fun line hl => ?_, distinct, small⟩, fun field required => ?_⟩
    · obtain ⟨field, hfield⟩ := mem_keys_iff.mp (known line hl)
      exact ⟨field, hfield, rfl⟩
    · cases field with
      | capacity => exact capacity
      | elementSize => exact elementSize
      | elementAlign => cases required

/-- Lines describe nothing if and only if they are flawed. -/
theorem flawed_iff {lines : List Line} : Flawed lines ↔ ¬ schema.Admits lines := by
  simp only [Flawed, admits_iff, not_and_or, not_forall, not_exists, exists_prop, Nat.not_lt]
  grind

theorem Describes.of_schema {lines : List Line} {config : Config}
    (h : schema.Describes lines config) : Describes lines config := by
  refine ⟨?_, ?_, h .elementAlign |>.imp id fun ⟨absent, hdefault⟩ => ⟨absent, ?_⟩⟩
  · rcases h .capacity with given | ⟨-, hdefault⟩
    · exact given
    · cases hdefault
  · rcases h .elementSize with given | ⟨-, hdefault⟩
    · exact given
    · cases hdefault
  · exact (Option.some.inj hdefault).symm

/-! ### Loading -/

section Load

variable {ε : Type} {reader : Reader ε Config Field} {text : String}

theorem load_of_error {e : ε} (h : reader.read text = .error e) :
    load reader text = .error (.unreadable e) := by
  rw [load, h]

theorem load_of_ok {config : Config} (h : reader.read text = .ok config) :
    (∃ length, config.validate = .ok length ∧ load reader text = .ok config) ∨
      ∃ e, config.validate = .error e ∧ load reader text = .error (.invalid e) := by
  rw [load, h]
  cases hvalid : config.validate with
  | ok length => exact .inl ⟨length, rfl, by simp only [hvalid]⟩
  | error e => exact .inr ⟨e, rfl, by simp only [hvalid]⟩

/-- **What a document of lines describes.** Let a reader present documents of lines, refusing at
most such with keys that are longer than those of configurations, and let it collect entries one by
one. If the lines are flawed, loading the document finds it unreadable. Otherwise the configuration
is formed that the lines describe, and is the result if it is valid; if not, what is wrong with it
is. -/
theorem load_document {limit : Nat} (presents : reader.PresentsLines limit)
    (collects : reader.Collects schema) (fits : ∀ field : Field, field.name.length ≤ limit)
    (lines : List Line) :
    (Flawed lines ∧ ∃ e, load reader (document lines) = .error (.unreadable e)) ∨
      (¬ Flawed lines ∧ ∃ config, Describes lines config ∧
        ((∃ length, config.validate = .ok length ∧ load reader (document lines) = .ok config) ∨
          ∃ e, config.validate = .error e ∧
            load reader (document lines) = .error (.invalid e))) := by
  rw [flawed_iff, not_not]
  by_cases admitted : schema.Admits lines
  · obtain ⟨config, described, hread⟩ := Reader.read_of_admits presents collects fits admitted
    exact .inr ⟨admitted, config, .of_schema described, load_of_ok hread⟩
  · obtain ⟨e, hread⟩ := Reader.read_of_not_admits presents collects fits admitted
    exact .inl ⟨admitted, e, load_of_error hread⟩

end Load

/-- The library's reader, on a document with its lines in an unusual order and on one with a number
that is one too large. -/
theorem load_document_reordered :
    ∃ lines large : List Line,
      yaml.PresentsLines keyLength ∧ yaml.Collects schema ∧
      (∀ field : Field, field.name.length ≤ keyLength) ∧
      document lines = "element_size: 12\nelement_align: 4\ncapacity: 3\n" ∧
      ofYaml (document lines) = .ok ⟨3, 12, 4⟩ ∧
      document large = "capacity: 18446744073709551616\nelement_size: 1\n" ∧
      ∃ e, ofYaml (document large) = .error (.unreadable e) := by
  let lines : List Line :=
    [⟨"element_size", 12, by decide, by simp⟩, ⟨"element_align", 4, by decide, by simp⟩,
      ⟨"capacity", 3, by decide, by simp⟩]
  let large : List Line :=
    [⟨"capacity", 18446744073709551616, by decide, by simp⟩,
      ⟨"element_size", 1, by decide, by simp⟩]
  have sound : ¬ Flawed lines := by
    simp [Flawed, lines, sizeLimit]
  have flawed : Flawed large := by
    simp [Flawed, large, sizeLimit]
  refine ⟨lines, large, yaml_presentsLines, yaml_collects, Field.length_name_le, by decide, ?_,
    by decide, ?_⟩
  · rcases load_document yaml_presentsLines yaml_collects Field.length_name_le lines with
      ⟨flawed, -⟩ | ⟨-, ⟨capacity, size, align⟩, described, loaded⟩
    · exact absurd flawed sound
    · obtain ⟨hcapacity, hsize, halign⟩ := described
      simp [lines] at hcapacity hsize halign
      subst hcapacity hsize halign
      have valid : Config.validate ⟨3, 12, 4⟩ = .ok 36 := rfl
      rcases loaded with ⟨_, -, loaded⟩ | ⟨_, invalid, -⟩
      · exact loaded
      · rw [valid] at invalid
        cases invalid
  · rcases load_document yaml_presentsLines yaml_collects Field.length_name_le large with
      ⟨-, unreadable⟩ | ⟨sound, -⟩
    · exact unreadable
    · exact absurd flawed sound

end Config

end ByteChannel
