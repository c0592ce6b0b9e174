import ByteChannel.Proofs.LineScan
import ByteChannel.Yaml.Document

/-!
# The events of a document of lines

Each line of a document gives four tokens, and the parser turns them into two events in four steps:
the key and the value, both plain scalars without anchor or tag. Where the tokens stop because a key
is too long, the parser fails for want of a token, and the events so far remain.

A document without lines is an empty one, which has a single event. If the very first key is too
long the document consists of this scalar, and breaks off after it. In all other cases it is a
mapping, possibly an unfinished one.

## Main definitions

* `Line.events`, `eventsOf` — the events of one line and of all

## Main results

* `Goal.run_lines` — parsing the tokens of lines
* `Document.load_nil`, `Document.load_long`, `Document.load_lines` — the document, in three cases
-/

namespace ByteChannel.Yaml

/-- A plain scalar without anchor or tag. -/
def Event.plain {α : Type} (text : String) (pos : Position) : Event α :=
  ⟨.scalar none ⟨text, .plain, none⟩, pos⟩

/-- The events of a line. -/
def Line.events {α : Type} (line : Line) (number : Nat) : List (Event α) :=
  [.plain line.key (place number 0),
    .plain (toString line.value) (place number (line.key.length + 2))]

/-- The events of lines inside a mapping, up to its end or to a key that is too long. -/
def eventsOf {α : Type} (number : Nat) : List Line → List (Event α)
  | [] => [⟨.mappingEnd, place number 0⟩]
  | line :: lines =>
    if line.key.length ≤ keyLength then line.events number ++ eventsOf (number + 1) lines else []

/-- No key is too long. -/
def areShort (lines : List Line) : Bool :=
  lines.all (·.key.length ≤ keyLength)

/-- The first line opens the mapping. -/
theorem streamOf_first {line : Line} (short : line.key.length ≤ keyLength) (lines : List Line)
    (number : Nat) :
    streamOf number false (line :: lines) =
      (streamOf number true (line :: lines)).prepend
        [⟨.blockMappingStart, place number 0, place number 0⟩] := by
  simp [streamOf, short, TokenStream.prepend, Line.keyTokens]

theorem error_streamOf (lines : List Line) (number : Nat) :
    (streamOf number true lines).error =
      if areShort lines then none else some .unfinishedKey := by
  induction lines generalizing number with
  | nil => rfl
  | cons line lines ih =>
    by_cases short : line.key.length ≤ keyLength
    · simpa [streamOf, areShort, short, TokenStream.prepend] using ih (number + 1)
    · simp [streamOf, areShort, short]

/-! ### Parsing -/

namespace Goal

variable (handles : Handles) (fuel : Nat)

/-- Four tokens make two events. -/
theorem run_line (line : Line) (number : Nat) (goals : List Goal) (ts : List Token) :
    run handles (fuel + 4) (.blockKeys :: goals)
        (line.keyTokens number true ++ [line.valueToken number] ++ ts) =
      ⟨line.events number ++ (run handles fuel (.blockKeys :: goals) ts).events,
        (run handles fuel (.blockKeys :: goals) ts).rest⟩ := rfl

theorem run_end (number : Nat) :
    run handles (fuel + 1) [.blockKeys] (endTokens number true) =
      ⟨[⟨.mappingEnd, place number 0⟩], .ok (endTokens number false)⟩ := by
  cases fuel <;> rfl

theorem run_nil (goal : Goal) (goals : List Goal) :
    run handles fuel (goal :: goals) [] = ⟨[], .error .unexpectedToken⟩ := by
  cases fuel with
  | zero => rfl
  | succ fuel => cases goal <;> rfl

/-- **Parsing the tokens of lines.** If all keys are short only the end of the text is left. -/
theorem run_lines (lines : List Line) (number : Nat) {fuel : Nat}
    (enough : (streamOf number true lines).tokens.length < fuel) :
    run handles fuel [.blockKeys] (streamOf number true lines).tokens =
      ⟨eventsOf number lines,
        if areShort lines then .ok (endTokens (number + lines.length) false)
        else .error .unexpectedToken⟩ := by
  induction lines generalizing number fuel with
  | nil =>
    obtain ⟨fuel, rfl⟩ := Nat.exists_eq_succ_of_ne_zero (Nat.ne_of_gt (Nat.zero_lt_of_lt enough))
    exact run_end handles fuel number
  | cons line lines ih =>
    by_cases short : line.key.length ≤ keyLength
    · simp only [streamOf, short, if_true, TokenStream.prepend, List.length_append] at enough ⊢
      rw [show (line.keyTokens number true).length = 3 from rfl, List.length_singleton] at enough
      obtain ⟨fuel, rfl⟩ : ∃ n, fuel = n + 4 := ⟨fuel - 4, by omega⟩
      rw [run_line, ih (number + 1) (by omega)]
      simp [eventsOf, areShort, short, Nat.add_comm, Nat.add_left_comm]
    · simp [streamOf, eventsOf, areShort, short, run_nil]

/-- The start of a mapping. -/
theorem run_start (p q : Position) (ts : List Token) :
    run handles (fuel + 1) [.node true false] (⟨.blockMappingStart, p, q⟩ :: ts) =
      ⟨⟨.mappingStart none, p⟩ :: (run handles fuel [.blockKeys] ts).events,
        (run handles fuel [.blockKeys] ts).rest⟩ := rfl

end Goal

/-! ### The document -/

namespace Document

theorem resolve_plain (text : String) (pos : Position) (es : List (Event String))
    (anchors : Anchors) :
    resolve (.plain text pos :: es) anchors =
      (.plain text pos :: (resolve es anchors).1, (resolve es anchors).2) := rfl

/-- There is nothing to resolve. -/
theorem resolve_eventsOf (lines : List Line) (number : Nat) (anchors : Anchors) :
    resolve (eventsOf number lines) anchors = (eventsOf number lines, none) := by
  induction lines generalizing number with
  | nil => rfl
  | cons line lines ih =>
    by_cases short : line.key.length ≤ keyLength
    · simp [eventsOf, short, Line.events, resolve_plain, ih]
    · simp [eventsOf, short, resolve]

theorem resolve_mappingStart (pos : Position) (es : List (Event String)) (anchors : Anchors) :
    resolve (⟨.mappingStart none, pos⟩ :: es) anchors =
      (⟨.mappingStart none, pos⟩ :: (resolve es anchors).1, (resolve es anchors).2) := rfl

theorem load_nil : load (document []).toList = ⟨[.absent (place 0 0)], none, false⟩ := by
  rw [load, scan_document]
  rfl

/-- A first key that is too long is all of the document. -/
theorem load_long {line : Line} (long : keyLength < line.key.length) (lines : List Line) :
    load (document (line :: lines)).toList =
      ⟨[.plain line.key (place 0 0)], some (.syntaxError .misplacedIndicator), false⟩ := by
  rw [load, scan_document, streamOf, if_neg (Nat.not_le.mpr long)]
  rfl

/-- **The document is a mapping**, which is complete if all keys are short. -/
theorem load_lines {line : Line} (short : line.key.length ≤ keyLength) (lines : List Line) :
    load (document (line :: lines)).toList =
      ⟨⟨.mappingStart none, place 0 0⟩ :: eventsOf 0 (line :: lines),
        if areShort (line :: lines) then none else some (.syntaxError .unfinishedKey), false⟩ := by
  have parsed : parseFirst (streamOf 0 false (line :: lines)).tokens =
      ⟨⟨.mappingStart none, place 0 0⟩ :: eventsOf 0 (line :: lines),
        if areShort (line :: lines) then .ok (endTokens (0 + (line :: lines).length) false)
        else .error .unexpectedToken⟩ := by
    rw [streamOf_first short]
    simp only [TokenStream.prepend, List.singleton_append, parseFirst, Goal.parseNode,
      List.length_cons]
    rw [Goal.run_start, Goal.run_lines standardHandles (line :: lines) 0 (by omega)]
    rfl
  have resolved : resolve (⟨.mappingStart none, place 0 0⟩ :: eventsOf 0 (line :: lines)) [] =
      (⟨.mappingStart none, place 0 0⟩ :: eventsOf 0 (line :: lines), none) := by
    rw [resolve_mappingStart, resolve_eventsOf]
  simp only [load, scan_document, parsed, resolved]
  rw [streamOf_first short]
  cases complete : areShort (line :: lines) with
  | true => rfl
  | false => simp [TokenStream.prepend, error_streamOf, complete]

end Document

end ByteChannel.Yaml
