import ByteChannel.Proofs.PlainText

/-!
# Scanning a document of lines

The simplest documents give one number a line, each with a key in front: `capacity: 16`. The scanner
takes three steps for such a line, and its state before each of them is determined by what was read
of the line and by whether it is the first. At the start of a line no token is unsettled, the only
open collection is the mapping, which the first key opens, and a key may begin. After the key there
is one unsettled token, the candidate for a key; after the colon that token is settled, with the
marks in front of it; after the value the scanner is at the start of the next line.

The one way to go wrong is a key with more than `keyLength` characters, for which the colon comes
too late. In the first line the key is then a scalar by itself, after which a colon is misplaced; in
a later line there must be a key, and the scanner gives up before it has settled anything. All
tokens of a document follow by induction on its lines.

## Main definitions

* `Line`, `document` — lines and their documents
* `Scanner.atLine`, `Scanner.afterKey`, `Scanner.afterColon` — the states between the steps
* `streamOf` — the tokens of the lines that remain

## Main results

* `Scanner.run_line`, `Scanner.run_line_long`, `Scanner.run_end` — what is scanned of one line
* `scan_document` — the tokens of a document
-/

namespace ByteChannel.Yaml

/-! ### Documents of lines -/

/-- A key of small letters and underscores, and a number. -/
structure Line where
  /-- The key. -/
  key : String
  /-- The number. -/
  value : Nat
  /-- There is a key. -/
  key_ne_empty : key ≠ ""
  /-- It has no other characters. -/
  key_chars : ∀ c ∈ key.toList, c.isLower = true ∨ c = '_'

/-- The text of a line, with its end. -/
def Line.text (line : Line) : String :=
  line.key ++ ": " ++ toString line.value ++ "\n"

/-- The document that consists of some lines. -/
def document (lines : List Line) : String :=
  String.join (lines.map Line.text)

namespace Line

variable (line : Line)

/-- The digits of the number. -/
def digits : List Char :=
  Nat.toDigits 10 line.value

theorem ofList_digits : String.ofList line.digits = toString line.value := rfl

theorem toList_text :
    line.text.toList = line.key.toList ++ ':' :: ' ' :: (line.digits ++ ['\n']) := by
  simp [text, digits, Nat.toString_eq_repr, Nat.toList_repr]

theorem isWordChar_key : ∀ c ∈ line.key.toList, isWordChar c = true := by
  intro c hc
  rcases line.key_chars c hc with lower | rfl
  · simp [isWordChar, lower]
  · decide

theorem isWordChar_digits : ∀ c ∈ line.digits, isWordChar c = true := by
  intro c hc
  simp [isWordChar, Nat.isDigit_of_mem_toDigits (by decide) (by decide) hc]

theorem exists_key_eq_cons : ∃ c cs, line.key.toList = c :: cs ∧ isWordChar c = true := by
  have nonempty : line.key.toList ≠ [] := by simpa using line.key_ne_empty
  obtain ⟨c, cs, hkey⟩ := List.exists_cons_of_ne_nil nonempty
  exact ⟨c, cs, hkey, line.isWordChar_key c (by simp [hkey])⟩

theorem exists_digits_eq_cons : ∃ c cs, line.digits = c :: cs ∧ isWordChar c = true := by
  have nonempty : line.digits ≠ [] := Nat.toDigits_ne_nil
  obtain ⟨c, cs, hdigits⟩ := List.exists_cons_of_ne_nil nonempty
  exact ⟨c, cs, hdigits, line.isWordChar_digits c (by simp [hdigits])⟩

end Line

theorem toList_document (lines : List Line) :
    (document lines).toList = lines.flatMap fun line => line.text.toList := by
  rw [document, String.toList_join, List.flatMap_map]

/-- What follows a line is the end of the document or another key. -/
theorem startsWord_flatMap (lines : List Line) :
    StartsWord (lines.flatMap fun line => line.text.toList) := by
  cases lines with
  | nil => trivial
  | cons line lines =>
    obtain ⟨c, cs, hkey, hc⟩ := line.exists_key_eq_cons
    rw [List.flatMap_cons, Line.toList_text, hkey]
    exact hc

/-! ### Tokens -/

/-- A place in a line of characters that take one octet each. -/
def place (number column : Nat) : Position := ⟨number, column, column⟩

namespace Line

/-- The key's token, in the line with the given number. -/
def keyToken (line : Line) (number : Nat) : Token :=
  ⟨.scalar line.key .plain, place number 0, place number line.key.length⟩

/-- The value's token, which reaches to the end of the line. -/
def valueToken (line : Line) (number : Nat) : Token :=
  ⟨.scalar (toString line.value) .plain, place number (line.key.length + 2), place (number + 1) 0⟩

/-- The tokens up to the colon, with the mark of the mapping if none has begun. -/
def keyTokens (line : Line) (number : Nat) (begun : Bool) : List Token :=
  (if begun then [] else [⟨.blockMappingStart, place number 0, place number 0⟩]) ++
    [⟨.key, place number 0, place number 0⟩, line.keyToken number,
      ⟨.value, place number line.key.length, place number (line.key.length + 1)⟩]

end Line

/-- The tokens at the end of the document. -/
def endTokens (number : Nat) (begun : Bool) : List Token :=
  (if begun then [⟨.blockEnd, place number 0, place number 0⟩] else []) ++
    [⟨.streamEnd, place number 0, place number 0⟩]

/-- The tokens of lines numbered from `number` on, after a mapping has begun or not. -/
def streamOf (number : Nat) (begun : Bool) : List Line → TokenStream
  | [] => ⟨endTokens number begun, none⟩
  | line :: lines =>
    if line.key.length ≤ keyLength then
      (streamOf (number + 1) true lines).prepend
        (line.keyTokens number begun ++ [line.valueToken number])
    else if begun then ⟨[], some .unfinishedKey⟩
    else ⟨[line.keyToken number], some .misplacedIndicator⟩

namespace Scanner

/-- The scanner with the given tokens unsettled. -/
def holding (s : Scanner) (tokens : List Token) : Scanner :=
  { s with tokens }

/-! ### One step outside flow collections -/

section Step

variable {s t : Scanner}

theorem lookAhead_of_whole (whole : s.whole = true) (n : Nat) : s.lookAhead n = .ok s := by
  simp [lookAhead, whole]

theorem dropStale_of_fresh (flat : s.outer = [])
    (fresh : ∀ k, s.candidate = some k → k.isStale s.pos = false) : s.dropStale = .ok s := by
  obtain ⟨rest, whole, pos, indents, candidate, outer, keyAllowed, tokens⟩ := s
  cases flat
  cases candidate with
  | none => rfl
  | some k => simp [dropStale, freshen, fresh k rfl]

theorem closeBlocks_of_nested (nested : ∀ column ∈ s.indents, column ≤ s.pos.column) :
    s.closeBlocks (fun column => s.pos.column < column) = s := by
  obtain ⟨rest, whole, pos, indents, candidate, outer, keyAllowed, tokens⟩ := s
  cases indents with
  | nil => simp [closeBlocks]
  | cons column indents => simp [closeBlocks, Nat.not_lt.mpr (nested column List.mem_cons_self)]

/-- The scanner is already at the first character of a word. -/
theorem toNextToken_word {c : Char} {cs : List Char} (h : s.rest = c :: cs)
    (hc : isWordChar c = true) : s.toNextToken = s := by
  rw [toNextToken, h, skipSpacing_word hc, ← h]

theorem toNextToken_colon {cs : List Char} (h : s.rest = ':' :: cs) : s.toNextToken = s := by
  rw [toNextToken, h, skipSpacing_of_ne (by decide) (by decide) (by decide) (by decide), ← h]

theorem stepToken_word (flat : s.outer = []) {c : Char} {cs : List Char} (h : s.rest = c :: cs)
    (hc : isWordChar c = true) : s.stepToken = s.stepPlain := by
  simp [stepToken, h, inFlow, flat, Lead.of_word hc, stepLead]

theorem stepToken_colon (flat : s.outer = []) {cs : List Char} (h : s.rest = ':' :: ' ' :: cs) :
    s.stepToken = s.stepValue := by
  simp [stepToken, h, inFlow, flat, Lead.of_colon, stepLead]

/-- **One step**, where no candidate has become stale and no collection ends before the token. -/
theorem step_eq (next : s.toNextToken = t) (whole : t.whole = true) (flat : t.outer = [])
    (fresh : ∀ k, t.candidate = some k → k.isStale t.pos = false)
    (nested : ∀ column ∈ t.indents, column ≤ t.pos.column) :
    s.step = t.stepToken >>= (·.lookAhead 1) := by
  simp only [step, next, dropStale_of_fresh flat fresh, closeBlocks_of_nested nested,
    lookAhead_of_whole whole, bind, Except.bind]

/-- Without a candidate all tokens are settled. -/
theorem settle_holding (flat : s.outer = []) (none : s.candidate = none) (empty : s.tokens = [])
    (tokens : List Token) : (s.holding tokens).settle = .ok (tokens, s) := by
  obtain ⟨rest, whole, pos, indents, candidate, outer, keyAllowed, _⟩ := s
  cases flat
  cases none
  cases empty
  simp [holding, settle, dropStale, freshen, settledCount, Except.map]

/-- Nothing is settled before the first candidate is. -/
theorem settle_of_first (flat : s.outer = []) {k : KeyCandidate} (h : s.candidate = some k)
    (first : k.place = 0) (fresh : k.isStale s.pos = false) : s.settle = .ok ([], s) := by
  obtain ⟨rest, whole, pos, indents, candidate, outer, keyAllowed, tokens⟩ := s
  obtain ⟨place, start, required⟩ := k
  cases flat
  cases h
  cases first
  simp_all [settle, dropStale, freshen, settledCount, Except.map]

end Step

/-! ### The states between the steps -/

/-- The scanner at the start of a line. -/
def atLine (rest : List Char) (number : Nat) (begun : Bool) : Scanner where
  rest := rest
  whole := true
  pos := place number 0
  indents := if begun then [0] else []
  candidate := none
  outer := []
  keyAllowed := true
  tokens := []

/-- The scanner after a key, of which it is not settled that it is one. -/
def afterKey (line : Line) (rest : List Char) (number : Nat) (begun : Bool) : Scanner where
  rest := ':' :: ' ' :: rest
  whole := true
  pos := place number line.key.length
  indents := if begun then [0] else []
  candidate := some ⟨0, place number 0, begun⟩
  outer := []
  keyAllowed := false
  tokens := [line.keyToken number]

/-- The scanner after the colon. -/
def afterColon (line : Line) (rest : List Char) (number : Nat) : Scanner where
  rest := ' ' :: rest
  whole := true
  pos := place number (line.key.length + 1)
  indents := [0]
  candidate := none
  outer := []
  keyAllowed := false
  tokens := []

variable (line : Line) (rest : List Char) (number : Nat) (begun : Bool)

/-- The column of the mapping is the only one that can be open. -/
theorem nested_indents {column : Nat} :
    ∀ c ∈ (if begun then [0] else [] : List Nat), c ≤ column := by
  cases begun <;> simp

/-- The step over a key. -/
theorem step_key :
    (atLine (line.key.toList ++ ':' :: ' ' :: rest) number begun).step =
      .ok (afterKey line rest number begun) := by
  obtain ⟨c, cs, hkey, hc⟩ := line.exists_key_eq_cons
  have begins : (atLine (line.key.toList ++ ':' :: ' ' :: rest) number begun).rest =
      c :: (cs ++ ':' :: ' ' :: rest) := by
    simp [atLine, hkey]
  have read : (atLine (line.key.toList ++ ':' :: ' ' :: rest) number begun).stepPlain =
      .ok (afterKey line rest number begun) := by
    cases begun <;>
      simp [stepPlain, atLine, saveCandidate, dropCandidate, inFlow, place, level, Except.map,
        bind, Except.bind, readPlain_word_colon _ _ _ line.isWordChar_key, allowKey, emitTo,
        afterKey, Line.keyToken, Position.right, String.length_toList]
  rw [step_eq (toNextToken_word begins hc) rfl rfl (by rintro k ⟨⟩) (nested_indents begun),
    stepToken_word rfl begins hc, read]
  rfl

/-- It is too late for the colon after more than `keyLength` characters. -/
theorem isStale_key : KeyCandidate.isStale ⟨0, place number 0, begun⟩
    (afterKey line rest number begun).pos = decide (keyLength < line.key.length) := by
  simp [KeyCandidate.isStale, afterKey, place]

/-- The step over a colon, which puts the marks in front of the key. -/
theorem step_colon (short : line.key.length ≤ keyLength) :
    (afterKey line rest number begun).step =
      .ok ((afterColon line rest number).holding (line.keyTokens number begun)) := by
  have fresh : ∀ k, (afterKey line rest number begun).candidate = some k →
      k.isStale (afterKey line rest number begun).pos = false := by
    rintro k ⟨⟩
    simpa [isStale_key] using short
  rw [step_eq (toNextToken_colon rfl) rfl rfl fresh (nested_indents begun), stepToken_colon rfl rfl]
  cases begun <;>
    simp [stepValue, afterKey, insertMark, openBlock, inFlow, level, place, allowKey, emit,
      afterColon, holding, Line.keyTokens, Position.right, lookAhead, bind, Except.bind]

/-- The step over a value, which passes the end of the line. -/
theorem step_value {rest : List Char} (next : StartsWord rest) :
    (afterColon line (line.digits ++ '\n' :: rest) number).step =
      .ok ((atLine rest (number + 1) true).holding [line.valueToken number]) := by
  obtain ⟨c, cs, hdigits, hc⟩ := line.exists_digits_eq_cons
  -- the scanner at the first digit
  let t : Scanner := { afterColon line (line.digits ++ '\n' :: rest) number with
    rest := line.digits ++ '\n' :: rest, pos := place number (line.key.length + 2) }
  have begins : t.rest = c :: (cs ++ '\n' :: rest) := by simp [t, hdigits]
  have skip : (afterColon line (line.digits ++ '\n' :: rest) number).toNextToken = t := by
    simp [toNextToken, afterColon, t, inFlow, hdigits, skipSpacing_space hc, place, Position.right]
  rw [step_eq skip rfl rfl (by rintro k ⟨⟩) (nested_indents true), stepToken_word rfl begins hc]
  simp [stepPlain, t, afterColon, saveCandidate, inFlow, level, bind, Except.bind,
    readPlain_word_break _ line.isWordChar_digits next, allowKey, emitTo, atLine, place,
    holding, Line.valueToken, Line.ofList_digits, lookAhead]

/-- The step at the end of the text, which closes the mapping. -/
theorem step_end :
    (atLine [] number begun).step =
      .ok { atLine [] number false with
        keyAllowed := false, tokens := endTokens number begun } := by
  have ended : (atLine [] number begun).toNextToken = atLine [] number begun := rfl
  rw [step_eq ended rfl rfl (by rintro k ⟨⟩) (nested_indents begun)]
  cases begun <;>
    simp [stepToken, stepEnd, leaveDocument, closeBlocks, atLine, inFlow, dropCandidate,
      Except.map, allowKey, emit, place, Position.right, endTokens, lookAhead, bind, Except.bind]

/-! ### Whether the key is one -/

theorem settle_key (short : line.key.length ≤ keyLength) :
    (afterKey line rest number begun).settle = .ok ([], afterKey line rest number begun) :=
  settle_of_first rfl rfl rfl (by simpa [isStale_key] using short)

section Long

variable {line : Line} (long : keyLength < line.key.length)
include long

/-- In the column of the mapping there must be a key. -/
theorem settle_long : (afterKey line rest number true).settle = .error .unfinishedKey := by
  have stale := isStale_key line rest number true
  simp_all [settle, dropStale, afterKey, Except.map]

/-- In the first line what is too long for a key is a scalar. -/
theorem settle_long_first :
    (afterKey line rest number false).settle =
      .ok ([line.keyToken number],
        { afterKey line rest number false with candidate := none, tokens := [] }) := by
  have stale := isStale_key line rest number false
  simp_all [settle, dropStale, afterKey, freshen, settledCount, Except.map]

end Long

/-- After a scalar that is no key there is no place for a colon. -/
theorem step_colon_misplaced :
    step { afterKey line rest number false with candidate := none, tokens := [] } =
      .error .misplacedIndicator := by
  rw [step_eq (toNextToken_colon rfl) rfl rfl (by rintro k ⟨⟩) (nested_indents false),
    stepToken_colon rfl rfl]
  rfl

/-! ### All steps -/

section Run

variable {s t u : Scanner} {settled : List Token} {e : SyntaxError}

theorem run_of_settled (hstep : s.step = .ok t) (hsettle : t.settle = .ok (settled, u))
    (more : (settled ++ u.tokens).getLast?.any (·.kind == .streamEnd) = false) (fuel : Nat) :
    s.run (fuel + 1) = (u.run fuel).prepend settled := by
  simp only [run, hstep, hsettle, more, bind, Except.bind, Bool.false_eq_true, if_false]

theorem run_of_unsettled (hstep : s.step = .ok t) (hsettle : t.settle = .error e) (fuel : Nat) :
    s.run (fuel + 1) = ⟨[], some e⟩ := by
  simp [run, hstep, hsettle, bind, Except.bind]

theorem run_of_error (hstep : s.step = .error e) (fuel : Nat) :
    s.run (fuel + 1) = ⟨[], some e⟩ := by
  simp [run, hstep, bind, Except.bind]

end Run

theorem text_append : line.text.toList ++ rest =
    line.key.toList ++ ':' :: ' ' :: (line.digits ++ '\n' :: rest) := by
  simp [Line.toList_text]

/-- **One line**, in three steps. -/
theorem run_line (short : line.key.length ≤ keyLength) {rest : List Char} (next : StartsWord rest)
    (fuel : Nat) :
    (atLine (line.text.toList ++ rest) number begun).run (fuel + 3) =
      ((atLine rest (number + 1) true).run fuel).prepend
        (line.keyTokens number begun ++ [line.valueToken number]) := by
  rw [text_append,
    run_of_settled (step_key line _ number begun) (settle_key line _ number begun short) rfl,
    run_of_settled (step_colon line _ number begun short) (settle_holding rfl rfl rfl _)
      (by simp [Line.keyTokens, afterColon]),
    run_of_settled (step_value line number next) (settle_holding rfl rfl rfl _) rfl]
  simp [TokenStream.prepend, atLine]

/-- A line whose key is too long ends the scanning. -/
theorem run_line_long {line : Line} (long : keyLength < line.key.length) (fuel : Nat) :
    (atLine (line.text.toList ++ rest) number begun).run (fuel + 2) =
      if begun then ⟨[], some .unfinishedKey⟩
      else ⟨[line.keyToken number], some .misplacedIndicator⟩ := by
  rw [text_append]
  cases begun with
  | true => exact run_of_unsettled (step_key line _ number true) (settle_long _ number long) _
  | false =>
    rw [run_of_settled (step_key line _ number false) (settle_long_first _ number long) rfl,
      run_of_error (step_colon_misplaced line _ number)]
    rfl

theorem run_end (fuel : Nat) :
    (atLine [] number begun).run (fuel + 1) = ⟨endTokens number begun, none⟩ := by
  rw [run, step_end]
  cases begun <;> rfl

/-- **All lines.** -/
theorem run_lines (lines : List Line) {fuel : Nat} (enough : 3 * lines.length < fuel) :
    (atLine (lines.flatMap fun line => line.text.toList) number begun).run fuel =
      streamOf number begun lines := by
  induction lines generalizing number begun fuel with
  | nil =>
    obtain ⟨fuel, rfl⟩ := Nat.exists_eq_succ_of_ne_zero (Nat.ne_of_gt enough)
    exact run_end number begun fuel
  | cons line lines ih =>
    obtain ⟨fuel, rfl⟩ : ∃ n, fuel = n + 3 := ⟨fuel - 3, by simp at enough; omega⟩
    have enough : 3 * lines.length < fuel := by simp at enough; omega
    rw [List.flatMap_cons, streamOf]
    rcases Nat.lt_or_ge keyLength line.key.length with long | short
    · rw [run_line_long _ number begun long (fuel + 1), if_neg (Nat.not_le.mpr long)]
    · rw [run_line line number begun short (startsWord_flatMap lines), ih (number + 1) true enough,
        if_pos short]

end Scanner

/-! ### The whole document -/

theorem Line.mem_text {line : Line} {c : Char} (h : c ∈ line.text.toList) :
    isWordChar c = true ∨ c = ':' ∨ c = ' ' ∨ c = '\n' := by
  simp only [Line.toList_text, List.mem_append, List.mem_cons, List.not_mem_nil, or_false] at h
  rcases h with hkey | rfl | rfl | hdigits | rfl
  · exact .inl (line.isWordChar_key c hkey)
  · simp
  · simp
  · exact .inl (line.isWordChar_digits c hdigits)
  · simp

theorem mem_document {lines : List Line} {c : Char} (h : c ∈ (document lines).toList) :
    isWordChar c = true ∨ c = ':' ∨ c = ' ' ∨ c = '\n' := by
  rw [toList_document, List.mem_flatMap] at h
  obtain ⟨line, -, hc⟩ := h
  exact line.mem_text hc

theorem readableCount_document (lines : List Line) :
    readableCount (document lines).toList = (document lines).toList.length := by
  refine readableCount_of_all (List.all_eq_true.mpr fun c hc => ?_)
  rcases mem_document hc with word | rfl | rfl | rfl
  · exact isAllowed_of_isWordChar word
  all_goals decide

theorem unifyBreaks_document (lines : List Line) :
    unifyBreaks (document lines).toList = (document lines).toList := by
  refine unifyBreaks_eq_self fun c hc => ?_
  rcases mem_document hc with word | rfl | rfl | rfl
  · exact ⟨ne_of_isWordChar word (by decide), ne_of_isWordChar word (by decide)⟩
  all_goals decide

theorem length_document (lines : List Line) :
    3 * lines.length ≤ (document lines).toList.length := by
  rw [toList_document]
  induction lines with
  | nil => exact Nat.zero_le _
  | cons line lines ih =>
    simp only [List.flatMap_cons, List.length_append, Line.toList_text, List.length_cons] at ih ⊢
    omega

/-- **The tokens of a document of lines.** -/
theorem scan_document (lines : List Line) :
    Token.scan (document lines).toList = streamOf 0 false lines := by
  have enough : 3 * lines.length < (document lines).toList.length + 1 :=
    Nat.lt_succ_of_le (length_document lines)
  simp only [Token.scan, readableCount_document, List.take_length, unifyBreaks_document,
    beq_self_eq_true]
  rw [toList_document] at enough ⊢
  exact Scanner.run_lines 0 false lines enough

end ByteChannel.Yaml
