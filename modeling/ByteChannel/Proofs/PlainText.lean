import ByteChannel.Yaml.Scanner

/-!
# Words in a text

Most of what a scanner looks out for are single characters: indicators, blanks and breaks. Small
letters, digits and underscores are none of these, and each takes one octet. A run of them, here
called a *word*, is therefore read as it stands wherever a plain scalar may begin, up to the first
character that is not of this kind. What that one does depends on where it stands: a colon before a
blank ends the scalar and is left, and a line break that is followed by a word in the column of an
enclosing collection ends it and is passed.

## Main definitions

* `isWordChar` — the characters of words
* `StartsWord` — what may come after the end of a line

## Main results

* `readPlain_word_colon`, `readPlain_word_break` — reading a word to the colon or to the end of the
  line
* `Lead.of_word`, `Lead.of_colon` — what a word and a colon announce
* `unifyBreaks_eq_self` — there is nothing to unify where no break is in another spelling
-/

namespace ByteChannel.Yaml

/-! ### Characters -/

/-- A small letter, a digit or an underscore. -/
def isWordChar (c : Char) : Bool :=
  c.isLower || c.isDigit || c == '_'

section WordChar

variable {c d : Char}

theorem ne_of_isWordChar (hc : isWordChar c = true) (hd : isWordChar d = false) : c ≠ d := by
  rintro rfl
  rw [hc] at hd
  cases hd

theorem isBlank_of_isWordChar (h : isWordChar c = true) : isBlank c = false := by
  have space : c ≠ ' ' := ne_of_isWordChar h (by decide)
  have tab : c ≠ '\t' := ne_of_isWordChar h (by decide)
  simp [isBlank, space, tab]

theorem isBreak_of_isWordChar (h : isWordChar c = true) : isBreak c = false := by
  have feed : c ≠ '\n' := ne_of_isWordChar h (by decide)
  have lineSeparator : c ≠ '\u2028' := ne_of_isWordChar h (by decide)
  have paragraphSeparator : c ≠ '\u2029' := ne_of_isWordChar h (by decide)
  simp [isBreak, feed, lineSeparator, paragraphSeparator]

/-- The characters of words are visible ones. -/
theorem toNat_of_isWordChar (h : isWordChar c = true) : 0x20 ≤ c.toNat ∧ c.toNat ≤ 0x7E := by
  have lower : c.isLower = (decide (c.val ≥ 'a'.val) && decide (c.val ≤ 'z'.val)) := rfl
  simp only [isWordChar, lower, Char.isDigit, Bool.or_eq_true, Bool.and_eq_true,
    decide_eq_true_eq, beq_iff_eq, UInt32.le_iff_toNat_le, ge_iff_le] at h
  rcases h with (⟨least, most⟩ | ⟨least, most⟩) | rfl
  · exact ⟨Nat.le_trans (by decide) least, Nat.le_trans most (by decide)⟩
  · exact ⟨Nat.le_trans (by decide) least, Nat.le_trans most (by decide)⟩
  · decide

theorem isAllowed_of_isWordChar (h : isWordChar c = true) : isAllowed c = true := by
  simp [isAllowed, toNat_of_isWordChar h]

theorem utf8Size_of_isWordChar (h : isWordChar c = true) : c.utf8Size = 1 := by
  rw [Char.utf8Size_eq_one_iff, UInt32.le_iff_toNat_le]
  exact Nat.le_trans (toNat_of_isWordChar h).2 (by decide)

theorem Position.after_of_isWordChar (h : isWordChar c = true) (p : Position) :
    p.after c = p.right 1 := by
  simp [Position.after, isBreak_of_isWordChar h, utf8Size_of_isWordChar h, Position.right]

end WordChar

theorem Position.right_right (p : Position) (m n : Nat) :
    (p.right m).right n = p.right (m + n) := by
  simp [Position.right, Nat.add_assoc]

/-! ### Plain scalars -/

/-- The text is over, or goes on with a word. -/
def StartsWord : List Char → Prop
  | [] => True
  | c :: _ => isWordChar c = true

section Plain

variable {word : List Char} (indent : Nat) (rest : List Char) (p : Position)

/-- A character of a word is read as it stands. -/
theorem readPlain_cons {c : Char} (h : isWordChar c = true) :
    readPlain false indent (c :: rest) p .tight =
      (readPlain false indent rest (p.right 1) .tight).map (·.prepend [c]) := by
  have colon : c ≠ ':' := ne_of_isWordChar h (by decide)
  rw [readPlain]
  simp [isBlank_of_isWordChar h, isBreak_of_isWordChar h, Gap.isOpen, isStrayColon, endsPlain,
    colon, Position.after_of_isWordChar h, Gap.text]

/-- **A word is read as it stands.** -/
theorem readPlain_word (h : ∀ c ∈ word, isWordChar c = true) :
    readPlain false indent (word ++ rest) p .tight =
      (readPlain false indent rest (p.right word.length) .tight).map (·.prepend word) := by
  induction word generalizing p with
  | nil =>
    rw [List.nil_append, List.length_nil, show p.right 0 = p from rfl]
    cases readPlain false indent rest p .tight <;> rfl
  | cons c word ih =>
    rw [List.cons_append, readPlain_cons indent _ p (h c List.mem_cons_self),
      ih (p.right 1) fun d hd => h d (List.mem_cons_of_mem c hd), Position.right_right,
      Nat.add_comm 1, List.length_cons]
    cases readPlain false indent rest (p.right (word.length + 1)) .tight <;> rfl

theorem readPlain_colon :
    readPlain false indent (':' :: ' ' :: rest) p .tight =
      .ok ⟨[], ':' :: ' ' :: rest, p, false⟩ := by
  rw [readPlain]
  simp [isBlank, isBreak, Gap.isOpen, isStrayColon, endsPlain, endsWord, isSpacing, Gap.isBroken]

/-- A word to the left of column `indent` is no continuation of the scalar in the line before. -/
theorem readPlain_break {rest : List Char} (next : StartsWord rest) {indent : Nat}
    (inside : 0 < indent) :
    readPlain false indent ('\n' :: rest) p .tight = .ok ⟨[], rest, ⟨p.line + 1, 0, 0⟩, true⟩ := by
  rw [readPlain]
  cases rest with
  | nil => simp [isBlank, isBreak, readPlain, Position.after, Gap.isBroken, Gap.lineBreak]
  | cons c cs =>
    have blank : isBlank c = false := isBlank_of_isWordChar next
    have noBreak : isBreak c = false := isBreak_of_isWordChar next
    simp only [Gap.lineBreak, Position.after, show isBlank '\n' = false by decide,
      show isBreak '\n' = true by decide, Bool.false_eq_true, if_false, if_true]
    rw [readPlain]
    simp [blank, noBreak, Gap.isOpen, leavesPlain, inside, Gap.isBroken]

theorem readPlain_word_colon (h : ∀ c ∈ word, isWordChar c = true) :
    readPlain false indent (word ++ ':' :: ' ' :: rest) p .tight =
      .ok ⟨word, ':' :: ' ' :: rest, p.right word.length, false⟩ := by
  rw [readPlain_word indent _ p h, readPlain_colon]
  simp [Except.map, Lexeme.prepend]

theorem readPlain_word_break (h : ∀ c ∈ word, isWordChar c = true) {rest : List Char}
    (next : StartsWord rest) {indent : Nat} (inside : 0 < indent) :
    readPlain false indent (word ++ '\n' :: rest) p .tight =
      .ok ⟨word, rest, ⟨p.line + 1, 0, 0⟩, true⟩ := by
  rw [readPlain_word indent _ p h, readPlain_break _ next inside]
  simp [Except.map, Lexeme.prepend, Position.right]

end Plain

/-! ### Where a token begins -/

theorem Scanner.skipSpacing_of_ne {c : Char} (noBreak : isBreak c = false)
    (blank : isBlank c = false) (comment : c ≠ '#') (mark : c ≠ '\uFEFF') (flow : Bool)
    (cs : List Char) (p : Position) (keyAllowed : Bool) :
    skipSpacing flow (c :: cs) p keyAllowed false = (c :: cs, p, keyAllowed) := by
  simp only [isBlank, Bool.or_eq_false_iff, beq_eq_false_iff_ne] at blank
  rw [skipSpacing]
  simp [noBreak, blank, comment, mark]

/-- Nothing is skipped in front of a word. -/
theorem Scanner.skipSpacing_word {c : Char} (h : isWordChar c = true) (flow : Bool)
    (cs : List Char) (p : Position) (keyAllowed : Bool) :
    skipSpacing flow (c :: cs) p keyAllowed false = (c :: cs, p, keyAllowed) :=
  skipSpacing_of_ne (isBreak_of_isWordChar h) (isBlank_of_isWordChar h)
    (ne_of_isWordChar h (by decide)) (ne_of_isWordChar h (by decide)) flow cs p keyAllowed

/-- One space in front of a word is skipped. -/
theorem Scanner.skipSpacing_space {c : Char} (h : isWordChar c = true) (flow : Bool)
    (cs : List Char) (p : Position) (keyAllowed : Bool) :
    skipSpacing flow (' ' :: c :: cs) p keyAllowed false = (c :: cs, p.right 1, keyAllowed) := by
  have moved : p.after ' ' = p.right 1 := rfl
  rw [skipSpacing]
  simp [show isBreak ' ' = false by decide, moved, skipSpacing_word h]

theorem startsWithMark_of_ne {c mark : Char} (h : c ≠ mark) (cs : List Char) :
    startsWithMark mark (c :: cs) = false := by
  unfold startsWithMark
  split <;> simp_all

/-- **A word announces a plain scalar.** -/
theorem Lead.of_word {c : Char} (h : isWordChar c = true) (lineStart : Bool) (cs : List Char) :
    Lead.of false lineStart c cs = .plain := by
  have ne : ∀ d, isWordChar d = false → c ≠ d := fun d => ne_of_isWordChar h
  have spacing : isSpacing c = false := by
    simp [isSpacing, isBlank_of_isWordChar h, isBreak_of_isWordChar h]
  simp only [Lead.of, startsPlain, spacing, isFlowIndicator,
    startsWithMark_of_ne (ne '-' (by decide)), startsWithMark_of_ne (ne '.' (by decide))]
  simp [ne '%' (by decide), ne '[' (by decide), ne '{' (by decide), ne ']' (by decide),
    ne '}' (by decide), ne ',' (by decide), ne '-' (by decide), ne '?' (by decide),
    ne ':' (by decide), ne '*' (by decide), ne '&' (by decide), ne '!' (by decide),
    ne '|' (by decide), ne '>' (by decide), ne '\'' (by decide), ne '"' (by decide),
    ne '#' (by decide), ne '@' (by decide), ne '`' (by decide)]

/-- A colon before a blank announces a value. -/
theorem Lead.of_colon (lineStart : Bool) (cs : List Char) :
    Lead.of false lineStart ':' (' ' :: cs) = .value := by
  have hyphen : ':' ≠ '-' := by decide
  have period : ':' ≠ '.' := by decide
  simp [Lead.of, startsWithMark_of_ne hyphen, startsWithMark_of_ne period, endsWord, isSpacing,
    isBlank]

/-! ### Line breaks -/

theorem unifyBreaks_eq_self {cs : List Char} (h : ∀ c ∈ cs, c ≠ '\r' ∧ c ≠ '\u0085') :
    unifyBreaks cs = cs := by
  induction cs using unifyBreaks.induct with
  | case1 => rfl
  | case2 cs ih => exact absurd rfl (h '\r' List.mem_cons_self).1
  | case3 c cs hc ih =>
    obtain ⟨carriage, nextLine⟩ := h c List.mem_cons_self
    rw [unifyBreaks, ih fun d hd => h d (List.mem_cons_of_mem c hd)]
    · simp [carriage, nextLine]
    · exact hc

end ByteChannel.Yaml
