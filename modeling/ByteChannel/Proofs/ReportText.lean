import ByteChannel.Report
import Mathlib.Data.List.Basic

/-!
# Reports can be told apart by their texts

The text of a report is a printed form filled in with numbers. Numbers are written as short as they
can be, so that nothing but the text around a number tells where it ends, and one of them is
hexadecimal, with letters for digits. What keeps the numbers apart is that the words after each of
them begin with a character that is neither a digit nor a letter. A form with this property is
*clear*, and a clear form gives back whatever was filled in, whatever is written after it.

A report uses two forms. The first is the same for all reports. The second is for the places where a
buffered channel stands, and what a channel without a buffer has instead begins differently. The
count and the capacity are in both forms; they are known from the first already.

## Main definitions

* `Form.Entry`, `Form.fill` — a form and how it is filled in
* `Form.IsClear` — the numbers are kept apart

## Main results

* `toDigits_inj` — the digits of a number tell the number
* `Form.fill_inj` — a clear form gives back what was filled in
* `Report.text_inj` — so does the text of a report
-/

namespace ByteChannel

/-! ### Digits -/

theorem digitChar_inj : ∀ m < 16, ∀ n < 16, Nat.digitChar m = Nat.digitChar n → m = n := by
  decide

theorem isAlphanum_digitChar : ∀ n < 16, (Nat.digitChar n).isAlphanum = true := by
  decide

variable {b m n : Nat} {r s : List Char}

/-- In a base that has digits for it, a number is known from its digits. -/
theorem toDigits_inj (hb : 1 < b) (hle : b ≤ 16) (h : Nat.toDigits b m = Nat.toDigits b n) :
    m = n := by
  induction m using Nat.strongRecOn generalizing n with
  | ind m ih =>
    -- a number with a quotient has digits before the last one, which are those of the quotient
    have nonempty (k : Nat) : Nat.toDigits b k ≠ [] := Nat.toDigits_ne_nil
    by_cases hm : m < b <;> by_cases hn : n < b
    · rw [Nat.toDigits_of_lt_base hm, Nat.toDigits_of_lt_base hn] at h
      exact digitChar_inj m (by omega) n (by omega) (List.singleton_inj.mp h)
    · rw [Nat.toDigits_of_lt_base hm, Nat.toDigits_of_base_le hb (by omega)] at h
      exact absurd (List.append_eq_singleton_iff.mp h.symm) (by simp [nonempty])
    · rw [Nat.toDigits_of_base_le hb (by omega), Nat.toDigits_of_lt_base hn] at h
      exact absurd (List.append_eq_singleton_iff.mp h) (by simp [nonempty])
    · rw [Nat.toDigits_of_base_le hb (Nat.not_lt.mp hm),
        Nat.toDigits_of_base_le hb (Nat.not_lt.mp hn)] at h
      obtain ⟨hquotient, hlast⟩ := List.append_inj' h rfl
      have hdiv : m / b = n / b := ih (m / b) (Nat.div_lt_self (by omega) hb) hquotient
      have hmod : m % b = n % b := by
        have hm' : m % b < b := Nat.mod_lt m (by omega)
        have hn' : n % b < b := Nat.mod_lt n (by omega)
        exact digitChar_inj _ (by omega) _ (by omega) (List.singleton_inj.mp hlast)
      rw [← Nat.div_add_mod m b, ← Nat.div_add_mod n b, hdiv, hmod]

theorem isAlphanum_of_mem_toDigits (hb : 1 < b) (hle : b ≤ 16) {c : Char}
    (hc : c ∈ Nat.toDigits b n) : c.isAlphanum = true := by
  induction n using Nat.strongRecOn with
  | ind n ih =>
    rw [Nat.toDigits_eq_if hb] at hc
    split at hc
    next hn =>
      obtain rfl := List.mem_singleton.mp hc
      exact isAlphanum_digitChar n (by omega)
    next hn =>
      rcases List.mem_append.mp hc with hc | hc
      · exact ih (n / b) (Nat.div_lt_self (by omega) hb) hc
      · obtain rfl := List.mem_singleton.mp hc
        have hlt : n % b < b := Nat.mod_lt n (by omega)
        exact isAlphanum_digitChar _ (by omega)

/-! ### Forms -/

namespace Form

/-- Whether a text begins with a character that cannot belong to a number. -/
def endsNumber (text : List Char) : Bool :=
  text.head?.any fun c => !c.isAlphanum

theorem takeWhile_of_endsNumber (h : endsNumber r = true) : r.takeWhile Char.isAlphanum = [] := by
  cases r with
  | nil => rfl
  | cons c r =>
    have hc : c.isAlphanum = false := by simpa [endsNumber] using h
    exact List.takeWhile_cons_of_neg (by simp [hc])

/-- A number is known from its digits and what comes after them. -/
theorem toDigits_append_inj (hb : 1 < b) (hle : b ≤ 16) (hr : endsNumber r = true)
    (hs : endsNumber s = true) (h : Nat.toDigits b m ++ r = Nat.toDigits b n ++ s) :
    m = n ∧ r = s := by
  have front (k : Nat) {t : List Char} (ht : endsNumber t = true) :
      (Nat.toDigits b k ++ t).takeWhile Char.isAlphanum = Nat.toDigits b k := by
    rw [List.takeWhile_append_of_pos fun c => isAlphanum_of_mem_toDigits hb hle,
      takeWhile_of_endsNumber ht, List.append_nil]
  have hdigits : Nat.toDigits b m = Nat.toDigits b n := by
    rw [← front m hr, h, front n hs]
  refine ⟨toDigits_inj hb hle hdigits, ?_⟩
  rw [hdigits] at h
  exact List.append_cancel_left h

/-- A place for a number in a form. -/
structure Entry where
  /-- The base that the number is written in. -/
  base : Nat
  /-- The words after the number. -/
  words : String

/-- A form filled in with numbers, and what is written after it. -/
def fill : List Entry → List Nat → List Char → List Char
  | entry :: form, n :: numbers, rest =>
    Nat.toDigits entry.base n ++ (entry.words.toList ++ fill form numbers rest)
  | _, _, rest => rest

theorem fill_nil (numbers : List Nat) (rest : List Char) : fill [] numbers rest = rest := rfl

theorem fill_cons (entry : Entry) (form : List Entry) (n : Nat) (numbers : List Nat)
    (rest : List Char) :
    fill (entry :: form) (n :: numbers) rest =
      Nat.toDigits entry.base n ++ (entry.words.toList ++ fill form numbers rest) :=
  rfl

/-- There are digits for every number, and words after it that end it. With no words in between, `1`
and `23` would read as `12` and `3` do. -/
def IsClear (form : List Entry) : Prop :=
  ∀ entry ∈ form, 1 < entry.base ∧ entry.base ≤ 16 ∧ endsNumber entry.words.toList = true

instance (form : List Entry) : Decidable (IsClear form) :=
  inferInstanceAs (Decidable (∀ entry ∈ form, _))

theorem endsNumber_append (hr : endsNumber r = true) (s : List Char) :
    endsNumber (r ++ s) = true := by
  cases r with
  | nil => cases hr
  | cons c r => exact hr

/-- **A clear form gives back what was filled in**, and what is written after it. -/
theorem fill_inj {form : List Entry} (clear : IsClear form) {ms ns : List Nat}
    (hms : ms.length = form.length) (hns : ns.length = form.length)
    (h : fill form ms r = fill form ns s) : ms = ns ∧ r = s := by
  induction form generalizing ms ns with
  | nil =>
    rw [fill_nil, fill_nil] at h
    rw [List.length_eq_zero_iff.mp hms, List.length_eq_zero_iff.mp hns]
    exact ⟨rfl, h⟩
  | cons entry form ih =>
    obtain ⟨hentry, hform⟩ := List.forall_mem_cons.mp clear
    obtain ⟨hb, hle, hwords⟩ := hentry
    obtain ⟨m, ms, rfl⟩ := List.exists_cons_of_length_eq_add_one hms
    obtain ⟨n, ns, rfl⟩ := List.exists_cons_of_length_eq_add_one hns
    rw [fill_cons, fill_cons] at h
    -- the first number ends at the words after it, which are the same in both
    obtain ⟨rfl, hrest⟩ := toDigits_append_inj hb hle (endsNumber_append hwords _)
      (endsNumber_append hwords _) h
    obtain ⟨rfl, rfl⟩ := ih hform (Nat.succ.inj hms) (Nat.succ.inj hns)
      (List.append_cancel_left hrest)
    exact ⟨rfl, rfl⟩

end Form

/-! ### The two forms of a report -/

namespace Report

/-- The form that all reports have, after its first word. -/
def mainForm : List Form.Entry :=
  [⟨16, ", Channel: #"⟩, ⟨10, "\nQSize:"⟩, ⟨10, ", Elem:"⟩, ⟨10, "\nValue count: "⟩, ⟨10, "\n"⟩]

/-- The form for the places where a buffered channel stands, after its first words. -/
def placesForm : List Form.Entry :=
  [⟨10, " send:"⟩, ⟨10, " "⟩, ⟨10, "/"⟩, ⟨10, "]"⟩]

/-- The last line of a report. -/
def lastLine (r : Report) : List Char :=
  match r.indices with
  | none => unbufferedText.toList
  | some i =>
    "Peeking at [recv:".toList ++ Form.fill placesForm [i.receive, i.send, r.count, r.capacity] []

theorem toList_text (r : Report) :
    r.text.toList = "Type: ".toList ++
      Form.fill mainForm [r.tag, r.channelId, r.capacity, r.elementSize, r.count] r.lastLine := by
  have asIs (words : String) : toString words = words := rfl
  -- the text is written line by line, while the words of a form run on across the ends of lines
  have hchannel : ", Channel: #" = ", Channel: " ++ "#" := by decide
  have hshape : "\nQSize:" = "\n" ++ "QSize:" := by decide
  have hcount : "\nValue count: " = "\n" ++ "Value count: " := by decide
  unfold text
  cases h : r.indices <;>
    simp only [h, lastLine, tagText, channelName, mainForm, placesForm, Form.fill_cons,
      Form.fill_nil, asIs, hchannel, hshape, hcount, Nat.toString_eq_repr, Nat.toList_repr,
      String.toList_append, String.toList_ofList, List.append_assoc, List.append_nil]

/-- The last line of a channel without a buffer begins differently from all others. -/
theorem lastLine_ne {r s : Report} {j : Indices} (hr : r.indices = none)
    (hs : s.indices = some j) : r.lastLine ≠ s.lastLine := by
  intro h
  have hfirst : some 'C' = some 'P' := by
    calc some 'C' = r.lastLine.head? := by rw [lastLine, hr]; rfl
      _ = s.lastLine.head? := by rw [h]
      _ = some 'P' := by rw [lastLine, hs]; rfl
  exact absurd hfirst (by decide)

/-- The last line tells where the channel stands, or that it has no buffer. -/
theorem indices_of_lastLine {r s : Report} (h : r.lastLine = s.lastLine) :
    r.indices = s.indices := by
  cases hr : r.indices with
  | none =>
    cases hs : s.indices with
    | none => rfl
    | some j => exact absurd h (lastLine_ne hr hs)
  | some i =>
    cases hs : s.indices with
    | none => exact absurd h.symm (lastLine_ne hs hr)
    | some j =>
      rw [lastLine, lastLine, hr, hs] at h
      have clear : Form.IsClear placesForm := by decide
      obtain ⟨hnumbers, -⟩ := Form.fill_inj clear rfl rfl (List.append_cancel_left h)
      simp only [List.cons.injEq] at hnumbers
      obtain ⟨hreceive, hsend, -⟩ := hnumbers
      cases i
      cases j
      simp only at hreceive hsend
      rw [hreceive, hsend]

/-- **A report loses nothing in print.** Two reports of any tags, channels, shapes and counts, with
or without places, have the same text only if they are the same in every field. -/
theorem text_inj (r s : Report) : r.text = s.text ↔ r = s := by
  refine ⟨fun h => ?_, fun h => congrArg text h⟩
  have clear : Form.IsClear mainForm := by decide
  have hlists := congrArg String.toList h
  rw [toList_text, toList_text] at hlists
  obtain ⟨hnumbers, hlast⟩ := Form.fill_inj clear rfl rfl (List.append_cancel_left hlists)
  have hindices := indices_of_lastLine hlast
  simp only [List.cons.injEq, and_true] at hnumbers
  obtain ⟨htag, hchannel, hcapacity, hsize, hcount⟩ := hnumbers
  cases r
  cases s
  rw [mk.injEq]
  exact ⟨htag, hchannel, hcapacity, hsize, hcount, hindices⟩

end Report

end ByteChannel
