import ByteChannel.Yaml.Position

/-!
# Portions of a text

A text is taken in by *portions*, each of as many whole characters as fit into `portionOctets`
octets. A portion is checked when its first character is needed, and one that holds a character no
document may hold cannot be read at all. Such a character therefore spoils also what comes before
it in its portion, while all portions before stay readable.

## Main definitions

* `isAllowed` — what a document may hold
* `readableCount` — how far a text can be read
-/

namespace ByteChannel.Yaml

/-- Whether a character may stand in a document at all: most control characters may not. -/
def isAllowed (c : Char) : Bool :=
  let n := c.toNat
  n == 0x9 || n == 0xA || n == 0xD || (0x20 ≤ n && n ≤ 0x7E) || n == 0x85 ||
    (0xA0 ≤ n && n ≤ 0xD7FF) || (0xE000 ≤ n && n ≤ 0xFFFD) || 0x10000 ≤ n

/-- How many octets fit into a portion. -/
def portionOctets : Nat := 16384

/-- The number of characters in the portions before the first one that cannot be read, where `done`
characters lie in earlier portions and `here` in the present one, which has room for `room` more
octets. -/
def countReadable : List Char → (done here room : Nat) → Nat
  | [], done, here, _ => done + here
  | c :: cs, done, here, room =>
    if c.utf8Size ≤ room then
      if isAllowed c then countReadable cs done (here + 1) (room - c.utf8Size) else done
    else if isAllowed c then countReadable cs (done + here) 1 (portionOctets - c.utf8Size)
    else done + here

/-- How many characters of a text can be read. -/
def readableCount (cs : List Char) : Nat :=
  countReadable cs 0 0 portionOctets

theorem countReadable_of_all {cs : List Char} (h : cs.all isAllowed) (done here room : Nat) :
    countReadable cs done here room = done + here + cs.length := by
  induction cs generalizing done here room with
  | nil => rfl
  | cons c cs ih =>
    simp only [List.all_cons, Bool.and_eq_true] at h
    simp only [countReadable, h.1, if_true, List.length_cons]
    split <;> rw [ih h.2] <;> omega

/-- A text without disallowed characters can be read to its end. -/
theorem readableCount_of_all {cs : List Char} (h : cs.all isAllowed) :
    readableCount cs = cs.length := by
  simp [readableCount, countReadable_of_all h]

end ByteChannel.Yaml
