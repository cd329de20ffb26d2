/-!
# Positions in a source text

A position names a place between characters three ways at once: by line, by column within that
line, and by the number of characters before it.  All three count from zero; people are shown lines
and columns from one.

Positions are taken below a bound of 32 bits: they belong to texts of fewer than 2³² − 1 characters,
so that the three numbers, and the line and the column that people are shown, are all less than 2³².
The bound is the caller's business; nothing here checks it.
-/

namespace Kaomoji

/-- A place in a source text, just before one of its characters or at its end. -/
structure Position where
  /-- Number of newlines before this place. -/
  line : Nat
  /-- Number of characters between the last newline before this place and the place. -/
  column : Nat
  /-- Number of characters before this place. -/
  index : Nat
deriving DecidableEq, Inhabited

namespace Position

/-- The place before the first character. -/
def start : Position := ⟨0, 0, 0⟩

/-- The place behind a character that stands at `p`; a newline opens the next line. -/
def after (p : Position) (c : Char) : Position :=
  if c = '\n' then ⟨p.line + 1, 0, p.index + 1⟩ else ⟨p.line, p.column + 1, p.index + 1⟩

/-- The place behind a text that begins at `p`. -/
def afterText (p : Position) (text : List Char) : Position := text.foldl after p

/-- Line and column as people count them, such as `3:8`; both stay within 32 bits by the bound on
positions. -/
def text (p : Position) : String := s!"{p.line + 1}:{p.column + 1}"

@[simp] theorem after_index (p : Position) (c : Char) : (p.after c).index = p.index + 1 := by
  unfold after; split <;> rfl

@[simp] theorem afterText_nil (p : Position) : p.afterText [] = p := rfl

@[simp] theorem afterText_cons (p : Position) (c : Char) (cs : List Char) :
    p.afterText (c :: cs) = (p.after c).afterText cs := rfl

/-- Every character moves the index by one. -/
@[simp] theorem afterText_index (p : Position) (cs : List Char) :
    (p.afterText cs).index = p.index + cs.length := by
  induction cs generalizing p with
  | nil => rfl
  | cons c cs ih => simp [ih]; omega

end Position

end Kaomoji
