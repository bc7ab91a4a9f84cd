/-! # Positions in a text

A `Cursor` is a place in a text: how many bytes of its UTF-8 form lie before it, and what is left
of the text from there on.  A position inside a character or past the end is a place too, but
nothing can be read there. -/

namespace DatePattern

/-- Bytes of the UTF-8 form of a text. -/
def byteLength : List Char → Nat
  | [] => 0
  | c :: text => c.utf8Size + byteLength text

/-- What is left of a text after so many bytes; none inside a character or past the end. -/
def dropBytes? : List Char → Nat → Option (List Char)
  | text, 0 => some text
  | [], _ + 1 => none
  | c :: rest, n + 1 => if c.utf8Size ≤ n + 1 then dropBytes? rest (n + 1 - c.utf8Size) else none

@[simp] theorem byteLength_nil : byteLength [] = 0 := rfl

@[simp] theorem byteLength_cons (c : Char) (text : List Char) :
    byteLength (c :: text) = c.utf8Size + byteLength text := rfl

@[simp] theorem byteLength_append (s t : List Char) :
    byteLength (s ++ t) = byteLength s + byteLength t := by
  induction s with
  | nil => simp
  | cons c s ih => rw [List.cons_append, byteLength_cons, byteLength_cons, ih, Nat.add_assoc]

@[simp] theorem dropBytes?_append (s t : List Char) :
    dropBytes? (s ++ t) (byteLength s) = some t := by
  induction s with
  | nil => cases t <;> rfl
  | cons c s ih =>
    have hc := c.utf8Size_pos
    obtain ⟨k, hk⟩ : ∃ k, byteLength (c :: s) = k + 1 :=
      ⟨byteLength (c :: s) - 1, by simp; omega⟩
    rw [byteLength_cons] at hk
    have hs : k + 1 - c.utf8Size = byteLength s := by omega
    rw [List.cons_append, byteLength_cons, hk, dropBytes?, if_pos (by omega), hs, ih]

theorem eq_append_of_dropBytes? {text rest : List Char} {n : Nat}
    (h : dropBytes? text n = some rest) :
    ∃ front, text = front ++ rest ∧ byteLength front = n := by
  induction text generalizing n with
  | nil =>
    cases n with
    | zero => exact ⟨[], by simpa [dropBytes?] using h, rfl⟩
    | succ n => simp [dropBytes?] at h
  | cons c text ih =>
    cases n with
    | zero => exact ⟨[], by simpa [dropBytes?] using h, rfl⟩
    | succ n =>
      rw [dropBytes?] at h
      split at h
      · obtain ⟨front, rfl, hn⟩ := ih h
        exact ⟨c :: front, rfl, by simp; omega⟩
      · contradiction

/-- A place in a text. -/
structure Cursor where
  /-- Bytes before the place. -/
  position : Nat
  /-- What is left; none inside a character or past the end. -/
  rest? : Option (List Char)
deriving DecidableEq, Repr

namespace Cursor

/-- The place in a text after so many bytes. -/
def seek (text : List Char) (position : Nat) : Cursor := ⟨position, dropBytes? text position⟩

/-- The start of a text. -/
def start (text : List Char) : Cursor := ⟨0, some text⟩

/-- What can be read from the place on. -/
def rest (cursor : Cursor) : List Char := cursor.rest?.getD []

/-- The place so many characters further on. -/
def advance (cursor : Cursor) (count : Nat) : Cursor where
  position := cursor.position + byteLength (cursor.rest.take count)
  rest? := cursor.rest?.map (·.drop count)

end Cursor

end DatePattern
