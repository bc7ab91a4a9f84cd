import DatePattern.Text.Cursor

/-! # Places between characters

A cursor is of use where a text may be cut: between two of its characters or at one of its ends.
These are the valid positions of the UTF-8 form of the text (`IsBoundary`), and everywhere else a
cursor has nothing to read (`Cursor.seek_eq_none`).

* `Cursor.OnBoundary`: the cursor stands at such a place.
* `Cursor.Takes`: a piece of the text lies between two cursors. -/

namespace DatePattern

/-! ### Bytes of a string -/

theorem byteLength_toList (text : String) : byteLength text.toList = text.utf8ByteSize := by
  induction text using String.push_induction with
  | empty => rfl
  | push text c ih => simp [String.toList_push, ih, String.utf8ByteSize_push]

/-- So many bytes into the UTF-8 form of the text a character begins or the text ends. -/
def IsBoundary (text : String) (position : Nat) : Prop := (⟨position⟩ : String.Pos.Raw).IsValid text

instance (text : String) (position : Nat) : Decidable (IsBoundary text position) := by
  unfold IsBoundary; infer_instance

/-- A boundary is where the characters split. -/
theorem isBoundary_iff {text : String} {position : Nat} :
    IsBoundary text position ↔
      ∃ front rest, text.toList = front ++ rest ∧ byteLength front = position := by
  rw [IsBoundary, String.Pos.Raw.isValid_iff_exists_append]
  constructor
  · rintro ⟨front, rest, rfl, hposition⟩
    refine ⟨front.toList, rest.toList, String.toList_append, ?_⟩
    rw [byteLength_toList]
    exact (congrArg String.Pos.Raw.byteIdx hposition).symm
  · rintro ⟨front, rest, htext, rfl⟩
    refine ⟨String.ofList front, String.ofList rest, ?_, ?_⟩
    · rw [← String.ofList_append, ← htext, String.ofList_toList]
    · rw [← String.toList_ofList (l := front), byteLength_toList, String.ofList_toList]
      rfl

/-! ### Looking a place up -/

theorem dropBytes?_prepend (before text : List Char) (count : Nat) :
    dropBytes? (before ++ text) (byteLength before + count) = dropBytes? text count := by
  induction before with
  | nil => rw [byteLength_nil, Nat.zero_add, List.nil_append]
  | cons c before ih =>
      have hc := c.utf8Size_pos
      obtain ⟨k, hk⟩ : ∃ k, byteLength (c :: before) + count = k + 1 :=
        ⟨byteLength (c :: before) + count - 1, by simp; omega⟩
      have hleft : k + 1 - c.utf8Size = byteLength before + count := by
        rw [byteLength_cons] at hk
        omega
      have hfits : c.utf8Size ≤ k + 1 := by
        rw [byteLength_cons] at hk
        omega
      rw [hk, List.cons_append, dropBytes?, if_pos hfits, hleft, ih]

namespace Cursor

/-- The cursor stands between two characters of the text or at one of its ends. -/
def OnBoundary (text : List Char) (cursor : Cursor) : Prop :=
  ∃ front rest, text = front ++ rest ∧ cursor = ⟨byteLength front, some rest⟩

/-- The next cursor stands right behind a piece of text that begins at the cursor. -/
def Takes (cursor : Cursor) (piece : List Char) (next : Cursor) : Prop :=
  ∃ rest, cursor.rest? = some (piece ++ rest) ∧
    next = ⟨cursor.position + byteLength piece, some rest⟩

theorem seek_append (front rest : List Char) :
    seek (front ++ rest) (byteLength front) = ⟨byteLength front, some rest⟩ := by
  rw [seek, dropBytes?_append]

theorem onBoundary_start (text : List Char) : (start text).OnBoundary text :=
  ⟨[], text, rfl, rfl⟩

/-- A cursor on a boundary is where its position leads to. -/
theorem OnBoundary.eq_seek {text : List Char} {cursor : Cursor} (h : cursor.OnBoundary text) :
    cursor = seek text cursor.position := by
  obtain ⟨front, rest, rfl, rfl⟩ := h
  exact (seek_append front rest).symm

theorem OnBoundary.isBoundary {text : String} {cursor : Cursor}
    (h : cursor.OnBoundary text.toList) : IsBoundary text cursor.position := by
  obtain ⟨front, rest, htext, rfl⟩ := h
  exact isBoundary_iff.2 ⟨front, rest, htext, rfl⟩

theorem onBoundary_seek {text : String} {position : Nat} (h : IsBoundary text position) :
    (seek text.toList position).OnBoundary text.toList := by
  obtain ⟨front, rest, htext, rfl⟩ := isBoundary_iff.1 h
  exact ⟨front, rest, htext, by rw [htext, seek_append]⟩

/-- Nothing is left inside a character and past the end. -/
theorem seek_eq_none {text : String} {position : Nat} (h : ¬ IsBoundary text position) :
    seek text.toList position = ⟨position, none⟩ := by
  cases hrest : dropBytes? text.toList position with
  | none => rw [seek, hrest]
  | some rest =>
      obtain ⟨front, htext, hposition⟩ := eq_append_of_dropBytes? hrest
      exact absurd (isBoundary_iff.2 ⟨front, rest, htext, hposition⟩) h

/-! ### Taking a piece -/

theorem takes_advance {cursor : Cursor} {piece rest : List Char}
    (h : cursor.rest? = some (piece ++ rest)) :
    cursor.Takes piece (cursor.advance piece.length) := by
  refine ⟨rest, h, ?_⟩
  simp [advance, Cursor.rest, h]

theorem takes_nil {cursor : Cursor} {text : List Char} (h : cursor.rest? = some text) :
    cursor.Takes [] cursor := by
  refine ⟨text, h, ?_⟩
  cases cursor
  cases h
  rfl

theorem Takes.trans {cursor middle next : Cursor} {piece later : List Char}
    (h : cursor.Takes piece middle) (hlater : middle.Takes later next) :
    cursor.Takes (piece ++ later) next := by
  obtain ⟨rest, hrest, rfl⟩ := h
  obtain ⟨rest', hrest', rfl⟩ := hlater
  cases hrest'
  exact ⟨rest', by rw [hrest, List.append_assoc], by rw [byteLength_append, Nat.add_assoc]⟩

theorem Takes.onBoundary {text : List Char} {cursor next : Cursor} {piece : List Char}
    (h : cursor.Takes piece next) (hcursor : cursor.OnBoundary text) : next.OnBoundary text := by
  obtain ⟨front, rest, rfl, rfl⟩ := hcursor
  obtain ⟨rest', hrest, rfl⟩ := h
  cases hrest
  exact ⟨front ++ piece, rest', by rw [List.append_assoc], by rw [byteLength_append]⟩

theorem Takes.position {cursor next : Cursor} {piece : List Char} (h : cursor.Takes piece next) :
    next.position = cursor.position + byteLength piece := by
  obtain ⟨rest, -, rfl⟩ := h
  rfl

end Cursor

theorem byteLength_pos {text : List Char} (h : text ≠ []) : 0 < byteLength text := by
  cases text with
  | nil => exact absurd rfl h
  | cons c text =>
      have hc := c.utf8Size_pos
      rw [byteLength_cons]
      omega

end DatePattern
