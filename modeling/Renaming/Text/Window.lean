/-!
# Cuts of a text

Lengths and radii count characters. Only the offset of a window counts bytes of the UTF-8 form, and
an offset inside a character stands for the start of that character. A text is cut at its places
alone (`String.Pos`): byte offsets between two characters or at an end of the text.
-/

namespace Renaming.Text

/-- The first `limit` characters. -/
def truncate (text : String) (limit : Nat) : String := String.ofList (text.toList.take limit)

/-- The last `radius` characters of `before` and the first `radius` of `after`. -/
def around (before after : List Char) (radius : Nat) : List Char :=
  before.drop (before.length - radius) ++ after.take radius

/-! ## Places -/

/-- The nearest place, going back from a byte offset one byte at a time. -/
def placeBack (text : String) (offset : Nat) : text.Pos :=
  if h : String.Pos.Raw.IsValid text ⟨offset⟩ then text.pos ⟨offset⟩ h
  else placeBack text (offset - 1)
termination_by offset
decreasing_by
  -- the search does not pass the start of the text, which is a place
  apply Nat.sub_one_lt
  rintro rfl
  exact h String.Pos.Raw.isValid_zero

variable {text : String}

/-- Where the next character starts if `n` are passed over. -/
def nthAfter? (place : text.Pos) : Nat → Option text.Pos
  | 0 => if place = text.endPos then none else some place
  | n + 1 => if h : place = text.endPos then none else nthAfter? (place.next h) n

/-- Where the last character before a place starts if `n` are passed over. -/
def nthBefore? (place : text.Pos) : Nat → Option text.Pos
  | 0 => if h : place = text.startPos then none else some (place.prev h)
  | n + 1 => if h : place = text.startPos then none else nthBefore? (place.prev h) n

/-- The place `radius` characters back, or the start of the text. -/
def windowStart (place : text.Pos) : Nat → text.Pos
  | 0 => place
  | n + 1 => (nthBefore? place n).getD text.startPos

/-- The place `radius` characters on, or the end of the text. -/
def windowStop (place : text.Pos) (radius : Nat) : text.Pos :=
  (nthAfter? place radius).getD text.endPos

theorem getD_nthBefore? (place : text.Pos) (n : Nat) :
    (nthBefore? place n).getD text.startPos = place.prevn (n + 1) := by
  induction n generalizing place with
  | zero => by_cases h : place = text.startPos <;> simp [nthBefore?, String.Pos.prevn_add_one, h]
  | succ n ih =>
    by_cases h : place = text.startPos
    · simp [nthBefore?, h]
    · rw [nthBefore?, dif_neg h, ih, String.Pos.prevn_add_one (p := place), dif_neg h]

theorem getD_nthAfter? (place : text.Pos) (n : Nat) :
    (nthAfter? place n).getD text.endPos = place.nextn n := by
  induction n generalizing place with
  | zero => by_cases h : place = text.endPos <;> simp [nthAfter?, h]
  | succ n ih =>
    by_cases h : place = text.endPos
    · simp [nthAfter?, h]
    · rw [nthAfter?, dif_neg h, ih, String.Pos.nextn_add_one, dif_neg h]

theorem windowStart_eq_prevn (place : text.Pos) (radius : Nat) :
    windowStart place radius = place.prevn radius := by
  cases radius with
  | zero => simp [windowStart]
  | succ n => exact getD_nthBefore? place n

theorem windowStop_eq_nextn (place : text.Pos) (radius : Nat) :
    windowStop place radius = place.nextn radius :=
  getD_nthAfter? place radius

theorem windowStart_le (place : text.Pos) (radius : Nat) : windowStart place radius ≤ place := by
  rw [windowStart_eq_prevn]
  exact String.Pos.prevn_le

theorem le_windowStop (place : text.Pos) (radius : Nat) : place ≤ windowStop place radius := by
  rw [windowStop_eq_nextn]
  exact String.Pos.le_nextn

/-- The `radius` characters on each side of the byte `offset`. -/
def window (text : String) (offset radius : Nat) : String :=
  let place := placeBack text (min offset text.utf8ByteSize)
  (text.slice (windowStart place radius) (windowStop place radius)
    (String.Pos.le_trans (windowStart_le place radius) (le_windowStop place radius))).copy

end Renaming.Text
