import LoxLexer.Text.Place
import LoxLexer.Token.Basic

/-!
# Cutting a text by its bytes

`Occurs text span part` says that a span, which counts bytes, cuts exactly `part` out of a text.
Both ends of the span then lie between characters: inside of a character and behind the end there is
nothing to cut. `slice?` cuts out the part between two offsets, and **`slice?_eq_some_iff`** says
that it finds exactly the parts that occur there.
-/

namespace LoxLexer

/-- The bytes of `text` in `span` are those of `part`. -/
def Occurs (text : List Char) (span : Span) (part : List Char) : Prop :=
  ∃ before after, text = before ++ part ++ after ∧ span.start = byteLength before ∧
    span.stop = byteLength before + byteLength part

/-- A text cut in two after some bytes. -/
def splitBytes? : List Char → Nat → Option (List Char × List Char)
  | text, 0 => some ([], text)
  | [], _ + 1 => none
  | c :: rest, bytes + 1 =>
    if c.utf8Size ≤ bytes + 1 then
      (splitBytes? rest (bytes + 1 - c.utf8Size)).map fun (before, behind) => (c :: before, behind)
    else none

/-- The part of a text between two byte offsets. -/
def slice? (text : List Char) (start stop : Nat) : Option (List Char) :=
  if start ≤ stop then do
    let (_, behind) ← splitBytes? text start
    let (part, _) ← splitBytes? behind (stop - start)
    some part
  else none

theorem splitBytes?_append (before behind : List Char) :
    splitBytes? (before ++ behind) (byteLength before) = some (before, behind) := by
  induction before with
  | nil => rw [List.nil_append, byteLength_nil, splitBytes?]
  | cons c before ih =>
    obtain ⟨bytes, hbytes⟩ : ∃ bytes, c.utf8Size + byteLength before = bytes + 1 :=
      Nat.exists_eq_succ_of_ne_zero (by have := c.utf8Size_pos; omega)
    have left : bytes + 1 - c.utf8Size = byteLength before := by omega
    rw [List.cons_append, byteLength_cons, hbytes, splitBytes?, if_pos (by omega), left, ih]
    rfl

/-- A cut falls between two texts that make up the whole. -/
theorem append_of_splitBytes? {text before behind : List Char} {bytes : Nat}
    (h : splitBytes? text bytes = some (before, behind)) :
    text = before ++ behind ∧ byteLength before = bytes := by
  induction text generalizing before bytes with
  | nil =>
    cases bytes with
    | zero =>
      obtain ⟨rfl, rfl⟩ := Prod.mk.inj (Option.some.inj h)
      exact ⟨rfl, rfl⟩
    | succ bytes => cases h
  | cons c rest ih =>
    cases bytes with
    | zero =>
      obtain ⟨rfl, rfl⟩ := Prod.mk.inj (Option.some.inj h)
      exact ⟨rfl, rfl⟩
    | succ bytes =>
      rw [splitBytes?] at h
      split at h
      · obtain ⟨⟨front, _⟩, hf, heq⟩ := Option.map_eq_some_iff.1 h
        obtain ⟨rfl, rfl⟩ := Prod.mk.inj heq
        obtain ⟨rfl, hb⟩ := ih hf
        refine ⟨rfl, ?_⟩
        rw [byteLength_cons]
        omega
      · cases h

/-- **The part between two offsets is what occurs there.** -/
theorem slice?_eq_some_iff {text part : List Char} {start stop : Nat} :
    slice? text start stop = some part ↔ Occurs text ⟨start, stop⟩ part := by
  constructor
  · intro h
    rw [slice?] at h
    split at h
    · next le =>
      obtain ⟨⟨before, behind⟩, hb, h⟩ := Option.bind_eq_some_iff.1 h
      obtain ⟨⟨front, after⟩, hf, h⟩ := Option.bind_eq_some_iff.1 h
      obtain rfl : front = part := Option.some.inj h
      obtain ⟨rfl, rfl⟩ := append_of_splitBytes? hb
      obtain ⟨rfl, length⟩ := append_of_splitBytes? hf
      refine ⟨before, after, (List.append_assoc ..).symm, rfl, ?_⟩
      simp only [length]
      omega
    · cases h
  · rintro ⟨before, after, rfl, rfl, rfl⟩
    rw [slice?, if_pos (Nat.le_add_right _ _), List.append_assoc, splitBytes?_append,
      Nat.add_sub_cancel_left]
    simp [splitBytes?_append]

/-- An offset inside of a character is no place to cut. -/
example : slice? ['é', 'x'] 2 3 = some ['x'] ∧ slice? ['é', 'x'] 1 3 = none := by decide

/-! ### Boundaries -/

/-- The offset lies between two characters of the text, or at an end of it. -/
def Boundary (text : List Char) (offset : Nat) : Prop :=
  ∃ before behind, text = before ++ behind ∧ offset = byteLength before

end LoxLexer
