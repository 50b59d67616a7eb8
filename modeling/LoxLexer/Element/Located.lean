import LoxLexer.Element.Basic
import LoxLexer.Text.Place

/-!
# Elements in their places

Elements laid out one after another from a given place: each begins where the text of those before
it ends. **`place_of_mem_locate`** says so for every element of a layout.
-/

namespace LoxLexer

/-- An element at the place where its text begins. -/
structure Located where
  /-- Where the element begins. -/
  place : Place
  /-- The element. -/
  element : Element
  deriving DecidableEq, Repr

/-- Where the text after an element begins. -/
def Located.next (l : Located) : Place := l.place.after l.element.text

/-- Lays elements out from `place`, after those `done` so far, which are given last first. -/
def locateOnto (done : List Located) (place : Place) : List Element → List Located
  | [] => done.reverse
  | e :: es => locateOnto (⟨place, e⟩ :: done) (place.after e.text) es

/-- Elements laid out one after another from `place`. -/
def locate (place : Place) (es : List Element) : List Located := locateOnto [] place es

theorem locateOnto_eq (done : List Located) (place : Place) (es : List Element) :
    locateOnto done place es = done.reverse ++ locate place es := by
  unfold locate
  induction es generalizing done place with
  | nil => simp [locateOnto]
  | cons e es ih =>
    rw [locateOnto, locateOnto, ih, ih [_]]
    simp

@[simp] theorem locate_nil (place : Place) : locate place [] = [] := rfl

@[simp] theorem locate_cons (place : Place) (e : Element) (es : List Element) :
    locate place (e :: es) = ⟨place, e⟩ :: locate (place.after e.text) es := by
  rw [locate, locateOnto, locateOnto_eq]
  simp

theorem locate_append (place : Place) (es fs : List Element) :
    locate place (es ++ fs) =
      locate place es ++ locate (place.after (es.flatMap Element.text)) fs := by
  induction es generalizing place with
  | nil => simp
  | cons e es ih => simp [ih, Place.after_append]

/-- An element of a layout stands after the text of the elements before it. -/
theorem place_of_mem_locate {place : Place} {es : List Element} {l : Located}
    (h : l ∈ locate place es) :
    ∃ before behind, es = before ++ l.element :: behind ∧
      l.place = place.after (before.flatMap Element.text) := by
  induction es generalizing place with
  | nil => simp at h
  | cons e es ih =>
    rw [locate_cons, List.mem_cons] at h
    rcases h with rfl | h
    · exact ⟨[], es, by simp⟩
    · obtain ⟨before, behind, hes, hp⟩ := ih h
      exact ⟨e :: before, behind, by simp [hes], by simp [hp, Place.after_append]⟩

end LoxLexer
