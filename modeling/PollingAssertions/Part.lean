/-!
# Parts of a world

A module that needs only one thing of the world, the channels or the clock
say, is written against a `Part`: a way to read that thing and to replace
it. The three laws say that what was written is read, that writing back
what was read changes nothing, and that of two writes the later one
counts.

## Main definitions

* `Part` — a readable and replaceable part of a world.
* `Part.update` — changing the part by a function.
-/

namespace PollingAssertions

/-- A part `α` of a world `σ`. -/
structure Part (σ α : Type) where
  get : σ → α
  set : α → σ → σ
  get_set : ∀ a s, get (set a s) = a := by intros; rfl
  set_get : ∀ s, set (get s) s = s := by intros; rfl
  set_set : ∀ a b s, set a (set b s) = set a s := by intros; rfl

namespace Part

variable {σ α : Type}

/-- The whole world as its only part. -/
def whole : Part σ σ where
  get s := s
  set a _ := a

/-- Changes a part. -/
def update (part : Part σ α) (f : α → α) (s : σ) : σ := part.set (f (part.get s)) s

@[simp] theorem get_update (part : Part σ α) (f : α → α) (s : σ) :
    part.get (part.update f s) = f (part.get s) :=
  part.get_set _ _

@[simp] theorem update_update (part : Part σ α) (f g : α → α) (s : σ) :
    part.update f (part.update g s) = part.update (f ∘ g) s := by
  simp [update, part.get_set, part.set_set]

end Part

end PollingAssertions
