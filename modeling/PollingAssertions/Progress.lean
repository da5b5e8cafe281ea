import PollingAssertions.Context.Basic

/-!
# Progress of running assertions

While an assertion runs, a progress attacher can be asked for its latest
failure reason. For that the run writes the reason on a slip which it
attaches when it starts and detaches when it ends. The attacher keeps the
slip it was given last, so its text can be read after the end too.

## Main definitions

* `Attacher` — the slip and how often slips were attached and detached.
* `Desk` — the slips and the attachers of a world.
* `HasDesk` — worlds with a desk.

## Main results

* `slip?_attach`, `slip?_write`, `slip?_attach_other`, `slip?_write_other` — a slip
  says what was written last.
* `attacher_attach`, `attacher_detach` — attaching and detaching change one
  attacher.
-/

namespace PollingAssertions

/-- What a progress attacher has been given. -/
structure Attacher where
  /-- The number of the slip attached last. -/
  slip? : Option Nat
  attached : Nat
  detached : Nat
deriving DecidableEq, Repr, Inhabited

namespace Attacher

/-- An attacher that has been given nothing. -/
def unused : Attacher := ⟨none, 0, 0⟩

/-- How an attacher is shown. -/
def render (attacher : Attacher) : String :=
  "FakeProgressAttacher \x7b attached: " ++ toString attacher.attached ++ ", detached: " ++
    toString attacher.detached ++ ", .. \x7d"

end Attacher

/-- What a run remembers of its attachment. -/
structure Attachment where
  /-- The name of the attacher. -/
  attacher : String
  /-- The number of the slip. -/
  slip : Nat
deriving DecidableEq, Repr, Inhabited

/-- How an attachment that is still to be detached is shown. -/
def Attachment.render (_ : Attachment) : String := "Detach \x7b pending: true \x7d"

/-- Numbered slips and named attachers. -/
structure Desk where
  slips : Array String
  attachers : List (String × Attacher)
deriving Repr, Inhabited

namespace Desk

/-- A desk without slips. -/
def empty : Desk := ⟨#[], []⟩

/-- The attacher of a name. -/
def attacher (desk : Desk) (name : String) : Attacher :=
  (desk.attachers.lookup name).getD .unused

/-- Changes the attacher of a name. -/
def update (name : String) (f : Attacher → Attacher) (desk : Desk) : Desk :=
  { desk with
    attachers := (name, f (desk.attacher name)) :: desk.attachers.filter (·.1 != name) }

/-- Attaches a new slip with a text. -/
def attach (name text : String) (desk : Desk) : Attachment × Desk :=
  let slip := desk.slips.size
  (⟨name, slip⟩,
    { desk with slips := desk.slips.push text }.update name fun attacher =>
      { attacher with slip? := some slip, attached := attacher.attached + 1 })

/-- Writes a new text on a slip. -/
def write (slip : Nat) (text : String) (desk : Desk) : Desk :=
  { desk with slips := desk.slips.setIfInBounds slip text }

/-- Takes an attached slip off again. -/
def detach (attachment : Attachment) (desk : Desk) : Desk :=
  desk.update attachment.attacher fun attacher =>
    { attacher with detached := attacher.detached + 1 }

/-- What an attacher reports, if it has been given a slip. -/
def report? (desk : Desk) (name : String) : Option String :=
  (desk.attacher name).slip?.map fun slip => desk.slips.getD slip ""

theorem slip?_write {desk : Desk} {slip : Nat} (text : String) (h : slip < desk.slips.size) :
    (desk.write slip text).slips[slip]? = some text := by
  simp [write, h]

/-- Names other than the one that is looked for make no difference. -/
private theorem lookup_filter {attachers : List (String × Attacher)} {name other : String}
    (h : other ≠ name) : (attachers.filter (·.1 != name)).lookup other = attachers.lookup other := by
  induction attachers with
  | nil => rfl
  | cons entry attachers ih =>
      obtain ⟨found, attacher⟩ := entry
      by_cases hname : found = name
      · subst hname
        have hother : (other == found) = false := beq_false_of_ne h
        simp [List.lookup_cons, hother, ih]
      · simp [List.lookup_cons, hname, ih]

theorem attacher_update (desk : Desk) (name : String) (f : Attacher → Attacher) (other : String) :
    (desk.update name f).attacher other =
      if other = name then f (desk.attacher name) else desk.attacher other := by
  unfold update
  by_cases h : other = name
  · subst h
    simp [attacher]
  · have hother : (other == name) = false := beq_false_of_ne h
    simp [attacher, List.lookup_cons, hother, lookup_filter h, h]

/-- Attaching changes one attacher. -/
theorem attacher_attach (desk : Desk) (name text other : String) :
    (desk.attach name text).2.attacher other =
      if other = name then
        ⟨some desk.slips.size, (desk.attacher name).attached + 1, (desk.attacher name).detached⟩
      else desk.attacher other :=
  attacher_update _ _ _ _

/-- Detaching changes one attacher. -/
theorem attacher_detach (desk : Desk) (attachment : Attachment) (other : String) :
    (desk.detach attachment).attacher other =
      if other = attachment.attacher then
        { desk.attacher attachment.attacher with
          detached := (desk.attacher attachment.attacher).detached + 1 }
      else desk.attacher other :=
  attacher_update _ _ _ _

theorem slip?_attach (desk : Desk) (name text : String) :
    (desk.attach name text).2.slips[desk.slips.size]? = some text := by
  show (desk.slips.push text)[desk.slips.size]? = some text
  simp

theorem attacher_congr {desk desk' : Desk} (h : desk'.attachers = desk.attachers)
    (other : String) : desk'.attacher other = desk.attacher other := by
  unfold attacher
  rw [h]

/-- Attaching another slip leaves a slip alone. -/
theorem slip?_attach_other {desk : Desk} {slip : Nat} {text : String}
    (h : desk.slips[slip]? = some text) (name other : String) :
    (desk.attach name other).2.slips[slip]? = some text := by
  obtain ⟨hslip, _⟩ := Array.getElem?_eq_some_iff.1 h
  show (desk.slips.push other)[slip]? = some text
  rw [Array.getElem?_push, if_neg (Nat.ne_of_lt hslip), h]

/-- Writing on another slip leaves a slip alone. -/
theorem slip?_write_other {desk : Desk} {slip slip' : Nat} (h : slip' ≠ slip) (text : String) :
    (desk.write slip' text).slips[slip]? = desk.slips[slip]? :=
  Array.getElem?_setIfInBounds_ne h

end Desk

/-- Worlds with a desk. -/
class HasDesk (σ : Type) where
  part : Part σ Desk

instance : HasDesk Desk := ⟨Part.whole⟩

namespace Progress

variable {σ : Type} [HasContexts σ] [HasDesk σ]

/-- Attaches an empty slip to the attacher nearest to a context. -/
def attach? (context? : Option ContextId) (s : σ) : Option Attachment × σ :=
  match context?.bind (HasContexts.part.get s).attacher? with
  | some name =>
      let (attachment, desk) := (HasDesk.part.get s).attach name ""
      (some attachment, HasDesk.part.set desk s)
  | none => (none, s)

/-- Writes the latest reason on the slip, if there is one. -/
def publish (attachment? : Option Attachment) (reason : String) (s : σ) : σ :=
  match attachment? with
  | some attachment => HasDesk.part.update (Desk.write attachment.slip reason) s
  | none => s

/-- Detaches the slip, if there is one. -/
def detach (attachment? : Option Attachment) (s : σ) : σ :=
  match attachment? with
  | some attachment => HasDesk.part.update (Desk.detach attachment) s
  | none => s

end Progress

end PollingAssertions
