/-! Which handler answers a call. Every kind of call has a handler for all interactions, which can be
    replaced, and an interaction can have one of its own, which goes before it. -/

namespace ThingHost

/-- The calls that handlers answer. -/
inductive CallKind where
  | read
  | write
  | invoke
  deriving DecidableEq, Repr

namespace CallKind

def name : CallKind → String
  | .read => "retrieve_property"
  | .write => "update_property"
  | .invoke => "invoke_action"

def ofName? (s : String) : Option CallKind := [read, write, invoke].find? (·.name = s)

end CallKind

/-- The handlers of one Thing; `ι` tells interactions apart, `η` is a handler. -/
structure Handlers (ι η : Type) where
  general : CallKind → η
  own : List ((CallKind × ι) × η)

namespace Handlers

variable {ι η : Type} [DecidableEq ι]

/-- Only the general handlers. -/
def ofDefaults (defaults : CallKind → η) : Handlers ι η := ⟨defaults, []⟩

/-- Sets the handler of one interaction, or of all that have none of their own. -/
def set (h : Handlers ι η) (kind : CallKind) (handler : η) : Option ι → Handlers ι η
  | none => { h with general := fun k => if k = kind then handler else h.general k }
  | some i => { h with own := ((kind, i), handler) :: h.own }

def own? (h : Handlers ι η) (kind : CallKind) (i : ι) : Option η :=
  (h.own.find? fun entry => entry.1 = (kind, i)).map (·.2)

/-- The handler that answers. -/
def get (h : Handlers ι η) (kind : CallKind) : Option ι → η
  | none => h.general kind
  | some i => (h.own? kind i).getD (h.general kind)

theorem own?_set_some (h : Handlers ι η) (kind : CallKind) (handler : η) (i : ι) (k : CallKind) (j : ι) :
    (h.set kind handler (some i)).own? k j = if kind = k ∧ i = j then some handler else h.own? k j := by
  by_cases hk : kind = k ∧ i = j
  · simp [set, own?, hk]
  · simp [set, own?, hk]

theorem own?_of_absent {h : Handlers ι η} {i : ι} (ha : ∀ e ∈ h.own, e.1.2 ≠ i) (kind : CallKind) :
    h.own? kind i = none := by
  have hnone : h.own.find? (fun e => e.1 = (kind, i)) = none := by
    rw [List.find?_eq_none]
    intro e he heq
    exact ha e he (by rw [of_decide_eq_true heq])
  rw [own?, hnone]
  rfl

end Handlers
end ThingHost
