import Mathlib.Data.List.Nodup
import AddonBridge.Machine.World

/-!
# What a trace tells of roots and instances

When each was born and went, which root an instance goes back to, and which callbacks a root had. A
trace lists the latest event first. In an `Orderly` one, every event fits what happened before it.
-/

namespace AddonBridge

variable {ν : Type}

inductive Thing where
  | root (name : ObjectId)
  | instance (name : ObjectId)
  deriving DecidableEq

def Thing.name : Thing → ObjectId
  | .root name | .instance name => name

namespace Event

def born? : Event ν → Option Thing
  | .built r => some (.root r)
  | .produced o _ => some (.instance o)
  | _ => none

def gone? : Event ν → Option Thing
  | .rootDropped r => some (.root r)
  | .instanceDropped o _ => some (.instance o)
  | _ => none

/-- The call of a module's function that an event is, if it is one. -/
def entered? : Event ν → Option (String × EntryCall)
  | .entered m c => some (m, c)
  | _ => none

theorem entered?_eq_some_iff {e : Event ν} {m : String} {c : EntryCall} :
    e.entered? = some (m, c) ↔ e = .entered m c := by
  cases e <;> simp [entered?]

def callback? (o : ObjectId) : Event ν → Option Callback
  | .called o' cb => if o' = o then some cb else none
  | _ => none

/-- The event says nothing of the lives of roots and instances. -/
def IsNeutral : Event ν → Prop
  | .built _ | .installed _ | .called .. | .produced .. | .instanceDropped .. | .rootDropped _ =>
    False
  | _ => True

theorem IsNeutral.born? {e : Event ν} (h : e.IsNeutral) : e.born? = none := by
  cases e <;> first | rfl | exact h.elim

theorem IsNeutral.gone? {e : Event ν} (h : e.IsNeutral) : e.gone? = none := by
  cases e <;> first | rfl | exact h.elim

theorem IsNeutral.callback? {e : Event ν} (h : e.IsNeutral) (o : ObjectId) :
    e.callback? o = none := by
  cases e <;> first | rfl | exact h.elim

end Event

namespace Trace

variable {es before after : List (Event ν)} {e : Event ν} {o r : ObjectId} {x : Thing}

def born (es : List (Event ν)) : List Thing := es.filterMap Event.born?

def gone (es : List (Event ν)) : List Thing := es.filterMap Event.gone?

/-- The callbacks of a root or an instance, the latest first. -/
def callbacks (es : List (Event ν)) (o : ObjectId) : List Callback := es.filterMap (Event.callback? o)

def names (es : List (Event ν)) : List ObjectId := (born es).map Thing.name

/-- The root that an instance goes back to, through the instances whose factories it came from. A
root goes back to itself. -/
def rootOf : List (Event ν) → ObjectId → ObjectId
  | [], o => o
  | .produced x maker :: es, o => if x = o then rootOf es maker else rootOf es o
  | _ :: es, o => rootOf es o

/-- The first callback of a root was the one that says it is created, and it came once. -/
def Started (es : List (Event ν)) (r : ObjectId) : Prop :=
  ∃ rest, callbacks es r = rest ++ [.created] ∧ .created ∉ rest

/-- An event can follow what happened before. A callback runs on what was born and has not gone. A
root is installed after it was built. A factory belongs to a root that has not gone, and a root goes
after everything that goes back to it. -/
def Fits (es : List (Event ν)) : Event ν → Prop
  | .called o _ => o ∈ names es ∧ o ∉ (gone es).map Thing.name
  | .installed r => .root r ∈ born es
  | .produced _ maker => .root (rootOf es maker) ∉ gone es
  | .rootDropped r => ∀ x ∈ born es, rootOf es x.name = r → x ≠ .root r → x ∈ gone es
  | _ => True

def Orderly : List (Event ν) → Prop
  | [] => True
  | e :: es => Fits es e ∧ Orderly es

/-- Everything that was born has gone, once. Instances went before their root, nothing was called that
had gone already, and what was installed was first of all told that it is created. -/
structure Accounted (es : List (Event ν)) : Prop where
  once : ∀ x ∈ born es, (gone es).count x = 1
  last : ∀ later r earlier, es = later ++ .rootDropped r :: earlier →
    ∀ o, .instance o ∈ born es → rootOf es o = r → .instance o ∈ gone earlier
  alive : ∀ later o cb earlier, es = later ++ .called o cb :: earlier →
    .root o ∉ gone earlier ∧ .instance o ∉ gone earlier
  started : ∀ r, .installed r ∈ es → Started es r

theorem Orderly.fits (h : Orderly (after ++ e :: before)) : Fits before e := by
  induction after with
  | nil => exact h.1
  | cons _ after ih => exact ih h.2

theorem Fits.neutral (h : e.IsNeutral) : Fits es e := by
  cases e <;> first | exact True.intro | exact h.elim

theorem rootOf_cons (other : e.born? ≠ some (.instance o)) : rootOf (e :: es) o = rootOf es o := by
  cases e with
  | produced x maker =>
    rw [rootOf, if_neg]
    rintro rfl
    exact other rfl
  | _ => rfl

theorem born_append : born (after ++ before) = born after ++ born before := List.filterMap_append

theorem gone_append : gone (after ++ before) = gone after ++ gone before := List.filterMap_append

theorem mem_names (h : x ∈ born es) : x.name ∈ names es := List.mem_map_of_mem h

theorem rootOf_append (unborn : .instance o ∉ born after) :
    rootOf (after ++ before) o = rootOf before o := by
  induction after with
  | nil => rfl
  | cons e after ih =>
    rw [List.cons_append, rootOf_cons, ih]
    · exact fun member => unborn (by
        obtain ⟨e', here, birth⟩ := List.mem_filterMap.mp member
        exact List.mem_filterMap.mpr ⟨e', List.mem_cons_of_mem _ here, birth⟩)
    · exact fun birth => unborn (List.mem_filterMap.mpr ⟨e, List.mem_cons_self, birth⟩)

theorem eq_of_name (distinct : (names es).Nodup) {y : Thing} (hx : x ∈ born es) (hy : y ∈ born es)
    (same : x.name = y.name) : x = y :=
  List.inj_on_of_nodup_map distinct hx hy same

theorem rootOf_stable (distinct : (names (after ++ before)).Nodup) (h : x ∈ born before) :
    rootOf (after ++ before) x.name = rootOf before x.name := by
  refine rootOf_append fun again => ?_
  rw [names, born_append, List.map_append, List.nodup_append] at distinct
  obtain ⟨-, -, apart⟩ := distinct
  exact apart _ (List.mem_map_of_mem again) _ (mem_names h) rfl

/-- An instance of a root that went was born before and went before. -/
theorem Orderly.last (orderly : Orderly (after ++ .rootDropped r :: before))
    (distinct : (names (after ++ .rootDropped r :: before)).Nodup)
    (birth : .instance o ∈ born (after ++ .rootDropped r :: before))
    (kin : rootOf (after ++ .rootDropped r :: before) o = r) : .instance o ∈ gone before := by
  rw [born_append, List.mem_append] at birth
  rcases birth with late | early
  · obtain ⟨e, member, birth⟩ := List.mem_filterMap.mp late
    obtain ⟨more, since, rfl⟩ := List.append_of_mem member
    cases e with
    | produced x maker =>
      cases birth
      rw [List.append_assoc, List.cons_append] at orderly distinct kin
      have stable := rootOf_stable (x := .instance o) distinct List.mem_cons_self
      rw [Thing.name, kin, rootOf, if_pos rfl] at stable
      refine absurd ?_ orderly.fits
      rw [← stable, gone_append]
      exact List.mem_append_right _ List.mem_cons_self
    | _ => simp [Event.born?] at birth
  · have early : .instance o ∈ born before := early
    rw [List.append_cons] at distinct kin
    have stable := rootOf_stable (x := .instance o) distinct early
    exact orderly.fits _ early (stable.symm.trans kin) nofun

theorem rootOf_unborn (unborn : o ∉ names es) : rootOf es o = o := by
  have nothing : rootOf (es ++ []) o = rootOf [] o :=
    rootOf_append fun born => unborn (mem_names born)
  rwa [List.append_nil] at nothing

theorem callbacks_unborn (orderly : Orderly es) (unborn : o ∉ names es) : callbacks es o = [] := by
  refine List.filterMap_eq_nil_iff.mpr fun e member => ?_
  obtain ⟨after, before, rfl⟩ := List.append_of_mem member
  cases e with
  | called o' cb =>
    rw [Event.callback?, if_neg]
    rintro rfl
    refine unborn ?_
    rw [names, born_append, List.map_append, List.mem_append]
    exact .inr orderly.fits.1
  | _ => rfl

/-! ### What an event adds -/

section

variable (es)

theorem born_cons_none (h : e.born? = none) : born (e :: es) = born es := List.filterMap_cons_none h

theorem gone_cons_none (h : e.gone? = none) : gone (e :: es) = gone es := List.filterMap_cons_none h

@[simp] theorem born_built : born (.built r :: es) = .root r :: born es := rfl

@[simp] theorem born_produced {maker : ObjectId} :
    born (.produced o maker :: es) = .instance o :: born es := rfl

@[simp] theorem gone_rootDropped : gone (.rootDropped r :: es) = .root r :: gone es := rfl

@[simp] theorem gone_instanceDropped {d : Descriptor} :
    gone (.instanceDropped o d :: es) = .instance o :: gone es := rfl

@[simp] theorem callbacks_called {cb : Callback} :
    callbacks (.called o cb :: es) o = cb :: callbacks es o := by
  simp [callbacks, Event.callback?]

theorem callbacks_cons_none (h : e.callback? o = none) : callbacks (e :: es) o = callbacks es o :=
  List.filterMap_cons_none h

end

theorem Started.called {cb : Callback} (h : Started es r) (later : cb ≠ .created) :
    Started (.called o cb :: es) r := by
  obtain ⟨rest, first, once⟩ := h
  by_cases same : o = r
  · subst same
    exact ⟨cb :: rest, by rw [callbacks_called, first, List.cons_append],
      by simpa [Ne.symm later] using once⟩
  · exact ⟨rest, by rw [callbacks_cons_none es (by simp [Event.callback?, same]), first], once⟩

theorem Started.of_none (h : Started es r) (none : e.callback? r = none) : Started (e :: es) r := by
  obtain ⟨rest, first, once⟩ := h
  exact ⟨rest, by rw [callbacks_cons_none es none, first], once⟩

end Trace

end AddonBridge
