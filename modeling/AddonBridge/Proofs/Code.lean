import Mathlib.Logic.IsEmpty.Basic
import AddonBridge.Proofs.Idle

/-!
# What code may do

A `Conduct` says which calls and panics code may come to, and what its factories may give. Code that
follows it runs within every law that talk and its nested calls obey.
-/

namespace AddonBridge

variable {σ ν δ ε α β : Type} [Panics δ]

/-- Every call, every panic and every value that a program can come to. -/
def Program.All (C : RawCall → Prop) (P : ε → Prop) (A : α → Prop) : Program σ ν ε α → Prop
  | .done a => A a
  | .panic e => P e
  | .step c next => (∀ call, c = .call call → C call) ∧ ∀ r, (next r).All C P A

theorem Program.all_true (p : Program σ ν ε α) :
    p.All (fun _ => True) (fun _ => True) (fun _ => True) := by
  induction p with
  | done a => exact True.intro
  | panic e => exact True.intro
  | step c next ih => exact ⟨fun _ _ => True.intro, ih⟩

structure Conduct (σ : Type) where
  calls : RawCall → Prop := fun _ => True
  panics : Payload → Prop := fun _ => True
  outcomes : Outcome σ → Prop := fun _ => True

/-- Code that does not call a create function. -/
def Conduct.tame : Conduct σ := { calls := fun c => c.isCreate = false }

abbrev Conduct.Program (p : Conduct σ) (A : α → Prop) (q : AddonBridge.Program σ ν Payload α) :
    Prop :=
  q.All p.calls p.panics A

/-- Code whose value is not looked at. -/
abbrev Conduct.Silent [Panics ε] (p : Conduct σ) (q : AddonBridge.Program σ ν ε α) : Prop :=
  q.All p.calls (fun e => p.panics (Panics.payload e)) (fun _ => True)

structure Addon.Follows (p : Conduct σ) (a : Addon σ ν δ) : Prop where
  build : ∀ site, p.Program (fun _ => True) (a.build site)
  created : ∀ site, p.Program (fun _ => True) (a.created site)
  status : ∀ site, p.Program (fun _ => True) (a.status site)
  setSetting : ∀ site name value, p.Program (fun _ => True) (a.setSetting site name value)
  factory : ∀ site r, p.Program p.outcomes (a.factory site r)
  instanceFactory : ∀ site d data r, p.Program p.outcomes (a.instanceFactory site d data r)
  instanceDestroyed : ∀ site ty id d, p.Program (fun _ => True) (a.instanceDestroyed site ty id d)
  instanceDropped : ∀ site d data, p.Silent (a.instanceDropped site d data)
  dropped : ∀ site, p.Silent (a.dropped site)

structure NativeAddon.Follows (p : Conduct σ) (n : NativeAddon σ ν) : Prop where
  create : ∀ t api, p.Silent (n.create t api)
  started : ∀ t, p.Silent (n.started t)
  destroy : p.Silent n.destroy
  status : p.Silent n.status
  setSetting : ∀ name value, p.Silent (n.setSetting name value)
  createInstance : ∀ ty id host version out parent,
    p.Silent (n.createInstance ty id host version out parent)
  destroyInstance : ∀ ty handle, p.Silent (n.destroyInstance ty handle)

structure Modules.Follow (p : Conduct σ) (ms : Modules σ ν δ) : Prop where
  addon : ∀ m, (ms.addon m).Follows p
  native : ∀ m n, ms.native m = some n → n.Follows p

theorem Modules.follow_free (ms : Modules σ ν δ) : ms.Follow {} where
  addon m := by constructor <;> intros <;> exact Program.all_true _
  native m n _ := by constructor <;> intros <;> exact Program.all_true _

/-- Modules whose addons give audio decoders to every request. -/
def Modules.decoders : Modules Unit Unit where
  addon _ :=
    { build := fun _ => .done (.ok none)
      factory := fun _ r => .done (.ofInstance ⟨⟨102⟩, r.version, none⟩ ()) }

theorem Modules.decoders_follow {p : Conduct Unit}
    (h : ∀ o : Outcome Unit, (∀ d, o.created = some (.new d ()) → d.id? = none) → p.outcomes o) :
    Modules.decoders.Follow p where
  addon m :=
    { build := fun _ => True.intro
      created := fun _ => True.intro
      status := fun _ => True.intro
      setSetting := fun _ _ _ => True.intro
      factory := fun _ r => h _ (by rintro d ⟨⟩; rfl)
      instanceFactory := fun _ _ _ _ => h _ nofun
      instanceDestroyed := fun _ _ _ _ => True.intro
      instanceDropped := fun _ _ _ => True.intro
      dropped := fun _ => True.intro }
  native m n found := by cases found

/-- Modules whose addons can be built once. -/
def Modules.once : Modules Bool Unit where
  addon _ :=
    { build := fun _ => do
        if ← Program.ask .recall then return .error (.custom "no device")
        else
          let _ ← Program.ask (.remember true)
          return .ok none }

theorem Modules.once_tame : Modules.once.Follow .tame where
  addon m :=
    { build := fun _ => by
        refine ⟨nofun, fun taken => ?_⟩
        cases taken
        · exact ⟨nofun, fun _ => True.intro⟩
        · exact True.intro
      created := fun _ => True.intro
      status := fun _ => True.intro
      setSetting := fun _ _ _ => True.intro
      factory := fun _ _ => True.intro
      instanceFactory := fun _ _ _ _ => True.intro
      instanceDestroyed := fun _ _ _ _ => True.intro
      instanceDropped := fun _ _ _ => True.intro
      dropped := fun _ => True.intro }
  native m n found := by cases found

open Act

variable {S : Change σ ν} {p : Conduct σ} {env : Env σ ν δ} {C : RawCall → Prop} {P : ε → Prop}
  {A : α → Prop}

namespace Env

def IsQuiet (env : Env σ ν δ) : Prop := ∀ c, Quiet (env.nested c)

/-- Code that follows a conduct can run in an environment and obey a law. -/
structure Keeps (env : Env σ ν δ) (S : Change σ ν) (p : Conduct σ) : Prop where
  law : Law S
  talk : ∀ w u, w.Idle u → S w none u
  panic : ∀ q, p.panics q → ∀ w, S w (some (.unwinding q)) w
  modules : env.modules.Follow p
  nested : ∀ c, p.calls c → Obeys S (env.nested c)
  quiet : env.IsQuiet
  /-- Code that runs when something is dropped does not panic, or may abort by it. -/
  doubles : IsEmpty δ ∨ S.Doubles := by
    first | exact .inl inferInstance | exact .inr Change.unlessAborted.doubles

theorem perform_obeys (keeps : env.Keeps S p) (m : String) (c : Command σ ν)
    (calls : ∀ call, c = .call call → p.calls call) : Obeys S (env.perform m c) := by
  by_cases h : ∃ call, c = .call call
  · obtain ⟨call, rfl⟩ := h
    exact keeps.nested call (calls call rfl)
  · exact (perform_idles env m c fun call same => h ⟨call, same⟩).obeys keeps.talk

/-- A program obeys the law wherever it starts, and comes to a value that it may come to. -/
theorem exec_ensures (keeps : env.Keeps S p) {q : Program σ ν ε α} {payload : ε → Payload}
    (m : String) (follows : q.All p.calls P A) (panics : ∀ e, P e → p.panics (payload e))
    (w : World σ ν) :
    Ensures (env.exec m payload q) w (fun a u => A a ∧ S w none u) (fun e u => S w (some e) u) := by
  induction q generalizing w with
  | done a => exact ⟨follows, keeps.law.refl w⟩
  | panic e => exact keeps.panic _ (panics e follows) w
  | step c next ih =>
    rw [exec, ensures_bind]
    refine (perform_obeys keeps m c follows.1 w).mono (fun r u first => ?_) fun _ _ first => first
    exact (ih r (follows.2 r) u).mono (fun _ _ rest => ⟨rest.1, keeps.law.trans first rest.2⟩)
      fun _ _ => keeps.law.trans first

theorem callback_ensures (keeps : env.Keeps S p) {q : Program σ ν Payload α} (m : String)
    (follows : p.Program A q) (w : World σ ν) :
    Ensures (env.callback m q) w (fun a u => A a ∧ S w none u) (fun e u => S w (some e) u) :=
  exec_ensures keeps m follows (fun _ => id) w

theorem callback_obeys (keeps : env.Keeps S p) {q : Program σ ν Payload α} (m : String)
    (follows : p.Program A q) : Obeys S (env.callback m q) :=
  fun w => (callback_ensures keeps m follows w).mono (fun _ _ => And.right) fun _ _ => id

theorem quietly_obeys (keeps : env.Keeps S p) {q : Program σ ν Empty α} (m : String)
    (follows : p.Silent q) : Obeys S (env.quietly m q) :=
  fun w => (exec_ensures keeps m follows (fun e => e.elim) w).mono (fun _ _ => And.right)
    fun _ _ => id

theorem lastly_obeys (keeps : env.Keeps S p) {q : Program σ ν δ α} (m : String)
    (follows : p.Silent q) : Obeys S (env.lastly m q) :=
  fun w => (exec_ensures keeps m follows (fun _ => id) w).mono (fun _ _ => And.right) fun _ _ => id

/-- Something is dropped after an act, also when that panics. -/
theorem after_obeys (keeps : env.Keeps S p) {act : Act σ ν α} {drop : Act σ ν Unit}
    (h : Obeys S act) (dropped : Obeys S drop) (quiet : IsEmpty δ → Quiet drop) :
    Obeys S (Act.after act drop) := by
  rcases keeps.doubles with empty | doubles
  · exact h.after keeps.law dropped (quiet empty)
  · exact h.finally keeps.law doubles dropped

omit [Panics δ] in
theorem perform_quiet (quiet : env.IsQuiet) (m : String) (c : Command σ ν) :
    Quiet (env.perform m c) := by
  by_cases h : ∃ call, c = .call call
  · obtain ⟨call, rfl⟩ := h
    exact quiet call
  · exact (perform_idles env m c fun call same => h ⟨call, same⟩).quiet

omit [Panics δ] in
theorem quietly_quiet (quiet : env.IsQuiet) (m : String) (q : Program σ ν Empty α) :
    Quiet (env.quietly m q) := by
  unfold quietly
  induction q with
  | done a => exact fun _ => True.intro
  | panic e => exact e.elim
  | step c next ih => exact Quiet.bind (perform_quiet quiet m c) ih

theorem lastly_quiet [IsEmpty δ] (quiet : env.IsQuiet) (m : String) (q : Program σ ν δ α) :
    Quiet (env.lastly m q) := by
  unfold lastly
  induction q with
  | done a => exact fun _ => True.intro
  | panic e => exact isEmptyElim e
  | step c next ih => exact Quiet.bind (perform_quiet quiet m c) ih

end Env

end AddonBridge
