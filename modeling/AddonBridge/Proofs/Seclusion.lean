import AddonBridge.Machine.Exports
import AddonBridge.Proofs.Helpers
import AddonBridge.Proofs.Maps

/-!
# Addons that keep to themselves

What concerns one addon is the module that it is in and the interface that it was loaded on: a `View`
shows that part of the world, without log records and without the sink that they go through. Code that
keeps to its own site is confined to it. What it does is not seen from any other site, and it does the
same in any two worlds that look alike from there, unless log records that come to its host make that
answer differently. `Confined` states both of an act, with one rule for each way to make an act.
-/

namespace AddonBridge

open Act

variable {σ ν δ ε α β : Type}

/-! ### What one addon sees -/

/-- Two addons share neither module nor interface. -/
structure Site.Apart (s o : Site) : Prop where
  module : s.module ≠ o.module
  table : s.table ≠ o.table

def HostQuery.isLog : HostQuery → Bool
  | .log .. => true
  | _ => false

/-- Log records that come to a host do not change its answers. -/
def Host.Deaf (h : Host) : Prop :=
  ∀ past q, h.answer past q = h.answer (past.filter fun x => !x.isLog) q

/-- An event is about a site: its module was entered, one of its objects was made, called or dropped,
its host was asked, or its code left a note. Log records are about none. -/
def Event.concerns (speaker : ν → Option String) (s : Site) : Event ν → Bool
  | .entered m _ => m = s.module
  | .building root _ | .built root | .installed root | .rootDropped root => root.table = s.table
  | .called object _ | .produced object _ | .instanceDropped object _ => object.table = s.table
  | .host t q => t = s.table ∧ !q.isLog
  | .note n => speaker n = some s.module
  | .stubFreed | .raised _ => false

/-- Log records do not reach the sink, for another logger has them. -/
def Facade.isForeign (f : Facade) : Bool :=
  match f.logger with
  | some .other => true
  | _ => false

/-- What there is of one addon: what its module keeps, its interface with the host behind it, its
context, how often its slot is in use, the locations that its calls were given, how many objects it
made, and what happened to it, the latest first. It can also tell whether log records are out of its
reach, for another logger has them. -/
structure View (σ ν : Type) where
  memory : σ
  loaded : Option Loaded
  context : Option (Context σ)
  busy : Nat
  locations : List (Option UInt64)
  made : Nat
  events : List (Event ν)
  foreign : Bool

/-- What there is of the addon at a site. Of the notes, those are its own that its module is the speaker
of; a note need not have a speaker. -/
def World.view (w : World σ ν) (speaker : ν → Option String) (s : Site) : View σ ν where
  memory := w.memory s.module
  loaded := w.loaded.get? s.table
  context := w.contexts.get? (.module s.module)
  busy := w.busy.count s.module
  locations := w.locations s.module
  made := w.made s.table
  events := w.trace.filter (·.concerns speaker s)
  foreign := w.facade.isForeign

/-- What is known of two runs that are compared: which module speaks in a note, and all that comes to the
host at the site in either of them, unless log records do not change what that host answers. -/
structure Watch (ν : Type) where
  speaker : ν → Option String
  past : Option (List HostQuery)

/-- An interface is one that a site's module was loaded on, and holds no functions but that module's.
The host behind it answers as it does whatever records come to it, if nothing is known of these. -/
structure Loaded.Belongs (past : Option (List HostQuery)) (s : Site) (l : Loaded) : Prop where
  module : l.module = s.module
  functions : ∀ f m, l.addonTable.function f = some m → m = s.module
  deaf : past = none → l.host.Deaf

/-- A context was built at a site, with all its objects. -/
structure Context.Belongs (s : Site) (c : Context σ) : Prop where
  site : c.root.site = s
  root : c.root.object.table = s.table
  instances : ∀ i ∈ c.instances.values, i.object.table = s.table

structure View.Belongs (past : Option (List HostQuery)) (s : Site) (v : View σ ν) : Prop where
  loaded : ∀ l, v.loaded = some l → l.Belongs past s
  context : ∀ c, v.context = some c → c.Belongs s

namespace Context.Belongs

variable {s : Site} {c : Context σ} {i : Instance σ} {h : InstanceHandle}

theorem instance? (belongs : c.Belongs s) (found : c.instances.get? h = some i) :
    i.object.table = s.table :=
  belongs.instances i (List.mem_map.mpr ⟨_, Assoc.mem_of_get? found, rfl⟩)

theorem insert (belongs : c.Belongs s) (own : i.object.table = s.table) :
    Context.Belongs s { c with instances := c.instances.insert i } where
  site := belongs.site
  root := belongs.root
  instances j member := by
    obtain ⟨p, entry, rfl⟩ := List.mem_map.mp member
    rcases Assoc.mem_of_mem_set entry with rfl | before
    · exact own
    · exact belongs.instances p.2 (List.mem_map_of_mem before)

theorem erase (belongs : c.Belongs s) :
    Context.Belongs s { c with instances := c.instances.erase h } where
  site := belongs.site
  root := belongs.root
  instances j member := by
    obtain ⟨p, entry, rfl⟩ := List.mem_map.mp member
    exact belongs.instances p.2 (List.mem_map_of_mem (List.mem_filter.mp entry).1)

end Context.Belongs

theorem Loaded.Belongs.of_core {past : Option (List HostQuery)} {s : Site} {l l' : Loaded}
    (same : l'.core = l.core) (belongs : l.Belongs past s) : l'.Belongs past s where
  module := (congrArg Loaded.module same).trans belongs.module
  functions f m found := belongs.functions f m <| by
    rw [← found]
    exact congrFun (congrArg (·.addonTable.function) same.symm) f
  deaf unknown := congrArg Loaded.host same ▸ belongs.deaf unknown

/-! ### Two runs of an act -/

variable {watch : Watch ν} {speaker : ν → Option String} {s : Site} {w w' u u' v v' : World σ ν}
  {A : α → Prop} {B : β → Prop}

namespace World

/-- In two worlds there is the same of the addon at a site, and all of it is its own. -/
structure Alike (watch : Watch ν) (s : Site) (w w' : World σ ν) : Prop where
  view : w.view watch.speaker s = w'.view watch.speaker s
  belongs : (w.view watch.speaker s).Belongs watch.past s

theorem Alike.symm (alike : w.Alike watch s w') : w'.Alike watch s w :=
  ⟨alike.view.symm, alike.view ▸ alike.belongs⟩

/-- A run of the addon at a site has left it with what is its own, and what there is at the other sites
as it was. -/
structure Turns (watch : Watch ν) (s : Site) (w u : World σ ν) : Prop where
  belongs : (u.view watch.speaker s).Belongs watch.past s
  spares : ∀ o, s.Apart o → u.view watch.speaker o = w.view watch.speaker o
  trace : w.trace <:+ u.trace

theorem Turns.trans (first : Turns watch s w v) (second : Turns watch s v u) : Turns watch s w u where
  belongs := second.belongs
  spares o apart := (second.spares o apart).trans (first.spares o apart)
  trace := first.trace.trans second.trace

theorem Turns.refl (belongs : (w.view watch.speaker s).Belongs watch.past s) : Turns watch s w w :=
  ⟨belongs, fun _ _ => rfl, List.suffix_rfl⟩

/-- Nothing has come to the host at a site but what is known to come to it. -/
def Within (watch : Watch ν) (s : Site) (w : World σ ν) : Prop :=
  ∀ past, watch.past = some past → w.heard s.table <:+ past

theorem Within.earlier (within : u.Within watch s) (grown : w.trace <:+ u.trace) :
    w.Within watch s := by
  intro past known
  have heard : w.heard s.table <:+ u.heard s.table := grown.filterMap (Event.query? s.table)
  exact heard.trans (within past known)

/-- A world after something more happened in it. -/
def recorded (w : World σ ν) (e : Event ν) : World σ ν := { w with trace := e :: w.trace }

theorem view_recorded (w : World σ ν) (e : Event ν) (o : Site) :
    (w.recorded e).view speaker o =
      { w.view speaker o with
        events := [e].filter (·.concerns speaker o) ++ (w.view speaker o).events } := by
  simp [World.view, recorded, ← List.filter_append]

theorem view_logged (t : TableId) (records : List (LogLevel × String)) (o : Site) :
    (w.logged t records).view speaker o = w.view speaker o := by
  have unseen : (records.map fun r => (.host t (.log r.1 r.2) : Event ν)).filter
      (·.concerns speaker o) = [] := by
    rw [List.filter_eq_nil_iff]
    intro e member
    obtain ⟨r, -, rfl⟩ := List.mem_map.mp member
    simp [Event.concerns, HostQuery.isLog]
  simp [World.view, World.logged, unseen]

/-- What came to the host at a site, other than log records, is seen from there. -/
theorem heard_of_view (w : World σ ν) (s : Site) :
    (w.heard s.table).filter (fun q => !q.isLog) =
      (w.view speaker s).events.filterMap (Event.query? s.table) := by
  rw [heard, view, List.filter_filterMap, List.filterMap_filter]
  congr 1
  funext e
  cases e with
  | host t q =>
    by_cases own : t = s.table
    · cases q <;> simp [Event.query?, Event.concerns, HostQuery.isLog, own]
    · simp [Event.query?, Event.concerns, own]
  | _ => simp [Event.query?]

/-- Two beginnings of one list that end in something that counts are the same if they agree in what
came before that counts. The lists have the latest first. -/
theorem eq_of_suffixes {p : α → Bool} {a a' : α} {as as' bs : List α} (h : a :: as <:+ bs)
    (h' : a' :: as' <:+ bs) (counts : p a) (counts' : p a') (same : as.filter p = as'.filter p) :
    as = as' := by
  have short {b b' : α} {cs cs' : List α} (counts : p b) (same : cs.filter p = cs'.filter p)
      (nested : b :: cs <:+ b' :: cs') : cs = cs' := by
    obtain equal | later := List.suffix_cons_iff.mp nested
    · exact (List.cons.inj equal).2
    · have fewer := (later.filter p).length_le
      rw [List.filter_cons_of_pos counts, same, List.length_cons] at fewer
      omega
  obtain nested | nested := List.suffix_or_suffix_of_suffix h h'
  · exact short counts same nested
  · exact (short counts' same.symm nested).symm

theorem heard_recorded (w : World σ ν) (t : TableId) (x : HostQuery) :
    (w.recorded (.host t x)).heard t = x :: w.heard t := by
  simp [heard, recorded, Event.query?]

/-- A host answers the same in two worlds that look alike: from all that came to it but log records if
it is deaf to these, and else because no others came to it in the one than in the other. -/
theorem answers_alike {l : Loaded} {q : Question} (alike : w.Alike watch s w')
    (here : w.loaded.get? s.table = some l)
    (within : (w.recorded (.host s.table (q.answered (l.host.answer (w.heard s.table) q)))).Within
      watch s)
    (within' : (w'.recorded (.host s.table (q.answered (l.host.answer (w'.heard s.table) q)))).Within
      watch s) :
    l.host.answer (w.heard s.table) q = l.host.answer (w'.heard s.table) q := by
  have told : (w.heard s.table).filter (fun x => !x.isLog) =
      (w'.heard s.table).filter (fun x => !x.isLog) := by
    rw [heard_of_view w, heard_of_view w', alike.view]
  cases known : watch.past with
  | none =>
    have deaf := (alike.belongs.loaded l here).deaf known
    rw [deaf (w.heard s.table), deaf (w'.heard s.table), told]
  | some past =>
    have first := within past known
    have second := within' past known
    rw [heard_recorded] at first second
    cases q with
    | log level message => rfl
    | _ => rw [eq_of_suffixes first second rfl rfl told]

end World

namespace Act

/-- Nothing comes to the host at a site during an act but what is known to come to it. -/
def Stays (watch : Watch ν) (s : Site) (act : Act σ ν α) (w : World σ ν) : Prop :=
  Ensures act w (fun _ u => u.Within watch s) fun _ u => u.Within watch s

/-- Two runs end alike: with the same value, in the same panic, or both in an abort, of which there is
nothing more to show. -/
inductive Meets (speaker : ν → Option String) (s : Site) :
    EStateM.Result Stop (World σ ν) α → EStateM.Result Stop (World σ ν) α → Prop
  | value {a : α} {u u' : World σ ν} (same : u.view speaker s = u'.view speaker s) :
    Meets speaker s (.ok a u) (.ok a u')
  | panic {p : Payload} {u u' : World σ ν} (same : u.view speaker s = u'.view speaker s) :
    Meets speaker s (.error (.unwinding p) u) (.error (.unwinding p) u')
  | abort {u u' : World σ ν} : Meets speaker s (.error .aborted u) (.error .aborted u')

/-- An act comes to a value for which `A` holds if it comes to one, and is not noticed at any site but
its own. From any two worlds that look alike from there it ends alike, if what comes to the host there
is known. -/
structure Confined (watch : Watch ν) (s : Site) (A : α → Prop) (act : Act σ ν α) : Prop where
  turns : ∀ w, (w.view watch.speaker s).Belongs watch.past s →
    Ensures act w (fun a u => A a ∧ w.Turns watch s u)
      fun e u => w.trace <:+ u.trace ∧ (e ≠ .aborted → w.Turns watch s u)
  meets : ∀ w w', w.Alike watch s w' → Stays watch s act w → Stays watch s act w' →
    Meets watch.speaker s (act w) (act w')

/-- An act is confined to a site, whatever it comes to. -/
abbrev Secluded (watch : Watch ν) (s : Site) (act : Act σ ν α) : Prop :=
  Confined watch s (fun _ => True) act

namespace Confined

variable {act : Act σ ν α} {f : α → Act σ ν β}

theorem mono {A' : α → Prop} (h : Confined watch s A act) (weaker : ∀ a, A a → A' a) :
    Confined watch s A' act where
  turns w belongs := (h.turns w belongs).mono (fun a _ ⟨holds, turned⟩ => ⟨weaker a holds, turned⟩)
    fun _ _ => id
  meets := h.meets

theorem secluded (h : Confined watch s A act) : Secluded watch s act := h.mono fun _ _ => True.intro

theorem pure {a : α} (holds : A a) : Confined watch s A (Pure.pure a : Act σ ν α) where
  turns _ belongs := ⟨holds, .refl belongs⟩
  meets _ _ alike _ _ := .value alike.view

theorem unwinds (p : Payload) : Confined watch s A (throw (.unwinding p) : Act σ ν α) where
  turns _ belongs := ⟨List.suffix_rfl, fun _ => .refl belongs⟩
  meets _ _ alike _ _ := .panic alike.view

theorem aborts : Confined watch s A (throw .aborted : Act σ ν α) where
  turns _ _ := ⟨List.suffix_rfl, fun going => absurd rfl going⟩
  meets _ _ _ _ _ := .abort

/-- Whatever an act comes to, the world that it began in was within what is known if the one that it
ends in is. -/
theorem within (h : Confined watch s A act) (belongs : (w.view watch.speaker s).Belongs watch.past s)
    (stays : Stays watch s act w) : w.Within watch s := by
  have both := (h.turns w belongs).and stays
  cases ended : act w with
  | ok a u =>
    obtain ⟨⟨-, turned⟩, within⟩ := (ensures_ok ended).mp both
    exact within.earlier turned.trace
  | error e u =>
    obtain ⟨⟨grown, -⟩, within⟩ := (ensures_error ended).mp both
    exact within.earlier grown

/-- The first part of an act keeps within what is known if the whole of it does. -/
theorem begun (h : Confined watch s A act) (rest : ∀ a, A a → Confined watch s B (f a))
    (belongs : (w.view watch.speaker s).Belongs watch.past s) (stays : Stays watch s (act >>= f) w) :
    Stays watch s act w := by
  have both := (h.turns w belongs).and ((ensures_bind act f).mp stays)
  refine both.mono (fun a v ended => ?_) fun _ _ stopped => stopped.2
  obtain ⟨⟨holds, turned⟩, stays⟩ := ended
  exact (rest a holds).within turned.belongs stays

theorem bind (h : Confined watch s A act) (rest : ∀ a, A a → Confined watch s B (f a)) :
    Confined watch s B (act >>= f) where
  turns w belongs := by
    rw [ensures_bind]
    refine (h.turns w belongs).mono (fun a v ended => ?_) fun _ _ => id
    obtain ⟨holds, turned⟩ := ended
    refine ((rest a holds).turns v turned.belongs).mono (fun b u later => ?_) fun e u later => ?_
    · exact ⟨later.1, turned.trans later.2⟩
    · exact ⟨turned.trace.trans later.1, fun going => turned.trans (later.2 going)⟩
  meets w w' alike stays stays' := by
    have met := h.meets w w' alike (h.begun rest alike.belongs stays)
      (h.begun rest alike.symm.belongs stays')
    have turns := h.turns w alike.belongs
    generalize ended : act w = r, ended' : act w' = r' at met
    cases met with
    | @value a v v' same =>
      obtain ⟨holds, turned⟩ := (ensures_ok ended).mp turns
      have stays := (ensures_ok ended).mp ((ensures_bind act f).mp stays)
      have stays' := (ensures_ok ended').mp ((ensures_bind act f).mp stays')
      rw [bind_of_ok ended, bind_of_ok ended']
      exact (rest a holds).meets v v' ⟨same, turned.belongs⟩ stays stays'
    | panic same =>
      rw [bind_of_error ended, bind_of_error ended']
      exact .panic same
    | abort =>
      rw [bind_of_error ended, bind_of_error ended']
      exact .abort

theorem andThen {next : Act σ ν β} (h : Secluded watch s act) (rest : Confined watch s B next) :
    Confined watch s B (act >>= fun _ => next) :=
  h.bind fun _ _ => rest

theorem answer {g : α → β} (h : Secluded watch s act) : Secluded watch s (do return g (← act)) :=
  h.bind fun _ _ => .pure True.intro

theorem map {g : α → β} (h : Confined watch s A act) (holds : ∀ a, A a → B (g a)) :
    Confined watch s B (g <$> act) := by
  rw [← bind_pure_comp]
  exact h.bind fun a held => .pure (holds a held)

theorem ite {c : Prop} [Decidable c] {x y : Act σ ν α} (hx : c → Confined watch s A x)
    (hy : ¬c → Confined watch s A y) : Confined watch s A (if c then x else y) := by
  split
  · next h => exact hx h
  · next h => exact hy h

/-- A panic that is caught is a value. -/
theorem observe (h : Confined watch s A act) :
    Confined watch s (fun r => ∀ a, r = .ok a → A a) (Act.observe act) where
  turns w belongs := by
    rw [ensures_observe]
    refine (h.turns w belongs).mono (fun a u ended => ?_) fun e u stopped => ?_
    · obtain ⟨holds, turned⟩ := ended
      exact ⟨by rintro _ ⟨⟩; exact holds, turned⟩
    · cases e with
      | unwinding p => exact ⟨by rintro _ ⟨⟩, stopped.2 unwinding_ne⟩
      | aborted => exact stopped
  meets w w' alike stays stays' := by
    have whole (w : World σ ν) (stays : Stays watch s (Act.observe act) w) : Stays watch s act w := by
      refine ((ensures_observe act).mp stays).mono (fun _ _ => id) fun e u stopped => ?_
      cases e with
      | unwinding p => exact stopped
      | aborted => exact stopped
    have met := h.meets w w' alike (whole w stays) (whole w' stays')
    rw [observe_eq, observe_eq]
    generalize act w = r, act w' = r' at met ⊢
    cases met with
    | value same => exact .value same
    | panic same => exact .value same
    | abort => exact .abort

theorem after {cleanup : Act σ ν Unit} (h : Confined watch s A act)
    (cleans : Secluded watch s cleanup) : Confined watch s A (Act.after act cleanup) := by
  refine h.observe.bind fun r holds => ?_
  cases r with
  | ok a => exact .andThen cleans (.pure (holds a rfl))
  | error p =>
    refine cleans.observe.bind fun cleaned _ => ?_
    cases cleaned with
    | ok _ => exact .unwinds p
    | error _ => exact .aborts

/-- Where one run of the first part of an act comes back, so does every run from a world that looks
alike, and the rest of the act finds a world there that looks alike in turn. -/
theorem proceeds (h : Confined watch s A act) (rest : ∀ a, A a → Confined watch s B (f a)) {a : α}
    (alike : w.Alike watch s w') (ended : act w = .ok a u) (within : u.Within watch s)
    (stays : Stays watch s (act >>= f) w') :
    ∃ u', act w' = .ok a u' ∧ u.Alike watch s u' ∧ Stays watch s (f a) u' := by
  have met := h.meets w w' alike ((ensures_ok ended).mpr within)
    (h.begun rest alike.symm.belongs stays)
  obtain ⟨-, turned⟩ := (ensures_ok ended).mp (h.turns w alike.belongs)
  rw [ended] at met
  generalize ended' : act w' = r' at met
  cases met with
  | value same =>
    have stays' := (ensures_ok ended').mp ((ensures_bind act f).mp stays)
    exact ⟨_, rfl, ⟨same, turned.belongs⟩, stays'⟩

/-! ### Acts that see or change a part of the world -/

/-- An act whose value, and whose effect on what there is at a site, can be told from there. -/
theorem of_view (value : View σ ν → α) (change : View σ ν → View σ ν)
    (does : ∀ w, ∃ u, act w = .ok (value (w.view watch.speaker s)) u ∧
      u.view watch.speaker s = change (w.view watch.speaker s) ∧
      (∀ o, s.Apart o → u.view watch.speaker o = w.view watch.speaker o) ∧ w.trace <:+ u.trace)
    (keeps : ∀ v : View σ ν, v.Belongs watch.past s →
      A (value v) ∧ (change v).Belongs watch.past s) :
    Confined watch s A act where
  turns w belongs := by
    obtain ⟨u, ended, changed, spares, grown⟩ := does w
    obtain ⟨holds, kept⟩ := keeps _ belongs
    exact (ensures_ok ended).mpr ⟨holds, changed ▸ kept, spares, grown⟩
  meets w w' alike _ _ := by
    obtain ⟨u, ended, changed, -⟩ := does w
    obtain ⟨u', ended', changed', -⟩ := does w'
    rw [ended, ended', ← alike.view]
    refine .value ?_
    rw [changed, changed', alike.view]

theorem modifies {f : World σ ν → World σ ν} (change : View σ ν → View σ ν)
    (grown : ∀ w, w.trace <:+ (f w).trace)
    (here : ∀ w, (f w).view watch.speaker s = change (w.view watch.speaker s))
    (there : ∀ w o, s.Apart o → (f w).view watch.speaker o = w.view watch.speaker o)
    (keeps : ∀ v : View σ ν, v.Belongs watch.past s → (change v).Belongs watch.past s) :
    Secluded watch s (modify f : Act σ ν PUnit) :=
  of_view (fun _ => ⟨⟩) change (fun w => ⟨f w, rfl, here w, there w, grown w⟩)
    fun v belongs => ⟨True.intro, keeps v belongs⟩

/-- A change that no site sees. -/
theorem unseen {f : World σ ν → World σ ν} (grown : ∀ w, w.trace <:+ (f w).trace)
    (same : ∀ w o, (f w).view watch.speaker o = w.view watch.speaker o) :
    Secluded watch s (modify f : Act σ ν PUnit) :=
  modifies id grown (fun w => same w s) (fun w o _ => same w o) fun _ => id

theorem read {g : World σ ν → α} (value : View σ ν → α)
    (told : ∀ w, g w = value (w.view watch.speaker s))
    (holds : ∀ v : View σ ν, v.Belongs watch.past s → A (value v)) :
    Confined watch s A (do return g (← get)) :=
  of_view value id
    (fun w => ⟨w, congrArg (EStateM.Result.ok · w) (told w), rfl, fun _ _ => rfl, List.suffix_rfl⟩)
    fun v belongs => ⟨holds v belongs, belongs⟩

theorem record {e : Event ν} (own : ∀ o, s.Apart o → e.concerns watch.speaker o = false) :
    Secluded watch s (Act.record e : Act σ ν Unit) := by
  refine modifies (fun v => { v with events := [e].filter (·.concerns watch.speaker s) ++ v.events })
    (fun _ => List.suffix_cons _ _) (fun w => World.view_recorded w e s) (fun w o apart => ?_)
    fun v belongs => ⟨belongs.loaded, belongs.context⟩
  refine (World.view_recorded w e o).trans ?_
  rw [List.filter_cons_of_neg (by simp [own o apart]), List.filter_nil,
    List.nil_append]

theorem loaded? : Confined watch s (fun found => ∀ l, found = some l → l.Belongs watch.past s)
    (Act.loaded? s.table : Act σ ν _) :=
  read (·.loaded) (fun _ => rfl) fun _ belongs => belongs.loaded

theorem modifyLoaded {f : Loaded → Loaded}
    (keeps : ∀ l, l.Belongs watch.past s → (f l).Belongs watch.past s) :
    Secluded watch s (Act.modifyLoaded s.table f : Act σ ν Unit) := by
  refine modifies (fun v => { v with loaded := v.loaded.map f })
    (fun _ => List.suffix_rfl) (fun w => ?_) (fun w o apart => ?_)
    fun v belongs => ⟨fun l found => ?_, belongs.context⟩
  · simp [World.view, Assoc.get?_modify]
  · simp [World.view, Assoc.get?_modify, apart.table]
  · obtain ⟨l', there, rfl⟩ := Option.map_eq_some_iff.mp found
    exact keeps l' (belongs.loaded l' there)

theorem freshObject : Confined watch s (fun object => object.table = s.table)
    (Act.freshObject s.table : Act σ ν ObjectId) := by
  refine of_view (fun v => ⟨s.table, v.made⟩) (fun v => { v with made := v.made + 1 })
    (fun w => ⟨_, rfl, ?_, fun o apart => ?_, List.suffix_rfl⟩)
    fun v belongs => ⟨rfl, belongs.loaded, belongs.context⟩
  · simp [World.view]
  · simp [World.view, Ne.symm apart.table]

theorem context? : Confined watch s (fun found => ∀ c, found = some c → c.Belongs s)
    (Act.context? (.module s.module) : Act σ ν _) :=
  read (·.context) (fun _ => rfl) fun _ belongs => belongs.context

theorem setContext {c : Context σ} (belongs : c.Belongs s) :
    Secluded watch s (Act.setContext (.module s.module) c : Act σ ν Unit) := by
  refine modifies (fun v => { v with context := some c })
    (fun _ => List.suffix_rfl) (fun w => ?_) (fun w o apart => ?_)
    fun v before => ⟨before.loaded, by rintro _ ⟨⟩; exact belongs⟩
  · simp [World.view, Assoc.get?_set]
  · simp [World.view, Assoc.get?_set, apart.module]

theorem removeContext :
    Secluded watch s (Act.removeContext (.module s.module) : Act σ ν Unit) := by
  refine modifies (fun v => { v with context := none })
    (fun _ => List.suffix_rfl) (fun w => ?_) (fun w o apart => ?_)
    fun v before => ⟨before.loaded, by rintro _ ⟨⟩⟩
  · simp [World.view, Assoc.get?_erase]
  · simp [World.view, Assoc.get?_erase, apart.module]

theorem modifyContext {f : Context σ → Context σ} (keeps : ∀ c, c.Belongs s → (f c).Belongs s) :
    Secluded watch s (Act.modifyContext (.module s.module) f : Act σ ν Unit) := by
  refine modifies (fun v => { v with context := v.context.map f })
    (fun _ => List.suffix_rfl) (fun w => ?_) (fun w o apart => ?_)
    fun v belongs => ⟨belongs.loaded, fun c found => ?_⟩
  · simp [World.view, Assoc.get?_modify]
  · simp [World.view, Assoc.get?_modify, apart.module]
  · obtain ⟨c', there, rfl⟩ := Option.map_eq_some_iff.mp found
    exact keeps c' (belongs.context c' there)

theorem isBusy : Secluded watch s (Act.isBusy s.module : Act σ ν Bool) :=
  read (fun v => decide (0 < v.busy)) (fun w => by simp [World.view, List.count_pos_iff])
    fun _ _ => True.intro

theorem holding (h : Confined watch s A act) :
    Confined watch s A (Act.holding s.module act) := by
  refine andThen (modifies (fun v => { v with busy := v.busy + 1 })
    (fun _ => List.suffix_rfl) (fun w => ?_) (fun w o apart => ?_)
    fun v belongs => ⟨belongs.loaded, belongs.context⟩)
    (.after h (modifies (fun v => { v with busy := v.busy - 1 })
      (fun _ => List.suffix_rfl) (fun w => ?_) (fun w o apart => ?_)
      fun v belongs => ⟨belongs.loaded, belongs.context⟩))
  · simp [World.view]
  · simp [World.view, List.count_cons_of_ne apart.module]
  · simp [World.view]
  · simp [World.view, List.count_erase_of_ne (Ne.symm apart.module)]

/-- The locations that the calls of a site's module were given are told apart from all others. -/
theorem setLocations (f : List (Option UInt64) → List (Option UInt64)) :
    Secluded watch s
      (modify fun w => w.setLocations s.module (f (w.locations s.module)) : Act σ ν PUnit) := by
  refine modifies (fun v => { v with locations := f v.locations })
    (fun _ => List.suffix_rfl) (fun w => ?_) (fun w o apart => ?_)
    fun v belongs => ⟨belongs.loaded, belongs.context⟩
  · simp [World.view, World.setLocations]
  · simp [World.view, World.setLocations, Ne.symm apart.module]

theorem writeLocation {value : UInt64} :
    Secluded watch s (Act.writeLocation s.module value : Act σ ν Unit) :=
  setLocations _

theorem withLocation {out : Option UInt64} (h : Confined watch s A act) :
    Secluded watch s (Act.withLocation s.module out act) := by
  refine .andThen (setLocations (out :: ·)) (h.bind fun a _ => ?_)
  refine of_view (fun v => (a, v.locations.head?.join))
    (fun v => { v with locations := v.locations.tail })
    (fun w => ⟨_, rfl, ?_, fun o apart => ?_, List.suffix_rfl⟩)
    fun v belongs => ⟨True.intro, belongs.loaded, belongs.context⟩
  · simp [World.view, World.setLocations]
  · simp [World.view, World.setLocations, Ne.symm apart.module]

/-- Where log records go is not seen at any site. -/
theorem setSink (t : Option TableId) : Secluded watch s (Act.setSink t : Act σ ν Unit) :=
  unseen (fun _ => List.suffix_rfl) fun _ _ => rfl

theorem unbind (t : TableId) : Secluded watch s (Act.unbind t : Act σ ν Unit) := by
  refine unseen (fun w => ?_) fun w o => ?_
  · split <;> exact List.suffix_rfl
  · split <;> rfl

/-- Log records are not seen at any site, wherever they go. -/
theorem logs {act : Act σ ν Unit}
    (h : ∀ w, ∃ t records, Ensures act w (fun _ u => u = w.logged t records) fun _ _ => False) :
    Secluded watch s act := by
  refine of_view (fun _ => ()) id (fun w => ?_) fun v belongs => ⟨True.intro, belongs⟩
  obtain ⟨t, records, logged⟩ := h w
  obtain ⟨_, u, ended, rfl⟩ := logged.returns
  exact ⟨_, ended, World.view_logged t records s, fun o _ => World.view_logged t records o,
    List.suffix_append _ _⟩

theorem toSink {level : LogLevel} {message : String} :
    Secluded watch s (Log.toSink level message : Act σ ν Unit) := by
  refine logs fun w => ?_
  obtain ⟨t, records, -, -, sent⟩ := Log.toSink_logs level message w
  exact ⟨t, records, sent⟩

theorem emit {level : RecordLevel} {message : String} :
    Secluded watch s (Log.emit level message : Act σ ν Unit) := by
  refine logs fun w => ?_
  obtain ⟨t, records, -, -, sent⟩ := Log.emit_logs level message w
  exact ⟨t, records, sent⟩

/-- Who sets the logger is not seen either: it can be set unless another one is. -/
theorem install : Secluded watch s (Log.install : Act σ ν Bool) := by
  have told (f : Facade) : f.installed.isForeign = f.isForeign ∧
      decide (f.installed.logger = some .sink) = !f.isForeign := by
    obtain ⟨_ | _ | _, max⟩ := f <;> exact ⟨rfl, rfl⟩
  refine of_view (fun v => !v.foreign) id
    (fun w => ⟨{ w with facade := w.facade.installed }, ?_, ?_, fun o _ => ?_, List.suffix_rfl⟩)
    fun v belongs => ⟨True.intro, belongs⟩
  · exact congrArg (EStateM.Result.ok · _) (told w.facade).2
  · simp [World.view, (told w.facade).1]
  · simp [World.view, (told w.facade).1]

/-- Something happened to an object of the addon's. -/
theorem recordOf {e : Event ν} {object : ObjectId} (own : object.table = s.table)
    (about : ∀ o, e.concerns watch.speaker o = decide (object.table = o.table)) :
    Secluded watch s (Act.record e : Act σ ν Unit) :=
  record fun o apart => (about o).trans (decide_eq_false (own ▸ apart.table))

/-- What a host answers can be told from its site, and from the log records that came to it. -/
theorem inquire (q : Question) : Secluded watch s (Act.inquire s.table q : Act σ ν _) := by
  have recorded (x : HostQuery) : Secluded watch s (Act.record (.host s.table x) : Act σ ν Unit) :=
    .record fun _ apart => decide_eq_false fun about => apart.table about.1
  refine ⟨fun w belongs => ?_, fun w w' alike stays stays' => ?_⟩
  · cases here : w.loaded.get? s.table with
    | none =>
      rw [ensures_ok (inquire_none here q)]
      exact ⟨True.intro, .refl belongs⟩
    | some l =>
      rw [ensures_ok (inquire_at here q)]
      exact ⟨True.intro, ((recorded _).turns w belongs).2⟩
  have loaded : w'.loaded.get? s.table = w.loaded.get? s.table :=
    (congrArg View.loaded alike.view).symm
  cases here : w.loaded.get? s.table with
  | none =>
    rw [inquire_none here, inquire_none (loaded.trans here)]
    exact .value alike.view
  | some l =>
    rw [Stays, ensures_ok (inquire_at here q)] at stays
    rw [Stays, ensures_ok (inquire_at (loaded.trans here) q)] at stays'
    rw [inquire_at here, inquire_at (loaded.trans here),
      World.answers_alike alike here stays stays']
    refine .value ?_
    change (w.recorded _).view watch.speaker s = (w'.recorded _).view watch.speaker s
    rw [World.view_recorded, World.view_recorded, alike.view]

theorem converses : Converses s.table (fun act : Act σ ν _ => Secluded watch s act) where
  pure _ := .pure True.intro
  bind h rest := h.bind fun a _ => rest a
  loaded? := loaded?.secluded
  modifyLoaded same := .modifyLoaded fun l belongs => belongs.of_core (same l)
  inquire := inquire
  shared _ := .record fun _ apart => decide_eq_false fun about => apart.table about.1
  freed _ := .record fun _ apart => decide_eq_false fun about => apart.table about.1
  emit _ _ := emit
  stubFreed := .record fun _ _ => rfl

theorem raise {d : Defect} : Confined watch s A (Log.raise d : Act σ ν α) :=
  .andThen (.record fun _ _ => rfl) (.andThen emit (.unwinds _))

theorem patch {p : Patch} : Secluded watch s (HostAccess.patch s.table p : Act σ ν Bool) := by
  refine loaded?.bind fun found own => ?_
  split
  · next l patched =>
    obtain ⟨l', rfl, patched⟩ := Option.bind_eq_some_iff.mp patched
    exact .andThen (.modifyLoaded fun _ _ => (own l' rfl).of_core (Loaded.core_patch patched))
      (.pure True.intro)
  · exact .pure True.intro

end Confined

end Act

/-! ### Code that keeps to its own site -/

/-- A call of a module's function creates its addon on no interface but the site's. -/
def EntryCall.KeepsTo (s : Site) (c : EntryCall) : Prop :=
  ∀ t api, c = .create (some t) api → t = s.table

/-- A call is one of the site's module, or goes through the table that it registers its functions in. -/
def RawCall.KeepsTo (s : Site) : RawCall → Prop
  | .entry m c => m = s.module ∧ c.KeepsTo s
  | .registered table _ => ∀ t, table = some t → t = s.table

/-- A command is about the site's own module and interface, and no note passes for another module's. -/
def Command.KeepsTo (speaker : ν → Option String) (s : Site) : Command σ ν → Prop
  | .recall | .remember _ | .emit .. | .install => True
  | .note n => ∀ m, speaker n = some m → m = s.module
  | .isCreated m => m = s.module
  | .host t _ | .table t .. | .patch t _ => t = s.table
  | .call c => c.KeepsTo s

def Program.KeepsTo (speaker : ν → Option String) (s : Site) : Program σ ν ε α → Prop
  | .done _ | .panic _ => True
  | .step c next => c.KeepsTo speaker s ∧ ∀ r, (next r).KeepsTo speaker s

/-- The callbacks of an addon that was created at a site keep to it. -/
structure Addon.KeepsTo (speaker : ν → Option String) (s : Site) (a : Addon σ ν δ) : Prop where
  build : (a.build s).KeepsTo speaker s
  created : (a.created s).KeepsTo speaker s
  status : (a.status s).KeepsTo speaker s
  setSetting : ∀ name value, (a.setSetting s name value).KeepsTo speaker s
  factory : ∀ r, (a.factory s r).KeepsTo speaker s
  instanceFactory : ∀ d data r, (a.instanceFactory s d data r).KeepsTo speaker s
  instanceDestroyed : ∀ ty id d, (a.instanceDestroyed s ty id d).KeepsTo speaker s
  instanceDropped : ∀ d data, (a.instanceDropped s d data).KeepsTo speaker s
  dropped : (a.dropped s).KeepsTo speaker s

/-- What the code of a site's module runs in: its callbacks keep to the site, and so does what their
calls come to. -/
structure Env.Secludes (env : Env σ ν δ) (watch : Watch ν) (s : Site) : Prop where
  native : env.modules.native s.module = none
  addon : (env.modules.addon s.module).KeepsTo watch.speaker s
  nested : ∀ c : RawCall, c.KeepsTo s → Secluded watch s (env.nested c)

namespace Env

variable {env : Env σ ν δ} (secludes : env.Secludes watch s)
include secludes

theorem perform_confined {c : Command σ ν} (keeps : c.KeepsTo watch.speaker s) :
    Secluded watch s (env.perform s.module c) := by
  match c with
  | .recall => exact .read (·.memory) (fun _ => rfl) fun _ _ => True.intro
  | .remember data =>
    refine .modifies (fun v => { v with memory := data })
      (fun _ => List.suffix_rfl) (fun w => ?_) (fun w o apart => ?_)
      fun v belongs => ⟨belongs.loaded, belongs.context⟩
    · simp [World.view]
    · simp [World.view, Ne.symm apart.module]
  | .note n =>
    exact .record fun o apart => decide_eq_false fun about => apart.module (keeps _ about).symm
  | .emit level message => exact .emit
  | .install => exact .install
  | .isCreated m =>
    obtain rfl := keeps
    exact .bind .isBusy fun _ _ => .bind .context? fun _ _ => .pure True.intro
  | .host t c =>
    obtain rfl := keeps
    exact HostAccess.call_carried Confined.converses c
  | .table t useBase keep c =>
    obtain rfl := keeps
    exact HostAccess.callTable_carried Confined.converses c
  | .patch t p =>
    obtain rfl := keeps
    exact .patch
  | .call c => exact secludes.nested c keeps

theorem exec_confined {q : Program σ ν ε α} (keeps : q.KeepsTo watch.speaker s) (payload : ε → Payload) :
    Secluded watch s (env.exec s.module payload q) := by
  induction q with
  | done a => exact .pure True.intro
  | panic e => exact .unwinds _
  | step c next ih => exact (perform_confined secludes keeps.1).bind fun r _ => ih r (keeps.2 r)

end Env

/-! ### Dispatching -/

namespace Dispatch

def Offer.Belongs (s : Site) (o : Offer σ) : Prop :=
  ∀ i, o.created = some (some i) → i.object.table = s.table

theorem withContext_confined {default : α} {f : Context σ → Act σ ν α} (empty : A default)
    (h : ∀ c, c.Belongs s → Confined watch s A (f c)) :
    Confined watch s A (withContext (.module s.module) default f) := by
  refine Confined.context?.bind fun found own => ?_
  cases found with
  | some c => exact h c (own c rfl)
  | none => exact .pure empty

theorem offer_confined {maker : ObjectId} (own : maker.table = s.table) (o : Outcome σ) :
    Confined watch s (Offer.Belongs s) (offer maker o : Act σ ν _) := by
  unfold offer
  split
  · rw [own]
    refine Confined.freshObject.bind fun object made => .andThen (.recordOf made fun _ => rfl) ?_
    exact .pure (by rintro _ ⟨⟩; exact made)
  · exact .pure (by rintro _ ⟨⟩)
  · exact .pure (by rintro _ ⟨⟩)

theorem warnStamped_confined {d : Descriptor} {id : String} :
    Secluded watch s (warnStamped d id : Act σ ν Unit) :=
  .ite (fun _ => .emit) fun _ => .pure True.intro

variable {env : Env σ ν δ} (secludes : env.Secludes watch s) {c : Context σ} {i : Instance σ}
  {o : Offer σ} {r : Request} {parent : Option InstanceHandle}
include secludes

theorem build_confined :
    Confined watch s (fun built => ∀ c, built = .ok c → c.Belongs s)
      (build env s.module s.table) := by
  refine Confined.freshObject.bind fun object made => .andThen (.recordOf made fun _ => rfl) ?_
  refine (Env.exec_confined secludes secludes.addon.build _).bind fun built _ => ?_
  cases built with
  | ok single =>
    refine .andThen (.recordOf made fun _ => rfl) (.pure ?_)
    rintro _ ⟨⟩
    exact ⟨rfl, made, by simp [Registry.values]⟩
  | error e => exact .pure (by rintro _ ⟨⟩)

theorem callRoot_confined (belongs : c.Belongs s) {cb : Callback}
    {p : Addon σ ν δ → Site → Program σ ν Payload α}
    (keeps : (p (env.modules.addon s.module) s).KeepsTo watch.speaker s) :
    Secluded watch s (callRoot env c cb p) := by
  rw [callRoot, belongs.site]
  exact .andThen (.recordOf belongs.root fun _ => rfl) (Env.exec_confined secludes keeps _)

theorem create_confined : Secluded watch s (create env (.module s.module)) :=
  withContext_confined True.intro fun _ belongs =>
    callRoot_confined secludes belongs secludes.addon.created

theorem status_confined : Secluded watch s (status env (.module s.module)) :=
  withContext_confined True.intro fun _ belongs =>
    callRoot_confined secludes belongs secludes.addon.status

theorem setSetting_confined {name : String} {value : Option SettingValue} :
    Secluded watch s (setSetting env (.module s.module) name value) :=
  withContext_confined True.intro fun _ belongs =>
    callRoot_confined secludes belongs (secludes.addon.setSetting name value)

theorem askRoot_confined (belongs : c.Belongs s) :
    Confined watch s (Offer.Belongs s) (askRoot env c r) :=
  (callRoot_confined secludes belongs (secludes.addon.factory r)).bind fun o _ =>
    offer_confined belongs.root o

theorem askInstance_confined (belongs : c.Belongs s) (own : i.object.table = s.table) :
    Confined watch s (Offer.Belongs s) (askInstance env c i r) := by
  rw [askInstance, belongs.site]
  exact .andThen (.recordOf own fun _ => rfl)
    ((Env.exec_confined secludes (secludes.addon.instanceFactory _ _ r) _).bind fun o _ =>
      offer_confined own o)

theorem askParent_confined (belongs : c.Belongs s) :
    Confined watch s (fun asked => ∀ o : Offer σ, asked = some o → o.Belongs s)
      (askParent env c r parent) := by
  unfold askParent
  split
  · exact .pure (by rintro _ ⟨⟩)
  · split
    · next i found =>
      refine (askInstance_confined secludes belongs (belongs.instance? found)).map fun o own => ?_
      rintro _ ⟨⟩
      exact own
    · exact .andThen .emit (.pure (by rintro _ ⟨⟩))

variable [Panics δ]

theorem dropInstance_confined (own : i.object.table = s.table) :
    Secluded watch s (dropInstance env s i) :=
  .andThen (.recordOf own fun _ => rfl)
    (Env.exec_confined secludes (secludes.addon.instanceDropped _ _) _)

theorem dropInstances_confined {is : List (Instance σ)}
    (own : ∀ i ∈ is, i.object.table = s.table) : Secluded watch s (dropInstances env s is) := by
  induction is with
  | nil => exact .pure True.intro
  | cons i is ih =>
    exact .andThen (dropInstance_confined secludes (own i List.mem_cons_self))
      (ih fun j member => own j (List.mem_cons_of_mem _ member))

theorem dropContext_confined (belongs : c.Belongs s) : Secluded watch s (dropContext env c) := by
  rw [dropContext, dropRoot, belongs.site]
  refine .after (dropInstances_confined secludes fun i member => belongs.instances i ?_)
    (.andThen (.recordOf belongs.root fun _ => rfl)
      (Env.exec_confined secludes secludes.addon.dropped _))
  exact (env.modules.order.perm _).subset member

theorem destroy_confined (belongs : c.Belongs s) : Secluded watch s (destroy env c) :=
  .ite (fun _ => .andThen .emit (dropContext_confined secludes belongs))
    fun _ => dropContext_confined secludes belongs

theorem Offer.drop_confined (own : o.Belongs s) : Secluded watch s (o.drop env s) := by
  unfold Offer.drop
  split
  · next i created => exact dropInstance_confined secludes (own i created)
  · exact .pure True.intro

theorem register_confined (own : i.object.table = s.table) :
    Secluded watch s (register env (.module s.module) i) := by
  refine withContext_confined True.intro fun c belongs => ?_
  refine .andThen (.setContext (belongs.insert own)) ?_
  rw [belongs.site]
  split
  · next found =>
    exact .andThen (dropInstance_confined secludes (belongs.instance? found)) (.pure True.intro)
  · exact .pure True.intro

theorem settle_confined (own : o.Belongs s) :
    Secluded watch s (settle env (.module s.module) s r o) := by
  refine .ite (fun _ => ?_) fun _ => ?_
  · exact .andThen .emit (.andThen (Offer.drop_confined secludes own) (.pure True.intro))
  split
  · exact .raise
  · next i created =>
    refine .ite (fun _ => ?_) fun _ => ?_
    · exact .andThen warnStamped_confined
        (.bind (register_confined secludes (own i created)) fun _ _ => .pure True.intro)
    · exact .after .raise (dropInstance_confined secludes (own i created))
  · refine Confined.context?.bind fun found _ => ?_
    split
    · exact .raise
    · refine .ite (fun _ => ?_) fun _ => .raise
      exact .andThen warnStamped_confined (.andThen
        (.modifyContext fun c belongs => ⟨belongs.site, belongs.root, belongs.instances⟩)
        (.pure True.intro))

theorem createInstance_confined {ty : AddonType} {id version : String} {host : HostHandle} :
    Secluded watch s
      (createInstance env (.module s.module) ty id host version parent) := by
  refine withContext_confined True.intro fun c belongs => ?_
  have asksRoot (r : Request) : Secluded watch s (do
      settle env (.module s.module) s r (← askRoot env c r)) :=
    (askRoot_confined secludes belongs).bind fun _ own => settle_confined secludes own
  rw [belongs.site]
  refine .bind (HostAccess.firstInstance_carried Confined.converses) fun first _ =>
    (askParent_confined secludes belongs).bind fun asked own => ?_
  cases asked with
  | none => exact asksRoot _
  | some o =>
    exact .ite (fun _ => .after (asksRoot _) (Offer.drop_confined secludes (own o rfl)))
      fun _ => settle_confined secludes (own o rfl)

theorem destroyInstance_confined {ty : AddonType} {handle : Option InstanceHandle} :
    Secluded watch s (destroyInstance env (.module s.module) ty handle) := by
  refine withContext_confined True.intro fun c belongs => ?_
  refine .ite (fun _ => .pure True.intro) fun _ => ?_
  split
  · exact .pure True.intro
  split
  · exact .emit
  · next i found =>
    refine .ite (fun _ => .andThen (.setContext belongs.erase) ?_) fun _ => .raise
    rw [belongs.site]
    exact .after (callRoot_confined secludes belongs (secludes.addon.instanceDestroyed _ _ _))
      (dropInstance_confined secludes (belongs.instance? found))

end Dispatch

/-! ### The functions of a module -/

namespace Exports

variable [Panics δ]

theorem guard_confined {act : Act σ ν α} {name : String} {fallback : α} (h : Secluded watch s act) :
    Secluded watch s (guard name fallback act) := by
  refine h.observe.bind fun ended _ => ?_
  split
  · exact .pure True.intro
  · exact .andThen .toSink .aborts
  · exact .andThen .emit (.pure True.intro)

theorem withSlot_confined {act : Act σ ν α} {name : String} {default : α}
    (h : Secluded watch s act) : Secluded watch s (withSlot s.module name default act) := by
  refine Confined.isBusy.bind fun busy _ => .ite (fun _ => ?_) fun _ => ?_
  · exact .andThen .emit (.pure True.intro)
  · refine Confined.context?.bind fun found _ => ?_
    cases found with
    | some c => exact .holding h
    | none => exact .andThen .emit (.pure True.intro)

theorem take_confined : Confined watch s (fun taken => ∀ c, taken = some c → c.Belongs s)
    (take s.module : Act σ ν _) := by
  refine Confined.isBusy.bind fun busy _ => .ite (fun _ => ?_) fun _ => ?_
  · exact .andThen .emit (.pure (by rintro _ ⟨⟩))
  · refine Confined.context?.bind fun found own => ?_
    cases found with
    | some c => exact .andThen .removeContext (.pure own)
    | none => exact .andThen .emit (.pure own)

theorem registerFunctions_confined :
    Secluded watch s (registerFunctions s.module s.table : Act σ ν Bool) := by
  refine Confined.loaded?.bind fun found _ => ?_
  cases found with
  | none => exact .pure True.intro
  | some l =>
    refine .ite (fun _ => .andThen
      (.modifyLoaded fun l belongs => ⟨belongs.module, ?_, belongs.deaf⟩)
      (.pure True.intro)) fun _ => .pure True.intro
    rintro f m ⟨⟩
    rfl

theorem publish_confined {base single : Option InstanceHandle} :
    Secluded watch s (publish s.table base single : Act σ ν Unit) :=
  .modifyLoaded fun _ belongs => ⟨belongs.module, belongs.functions, belongs.deaf⟩

/-- A function that is registered is one of the site's module, and does not create its addon. -/
theorem registered?_confined {table : Option TableId} {c : EntryCall}
    (own : ∀ t, table = some t → t = s.table) :
    Confined watch s (fun found => ∀ m, found = some m → m = s.module ∧ c.KeepsTo s)
      (registered? table c : Act σ ν _) := by
  unfold registered?
  split
  · next t f registered =>
    obtain rfl := own t rfl
    refine Confined.loaded?.bind fun found belongs => ?_
    cases found with
    | none => exact .pure (by rintro _ ⟨⟩)
    | some l =>
      refine .pure fun m present => ⟨?_, ?_⟩
      · split at present
        · exact (belongs l rfl).functions f m present
        · contradiction
      · rintro t api rfl
        contradiction
  · exact .pure (by rintro _ ⟨⟩)

variable {env : Env σ ν δ} (secludes : env.Secludes watch s) {c : Context σ}
include secludes

theorem createInstance_confined {ty : AddonType} {id version : Option CString} {host : HostHandle}
    {out : Option UInt64} {parent : UInt64} :
    Secluded watch s (createInstance env s.module ty id host version out parent) := by
  refine .withLocation (guard_confined ?_)
  cases out with
  | none => exact .andThen .emit (.pure True.intro)
  | some out =>
    refine .andThen .writeLocation (.bind
      (withSlot_confined (Dispatch.createInstance_confined secludes)) fun answer _ => ?_)
    obtain ⟨status, _ | h⟩ := answer
    · exact .pure True.intro
    · exact .andThen .writeLocation (.pure True.intro)

theorem install_confined (belongs : c.Belongs s) : Secluded watch s (install env s.module c) := by
  refine Confined.isBusy.bind fun busy _ => .ite (fun _ => ?_) fun _ => ?_
  · exact .andThen .emit
      (.andThen (Dispatch.dropContext_confined secludes belongs) (.pure True.intro))
  · refine .andThen (.holding (Confined.context?.bind fun old own => .andThen
      (.setContext belongs) (.andThen (.recordOf belongs.root fun _ => rfl) ?_))) (.pure True.intro)
    cases old with
    | some old =>
      exact .andThen (Dispatch.dropContext_confined secludes (own old rfl)) .emit
    | none => exact .pure True.intro

theorem construct_confined {api : Option CString} :
    Secluded watch s (construct env s.module s.table api) := by
  refine .andThen .emit ((Dispatch.build_confined secludes).bind fun built own => ?_)
  cases built with
  | error e => exact .andThen .emit (.pure True.intro)
  | ok c =>
    refine registerFunctions_confined.bind fun registered _ => .ite (fun _ => ?_) fun _ => ?_
    · exact (install_confined secludes (own c rfl)).bind fun installed _ =>
        .ite (fun _ => .pure True.intro) fun _ => .pure True.intro
    · exact .andThen .emit
        (.andThen (Dispatch.dropContext_confined secludes (own c rfl)) (.pure True.intro))

theorem create_confined {table : Option TableId} {api : Option CString}
    (own : ∀ t, table = some t → t = s.table) :
    Secluded watch s (create env s.module table api) := by
  refine guard_confined ?_
  cases table with
  | none => exact .andThen .emit (.pure True.intro)
  | some t =>
    obtain rfl := own t rfl
    refine .andThen (.map .install fun _ _ => True.intro) (.andThen (.setSink _)
      ((construct_confined secludes).observe.bind fun ended _ => ?_))
    split
    · exact .andThen publish_confined (withSlot_confined (Dispatch.create_confined secludes))
    · exact .andThen (.unbind _) (.pure True.intro)
    · exact .andThen (.unbind _) (.unwinds _)

theorem destroy_confined : Secluded watch s (destroy env s.module) := by
  refine guard_confined (take_confined.bind fun taken own => ?_)
  cases taken with
  | none => exact .pure True.intro
  | some c =>
    refine .andThen (Dispatch.destroy_confined secludes (own c rfl)) ?_
    rw [(own c rfl).site]
    exact .andThen publish_confined (.unbind _)

theorem callAddon_confined {c : EntryCall} (keeps : c.KeepsTo s) :
    Secluded watch s (callAddon env s.module c) := by
  cases c with
  | create table api =>
    refine (create_confined secludes fun t same => ?_).bind fun _ _ => .pure True.intro
    exact keeps t api (by rw [same])
  | destroy => exact .andThen (destroy_confined secludes) (.pure True.intro)
  | status =>
    exact .bind (guard_confined (withSlot_confined (Dispatch.status_confined secludes)))
      fun _ _ => .pure True.intro
  | setSetting name value =>
    refine .bind (guard_confined ?_) fun _ _ => .pure True.intro
    cases name with
    | none => exact .andThen .emit (.pure True.intro)
    | some name => exact withSlot_confined (Dispatch.setSetting_confined secludes)
  | createInstance ty id host version out parent =>
    exact .bind (createInstance_confined secludes) fun _ _ => .pure True.intro
  | destroyInstance ty handle =>
    exact .andThen (guard_confined (withSlot_confined (Dispatch.destroyInstance_confined secludes)))
      (.pure True.intro)
  | typeVersion ty => exact .pure True.intro
  | minVersion ty => exact .pure True.intro

theorem call_confined {c : EntryCall} (keeps : c.KeepsTo s) :
    Secluded watch s (call env s.module c) := by
  refine .andThen (.record fun _ apart => decide_eq_false apart.module) ?_
  rw [secludes.native]
  exact callAddon_confined secludes keeps

theorem callRaw_confined {c : RawCall} (keeps : c.KeepsTo s) :
    Secluded watch s (callRaw env c) := by
  cases c with
  | entry m c =>
    obtain ⟨rfl, keeps⟩ := keeps
    unfold callRaw
    dsimp only
    split
    · next t api =>
      obtain rfl := keeps t api rfl
      exact .andThen (.modifyLoaded fun _ belongs => ⟨belongs.module, belongs.functions, belongs.deaf⟩)
        (call_confined secludes keeps)
    · exact call_confined secludes keeps
  | registered table c =>
    refine (registered?_confined keeps).bind fun found own => ?_
    cases found with
    | none => exact .pure True.intro
    | some m =>
      obtain ⟨rfl, keeps⟩ := own m rfl
      exact call_confined secludes keeps

omit secludes in
/-- Code that keeps to its site does so with calls of any depth. -/
theorem env_secludes (modules : Modules σ ν δ) (unloading : Bool) (depth : Nat)
    (native : modules.native s.module = none)
    (addon : (modules.addon s.module).KeepsTo watch.speaker s) :
    (Exports.env modules unloading depth).Secludes watch s := by
  induction depth with
  | zero => exact ⟨native, addon, fun _ _ => .pure True.intro⟩
  | succ depth ih =>
    exact ⟨native, addon, fun c keeps =>
      .ite (fun _ => .pure True.intro) fun _ => callRaw_confined ih keeps⟩

end Exports

end AddonBridge
